import SchemaGen.Terminal

namespace SchemaGen.Terminal

/-- A piece of text, in a style or as it is. -/
structure Span where
  style : Option Style := none
  text : String
deriving DecidableEq, Repr

/-- A span on the terminal. -/
def Span.written (colour : Bool) (span : Span) : String :=
  match span.style with
  | none => span.text
  | some style => paint colour style span.text

/-- Spans on the terminal, one directly behind the other. -/
def written (colour : Bool) (spans : List Span) : String :=
  String.join (spans.map (Span.written colour))

/-- The characters that are left when every sequence from `ESC [` to the next `m` is deleted. -/
def deleteCodes : List Char → List Char
  | [] => []
  | '\x1b' :: '[' :: rest =>
    -- without an `m` there is no sequence in the rest either
    if 'm' ∈ rest then deleteCodes (rest.dropWhile (· ≠ 'm')).tail else '\x1b' :: '[' :: rest
  | c :: rest => c :: deleteCodes rest
termination_by chars => chars.length
decreasing_by
  · have hshorter := (List.dropWhile_sublist (fun c => decide (c ≠ 'm')) (l := rest)).length_le
    simp only [List.length_tail, List.length_cons]
    omega
  · simp

/-- A text without its escape sequences. -/
def withoutCodes (text : String) : String := String.ofList (deleteCodes text.toList)

theorem deleteCodes_append {front : List Char} (hfront : '\x1b' ∉ front) (rest : List Char) :
    deleteCodes (front ++ rest) = front ++ deleteCodes rest := by
  induction front with
  | nil => rfl
  | cons c front ih =>
    rw [List.mem_cons, not_or] at hfront
    rw [List.cons_append, deleteCodes, ih hfront.2, List.cons_append]
    intro more hsame _
    exact hfront.1 hsame.symm

theorem deleteCodes_code {code : List Char} (hcode : 'm' ∉ code) (rest : List Char) :
    deleteCodes ('\x1b' :: '[' :: code ++ 'm' :: rest) = deleteCodes rest := by
  have hdrop : (code ++ 'm' :: rest).dropWhile (· ≠ 'm') = 'm' :: rest := by
    rw [List.dropWhile_append_of_pos, List.dropWhile_cons_of_neg (by simp)]
    intro c hmem
    simpa using fun hsame : c = 'm' => hcode (hsame ▸ hmem)
  rw [List.cons_append, List.cons_append, deleteCodes, if_pos (by simp), hdrop, List.tail_cons]

theorem deleteCodes_opening (style : Style) (rest : List Char) :
    deleteCodes (style.opening.toList ++ rest) = deleteCodes rest := by
  have hcode : 'm' ∉ style.code.toList := by cases style <;> decide
  have hopening : style.opening.toList ++ rest =
      '\x1b' :: '[' :: style.code.toList ++ 'm' :: rest := by
    simp [Style.opening]
  rw [hopening, deleteCodes_code hcode]

theorem deleteCodes_reset (rest : List Char) :
    deleteCodes (reset.toList ++ rest) = deleteCodes rest :=
  @deleteCodes_code ['0'] (by decide) rest

/-- Nothing is switched on again in a text without escape characters. -/
theorem reopened_eq_self {chars : List Char} (hplain : '\x1b' ∉ chars) (opening : List Char) :
    reopened opening chars = chars := by
  induction chars with
  | nil => rfl
  | cons c chars ih =>
    rw [List.mem_cons, not_or] at hplain
    rw [reopened, ih hplain.2]
    intro rest hsame _
    exact hplain.1 hsame.symm

theorem deleteCodes_span {span : Span} (hplain : '\x1b' ∉ span.text.toList) (rest : List Char) :
    deleteCodes ((span.written true).toList ++ rest) = span.text.toList ++ deleteCodes rest := by
  obtain ⟨style, text⟩ := span
  cases style with
  | none => exact deleteCodes_append hplain rest
  | some style =>
    simp only [Span.written, paint, Style.wrap, if_true, String.toList_append, String.toList_ofList,
      List.append_assoc]
    rw [deleteCodes_opening, reopened_eq_self hplain, deleteCodes_append hplain, deleteCodes_reset]

/-- Colour is all that the escape sequences say: deleting them leaves the plain text. -/
theorem withoutCodes_written {spans : List Span}
    (hplain : ∀ span ∈ spans, '\x1b' ∉ span.text.toList) :
    withoutCodes (written true spans) = written false spans := by
  rw [withoutCodes, ← String.toList_inj, String.toList_ofList]
  induction spans with
  | nil => simp [written, deleteCodes]
  | cons span spans ih =>
    have hspan : span.written false = span.text := by
      obtain ⟨style, text⟩ := span
      cases style <;> rfl
    rw [written, List.map_cons, String.join_cons, String.toList_append,
      deleteCodes_span (hplain span (.head _))]
    rw [written, List.map_cons, String.join_cons, String.toList_append, hspan]
    exact congrArg _ (ih fun other hmem => hplain other (.tail _ hmem))

/-- A text that colour changes in its looks alone: for either choice it is the same spans, and they
hold no escape character. -/
def Painted (text : Bool → String) : Prop :=
  ∃ spans : List Span, (∀ span ∈ spans, '\x1b' ∉ span.text.toList) ∧
    ∀ colour, text colour = written colour spans

theorem painted_plain {text : String} (hplain : '\x1b' ∉ text.toList) :
    Painted fun _ => text :=
  ⟨[⟨none, text⟩], by simpa using hplain, fun _ => by simp [written, Span.written]⟩

theorem painted_paint (style : Style) {text : String} (hplain : '\x1b' ∉ text.toList) :
    Painted fun colour => paint colour style text :=
  ⟨[⟨some style, text⟩], by simpa using hplain, fun _ => by simp [written, Span.written]⟩

theorem Painted.append {front back : Bool → String} (hfront : Painted front)
    (hback : Painted back) : Painted fun colour => front colour ++ back colour := by
  obtain ⟨spans, hspans, hfront⟩ := hfront
  obtain ⟨others, hothers, hback⟩ := hback
  refine ⟨spans ++ others, List.forall_mem_append.mpr ⟨hspans, hothers⟩, fun colour => ?_⟩
  simp only [hfront, hback, written, List.map_append, String.join_append]

theorem painted_join {α : Type} {row : Bool → α → String} {parts : List α}
    (hrows : ∀ part ∈ parts, Painted fun colour => row colour part) :
    Painted fun colour => String.join (parts.map (row colour)) := by
  induction parts with
  | nil => exact painted_plain (by simp)
  | cons part parts ih =>
    rw [List.forall_mem_cons] at hrows
    simp only [List.map_cons, String.join_cons]
    exact hrows.1.append (ih hrows.2)

/-- Deleting the escape sequences from such a text in colour leaves it as it is without. -/
theorem Painted.withoutCodes_eq {text : Bool → String} (htext : Painted text) :
    withoutCodes (text true) = text false := by
  obtain ⟨spans, hplain, htext⟩ := htext
  rw [htext, htext, withoutCodes_written hplain]

end SchemaGen.Terminal
