import Mathlib.Data.List.DropRight
import SchemaGen.Proofs.Token.Partition
import SchemaGen.Text.Line

namespace SchemaGen

namespace Text

/-- The characters of the line that is not yet at its end. -/
def openLine (chars : List Char) : List Char := chars.rtakeWhile (· ≠ '\n')

theorem openLine_concat {c : Char} (hline : c ≠ '\n') (chars : List Char) :
    openLine (chars ++ [c]) = openLine chars ++ [c] :=
  List.rtakeWhile_concat_pos _ _ _ (by simpa using hline)

@[simp]
theorem openLine_concat_newline (chars : List Char) : openLine (chars ++ ['\n']) = [] :=
  List.rtakeWhile_concat_neg _ _ _ (by simp)

theorem openLine_suffix (chars : List Char) : openLine chars <:+ chars :=
  List.rtakeWhile_suffix _ _

theorem column_behind (chars : List Char) :
    (Location.behind chars).column = (openLine chars).length := by
  simp [Location.behind, openLine, List.rtakeWhile]

theorem splitLines_cons {c : Char} (hline : c ≠ '\n') (current rest : List Char) :
    splitLines current (c :: rest) = splitLines (c :: current) rest := by
  rw [splitLines]
  exact hline

theorem splitLines_append {chars : List Char} (hline : '\n' ∉ chars) (current rest : List Char) :
    splitLines current (chars ++ rest) = splitLines (chars.reverse ++ current) rest := by
  induction chars generalizing current with
  | nil => rfl
  | cons c chars ih =>
    have hc : c ≠ '\n' := fun hsame => hline (hsame ▸ .head _)
    rw [List.cons_append, splitLines_cons hc, ih (fun hmem => hline (.tail _ hmem))]
    simp

/-- A line at its end, which takes a last `\r` away. The characters are given last first. -/
def ended : List Char → List Char
  | '\r' :: before => before.reverse
  | whole => whole.reverse

theorem ended_cons {c : Char} (hreturn : c ≠ '\r') (chars : List Char) :
    ended (c :: chars) = (c :: chars).reverse := by
  rw [ended]
  intro before hsame
  exact hreturn (List.cons.inj hsame).1

theorem splitLines_newline (current rest : List Char) :
    splitLines current ('\n' :: rest) = ended current :: splitLines [] rest := rfl

/-- Behind the lines that some characters end, the line left open goes on with what follows. -/
theorem drop_splitLines (before rest : List Char) :
    (splitLines [] (before ++ rest)).drop (before.count '\n') =
      splitLines (openLine before).reverse rest := by
  induction before using List.reverseRecOn generalizing rest with
  | nil => simp [openLine]
  | append_singleton before c ih =>
    rw [List.append_assoc, List.singleton_append, List.count_append, ← List.drop_drop, ih]
    by_cases hline : c = '\n'
    · subst hline
      simp [splitLines_newline]
    · rw [splitLines_cons hline, openLine_concat hline]
      simp [hline]

/-- The end of a line takes nothing away up to a character that is no `\r`. -/
theorem exists_ended {last : Char} (hreturn : last ≠ '\r') (more before : List Char) :
    ∃ back, back <+: more.reverse ∧
      ended (more ++ last :: before) = (last :: before).reverse ++ back := by
  cases more with
  | nil => exact ⟨[], List.nil_prefix, by rw [List.nil_append, ended_cons hreturn, List.append_nil]⟩
  | cons c more =>
    by_cases hc : c = '\r'
    · subst hc
      exact ⟨more.reverse, by simp, by simp [ended]⟩
    · exact ⟨(c :: more).reverse, List.prefix_rfl, by rw [List.cons_append, ended_cons hc]; simp⟩

/-- What a line starts with is found at its start, up to a character that is no `\r`. -/
theorem head?_splitLines {last : Char} (hreturn : last ≠ '\r') (more before rest : List Char) :
    ∃ back, back <+: more.reverse ++ rest ∧
      (splitLines (more ++ last :: before) rest).head? =
        some ((last :: before).reverse ++ back) := by
  induction rest generalizing more with
  | nil => exact ⟨more.reverse, List.prefix_append .., by simp [splitLines]⟩
  | cons c rest ih =>
    by_cases hline : c = '\n'
    · subst hline
      obtain ⟨back, hback, hended⟩ := exists_ended hreturn more before
      refine ⟨back, hback.trans (List.prefix_append ..), ?_⟩
      rw [splitLines_newline, List.head?_cons, hended]
    · obtain ⟨back, hback, hhead⟩ := ih (c :: more)
      refine ⟨back, by simpa using hback, ?_⟩
      rw [splitLines_cons hline]
      exact hhead

/-- Characters that are no line ends stand in a line, behind as many others as their column says. -/
theorem exists_line {source : String} {before chunk after : List Char}
    (hsource : source.toList = before ++ chunk ++ after) (hne : chunk ≠ [])
    (hline : '\n' ∉ chunk) (hreturn : '\r' ∉ chunk) :
    ∃ line back, (lines source)[(Location.behind before).line]? = some line ∧ back <+: after ∧
      line.toList = openLine before ++ chunk ++ back := by
  obtain ⟨front, last, rfl⟩ := (List.eq_nil_or_concat' chunk).resolve_left hne
  have hlast : last ≠ '\r' := fun hsame => hreturn (by simp [hsame])
  obtain ⟨back, hback, hhead⟩ :=
    head?_splitLines hlast [] (front.reverse ++ (openLine before).reverse) after
  refine ⟨String.ofList (openLine before ++ (front ++ [last]) ++ back), back, ?_,
    by simpa using hback, by simp⟩
  rw [lines, List.getElem?_map, hsource, List.append_assoc, ← List.head?_drop]
  simp only [Location.behind]
  rw [drop_splitLines, splitLines_append hline, List.reverse_append, List.append_assoc]
  simp only [List.reverse_singleton, List.singleton_append, List.nil_append] at hhead ⊢
  rw [hhead]
  simp

/-- Behind the lines that have an end comes the open one, unless it is empty. -/
theorem drop_lines_end (source : String) :
    (lines source).drop (Location.behind source.toList).line =
      if openLine source.toList = [] then [] else [String.ofList (openLine source.toList)] := by
  have hdrop := drop_splitLines source.toList []
  rw [List.append_nil] at hdrop
  rw [lines, ← List.map_drop]
  simp only [Location.behind]
  rw [hdrop]
  by_cases hopen : openLine source.toList = [] <;> simp [splitLines, hopen]

/-- The end of a text lies at the end of its last line, or on a line behind it that does not
count. -/
theorem end_at_last_line {source last : String} {others : List String}
    (hlines : lines source = others ++ [last]) :
    others.length ≤ (Location.behind source.toList).line ∧
      ((Location.behind source.toList).line = others.length →
        (Location.behind source.toList).column = last.length) := by
  have hdrop := drop_lines_end source
  rw [hlines] at hdrop
  have hlength := congrArg List.length hdrop
  rw [List.length_drop, List.length_append, List.length_singleton] at hlength
  by_cases hopen : openLine source.toList = []
  · rw [if_pos hopen, List.length_nil] at hlength
    omega
  · rw [if_neg hopen, List.length_singleton] at hlength
    refine ⟨by omega, fun hline => ?_⟩
    rw [hline, List.drop_left, if_neg hopen] at hdrop
    rw [column_behind, (List.cons.inj hdrop).1, String.length_ofList]

theorem splitLines_ne_nil {current : List Char} (hne : current ≠ []) (chars : List Char) :
    splitLines current chars ≠ [] := by
  induction chars generalizing current with
  | nil => simp [splitLines, hne]
  | cons c chars ih =>
    by_cases hline : c = '\n'
    · rw [hline, splitLines_newline]
      simp
    · rw [splitLines_cons hline]
      exact ih (by simp)

theorem lines_ne_nil {source : String} (hne : source ≠ "") : lines source ≠ [] := by
  obtain ⟨c, rest, hchars⟩ : ∃ c rest, source.toList = c :: rest :=
    List.exists_cons_of_ne_nil (by simpa using hne)
  rw [lines, hchars, Ne, List.map_eq_nil_iff]
  by_cases hline : c = '\n'
  · rw [hline, splitLines_newline]
    simp
  · rw [splitLines_cons hline]
    exact splitLines_ne_nil (by simp) rest

/-- A line holds no line end, and nothing that the text does not hold. -/
theorem not_mem_of_mem_splitLines {c : Char} {current : List Char} (hcurrent : c ∉ current)
    {chars : List Char} (hchars : c ∈ chars → c = '\n') :
    ∀ line ∈ splitLines current chars, c ∉ line := by
  induction chars generalizing current with
  | nil =>
    intro line hmem
    by_cases hempty : current = []
    · simp [splitLines, hempty] at hmem
    · obtain rfl : line = current.reverse := by simpa [splitLines, hempty] using hmem
      simpa using hcurrent
  | cons first chars ih =>
    have hrest : c ∈ chars → c = '\n' := fun hmem => hchars (.tail _ hmem)
    by_cases hline : first = '\n'
    · rw [hline, splitLines_newline, List.forall_mem_cons]
      refine ⟨fun hmem => hcurrent ?_, ih (by simp) hrest⟩
      unfold ended at hmem
      split at hmem
      · exact .tail _ (List.mem_reverse.mp hmem)
      · exact List.mem_reverse.mp hmem
    · have hfirst : c ≠ first := by
        rintro rfl
        exact hline (hchars (.head _))
      rw [splitLines_cons hline]
      exact ih (by simp [hfirst, hcurrent]) hrest

theorem newline_not_mem_lines {source line : String} (hmem : line ∈ lines source) :
    '\n' ∉ line.toList := by
  obtain ⟨chars, hchars, rfl⟩ := List.mem_map.mp hmem
  simpa using not_mem_of_mem_splitLines (by simp) (fun _ => rfl) chars hchars

theorem mem_source_of_mem_lines {source line : String} (hmem : line ∈ lines source) :
    line.toList ⊆ source.toList := by
  obtain ⟨chars, hchars, rfl⟩ := List.mem_map.mp hmem
  intro c hc
  by_contra hsource
  rw [String.toList_ofList] at hc
  exact not_mem_of_mem_splitLines (by simp) (fun hmem => absurd hmem hsource) chars hchars hc

/-- The lines before and behind the one at an index. -/
theorem split_at_line {source line : String} {index : Nat}
    (hline : (lines source)[index]? = some line) :
    ∃ before behind, lines source = before ++ line :: behind ∧ before.length = index := by
  obtain ⟨hlt, hget⟩ := List.getElem?_eq_some_iff.mp hline
  refine ⟨(lines source).take index, (lines source).drop (index + 1), ?_, ?_⟩
  · rw [← hget, List.getElem_cons_drop, List.take_append_drop]
  · exact List.length_take_of_le (Nat.le_of_lt hlt)

theorem ended_reverse {chars : List Char} (hreturn : '\r' ∉ chars) :
    ended chars.reverse = chars := by
  rcases List.eq_nil_or_concat' chars with rfl | ⟨front, last, rfl⟩
  · rfl
  · have hlast : last ≠ '\r' := fun hsame => hreturn (by simp [hsame])
    rw [List.reverse_concat, ended_cons hlast, List.reverse_cons, List.reverse_reverse]

/-- Rows that hold no line end of their own are read back as lines. -/
theorem lines_join_rows {rows : List String}
    (hrows : ∀ row ∈ rows, '\n' ∉ row.toList ∧ '\r' ∉ row.toList) :
    lines (String.join (rows.map (· ++ "\n"))) = rows := by
  induction rows with
  | nil => rfl
  | cons row rows ih =>
    obtain ⟨hline, hreturn⟩ := hrows row (.head _)
    have hnewline : "\n".toList = ['\n'] := rfl
    have hrest := ih fun other hmem => hrows other (.tail _ hmem)
    rw [lines] at hrest ⊢
    rw [List.map_cons, String.join_cons, String.toList_append, String.toList_append, hnewline,
      List.append_assoc, splitLines_append hline, List.append_nil, List.singleton_append,
      splitLines_newline, ended_reverse hreturn, List.map_cons, hrest, String.ofList_toList]

end Text

end SchemaGen
