import Mathlib.Data.List.Basic
import Mathlib.Data.Option.Basic
import SchemaGen.Proofs.Json.Reader
import SchemaGen.Text.Json

namespace SchemaGen.Json

open Reader

section Readers

variable {α β : Type}

@[simp]
theorem bind_apply (reader : Reader α) (next : α → Reader β) (chars : List Char) :
    (reader >>= next) chars = (reader chars).bind fun (value, rest) => next value rest := rfl

@[simp]
theorem pure_apply (value : α) (chars : List Char) :
    (pure value : Reader α) chars = some (value, chars) := rfl

@[simp]
theorem map_apply (f : α → β) (reader : Reader α) (chars : List Char) :
    (f <$> reader) chars = (reader chars).map fun (value, rest) => (f value, rest) := by
  cases hread : reader chars <;> simp [Functor.map, StateT.map, hread]

@[simp]
theorem peek?_apply (chars : List Char) : peek? chars = some (chars.head?, chars) := rfl

@[simp]
theorem longest_apply (inClass : Char → Bool) (chars : List Char) :
    longest inClass chars = some (chars.takeWhile inClass, chars.dropWhile inClass) := rfl

@[simp]
theorem expect_cons (c : Char) (rest : List Char) : expect [c] (c :: rest) = some ((), rest) := by
  simp [expect]

/-- The closing bracket ends a list. -/
theorem listed_of_close {close : Char} (hcomma : close ≠ ',') {item : Reader α}
    {chars behind : List Char} {value : α}
    (hitem : spaced item chars = some (value, close :: behind)) :
    listed close item chars = some ([value], behind) := by
  rw [listed, hitem]
  split
  · rename_i heq
    simp_all
  · rename_i heq
    simp_all
  · rename_i hother
    exact absurd rfl (hother _ _ _)

/-- Behind a comma the list goes on. -/
theorem listed_of_comma {close : Char} {item : Reader α} {chars rest : List Char} {value : α}
    (hitem : spaced item chars = some (value, ',' :: rest))
    (hshorter : rest.length < chars.length) :
    listed close item chars =
      (listed close item rest).map fun (others, behind) => (value :: others, behind) := by
  rw [listed, hitem]
  exact if_pos hshorter

end Readers

theorem value_quote (nesting : Nat) (more : List Char) :
    value (nesting + 1) ('"' :: more) =
      (quoted ('"' :: more)).map fun (text, rest) => (.string text, rest) := by
  simp [value, valueWith]

theorem value_square (nesting : Nat) (more : List Char) :
    value (nesting + 1) ('[' :: more) = (enclosed '[' ']' (value nesting) ('[' :: more)).map
      fun (items, rest) => (.array items, rest) := by
  simp [value, valueWith]

theorem value_curly (nesting : Nat) (more : List Char) :
    value (nesting + 1) ('{' :: more) =
      (enclosed '{' '}' (member (value nesting)) ('{' :: more)).map
        fun (members, rest) => (.object members, rest) := by
  simp [value, valueWith]

/-- A reader finds a value in some characters and goes no further, whatever stands behind them. They
start with neither a blank nor a closing bracket, so blanks before them end where they start and an
empty list is not suspected. -/
structure Spells {α : Type} (reader : Reader α) (chars : List Char) (value : α) : Prop where
  reads : ∀ rest, reader (chars ++ rest) = some (value, rest)
  starts : ∃ c more, chars = c :: more ∧ isBlank c = false ∧ c ≠ ']' ∧ c ≠ '}'

namespace Spells

variable {α : Type} {reader : Reader α} {chars : List Char} {value : α}

theorem dropWhile_eq (hspells : Spells reader chars value) (rest : List Char) :
    (chars ++ rest).dropWhile isBlank = chars ++ rest := by
  obtain ⟨c, more, rfl, hblank, _⟩ := hspells.starts
  rw [List.cons_append, List.dropWhile_cons_of_neg (by simp [hblank])]

/-- Blanks before and behind are passed over. -/
theorem spaced (hspells : Spells reader chars value) (blanks : List Char)
    (hblanks : ∀ c ∈ blanks, isBlank c = true) (rest : List Char) :
    spaced reader (blanks ++ (chars ++ rest)) = some (value, rest.dropWhile isBlank) := by
  simp only [Reader.spaced, bind_apply, longest_apply, Option.bind_some]
  rw [List.dropWhile_append_of_pos hblanks, hspells.dropWhile_eq, hspells.reads]
  rfl

/-- Values with commas between them are read one after the other, up to the closing bracket. -/
theorem listed {close : Char} (hcomma : close ≠ ',') (hclose : isBlank close = false)
    {gap last : List Char} (hgap : ∀ c ∈ gap, isBlank c = true)
    (hlast : ∀ c ∈ last, isBlank c = true) {others : List (List Char × α)}
    (hspells : Spells reader chars value)
    (hothers : ∀ other ∈ others, Spells reader other.1 other.2)
    (before : List Char) (hbefore : ∀ c ∈ before, isBlank c = true) (rest : List Char) :
    listed close reader (before ++ (chars ++
        (others.flatMap (fun other => ',' :: (gap ++ other.1)) ++ (last ++ close :: rest)))) =
      some (value :: others.map (·.2), rest) := by
  induction others generalizing chars value before with
  | nil =>
    refine listed_of_close hcomma ?_
    rw [hspells.spaced before hbefore, List.flatMap_nil, List.nil_append,
      List.dropWhile_append_of_pos hlast, List.dropWhile_cons_of_neg (by simp [hclose])]
  | cons other others ih =>
    -- what stands behind the first comma is a list of its own, with the gap before its first value
    have hnext := ih (hothers other (.head _)) (fun _ hmem => hothers _ (.tail _ hmem)) gap hgap
    have hitem := hspells.spaced before hbefore
      (',' :: (gap ++ (other.1 ++ (others.flatMap (fun other => ',' :: (gap ++ other.1)) ++
        (last ++ close :: rest)))))
    rw [List.dropWhile_cons_of_neg (by simp [isBlank])] at hitem
    rw [List.flatMap_cons, List.append_assoc, List.cons_append, List.append_assoc,
      listed_of_comma hitem (by simp only [List.length_append, List.length_cons]; omega), hnext]
    rfl

end Spells

/-- The two kinds of brackets. -/
inductive Brackets where
  | square
  | curly

/-- The opening bracket. -/
def Brackets.opening : Brackets → Char
  | square => '['
  | curly => '{'

/-- The closing bracket. -/
def Brackets.close : Brackets → Char
  | square => ']'
  | curly => '}'

/-- Items in brackets with commas between them, a gap before each and one behind the last. -/
def laidOut (brackets : Brackets) (gap last : List Char) (items : List (List Char)) : List Char :=
  brackets.opening :: ([','].intercalate (items.map (gap ++ ·)) ++ (last ++ [brackets.close]))

theorem laidOut_cons (brackets : Brackets) (gap last first : List Char)
    (others : List (List Char)) :
    laidOut brackets gap last (first :: others) =
      brackets.opening :: (gap ++ (first ++
        (others.flatMap (fun other => ',' :: (gap ++ other)) ++ (last ++ [brackets.close])))) := by
  have hcommas : [','].intercalate ((first :: others).map (gap ++ ·)) =
      gap ++ first ++ others.flatMap fun other => ',' :: (gap ++ other) := by
    induction others generalizing first with
    | nil => simp
    | cons other others ih =>
      have hnext := ih other
      rw [List.map_cons] at hnext
      rw [List.map_cons, List.map_cons, List.intercalate_cons_cons, hnext, List.flatMap_cons]
      simp
  rw [laidOut, hcommas]
  simp only [List.append_assoc]

/-- Items that are laid out in brackets are read as a list, however wide the gaps are. -/
theorem Spells.enclosed {α : Type} {reader : Reader α} (brackets : Brackets)
    {gap last : List Char} (hgap : ∀ c ∈ gap, isBlank c = true)
    (hlast : ∀ c ∈ last, isBlank c = true) {items : List (List Char × α)}
    (hitems : ∀ item ∈ items, Spells reader item.1 item.2) :
    Spells (enclosed brackets.opening brackets.close reader)
      (laidOut brackets gap last (items.map (·.1))) (items.map (·.2)) := by
  have hclose : isBlank brackets.close = false := by cases brackets <;> rfl
  refine ⟨fun rest => ?_, brackets.opening, _, rfl, by cases brackets <;> decide⟩
  cases items with
  | nil =>
    simp [Reader.enclosed, laidOut, List.dropWhile_append_of_pos hlast, hclose]
  | cons item items =>
    have hspells := hitems item (.head _)
    have hlisted := Spells.listed (by cases brackets <;> decide) hclose hgap hlast hspells
      (fun _ hmem => hitems _ (.tail _ hmem)) [] (by simp) rest
    obtain ⟨c, more, hchars, _, hbracket, hbrace⟩ := hspells.starts
    have hfirst : some c ≠ some brackets.close := by cases brackets <;> simpa [Brackets.close]
    rw [List.map_cons, laidOut_cons, List.flatMap_map]
    simp only [Reader.enclosed, List.cons_append, List.append_assoc, bind_apply, expect_cons,
      Option.bind_some, longest_apply, peek?_apply, List.nil_append] at hlisted ⊢
    rw [List.dropWhile_append_of_pos hgap, hspells.dropWhile_eq,
      if_neg (by simpa [hchars] using hfirst)]
    exact hlisted

theorem hexNumber?_hexDigit : ∀ code < 0x20,
    hexNumber? ['0', '0', Text.hexDigit (code / 16), Text.hexDigit (code % 16)] = some code := by
  decide

theorem codes_of_plain {c : Char} (hquote : c ≠ '"') (hescape : c ≠ '\\')
    (hcontrol : 0x20 ≤ c.toNat) (rest : List Char) :
    codes (c :: rest) = (codes rest).map fun (others, behind) => (c.toNat :: others, behind) := by
  have hpasses : (guard (0x20 ≤ c.toNat) : Option Unit) = some () := if_pos hcontrol
  rw [codes, hpasses]
  · cases codes rest <;> rfl
  all_goals simp_all

theorem codes_of_shortEscape {name c : Char} (hescape : shortEscape? name = some c)
    (rest : List Char) :
    codes ('\\' :: name :: rest) =
      (codes rest).map fun (others, behind) => (c.toNat :: others, behind) := by
  have hname : name ≠ 'u' := by
    rintro rfl
    cases hescape
  rw [codes] <;> simp_all
  cases codes rest <;> rfl

/-- A character inside a string is read as its code, escaped or not. -/
theorem codes_jsonChar (c : Char) (rest : List Char) :
    codes (Text.jsonChar c ++ rest) =
      (codes rest).map fun (others, behind) => (c.toNat :: others, behind) := by
  unfold Text.jsonChar
  split
  case h_8 =>
    split
    · rename_i hcontrol
      simp only [List.cons_append, List.nil_append, codes, hexNumber?_hexDigit _ hcontrol]
      cases codes rest <;> rfl
    · exact codes_of_plain (by assumption) (by assumption) (by omega) rest
  all_goals exact codes_of_shortEscape rfl rest

theorem codes_flatMap_jsonChar (chars rest : List Char) :
    codes (chars.flatMap Text.jsonChar ++ '"' :: rest) = some (chars.map Char.toNat, rest) := by
  induction chars with
  | nil => simp [codes]
  | cons c chars ih =>
    rw [List.flatMap_cons, List.append_assoc, codes_jsonChar, ih]
    rfl

/-- No character is a surrogate, so each code is taken for itself. -/
theorem characters?_map_toNat (chars : List Char) :
    characters? (chars.map Char.toNat) = some chars := by
  induction chars with
  | nil => rfl
  | cons c chars ih =>
    have hvalid : c.toNat.isValidChar := c.valid
    rw [List.map_cons, characters?.eq_def]
    simp only [if_pos hvalid, ih, Char.ofNat_toNat, Option.map_some]

/-- A text that is written as a string is read back, whatever characters it has. -/
theorem spells_quoted (text : String) : Spells quoted (Text.jsonString text).toList text := by
  have hchars : (Text.jsonString text).toList =
      '"' :: (text.toList.flatMap Text.jsonChar ++ ['"']) := by
    simp [Text.jsonString]
  refine ⟨fun rest => ?_, '"', _, hchars, by decide⟩
  simp [hchars, quoted, codes_flatMap_jsonChar, characters?_map_toNat]

theorem spells_string (nesting : Nat) (text : String) :
    Spells (value (nesting + 1)) (Text.jsonString text).toList (.string text) := by
  have hquoted := spells_quoted text
  refine ⟨fun rest => ?_, hquoted.starts⟩
  have hread := hquoted.reads rest
  obtain ⟨more, hchars⟩ : ∃ more, (Text.jsonString text).toList ++ rest = '"' :: more := by
    simp [Text.jsonString]
  rw [hchars] at hread ⊢
  rw [value_quote, hread]
  rfl

theorem spells_member {reader : Reader Value} {chars : List Char} {value : Value}
    (hspells : Spells reader chars value) (name : String) :
    Spells (member reader) ((Text.jsonString name).toList ++ (':' :: ' ' :: chars))
      (name, value) := by
  have hname := spells_quoted name
  refine ⟨fun rest => ?_, ?_⟩
  · have hcolon : Spells (expect [':']) [':'] () := ⟨expect_cons ':', ':', [], rfl, by decide⟩
    have hspaced := hcolon.spaced [] (by simp) (' ' :: (chars ++ rest))
    rw [List.dropWhile_cons_of_pos (by decide), hspells.dropWhile_eq] at hspaced
    simp only [List.nil_append, List.singleton_append] at hspaced
    simp [member, hname.reads, hspaced, hspells.reads]
  · obtain ⟨c, more, hchars, hstart⟩ := hname.starts
    exact ⟨c, more ++ ':' :: ' ' :: chars, by rw [hchars, List.cons_append], hstart⟩

/-- Members in braces are an object. -/
theorem spells_object (nesting : Nat) {gap last : List Char} (hgap : ∀ c ∈ gap, isBlank c = true)
    (hlast : ∀ c ∈ last, isBlank c = true) (members : List (List Char × String × Value))
    (hmembers : ∀ item ∈ members, Spells (member (value nesting)) item.1 item.2) :
    Spells (value (nesting + 1)) (laidOut .curly gap last (members.map (·.1)))
      (.object (members.map (·.2))) := by
  have hspells := Spells.enclosed .curly hgap hlast hmembers
  refine ⟨fun rest => ?_, hspells.starts⟩
  have hread := hspells.reads rest
  simp only [laidOut, Brackets.opening, Brackets.close, List.cons_append] at hread ⊢
  rw [value_curly, hread]
  rfl

/-- Values in square brackets are an array. -/
theorem spells_array (nesting : Nat) {gap last : List Char} (hgap : ∀ c ∈ gap, isBlank c = true)
    (hlast : ∀ c ∈ last, isBlank c = true) (items : List (List Char × Value))
    (hitems : ∀ item ∈ items, Spells (value nesting) item.1 item.2) :
    Spells (value (nesting + 1)) (laidOut .square gap last (items.map (·.1)))
      (.array (items.map (·.2))) := by
  have hspells := Spells.enclosed .square hgap hlast hitems
  refine ⟨fun rest => ?_, hspells.starts⟩
  have hread := hspells.reads rest
  simp only [laidOut, Brackets.opening, Brackets.close, List.cons_append] at hread ⊢
  rw [value_square, hread]
  rfl

theorem ofText?_of_spells {text : String} {value : Value}
    (hspells : Spells (Json.value (text.length + 1)) text.toList value) :
    ofText? text = some value := by
  have hread := hspells.spaced [] (by simp) []
  simp only [List.nil_append, List.append_nil, List.dropWhile_nil] at hread
  rw [ofText?, hread]

-- two surrogates are one character, and a comma that nothing follows refuses the text
example : ofText? "[\"\\ud83d\\ude00\", -1.5e3]" =
    some (.array [.string "😀", .number "-1.5e3"]) := by
  cbv

example : ofText? "[\"a\", ]" = none := by cbv

end SchemaGen.Json
