import SchemaGen.Proofs.Document.Provenance
import SchemaGen.Proofs.Go.Name

namespace SchemaGen

/-- The fields that a definition declares. -/
def Definition.fields : Definition → List Field
  | .typeDef definition => definition.fields
  | .schema block => block.fields
  | .directiveDef _ => []

/-- The names of a field and of its parameters. -/
def Field.memberNames (field : Field) : List String :=
  field.name :: field.params.map (·.name)

/-- The names of all fields and parameters of a document. -/
def Document.memberNames (document : Document) : List String :=
  document.definitions.flatMap fun content => content.fields.flatMap Field.memberNames

theorem Definition.WellFormed.fields {content : Definition} (hcontent : content.WellFormed) :
    ∀ field ∈ content.fields, field.WellFormed := by
  cases content with
  | typeDef definition => exact hcontent.2
  | schema block => exact hcontent
  | directiveDef definition => simp [Definition.fields]

theorem Document.isIdentifier_of_mem_memberNames {document : Document}
    (hformed : document.WellFormed) : ∀ name ∈ document.memberNames, IsIdentifier name := by
  intro name hmem
  obtain ⟨content, hcontent, hmem⟩ := List.mem_flatMap.mp hmem
  obtain ⟨field, hfield, hmem⟩ := List.mem_flatMap.mp hmem
  obtain ⟨hname, _, hparams, _⟩ := (hformed content hcontent).fields field hfield
  rcases List.mem_cons.mp hmem with rfl | hmem
  · exact hname
  · obtain ⟨param, hparam, rfl⟩ := List.mem_map.mp hmem
    exact (hparams param hparam).1

namespace Text

/-- No character is without an upper-case form. -/
theorem upperCase_ne_nil (c : Char) : upperCase c ≠ [] := by
  have hexpansions : ∀ entry ∈ upperCaseExpansions, entry.2 ≠ [] := by decide
  unfold upperCase upperCaseEntry
  split
  · simp
  · split
    · rename_i codes hcodes
      obtain ⟨before, behind, htable, _⟩ := List.lookup_eq_some_iff.mp hcodes
      simpa using hexpansions (c.toNat, codes) (by simp [htable])
    · split <;> simp

end Text

namespace Go

open Text

theorem memberName_ne_empty {name : String} {first : Char} {rest : List Char}
    (hname : name.toList = first :: rest) : memberName name ≠ "" := by
  rw [ne_eq, ← String.toList_inj]
  rcases memberName_cases name with ⟨before, _, hmember⟩ | ⟨_, _, hmember⟩
  · simp [hmember]
  · simp [hmember, title, hname, titleChars, upperCase_ne_nil]

/-- Which characters are upper-case letters, letters and digits. Beyond ASCII this is a matter of
tables that grow from year to year, so nothing is fixed there. -/
structure Alphabet where
  isUpper : Char → Bool
  isLetter : Char → Bool
  isDigit : Char → Bool
  ascii : ∀ c, c.toNat < 0x80 →
    isUpper c = c.isUpper ∧ isLetter c = c.isAlpha ∧ isDigit c = c.isDigit

namespace Alphabet

/-- The alphabet that knows ASCII only. -/
def plain : Alphabet where
  isUpper := Char.isUpper
  isLetter := Char.isAlpha
  isDigit := Char.isDigit
  ascii _ _ := ⟨rfl, rfl, rfl⟩

variable (alphabet : Alphabet)

/-- The character can stand in an identifier, behind the first. -/
def Continues (c : Char) : Prop :=
  alphabet.isLetter c = true ∨ alphabet.isDigit c = true ∨ c = '_'

/-- The characters are an identifier that Go exports. -/
def Exported (name : List Char) : Prop :=
  ∃ first rest, name = first :: rest ∧ alphabet.isUpper first = true ∧
    ∀ c ∈ rest, alphabet.Continues c

variable {alphabet}

theorem exported_cons_iff {first : Char} {rest : List Char} :
    alphabet.Exported (first :: rest) ↔
      alphabet.isUpper first = true ∧ ∀ c ∈ rest, alphabet.Continues c := by
  constructor
  · rintro ⟨_, _, hname, hfirst, hrest⟩
    obtain ⟨rfl, rfl⟩ := List.cons.inj hname
    exact ⟨hfirst, hrest⟩
  · exact fun ⟨hfirst, hrest⟩ => ⟨first, rest, rfl, hfirst, hrest⟩

theorem exported_append_iff {front : List Char} (hfront : front ≠ []) (rest : List Char) :
    alphabet.Exported (front ++ rest) ↔
      alphabet.Exported front ∧ ∀ c ∈ rest, alphabet.Continues c := by
  cases front with
  | nil => exact absurd rfl hfront
  | cons first front =>
    rw [List.cons_append, exported_cons_iff, exported_cons_iff, List.forall_mem_append, and_assoc]

theorem continues_of_isAlpha {c : Char} (hascii : c.toNat < 0x80) (halpha : c.isAlpha = true) :
    alphabet.Continues c :=
  .inl ((alphabet.ascii c hascii).2.1.trans halpha)

/-- The spelling of a final `Id` makes no difference. -/
theorem exported_append_id_iff (before : List Char) :
    alphabet.Exported (before ++ ['I', 'D']) ↔ alphabet.Exported (before ++ ['I', 'd']) := by
  have hupper : alphabet.isUpper 'I' = true := (alphabet.ascii 'I' (by decide)).1
  have hI : alphabet.Continues 'I' := continues_of_isAlpha (by decide) rfl
  have hD : alphabet.Continues 'D' := continues_of_isAlpha (by decide) rfl
  have hd : alphabet.Continues 'd' := continues_of_isAlpha (by decide) rfl
  cases before with
  | nil => simp [exported_cons_iff, hupper, hD, hd]
  | cons c rest =>
    rw [exported_append_iff (by simp), exported_append_iff (by simp)]
    simp [hI, hD, hd]

theorem exported_memberName_iff (name : String) :
    alphabet.Exported (memberName name).toList ↔ alphabet.Exported (title name).toList := by
  rcases memberName_cases name with ⟨before, htitle, hmember⟩ | ⟨_, _, hmember⟩
  · rw [htitle, hmember, String.toList_append, String.toList_append]
    exact exported_append_id_iff before.toList
  · rw [hmember]

/-- The upper-case form of the first character decides, with the characters behind it. -/
theorem exported_title_iff {name : String} {first : Char} {rest : List Char}
    (hname : name.toList = first :: rest) :
    alphabet.Exported (title name).toList ↔
      alphabet.Exported (upperCase first) ∧ ∀ c ∈ rest, alphabet.Continues c := by
  rw [title, String.toList_ofList, hname]
  exact exported_append_iff (upperCase_ne_nil first) rest

/-- Among ASCII names those with an underscore in front are the only ones that are not exported. -/
theorem exported_title_iff_of_isAsciiName {name : String} (hascii : IsAsciiName name)
    {first : Char} {rest : List Char} (hname : name.toList = first :: rest) :
    alphabet.Exported (title name).toList ↔ first ≠ '_' := by
  have hcode (c : Char) (hmem : c ∈ first :: rest) : c.toNat < 0x80 :=
    toNat_lt_of_isAsciiName hascii c (hname ▸ hmem)
  have hupper : first.toUpper.toNat < 0x80 ∧ (first.toUpper.isUpper = true ↔ first ≠ '_') := by
    have hletter := hascii first (by simp [hname])
    revert hletter
    exact ascii_induction (p := fun c => c.isAlpha = true ∨ c = '_' →
      c.toUpper.toNat < 0x80 ∧ (c.toUpper.isUpper = true ↔ c ≠ '_')) (by decide +kernel)
      (hcode first (.head _))
  have hrest : ∀ c ∈ rest, alphabet.Continues c := by
    intro c hmem
    rcases hascii c (by simp [hname, hmem]) with halpha | rfl
    · exact continues_of_isAlpha (hcode c (.tail _ hmem)) halpha
    · exact .inr (.inr rfl)
  rw [exported_title_iff hname, upperCase_of_ascii (hcode first (.head _)), exported_cons_iff,
    (alphabet.ascii _ hupper.1).1, hupper.2, and_iff_left hrest, and_iff_left (by simp)]

end Alphabet

/-- When Go exports the member of a field or a parameter that was read from a text. The identifier
is never empty. It is exported exactly if the upper-case form of the first character of the name is,
and the characters behind it can stand in an identifier; of the names in ASCII these are the ones
without an underscore in front. -/
theorem exported_iff_first_exported {source : String} {document : Document}
    (hok : Document.ofText source = .ok document) {name : String}
    (hmem : name ∈ document.memberNames) (alphabet : Alphabet) :
    memberName name ≠ "" ∧
    (alphabet.Exported (memberName name).toList ↔ ∃ first rest, name.toList = first :: rest ∧
      alphabet.Exported (upperCase first) ∧ ∀ c ∈ rest, alphabet.Continues c) ∧
    (IsAsciiName name →
      (alphabet.Exported (memberName name).toList ↔ name.toList.head? ≠ some '_')) := by
  have hne := (Document.isIdentifier_of_mem_memberNames (Document.wellFormed_of_ofText hok) name
    hmem).1
  obtain ⟨first, rest, hname⟩ : ∃ first rest, name.toList = first :: rest :=
    List.exists_cons_of_ne_nil (by simpa using hne)
  refine ⟨?_, ?_, fun hascii => ?_⟩
  · exact memberName_ne_empty hname
  · rw [Alphabet.exported_memberName_iff, Alphabet.exported_title_iff hname]
    constructor
    · exact fun hexported => ⟨first, rest, hname, hexported⟩
    · rintro ⟨_, _, hsame, hexported⟩
      rw [hname] at hsame
      obtain ⟨rfl, rfl⟩ := List.cons.inj hsame
      exact hexported
  · rw [Alphabet.exported_memberName_iff, Alphabet.exported_title_iff_of_isAsciiName hascii hname,
      hname]
    simp

/-- A name with a final `Id` is exported, and a parameter with an underscore in front is not. -/
theorem exported_iff_first_exported_userId :
    ∃ document, Document.ofText "type A\x7buserId(_n: B): B\x7d" = .ok document ∧
      document.memberNames = ["userId", "_n"] ∧
      Alphabet.plain.Exported (memberName "userId").toList ∧
      ¬ Alphabet.plain.Exported (memberName "_n").toList := by
  have hok : Document.ofText "type A\x7buserId(_n: B): B\x7d" = .ok ⟨⟨0, 0⟩, [.typeDef ⟨⟨0, 0⟩, "A",
      [⟨⟨0, 7⟩, "userId", ⟨⟨0, 22⟩, "B", false, false, false⟩,
        [⟨⟨0, 14⟩, "_n", ⟨0, 18⟩, "B", false, false, false⟩], []⟩], false⟩]⟩ := by
    decide +kernel
  obtain ⟨_, _, hfield⟩ := exported_iff_first_exported hok (show "userId" ∈ _ by decide) .plain
  obtain ⟨_, _, hparam⟩ := exported_iff_first_exported hok (show "_n" ∈ _ by decide) .plain
  exact ⟨_, hok, by decide, (hfield (by decide)).mpr (by decide),
    mt (hparam (by decide)).mp (by decide)⟩

/-- A field with an underscore in front is read, and its member is not exported. -/
theorem underscore_not_exported :
    ∃ document, Document.ofText "type A\x7b_x: B\x7d" = .ok document ∧
      "_x" ∈ document.memberNames ∧ memberName "_x" = "_x" ∧
      ∀ alphabet : Alphabet, ¬ alphabet.Exported (memberName "_x").toList := by
  have hok : Document.ofText "type A\x7b_x: B\x7d" = .ok ⟨⟨0, 0⟩, [.typeDef ⟨⟨0, 0⟩, "A",
      [⟨⟨0, 7⟩, "_x", ⟨⟨0, 11⟩, "B", false, false, false⟩, [], []⟩], false⟩]⟩ := by
    decide +kernel
  have hchars : "_x".toList = ['_', 'x'] := rfl
  refine ⟨_, hok, by decide, by decide, fun alphabet => ?_⟩
  rw [Alphabet.exported_memberName_iff,
    Alphabet.exported_title_iff_of_isAsciiName (by decide) hchars]
  exact not_not_intro rfl

end Go

end SchemaGen
