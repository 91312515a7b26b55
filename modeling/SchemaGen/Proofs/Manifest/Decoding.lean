import SchemaGen.Manifest
import SchemaGen.Proofs.Json.Spelling

namespace SchemaGen.Manifest

open Json

/-- An entry as a JSON value. -/
def Entry.json (entry : Entry) : Value :=
  .object [("type", .string entry.typeName), ("field", .string entry.field)]

/-- A member of an entry's object. -/
def memberText (name text : String) : List Char :=
  (Text.jsonString name).toList ++ (':' :: ' ' :: (Text.jsonString text).toList)

/-- The object of an entry, from its opening brace on. -/
def Entry.braces (entry : Entry) : List Char :=
  laidOut .curly "\n    ".toList "\n  ".toList
    [memberText "type" entry.typeName, memberText "field" entry.field]

theorem toList_render_entry (entry : Entry) :
    entry.render.toList = ' ' :: ' ' :: entry.braces := by
  have htype : (Text.jsonString "type").toList = "\"type\"".toList := by
    simp [Text.jsonString, Text.jsonChar]
  have hfield : (Text.jsonString "field").toList = "\"field\"".toList := by
    simp [Text.jsonString, Text.jsonChar]
  rw [Entry.braces, laidOut_cons, memberText, memberText, htype, hfield]
  unfold Entry.render
  simp [Brackets.opening, Brackets.close]

theorem spells_braces (nesting : Nat) (entry : Entry) :
    Spells (value (nesting + 2)) entry.braces entry.json := by
  have hmember (name text : String) : Spells (member (value (nesting + 1))) (memberText name text)
      (name, .string text) := spells_member (spells_string nesting text) name
  refine spells_object (nesting + 1) (by simp [isBlank]) (by simp [isBlank])
    [(memberText "type" entry.typeName, "type", .string entry.typeName),
      (memberText "field" entry.field, "field", .string entry.field)] ?_
  simp [hmember]

/-- A gap behind each separator is a gap before each item. -/
theorem append_intercalate (separator gap first : List Char) (others : List (List Char)) :
    gap ++ (separator ++ gap).intercalate (first :: others) =
      separator.intercalate ((first :: others).map (gap ++ ·)) := by
  induction others generalizing first with
  | nil => simp
  | cons other others ih =>
    rw [List.map_cons, List.map_cons, List.intercalate_cons_cons, List.intercalate_cons_cons,
      ← List.map_cons, ← ih other]
    simp only [List.append_assoc]

/-- The entries are laid out in brackets, each on lines of its own. -/
theorem toList_renderEntries_cons (first : Entry) (others : List Entry) :
    (renderEntries (first :: others)).toList =
      laidOut .square "\n  ".toList "\n".toList ((first :: others).map Entry.braces) := by
  have hrows : ((first :: others).map Entry.render).map String.toList =
      ((first :: others).map Entry.braces).map ("  ".toList ++ ·) := by
    simp [toList_render_entry]
  have hgaps := append_intercalate [','] "\n".toList ("  ".toList ++ first.braces)
    ((others.map Entry.braces).map ("  ".toList ++ ·))
  have htext : renderEntries (first :: others) =
      "[\n" ++ String.intercalate ",\n" ((first :: others).map Entry.render) ++ "\n]" := rfl
  have hopening : "[\n".toList = '[' :: "\n".toList := by simp
  have hcomma : ",\n".toList = [','] ++ "\n".toList := by simp
  have hclose : "\n]".toList = "\n".toList ++ [']'] := by simp
  rw [htext, String.toList_append, String.toList_append, String.toList_intercalate, hrows, hopening,
    hcomma, hclose, List.cons_append, List.map_cons, List.map_cons, hgaps, laidOut]
  simp [Brackets.opening, Brackets.close, Function.comp_def]

/-- Any list of entries is read as the array of their objects. -/
theorem spells_renderEntries (nesting : Nat) (entries : List Entry) :
    Spells (value (nesting + 3)) (renderEntries entries).toList
      (.array (entries.map Entry.json)) := by
  have hspells {gap last : List Char} (hgap : ∀ c ∈ gap, isBlank c = true)
      (hlast : ∀ c ∈ last, isBlank c = true) :
      Spells (value (nesting + 3)) (laidOut .square gap last (entries.map Entry.braces))
        (.array (entries.map Entry.json)) := by
    have hitems := spells_array (nesting + 2) hgap hlast
      (entries.map fun entry => (entry.braces, entry.json)) (by simp [spells_braces])
    simpa [Function.comp_def] using hitems
  cases entries with
  | nil => exact @hspells [] [] (by simp) (by simp)
  | cons first others =>
    rw [toList_renderEntries_cons]
    exact hspells (by simp [isBlank]) (by simp [isBlank])

/-- The manifest of a document is a JSON text, and what it stands for is the array of the document's
entries: for each an object with the names of the type and of the field, in the order of the entries
and with every character as it is in the document. -/
theorem render_decodes (resolveDirective : String) (document : Document) :
    ofText? (render resolveDirective document) =
      some (.array ((entries resolveDirective document).map fun entry =>
        .object [("type", .string entry.typeName), ("field", .string entry.field)])) := by
  rw [render]
  generalize entries resolveDirective document = entries
  have hlength : 2 ≤ (renderEntries entries).length := by
    cases entries with
    | nil => decide
    | cons first others =>
      rw [← String.length_toList, toList_renderEntries_cons]
      simp [laidOut]
  obtain ⟨nesting, hnesting⟩ := Nat.exists_eq_add_of_le hlength
  refine ofText?_of_spells ?_
  rw [hnesting, Nat.add_comm 2, Nat.add_assoc]
  exact spells_renderEntries nesting entries

end SchemaGen.Manifest
