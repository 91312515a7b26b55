import Mathlib.Data.List.Basic
import SchemaGen.Go.InputTypes
import SchemaGen.Go.OutputTypes
import SchemaGen.Manifest
import SchemaGen.Proofs.Node.TypeDefs

namespace SchemaGen

/-- The field at a place: the index of a definition, and the index of a field in it. Only type
definitions have fields in this sense. -/
def Document.fieldAt? (document : Document) (place : Nat × Nat) : Option (TypeDef × Field) :=
  match document.definitions[place.1]? with
  | some (.typeDef definition) => definition.fields[place.2]?.map fun field => (definition, field)
  | _ => none

theorem Document.fieldAt?_eq_some_iff {document : Document} {place : Nat × Nat}
    {definition : TypeDef} {field : Field} :
    document.fieldAt? place = some (definition, field) ↔
      document.definitions[place.1]? = some (.typeDef definition) ∧
        definition.fields[place.2]? = some field := by
  unfold fieldAt?
  constructor
  · intro hfield
    split at hfield
    · rename_i found hfound
      obtain ⟨content, hcontent, hpair⟩ := Option.map_eq_some_iff.mp hfield
      cases hpair
      exact ⟨hfound, hcontent⟩
    · cases hfield
  · rintro ⟨hdefinition, hfield⟩
    simp [hdefinition, hfield]

theorem Field.hasDirective_iff {field : Field} {name : String} :
    field.hasDirective name = true ↔ ∃ mark ∈ field.directives, mark.name = name := by
  simp [Field.hasDirective]

/-- Indices grow along a list. -/
theorem pairwise_zipIdx {α : Type} (items : List α) :
    items.zipIdx.Pairwise fun item other => item.2 < other.2 := by
  rw [← List.pairwise_map (f := Prod.snd), List.zipIdx_map_snd]
  exact List.pairwise_lt_range'

/-- Items may be picked with or without their indices. -/
theorem map_fst_filter_zipIdx {α : Type} (p : α → Bool) (items : List α) :
    (items.zipIdx.filter fun item => p item.1).map Prod.fst = items.filter p := by
  have hfst : items.zipIdx.map Prod.fst = items := List.zipIdx_map_fst 0 items
  conv =>
    rhs
    rw [← hfst, List.filter_map]
  rfl

namespace Manifest

/-- The places of the marked fields of a definition that stands at an index. -/
def placesIn (resolveDirective : String) : Definition × Nat → List (Nat × Nat)
  | (.typeDef definition, i) =>
    (definition.fields.zipIdx.filter fun (field, _) => field.hasDirective resolveDirective).map
      fun (_, j) => (i, j)
  | _ => []

/-- The places of all marked fields. -/
def places (resolveDirective : String) (document : Document) : List (Nat × Nat) :=
  document.definitions.zipIdx.flatMap (placesIn resolveDirective)

variable {resolveDirective : String}

theorem mem_placesIn {definition : Definition} {i : Nat} {place : Nat × Nat} :
    place ∈ placesIn resolveDirective (definition, i) ↔
      place.1 = i ∧ ∃ content field, definition = .typeDef content ∧
        content.fields[place.2]? = some field ∧ field.hasDirective resolveDirective = true := by
  cases definition with
  | typeDef content =>
    simp only [placesIn, List.mem_map, List.mem_filter, List.mem_zipIdx_iff_getElem?, Prod.exists]
    constructor
    · rintro ⟨field, j, ⟨hfield, hmarked⟩, rfl⟩
      exact ⟨rfl, content, field, rfl, hfield, hmarked⟩
    · rintro ⟨rfl, _, field, hsame, hfield, hmarked⟩
      cases hsame
      exact ⟨field, place.2, ⟨hfield, hmarked⟩, rfl⟩
  | schema _ | directiveDef _ => simp [placesIn]

theorem mem_places {document : Document} {place : Nat × Nat} :
    place ∈ places resolveDirective document ↔ ∃ definition field,
      document.fieldAt? place = some (definition, field) ∧
        field.hasDirective resolveDirective = true := by
  simp only [places, List.mem_flatMap, Prod.exists, mem_placesIn, List.mem_zipIdx_iff_getElem?,
    Document.fieldAt?_eq_some_iff]
  constructor
  · rintro ⟨_, i, hdefinition, rfl, content, field, rfl, hfield, hmarked⟩
    exact ⟨content, field, ⟨hdefinition, hfield⟩, hmarked⟩
  · rintro ⟨content, field, ⟨hdefinition, hfield⟩, hmarked⟩
    exact ⟨_, place.1, hdefinition, rfl, content, field, rfl, hfield, hmarked⟩

/-- The places come in document order, and none of them twice. -/
theorem pairwise_places (document : Document) :
    (places resolveDirective document).Pairwise (Prod.Lex (· < ·) (· < ·)) := by
  rw [places, List.pairwise_flatMap]
  constructor
  · rintro ⟨definition, i⟩ _
    cases definition with
    | typeDef content =>
      rw [placesIn, List.pairwise_map]
      exact ((pairwise_zipIdx _).filter _).imp fun hlt => .right _ hlt
    | schema _ | directiveDef _ => exact .nil
  · refine (pairwise_zipIdx _).imp ?_
    rintro ⟨_, i⟩ ⟨_, j⟩ hlt place hplace other hother
    obtain ⟨rfl, _⟩ := mem_placesIn.mp hplace
    obtain ⟨rfl, _⟩ := mem_placesIn.mp hother
    exact Prod.Lex.left _ _ hlt

/-- What the manifest reports of one definition. -/
def entriesIn (resolveDirective : String) : Definition → List Entry
  | .typeDef definition => entriesOf resolveDirective definition
  | .schema _ | .directiveDef _ => []

/-- A walk that stops at type definitions reports them one after the other. -/
theorem entries_eq_flatMap_typeDefs (document : Document) :
    entries resolveDirective document =
      document.typeDefs.flatMap (entriesOf resolveDirective) := by
  have hvisit : visit resolveDirective = Node.atTypeDefs fun found definition =>
      found ++ entriesOf resolveDirective definition := by
    funext found node
    cases node <;> rfl
  rw [entries, hvisit, Node.walk_atTypeDefs, Document.typeDefs_eq_filterMap,
    List.flatMap_eq_foldl]

theorem entries_eq_flatMap (document : Document) :
    entries resolveDirective document =
      document.definitions.flatMap (entriesIn resolveDirective) := by
  rw [entries_eq_flatMap_typeDefs, Document.typeDefs_eq_filterMap]
  induction document.definitions with
  | nil => rfl
  | cons definition definitions ih =>
    cases definition with
    | typeDef content =>
      rw [List.flatMap_cons, ← ih]
      rfl
    | schema _ | directiveDef _ =>
      rw [List.filterMap_cons_none rfl, List.flatMap_cons, ih]
      rfl

/-- The entry for the field at a place. -/
def entryAt? (document : Document) (place : Nat × Nat) : Option Entry :=
  (document.fieldAt? place).map fun (definition, field) => ⟨definition.name, field.name⟩

theorem map_entryAt?_placesIn {document : Document} {definition : Definition} {i : Nat}
    (hget : document.definitions[i]? = some definition) :
    (placesIn resolveDirective (definition, i)).map (entryAt? document) =
      (entriesIn resolveDirective definition).map some := by
  cases definition with
  | typeDef content =>
    have hentry : ∀ item ∈ content.fields.zipIdx.filter fun item =>
        item.1.hasDirective resolveDirective,
        entryAt? document (i, item.2) = some ⟨content.name, item.1.name⟩ := by
      intro item hmem
      have hfield := List.mem_zipIdx_iff_getElem?.mp (List.mem_filter.mp hmem).1
      have hplace : document.fieldAt? (i, item.2) = some (content, item.1) :=
        Document.fieldAt?_eq_some_iff.mpr ⟨hget, hfield⟩
      rw [entryAt?, hplace]
      rfl
    rw [entriesIn, entriesOf, ← map_fst_filter_zipIdx, List.map_map, List.map_map, placesIn,
      List.map_map]
    exact List.map_congr_left hentry
  | schema _ | directiveDef _ => rfl

/-- The manifest reports the marked fields by their places. -/
theorem map_entryAt?_places (document : Document) :
    (places resolveDirective document).map (entryAt? document) =
      (entries resolveDirective document).map some := by
  have hentries (item : Definition × Nat) (hmem : item ∈ document.definitions.zipIdx) :
      (placesIn resolveDirective item).map (entryAt? document) =
        (entriesIn resolveDirective item.1).map some :=
    map_entryAt?_placesIn (List.mem_zipIdx_iff_getElem?.mp hmem)
  rw [places, List.map_flatMap, List.flatMap_def, List.map_congr_left hentries, ← List.flatMap_def,
    entries_eq_flatMap, List.map_flatMap]
  have hfst : document.definitions.zipIdx.map Prod.fst = document.definitions :=
    List.zipIdx_map_fst 0 document.definitions
  conv =>
    rhs
    rw [← hfst]
  rw [List.flatMap_map]

end Manifest

namespace Go

/-- A struct declaration. -/
def declaration (name : String) (rows : List String) : String :=
  "type " ++ name ++ " struct \x7b\n" ++ String.join rows ++ "\x7d\n"

/-- A struct declaration, behind an empty row. -/
def block (name : String) (rows : List String) : String :=
  "\n" ++ declaration name rows

/-- The row of a member, which has a name in the schema and a Go type. -/
def row (member : String × String) : String :=
  "\t" ++ memberName member.1 ++ " " ++ member.2 ++ " `json:\"" ++ member.1 ++ "\"`\n"

/-- The type definitions that are no input and no root type, with their indices in the document. -/
def exportedDefs (options : Options) (document : Document) : List (TypeDef × Nat) :=
  document.definitions.zipIdx.filterMap fun (definition, i) =>
    match definition with
    | .typeDef content =>
      if content.input = false ∧ content.name ∉ options.rootTypes then some (content, i) else none
    | .schema _ | .directiveDef _ => none

/-- The fields of a definition whose type is no root type, with their indices. -/
def exportedAt (options : Options) (definition : TypeDef) : List (Field × Nat) :=
  definition.fields.zipIdx.filter fun (field, _) => field.type.name ∉ options.rootTypes

/-- One block for each exported definition, with one row for each exported field. A row may depend
on the place of the field. -/
def blocks (options : Options) (document : Document)
    (row : TypeDef → Nat × Nat → Field → String) : String :=
  String.join ((exportedDefs options document).map fun (definition, i) =>
    block definition.name ((exportedAt options definition).map fun (field, j) =>
      row definition (i, j) field))

variable {options : Options}

theorem header_eq (options : Options) :
    options.header = "package " ++ options.package ++ "\n\ntype ID string\n" := rfl

theorem render_eq_declaration (struct : Struct) :
    struct.render = declaration struct.name struct.members := by
  rw [← String.toList_inj]
  have htext (text : String) : toString text = text := rfl
  simp [Struct.render, declaration, htext]

theorem render_behind_newline (struct : Struct) :
    "\n" ++ struct.render = block struct.name struct.members := by
  rw [render_eq_declaration, block]

theorem fieldMember_eq_row (mapping : Mapping) :
    fieldMember mapping = fun field => row (field.name, typeName mapping field.type) := rfl

theorem map_fst_exportedAt (definition : TypeDef) :
    (exportedAt options definition).map Prod.fst = options.exportedFields definition := by
  have hroot : (fun field : Field => decide (field.type.name ∉ options.rootTypes)) =
      fun field => !options.isRoot field.type.name := by
    funext field
    simp [Options.isRoot]
  rw [Options.exportedFields, TypeDef.fieldsBelow_eq, ← hroot, ← map_fst_filter_zipIdx]
  rfl

theorem map_fst_exportedDefs (document : Document) :
    (exportedDefs options document).map Prod.fst = document.typeDefs.filter options.isOutput := by
  have hfst : document.definitions.zipIdx.map Prod.fst = document.definitions :=
    List.zipIdx_map_fst 0 document.definitions
  rw [Document.typeDefs_eq_filterMap, List.filter_filterMap]
  conv =>
    rhs
    rw [← hfst, List.filterMap_map]
  rw [exportedDefs, List.map_filterMap]
  refine List.filterMap_congr fun item _ => ?_
  rcases item with ⟨definition, i⟩
  cases definition with
  | typeDef content =>
    by_cases hout : content.input = false ∧ content.name ∉ options.rootTypes
    · have hoptions : options.isOutput content = true := by
        simp [Options.isOutput, Options.isRoot, hout.1, hout.2]
      simp [Definition.typeDef?, Option.filter_some, hout, hoptions]
    · have hoptions : options.isOutput content = false := by
        simpa [Options.isOutput, Options.isRoot] using hout
      simp [Definition.typeDef?, Option.filter_some, hout, hoptions]
  | schema _ | directiveDef _ => rfl

theorem fieldAt?_of_exported {document : Document} {definition : TypeDef} {field : Field}
    {i j : Nat} (hdefinition : (definition, i) ∈ exportedDefs options document)
    (hfield : (field, j) ∈ exportedAt options definition) :
    document.fieldAt? (i, j) = some (definition, field) := by
  rw [Document.fieldAt?_eq_some_iff]
  constructor
  · obtain ⟨⟨content, index⟩, hmem, hsome⟩ := List.mem_filterMap.mp hdefinition
    have hget := List.mem_zipIdx_iff_getElem?.mp hmem
    cases content with
    | typeDef content =>
      simp only [Option.ite_none_right_eq_some, Option.some.injEq, Prod.mk.injEq] at hsome
      obtain ⟨_, rfl, rfl⟩ := hsome
      exact hget
    | schema _ | directiveDef _ => cases hsome
  · exact List.mem_zipIdx_iff_getElem?.mp (List.mem_filter.mp hfield).1

/-- Blocks whose rows do not depend on places in the end are those of the output types. -/
theorem blocks_eq (member : TypeDef → Field → String) {document : Document}
    {row : TypeDef → Nat × Nat → Field → String}
    (hrow : ∀ definition field place, document.fieldAt? place = some (definition, field) →
      row definition place field = member definition field) :
    blocks options document row = String.join
      ((document.typeDefs.filter options.isOutput).map fun definition =>
        block definition.name ((options.exportedFields definition).map (member definition))) := by
  rw [blocks, ← map_fst_exportedDefs, List.map_map]
  refine congrArg String.join (List.map_congr_left fun item hdefinition => ?_)
  refine congrArg (block item.1.name) ?_
  rw [← map_fst_exportedAt, List.map_map]
  refine List.map_congr_left fun entry hfield => ?_
  exact hrow _ _ _ (fieldAt?_of_exported hdefinition hfield)

/-- The structs of the input types are declarations. -/
theorem join_inputStructs (definitions : List TypeDef) :
    String.join ((definitions.map (inputStruct options)).map Struct.render) =
      String.join (definitions.map fun definition =>
        declaration definition.name ((exportedAt options definition).map fun (field, _) =>
          row (field.name, typeName .input field.type))) := by
  rw [List.map_map]
  refine congrArg String.join (List.map_congr_left fun definition _ => ?_)
  have hrows : (inputStruct options definition).members =
      (exportedAt options definition).map fun (field, _) =>
        row (field.name, typeName .input field.type) := by
    rw [inputStruct, ← map_fst_exportedAt, List.map_map, fieldMember_eq_row]
    rfl
  rw [Function.comp, render_eq_declaration, hrows]
  rfl

/-- The structs with links are blocks whose rows depend on the marks of the fields. -/
theorem join_linkedStructs (document : Document) :
    String.join (((document.typeDefs.filter options.isOutput).map (linkedStruct options)).map
        fun struct => "\n" ++ struct.render) =
      blocks options document fun definition place field =>
        if place ∈ Manifest.places options.resolveDirective document then
          "\t" ++ definition.name ++ title field.name ++ "Link\n"
        else row (field.name, typeName .value field.type) := by
  rw [blocks_eq (linkedMember options), List.map_map]
  · refine congrArg String.join (List.map_congr_left fun definition _ => ?_)
    exact render_behind_newline (linkedStruct options definition)
  · intro definition field place hplace
    have hmarked : place ∈ Manifest.places options.resolveDirective document ↔
        field.hasDirective options.resolveDirective = true := by
      rw [Manifest.mem_places]
      constructor
      · rintro ⟨other, content, hother, hmark⟩
        cases hplace.symm.trans hother
        exact hmark
      · exact fun hmark => ⟨definition, field, hplace, hmark⟩
    simp only [hmarked, linkedMember, fieldMember_eq_row]
    rfl

/-- The structs of arguments are blocks as well. -/
theorem join_argumentStructs (definitions : List TypeDef) :
    String.join ((definitions.flatMap argumentStructs).map fun struct => "\n" ++ struct.render) =
      String.join (definitions.flatMap fun definition =>
        (definition.fields.filter fun field => !field.params.isEmpty).map fun field =>
          block (definition.name ++ title field.name ++ "Args")
            (field.params.map fun param => row (param.name, typeName .value param.type))) := by
  rw [List.map_flatMap]
  refine congrArg String.join (List.flatMap_congr fun definition _ => ?_)
  rw [argumentStructs, TypeDef.fieldsBelow_eq, List.map_map]
  refine List.map_congr_left fun field _ => ?_
  exact render_behind_newline (argumentStruct definition field)

/-- The three generators around resolvers agree field by field. The manifest reports the fields that
carry the directive, in document order and each once, wherever a type definition has them. The
structs for output and the structs with links are the same blocks with a row for each of the same
fields; a field that the manifest reports has a link there, and every other row gives the Go
identifier, the Go type and the name of its field. The structs of arguments behind them belong to
the fields with parameters of all types that are no input, root types included. -/
theorem generators_agree (options : Options) (document : Document) :
    ∃ reported : List (Nat × Nat),
      reported.Pairwise (Prod.Lex (· < ·) (· < ·)) ∧
      (∀ place, place ∈ reported ↔ ∃ definition field,
        document.fieldAt? place = some (definition, field) ∧
          ∃ mark ∈ field.directives, mark.name = options.resolveDirective) ∧
      reported.map (Manifest.entryAt? document) =
        (Manifest.entries options.resolveDirective document).map some ∧
      outputTypes options document =
        "package " ++ options.package ++ "\n\ntype ID string\n" ++
          blocks options document (fun _ _ field =>
            row (field.name, typeName .pointer field.type)) ∧
      ∃ inputs arguments, inputTypes options document =
          "package " ++ options.package ++ "\n\ntype ID string\n" ++ "\n" ++ inputs ++
            blocks options document (fun definition place field =>
              if place ∈ reported then "\t" ++ definition.name ++ title field.name ++ "Link\n"
              else row (field.name, typeName .value field.type)) ++ arguments ∧
        inputs = String.join
          (((document.definitions.filterMap Definition.typeDef?).filter (·.input)).map
            fun definition => declaration definition.name
              ((exportedAt options definition).map fun (field, _) =>
                row (field.name, typeName .input field.type))) ∧
        arguments = String.join
          (((document.definitions.filterMap Definition.typeDef?).filter (!·.input)).flatMap
            fun definition => (definition.fields.filter fun field => !field.params.isEmpty).map
              fun field => block (definition.name ++ title field.name ++ "Args")
                (field.params.map fun param => row (param.name, typeName .value param.type))) := by
  refine ⟨Manifest.places options.resolveDirective document, Manifest.pairwise_places document,
    fun place => ?_, Manifest.map_entryAt?_places document, ?_, _, _, ?_, rfl, rfl⟩
  · simp only [Manifest.mem_places, Field.hasDirective_iff]
  · rw [blocks_eq (fun _ field => row (field.name, typeName .pointer field.type))
      fun _ _ _ _ => rfl, outputTypes, outputStructs, List.map_map, ← header_eq]
    refine congrArg (options.header ++ String.join ·) (List.map_congr_left fun definition _ => ?_)
    exact render_behind_newline (outputStruct options definition)
  · rw [← Document.typeDefs_eq_filterMap, ← join_inputStructs, ← join_linkedStructs,
      ← join_argumentStructs, inputTypes, List.map_append, String.join_append,
      ← String.append_assoc, ← header_eq]

end Go

end SchemaGen
