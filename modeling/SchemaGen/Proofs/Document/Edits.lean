import Mathlib.Logic.Relation
import SchemaGen.Listing
import SchemaGen.Proofs.Go.Exports

namespace SchemaGen

/-- The reference without its position and without the marks for required values. -/
def TypeRef.unmarked (type : TypeRef) : TypeRef where
  loc := {}
  name := type.name
  required := false
  multiple := type.multiple
  nonNullElements := false

/-- The field without positions and without the marks of its types. -/
def Field.unmarked (field : Field) : Field where
  loc := {}
  name := field.name
  type := field.type.unmarked
  params := field.params.map fun param => ⟨{}, param.name, param.type.unmarked⟩
  directives := field.directives.map fun mark => ⟨{}, mark.name⟩

/-- The field without its parameters and directives as well. -/
def Field.outline (field : Field) : Field :=
  { field.unmarked with params := [], directives := [] }

section

variable (onField : Field → Field)

def TypeDef.redraw (definition : TypeDef) : TypeDef where
  loc := {}
  name := definition.name
  fields := definition.fields.map onField
  input := definition.input

def Definition.redraw : Definition → Definition
  | .typeDef definition => .typeDef (definition.redraw onField)
  | .schema block => .schema ⟨{}, block.fields.map onField⟩
  | .directiveDef definition => .directiveDef { definition with loc := {} }

/-- The document without positions, and with all that a function on fields leaves of its fields. -/
def Document.redraw (document : Document) : Document where
  loc := {}
  definitions := document.definitions.map (Definition.redraw onField)

end

/-- One edit of a document. Definitions that are not shown are removed at some place or added there
or both, which replaces the ones by the others; to move a definition is to remove it and to add it
elsewhere. Or else whatever the function on fields drops is changed, and positions are. -/
inductive Edit (shown : Definition → Bool) (onField : Field → Field) : Document → Document → Prop
  | splice {loc : Location} {front removed added back : List Definition}
      (hremoved : ∀ content ∈ removed, shown content = false)
      (hadded : ∀ content ∈ added, shown content = false) :
      Edit shown onField ⟨loc, front ++ removed ++ back⟩ ⟨loc, front ++ added ++ back⟩
  | retouch {document other : Document}
      (hsame : document.redraw onField = other.redraw onField) :
      Edit shown onField document other

/-- What edits cannot change: the definitions that are shown, with what the function leaves of their
fields. -/
def Document.essence (shown : Definition → Bool) (onField : Field → Field) (document : Document) :
    Document where
  loc := {}
  definitions := (document.definitions.filter shown).map (Definition.redraw onField)

section

variable {shown : Definition → Bool} {onField : Field → Field}

/-- An edit keeps the essence, if showing a definition does not depend on what may be changed. -/
theorem Edit.essence_eq (hshown : ∀ content : Definition,
      shown (content.redraw onField) = shown content) {document other : Document}
    (hedit : Edit shown onField document other) :
    other.essence shown onField = document.essence shown onField := by
  cases hedit with
  | @splice loc front removed added back hremoved hadded =>
    have hnone {contents : List Definition}
        (hhidden : ∀ content ∈ contents, shown content = false) : contents.filter shown = [] := by
      simpa [List.filter_eq_nil_iff] using hhidden
    simp [Document.essence, hnone hremoved, hnone hadded]
  | retouch hsame =>
    have hcommute (document : Document) : document.essence shown onField =
        ⟨{}, (document.redraw onField).definitions.filter shown⟩ := by
      have hcomp : shown ∘ Definition.redraw onField = shown := funext hshown
      rw [Document.essence, Document.redraw, List.filter_map, hcomp]
    rw [hcommute, hcommute, hsame]

/-- Any number of edits keeps the essence. -/
theorem essence_eq_of_edits (hshown : ∀ content : Definition,
      shown (content.redraw onField) = shown content) {document other : Document}
    (hedits : Relation.ReflTransGen (Edit shown onField) document other) :
    other.essence shown onField = document.essence shown onField := by
  induction hedits with
  | refl => rfl
  | tail _ hedit ih => rw [hedit.essence_eq hshown, ih]

theorem Document.typeDefs_essence (document : Document) :
    (document.essence shown onField).typeDefs =
      (document.typeDefs.filter fun definition => shown (.typeDef definition)).map
        (TypeDef.redraw onField) := by
  rw [typeDefs_eq_filterMap, typeDefs_eq_filterMap, essence, List.filterMap_map,
    List.filterMap_filter, List.filter_filterMap, List.map_filterMap]
  refine List.filterMap_congr fun content _ => ?_
  cases content with
  | typeDef definition =>
    cases hshow : shown (.typeDef definition) <;>
      simp [Definition.typeDef?, Definition.redraw, Option.filter_some, hshow]
  | schema _ | directiveDef _ => simp [Definition.typeDef?, Definition.redraw]

end

/-- The definition is a type definition. -/
def Definition.isTypeDef (content : Definition) : Bool := content.typeDef?.isSome

/-- An edit that shows in no generated text: schema blocks and directive definitions come and go,
and positions and the marks for required values change. -/
abbrev UnseenEdit : Document → Document → Prop :=
  Edit Definition.isTypeDef Field.unmarked

theorem isTypeDef_redraw (onField : Field → Field) (content : Definition) :
    (content.redraw onField).isTypeDef = content.isTypeDef := by
  cases content <;> rfl

theorem Document.typeDefs_essence_unmarked (document : Document) :
    (document.essence Definition.isTypeDef Field.unmarked).typeDefs =
      document.typeDefs.map (TypeDef.redraw Field.unmarked) := by
  simp [typeDefs_essence, Definition.isTypeDef, Definition.typeDef?]

theorem Field.hasDirective_unmarked (field : Field) (name : String) :
    field.unmarked.hasDirective name = field.hasDirective name := by
  simp [hasDirective, unmarked, Function.comp_def]

namespace Go

/-- The definition gets a struct in the file for the output types. -/
def Options.shows (options : Options) (content : Definition) : Bool :=
  content.typeDef?.any options.isOutput

/-- An edit that does not show in the Go file for the output types: also definitions of input types
and of root types come and go, and parameters and directives change. -/
abbrev UnexportedEdit (options : Options) : Document → Document → Prop :=
  Edit options.shows Field.outline

theorem shows_redraw (options : Options) (onField : Field → Field) (content : Definition) :
    options.shows (content.redraw onField) = options.shows content := by
  cases content <;> rfl

theorem exportedFields_redraw (options : Options) (onField : Field → Field)
    (htype : ∀ field, (onField field).type.name = field.type.name) (definition : TypeDef) :
    options.exportedFields (definition.redraw onField) =
      (options.exportedFields definition).map onField := by
  simp [Options.exportedFields, TypeDef.redraw, List.filter_map, Function.comp_def, htype]

theorem inputStruct_redraw (options : Options) (definition : TypeDef) :
    inputStruct options (definition.redraw Field.unmarked) = inputStruct options definition := by
  rw [inputStruct, exportedFields_redraw options Field.unmarked fun _ => rfl, List.map_map]
  rfl

theorem linkedStruct_redraw (options : Options) (definition : TypeDef) :
    linkedStruct options (definition.redraw Field.unmarked) = linkedStruct options definition := by
  have hmember : linkedMember options (definition.redraw Field.unmarked) ∘ Field.unmarked =
      linkedMember options definition := by
    funext field
    simp only [Function.comp, linkedMember, Field.hasDirective_unmarked]
    rfl
  rw [linkedStruct, exportedFields_redraw options Field.unmarked fun _ => rfl, List.map_map,
    hmember]
  rfl

theorem argumentStructs_redraw (definition : TypeDef) :
    argumentStructs (definition.redraw Field.unmarked) = argumentStructs definition := by
  have hstruct : argumentStruct (definition.redraw Field.unmarked) ∘ Field.unmarked =
      argumentStruct definition := by
    funext field
    simp only [Function.comp, argumentStruct, Field.unmarked, List.map_map]
    rfl
  have htakes : (fun field : Field => !field.params.isEmpty) ∘ Field.unmarked =
      fun field => !field.params.isEmpty := by
    funext field
    simp [Field.unmarked]
  rw [argumentStructs, TypeDef.fieldsBelow_eq, TypeDef.redraw, List.filter_map, List.map_map,
    htakes, argumentStructs, TypeDef.fieldsBelow_eq]
  exact congrArg (List.map · _) hstruct

theorem inputTypes_essence (options : Options) (document : Document) :
    inputTypes options (document.essence Definition.isTypeDef Field.unmarked) =
      inputTypes options document := by
  have hinputs : inputStruct options ∘ TypeDef.redraw Field.unmarked = inputStruct options :=
    funext (inputStruct_redraw options)
  have houtputs : linkedStruct options ∘ TypeDef.redraw Field.unmarked = linkedStruct options :=
    funext (linkedStruct_redraw options)
  simp only [inputTypes, Document.typeDefs_essence_unmarked, List.filter_map, List.map_map,
    List.flatMap_map, hinputs, houtputs, argumentStructs_redraw]
  rfl

theorem outputTypes_essence (options : Options) (document : Document) :
    outputTypes options (document.essence options.shows Field.outline) =
      outputTypes options document := by
  have hexports : exportOf options ∘ TypeDef.redraw Field.outline = exportOf options := by
    funext definition
    rw [Function.comp, exportOf, TypeDef.redraw, List.filter_map, List.map_map]
    rfl
  have hsame : exports options (document.essence options.shows Field.outline) =
      exports options document := by
    rw [exports, exports, ← Document.typeDefs_eq_filterMap, ← Document.typeDefs_eq_filterMap,
      Document.typeDefs_essence, List.filter_map, List.map_map, hexports, List.filter_filter]
    congr 2
    funext definition
    exact Bool.and_self _
  rw [outputTypes_eq, outputTypes_eq, hsame]

end Go

namespace Manifest

theorem entriesOf_redraw (resolveDirective : String) (definition : TypeDef) :
    entriesOf resolveDirective (definition.redraw Field.unmarked) =
      entriesOf resolveDirective definition := by
  have hmarked : (fun field : Field => field.hasDirective resolveDirective) ∘ Field.unmarked =
      fun field => field.hasDirective resolveDirective :=
    funext fun field => field.hasDirective_unmarked resolveDirective
  rw [entriesOf, TypeDef.redraw, List.filter_map, List.map_map, hmarked]
  rfl

theorem render_essence (resolveDirective : String) (document : Document) :
    render resolveDirective (document.essence Definition.isTypeDef Field.unmarked) =
      render resolveDirective document := by
  simp only [render, entries_eq_flatMap_typeDefs, Document.typeDefs_essence_unmarked,
    List.flatMap_map, entriesOf_redraw]

end Manifest

theorem Listing.render_essence (sort : Bool) (document : Document) :
    render sort (document.essence Definition.isTypeDef Field.unmarked) = render sort document := by
  simp only [render, names, Document.collect_typeDefs, ← Document.typeDefs_eq_filterMap,
    Document.typeDefs_essence_unmarked, List.map_map]
  rfl

theorem Document.outline_of_unmarked (document : Document) :
    (document.redraw Field.unmarked).redraw Field.outline = document.redraw Field.outline := by
  have hfields (fields : List Field) :
      (fields.map Field.unmarked).map Field.outline = fields.map Field.outline :=
    List.map_map
  simp only [redraw, List.map_map, Document.mk.injEq, true_and]
  refine List.map_congr_left fun content _ => ?_
  cases content <;> simp [Definition.redraw, TypeDef.redraw, hfields]

/-- What shows in no generated text does not show in the file for the output types. -/
theorem UnseenEdit.unexported {document other : Document} (hedit : UnseenEdit document other)
    (options : Go.Options) : Go.UnexportedEdit options document other := by
  have hhidden {content : Definition} (hnone : content.isTypeDef = false) :
      options.shows content = false := by
    cases content <;> first | rfl | cases hnone
  cases hedit with
  | splice hremoved hadded =>
    exact .splice (fun content hmem => hhidden (hremoved content hmem))
      fun content hmem => hhidden (hadded content hmem)
  | retouch hsame =>
    refine .retouch ?_
    rw [← Document.outline_of_unmarked document, hsame, Document.outline_of_unmarked]

theorem Go.outputTypes_of_edits {options : Options} {document other : Document}
    (hedits : Relation.ReflTransGen (UnexportedEdit options) document other) :
    outputTypes options other = outputTypes options document := by
  rw [← outputTypes_essence, essence_eq_of_edits (shows_redraw options Field.outline) hedits,
    outputTypes_essence]

/-- Generators depend on what they export only. Schema blocks and directive definitions may be
added, removed and moved, and positions and the marks for required values may be changed: all four
generated texts stay the same. In the Go file for the output types it also leaves no trace if
definitions of input types and of root types are added, removed and altered, and if the parameters
and directives of fields are changed. -/
theorem generators_blind_to_edits (options : Go.Options) {document other : Document} :
    (Relation.ReflTransGen UnseenEdit document other →
      Go.outputTypes options other = Go.outputTypes options document ∧
      Go.inputTypes options other = Go.inputTypes options document ∧
      Manifest.render options.resolveDirective other =
        Manifest.render options.resolveDirective document ∧
      ∀ sort, Listing.render sort other = Listing.render sort document) ∧
    (Relation.ReflTransGen (Go.UnexportedEdit options) document other →
      Go.outputTypes options other = Go.outputTypes options document) := by
  refine ⟨fun hedits => ?_, Go.outputTypes_of_edits⟩
  have hessence := essence_eq_of_edits (isTypeDef_redraw Field.unmarked) hedits
  refine ⟨?_, ?_, ?_, fun sort => ?_⟩
  · exact Go.outputTypes_of_edits
      (Relation.ReflTransGen.mono (fun _ _ hedit => UnseenEdit.unexported hedit options) _ _ hedits)
  · rw [← Go.inputTypes_essence, hessence, Go.inputTypes_essence]
  · rw [← Manifest.render_essence, hessence, Manifest.render_essence]
  · rw [← Listing.render_essence, hessence, Listing.render_essence]

/-- A schema block moves behind the type, and its field is no longer required. Then an input type is
put in place of the block, and the field loses its parameter and its directive, which shows in the
Go file for the resolvers but not in the one for the output types. -/
theorem generators_blind_to_edits_moved_schema :
    let block : Definition := .schema ⟨⟨0, 0⟩,
      [⟨⟨0, 8⟩, "query", ⟨⟨0, 15⟩, "Query", false, false, false⟩, [], []⟩]⟩
    let input : Definition := .typeDef ⟨⟨0, 0⟩, "I", [], true⟩
    let type (required : Bool) (params : List Param) (directives : List Directive) : Definition :=
      .typeDef ⟨⟨1, 0⟩, "A",
        [⟨⟨1, 8⟩, "b", ⟨⟨1, 11⟩, "C", required, false, false⟩, params, directives⟩], false⟩
    let param : Param := ⟨⟨1, 9⟩, "n", ⟨⟨1, 10⟩, "Int", false, false, false⟩⟩
    let mark : Directive := ⟨⟨1, 12⟩, "resolve"⟩
    let document : Document := ⟨⟨0, 0⟩, [block, type true [param] [mark]]⟩
    let other : Document := ⟨⟨1, 0⟩, [type false [param] [mark], block]⟩
    let stripped : Document := ⟨⟨1, 0⟩, [type false [] [], input]⟩
    Relation.ReflTransGen UnseenEdit document other ∧
      Go.inputTypes {} other = Go.inputTypes {} document ∧
      Relation.ReflTransGen (Go.UnexportedEdit {}) other stripped ∧
      Go.outputTypes {} stripped = Go.outputTypes {} other ∧
      Go.inputTypes {} stripped ≠ Go.inputTypes {} other := by
  intro block input type param mark document other stripped
  have hmoved : Relation.ReflTransGen UnseenEdit document other := by
    have hremove : UnseenEdit document ⟨⟨0, 0⟩, [type true [param] [mark]]⟩ :=
      @Edit.splice _ _ _ [] [block] [] _ (by decide) (by decide)
    have hadd : UnseenEdit ⟨⟨0, 0⟩, [type true [param] [mark]]⟩
        ⟨⟨0, 0⟩, [type true [param] [mark], block]⟩ :=
      @Edit.splice _ _ _ [_] [] [block] [] (by decide) (by decide)
    exact .head hremove (.head hadd (.single (.retouch (by decide))))
  have hstripped : Relation.ReflTransGen (Go.UnexportedEdit {}) other stripped := by
    have hreplace : Go.UnexportedEdit {} other ⟨⟨1, 0⟩, [type false [param] [mark], input]⟩ :=
      @Edit.splice _ _ _ [_] [block] [input] [] (by decide) (by decide)
    exact .head hreplace (.single (.retouch (by decide)))
  exact ⟨hmoved, ((generators_blind_to_edits {}).1 hmoved).2.1, hstripped,
    (generators_blind_to_edits {}).2 hstripped, by decide +kernel⟩

end SchemaGen
