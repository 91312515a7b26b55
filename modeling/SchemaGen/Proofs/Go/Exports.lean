import SchemaGen.Proofs.Document.Provenance
import SchemaGen.Proofs.Go.Agreement

namespace SchemaGen

namespace Go

/-- What a struct for output says: its name, and for each member the name of the field and its Go
type. -/
structure Export where
  name : String
  members : List (String × String)
deriving DecidableEq

/-- What the struct of a type definition says. Fields of a root type are no members. -/
def exportOf (options : Options) (definition : TypeDef) : Export where
  name := definition.name
  members := (definition.fields.filter fun field => !options.isRoot field.type.name).map
    fun field => (field.name, typeName .pointer field.type)

/-- What the structs of all type definitions say that are no input and no root type, in document
order. -/
def exports (options : Options) (document : Document) : List Export :=
  ((document.definitions.filterMap Definition.typeDef?).filter options.isOutput).map
    (exportOf options)

/-- The row that opens a struct, with the empty row above it. -/
def opening (name : String) : String :=
  "\ntype " ++ name ++ " struct \x7b\n"

/-- The declaration of a struct. -/
def Export.render (struct : Export) : String :=
  opening struct.name ++ String.join (struct.members.map row) ++ "\x7d\n"

theorem Export.render_eq_block (struct : Export) :
    struct.render = block struct.name (struct.members.map row) := by
  simp only [render, opening, block, declaration, ← String.append_assoc]
  rfl

/-- The Go file depends on nothing but what is exported. -/
theorem outputTypes_eq (options : Options) (document : Document) :
    outputTypes options document =
      options.header ++ String.join ((exports options document).map Export.render) := by
  have hstruct (definition : TypeDef) :
      "\n" ++ (outputStruct options definition).render =
        (exportOf options definition).render := by
    have hrows : (outputStruct options definition).members =
        (exportOf options definition).members.map row := by
      rw [outputStruct, Options.exportedFields, TypeDef.fieldsBelow_eq, exportOf, List.map_map]
      rfl
    rw [render_behind_newline, hrows, Export.render_eq_block]
    rfl
  rw [outputTypes, outputStructs, exports, Document.typeDefs_eq_filterMap, List.map_map,
    List.map_map]
  exact congrArg (options.header ++ String.join ·) (List.map_congr_left fun _ _ => hstruct _)

/-- What stands behind the last occurrence of a character can be told from what stands before it. -/
theorem append_cons_inj_of_not_mem {front back name other : List Char} {c : Char}
    (hname : c ∉ name) (hother : c ∉ other) (heq : front ++ c :: name = back ++ c :: other) :
    front = back ∧ name = other := by
  rcases List.append_eq_append_iff.mp heq with ⟨more, rfl, hmore⟩ | ⟨more, rfl, hmore⟩
  · cases more with
    | nil => simpa using hmore
    | cons d more =>
      obtain ⟨_, rfl⟩ := List.cons.inj hmore
      simp at hname
  · cases more with
    | nil => simpa using hmore.symm
    | cons d more =>
      obtain ⟨_, rfl⟩ := List.cons.inj hmore
      simp at hother

/-- If the last of some items can be told from the end of a text, and also that no item is left,
then all of them can be told. -/
theorem append_flatMap_inj {α : Type} {code : α → List Char} {Clear : α → Prop}
    (hcode : ∀ {front back : List Char} {item other : α}, Clear item → Clear other →
      front ++ code item = back ++ code other → front = back ∧ item = other)
    {start origin : List Char} (hstart : ∀ front item, front ++ code item ≠ start)
    (horigin : ∀ front item, front ++ code item ≠ origin) {items others : List α}
    (hitems : ∀ item ∈ items, Clear item) (hothers : ∀ item ∈ others, Clear item)
    (heq : start ++ items.flatMap code = origin ++ others.flatMap code) :
    start = origin ∧ items = others := by
  induction items using List.reverseRecOn generalizing others with
  | nil =>
    rcases List.eq_nil_or_concat' others with rfl | ⟨more, last, rfl⟩
    · exact ⟨by simpa using heq, rfl⟩
    · refine absurd ?_ (hstart (origin ++ more.flatMap code) last)
      simpa using heq.symm
  | append_singleton items item ih =>
    rcases List.eq_nil_or_concat' others with rfl | ⟨more, last, rfl⟩
    · refine absurd ?_ (horigin (start ++ items.flatMap code) item)
      simpa using heq
    · simp only [List.flatMap_append, List.flatMap_singleton, ← List.append_assoc] at heq
      rw [List.forall_mem_append] at hitems hothers
      obtain ⟨habove, rfl⟩ := hcode (hitems.2 item (by simp)) (hothers.2 last (by simp)) heq
      obtain ⟨hsame, rfl⟩ := ih hitems.1 hothers.1 habove
      exact ⟨hsame, rfl⟩

/-- The member can be read from its row: no quote cuts its name, and no blank its type. -/
def Legible (member : String × String) : Prop :=
  '"' ∉ member.1.toList ∧ ' ' ∉ member.2.toList

/-- A text that ends in the row of a member tells the member. From the end the name of the field
comes first, and with it the Go identifier is known. -/
theorem append_row_inj {front back : List Char} {member other : String × String}
    (hmember : Legible member) (hother : Legible other)
    (heq : front ++ (row member).toList = back ++ (row other).toList) :
    front = back ∧ member = other := by
  obtain ⟨name, type⟩ := member
  obtain ⟨otherName, otherType⟩ := other
  have hrow (name type : String) (front : List Char) : front ++ (row (name, type)).toList =
      (front ++ '\t' :: (memberName name).toList ++ ' ' :: type.toList ++ " `json:".toList) ++
        '"' :: name.toList ++ "\"`\n".toList := by
    simp [row]
  rw [hrow, hrow] at heq
  obtain ⟨hbefore, hname⟩ :=
    append_cons_inj_of_not_mem hmember.1 hother.1 (List.append_cancel_right heq)
  obtain rfl := String.toList_inj.mp hname
  obtain ⟨hfront, htype⟩ :=
    append_cons_inj_of_not_mem hmember.2 hother.2 (List.append_cancel_right hbefore)
  exact ⟨List.append_cancel_right hfront, Prod.ext rfl (String.toList_inj.mp htype)⟩

/-- A text that ends in an opened struct tells its name. -/
theorem append_opening_inj {front back : List Char} {name other : String}
    (hname : ' ' ∉ name.toList) (hother : ' ' ∉ other.toList)
    (heq : front ++ (opening name).toList = back ++ (opening other).toList) :
    front = back ∧ name = other := by
  have hopening (name : String) (front : List Char) : front ++ (opening name).toList =
      (front ++ "\ntype".toList) ++ ' ' :: name.toList ++ " struct \x7b\n".toList := by
    simp [opening]
  rw [hopening, hopening] at heq
  obtain ⟨hfront, hsame⟩ :=
    append_cons_inj_of_not_mem hname hother (List.append_cancel_right heq)
  exact ⟨List.append_cancel_right hfront, String.toList_inj.mp hsame⟩

/-- The last character but one tells whether a row is that of a member or opens a struct. -/
theorem append_row_ne_append_opening (front back : List Char) (member : String × String)
    (name : String) : front ++ (row member).toList ≠ back ++ (opening name).toList := by
  have hrow : ∃ above, front ++ (row member).toList = above ++ ['`', '\n'] :=
    ⟨front ++ '\t' :: (memberName member.1).toList ++ ' ' :: member.2.toList ++
      " `json:\"".toList ++ member.1.toList ++ ['"'], by simp [row]⟩
  have hopening : ∃ above, back ++ (opening name).toList = above ++ ['\x7b', '\n'] :=
    ⟨back ++ "\ntype ".toList ++ name.toList ++ " struct ".toList, by simp [opening]⟩
  obtain ⟨above, habove⟩ := hrow
  obtain ⟨earlier, hearlier⟩ := hopening
  rw [habove, hearlier]
  intro heq
  cases (List.append_inj' heq rfl).2

/-- The struct can be read from its declaration. -/
def Export.Legible (struct : Export) : Prop :=
  ' ' ∉ struct.name.toList ∧ ∀ member ∈ struct.members, Go.Legible member

/-- A text that ends in a struct tells the struct. -/
theorem append_render_inj {front back : List Char} {struct other : Export}
    (hstruct : struct.Legible) (hother : other.Legible)
    (heq : front ++ struct.render.toList = back ++ other.render.toList) :
    front = back ∧ struct = other := by
  obtain ⟨name, members⟩ := struct
  obtain ⟨otherName, otherMembers⟩ := other
  have hrender (struct : Export) (front : List Char) : front ++ struct.render.toList =
      (front ++ (opening struct.name).toList) ++
        struct.members.flatMap (fun member => (row member).toList) ++ "\x7d\n".toList := by
    simp [Export.render, String.toList_join, List.flatMap_map]
  rw [hrender, hrender] at heq
  obtain ⟨hopened, rfl⟩ := append_flatMap_inj append_row_inj
    (fun above member => append_row_ne_append_opening above front member name)
    (fun above member => append_row_ne_append_opening above back member otherName)
    hstruct.2 hother.2 (List.append_cancel_right heq)
  obtain ⟨hfront, rfl⟩ := append_opening_inj hstruct.1 hother.1 hopened
  exact ⟨hfront, rfl⟩

theorem space_not_mem_typeName {type : TypeRef} (hname : ' ' ∉ type.name.toList)
    (mapping : Mapping) : ' ' ∉ (typeName mapping type).toList := by
  unfold typeName sliceIf
  split_ifs <;> simp [hname]

/-- What a document exports that was read from a text can be read from its rows. -/
theorem legible_of_mem_exports {source : String} {document : Document}
    (hok : Document.ofText source = .ok document) (options : Options) :
    ∀ struct ∈ exports options document, struct.Legible := by
  intro struct hmem
  obtain ⟨definition, hdefinition, rfl⟩ := List.mem_map.mp hmem
  obtain ⟨content, hcontent, htypeDef⟩ :=
    List.mem_filterMap.mp (List.mem_of_mem_filter hdefinition)
  have hformed := Document.wellFormed_of_ofText hok content hcontent
  cases content with
  | schema block | directiveDef other => cases htypeDef
  | typeDef other =>
    obtain rfl := Option.some.inj htypeDef
    refine ⟨hformed.1.not_mem (by decide), fun member hmember => ?_⟩
    obtain ⟨field, hfield, rfl⟩ := List.mem_map.mp hmember
    obtain ⟨hname, htype, _⟩ := hformed.2 field (List.mem_of_mem_filter hfield)
    exact ⟨hname.not_mem (by decide), space_not_mem_typeName (htype.1.not_mem (by decide)) _⟩

/-- The Go files for the output types of two documents that were read from texts are the same text
exactly if the documents export the same: structs of the same names in the same order, and in each
of them the same fields in the same order, each with the same Go type. -/
theorem outputTypes_eq_iff_exports_eq {first second : String} {document other : Document}
    (hfirst : Document.ofText first = .ok document) (hsecond : Document.ofText second = .ok other)
    (options : Options) :
    outputTypes options document = outputTypes options other ↔
      exports options document = exports options other := by
  have hne (front : List Char) (struct : Export) : front ++ struct.render.toList ≠ [] := by
    simp [Export.render]
  constructor
  · intro heq
    rw [outputTypes_eq, outputTypes_eq, ← String.toList_inj, String.toList_append,
      String.toList_append, String.toList_join, String.toList_join, List.flatMap_map,
      List.flatMap_map] at heq
    exact (append_flatMap_inj append_render_inj hne hne (legible_of_mem_exports hfirst options)
      (legible_of_mem_exports hsecond options) (List.append_cancel_left heq)).2
  · intro heq
    rw [outputTypes_eq, outputTypes_eq, heq]

/-- Two fields that have one Go identifier are told apart, while parameters, marks, a schema block
and a field of a root type leave no trace. -/
theorem outputTypes_eq_iff_exports_eq_userId :
    ∃ document other same,
      Document.ofText "type A\x7buserId: B\x7d" = .ok document ∧
      Document.ofText "type A\x7buserID: B\x7d" = .ok other ∧
      Document.ofText "schema\x7bq: Query\x7d type A\x7buserId(n: Int): B! r: Query\x7d" =
        .ok same ∧
      memberName "userId" = memberName "userID" ∧
      exports {} document = [⟨"A", [("userId", "*B")]⟩] ∧
      outputTypes {} document ≠ outputTypes {} other ∧
      outputTypes {} document = outputTypes {} same := by
  have hfirst : Document.ofText "type A\x7buserId: B\x7d" = .ok ⟨⟨0, 0⟩, [.typeDef ⟨⟨0, 0⟩, "A",
      [⟨⟨0, 7⟩, "userId", ⟨⟨0, 15⟩, "B", false, false, false⟩, [], []⟩], false⟩]⟩ := by
    decide +kernel
  have hsecond : Document.ofText "type A\x7buserID: B\x7d" = .ok ⟨⟨0, 0⟩, [.typeDef ⟨⟨0, 0⟩, "A",
      [⟨⟨0, 7⟩, "userID", ⟨⟨0, 15⟩, "B", false, false, false⟩, [], []⟩], false⟩]⟩ := by
    decide +kernel
  have hthird : Document.ofText
      "schema\x7bq: Query\x7d type A\x7buserId(n: Int): B! r: Query\x7d" = .ok ⟨⟨0, 0⟩,
        [.schema ⟨⟨0, 0⟩, [⟨⟨0, 7⟩, "q", ⟨⟨0, 10⟩, "Query", false, false, false⟩, [], []⟩]⟩,
        .typeDef ⟨⟨0, 17⟩, "A", [⟨⟨0, 24⟩, "userId", ⟨⟨0, 40⟩, "B", true, false, false⟩,
          [⟨⟨0, 31⟩, "n", ⟨0, 34⟩, "Int", false, false, false⟩], []⟩,
          ⟨⟨0, 43⟩, "r", ⟨⟨0, 46⟩, "Query", false, false, false⟩, [], []⟩], false⟩]⟩ := by
    decide +kernel
  refine ⟨_, _, _, hfirst, hsecond, hthird, by decide +kernel, by decide +kernel, ?_, ?_⟩
  · rw [ne_eq, outputTypes_eq_iff_exports_eq hfirst hsecond]
    decide +kernel
  · rw [outputTypes_eq_iff_exports_eq hfirst hthird]
    decide +kernel

end Go

end SchemaGen
