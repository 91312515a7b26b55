import Mathlib.Data.List.Nodup
import SchemaGen.Proofs.Go.Agreement
import SchemaGen.Proofs.Listing.Names

namespace SchemaGen

/-- The fields with parameters of the types that are no input, root types included: the names of the
type and of the field, in document order. -/
def Document.parameterised (document : Document) : List (String × String) :=
  ((document.definitions.filterMap Definition.typeDef?).filter (!·.input)).flatMap
    fun definition => (definition.fields.filter fun field => !field.params.isEmpty).map
      fun field => (definition.name, field.name)

namespace Go

/-- The structs of arguments of a document, in the order of their declarations. -/
def argumentRun (document : Document) : List Struct :=
  (document.typeDefs.filter (!·.input)).flatMap argumentStructs

/-- The name of the struct of arguments of a field. -/
def argumentName (field : String × String) : String :=
  field.1 ++ title field.2 ++ "Args"

/-- The struct of arguments of the one field is named as that of the other. Either both fields are
of one type and have one title form, or the type of the other field has the longer name, and what it
is longer by is how the title form of the first field starts. -/
def Clash (field other : String × String) : Prop :=
  (field.1 = other.1 ∧ title field.2 = title other.2) ∨
    ∃ more, more ≠ "" ∧ other.1 = field.1 ++ more ∧ title field.2 = more ++ title other.2

/-- The structs of arguments end the file. -/
theorem inputTypes_eq_append_argumentRun (options : Options) (document : Document) :
    inputTypes options document = options.header ++ "\n" ++
      String.join (((document.typeDefs.filter (·.input)).map (inputStruct options)).map
        Struct.render) ++
      String.join (((document.typeDefs.filter options.isOutput).map (linkedStruct options)).map
        fun struct => "\n" ++ struct.render) ++
      String.join ((argumentRun document).map fun struct => block struct.name struct.members) := by
  have hblocks : (argumentRun document).map (fun struct => "\n" ++ struct.render) =
      (argumentRun document).map fun struct => block struct.name struct.members :=
    List.map_congr_left fun struct _ => render_behind_newline struct
  rw [inputTypes, List.map_append, String.join_append, ← String.append_assoc, ← hblocks]
  rfl

theorem map_name_argumentRun (document : Document) :
    (argumentRun document).map (·.name) = document.parameterised.map argumentName := by
  rw [argumentRun, Document.typeDefs_eq_filterMap, Document.parameterised, List.map_flatMap,
    List.map_flatMap]
  refine List.flatMap_congr fun definition _ => ?_
  rw [argumentStructs, TypeDef.fieldsBelow_eq, List.map_map, List.map_map]
  refine List.map_congr_left fun field _ => ?_
  rfl

theorem Clash.argumentName_eq {field other : String × String} (hclash : Clash field other) :
    argumentName field = argumentName other := by
  rcases hclash with ⟨htype, htitle⟩ | ⟨more, _, htype, htitle⟩
  · rw [argumentName, argumentName, htype, htitle]
  · rw [argumentName, argumentName, htype, htitle, ← String.append_assoc]

/-- Where the names of type and field divide one text at different places, one type has the longer
name. -/
theorem clash_of_append {field other : String × String} {more : List Char}
    (htype : other.1.toList = field.1.toList ++ more)
    (htitle : (title field.2).toList = more ++ (title other.2).toList) : Clash field other := by
  by_cases hmore : more = []
  · rw [hmore, List.append_nil, String.toList_inj] at htype
    rw [hmore, List.nil_append, String.toList_inj] at htitle
    exact .inl ⟨htype.symm, htitle⟩
  · refine .inr ⟨String.ofList more, by simpa using hmore, ?_, ?_⟩
    · rw [← String.toList_inj, String.toList_append, String.toList_ofList, htype]
    · rw [← String.toList_inj, String.toList_append, String.toList_ofList, htitle]

theorem argumentName_eq_iff {field other : String × String} :
    argumentName field = argumentName other ↔ Clash field other ∨ Clash other field := by
  constructor
  · intro heq
    rw [argumentName, argumentName, String.append_left_inj, ← String.toList_inj,
      String.toList_append, String.toList_append] at heq
    rcases List.append_eq_append_iff.mp heq with ⟨_, htype, htitle⟩ | ⟨_, htype, htitle⟩
    · exact .inl (clash_of_append htype htitle)
    · exact .inr (clash_of_append htype htitle)
  · rintro (hclash | hclash)
    · exact hclash.argumentName_eq
    · exact hclash.argumentName_eq.symm

/-- Where no type and no field of a type is defined twice, no field with parameters is met twice. -/
theorem nodup_parameterised {document : Document} (htypes : document.typeNames.Nodup)
    (hfields : ∀ definition ∈ document.definitions.filterMap Definition.typeDef?,
      (definition.fields.map (·.name)).Nodup) : document.parameterised.Nodup := by
  rw [Document.parameterised, List.nodup_flatMap]
  constructor
  · intro definition hmem
    have hdistinct := hfields definition (List.mem_of_mem_filter hmem)
    have hnames : ((definition.fields.filter fun field => !field.params.isEmpty).map
        Field.name).Nodup := (List.filter_sublist.map _).nodup hdistinct
    have hpairs := hnames.map (Prod.mk_right_injective definition.name)
    rwa [List.map_map] at hpairs
  · have hapart := List.pairwise_map.mp htypes
    refine (hapart.sublist List.filter_sublist).imp fun hne field hfield hother => ?_
    obtain ⟨_, _, rfl⟩ := List.mem_map.mp hfield
    obtain ⟨_, _, hsame⟩ := List.mem_map.mp hother
    exact hne (congrArg Prod.fst hsame).symm

/-- The structs of arguments end the Go file for the resolvers, one for each field with parameters,
and each is named by its type and its field. Where no type and no field of a type is defined twice,
their names are distinct exactly if no two of these fields clash. -/
theorem argument_names_nodup_iff {document : Document} (htypes : document.typeNames.Nodup)
    (hfields : ∀ definition ∈ document.definitions.filterMap Definition.typeDef?,
      (definition.fields.map (·.name)).Nodup) (options : Options) :
    inputTypes options document = options.header ++ "\n" ++
      String.join (((document.typeDefs.filter (·.input)).map (inputStruct options)).map
        Struct.render) ++
      String.join (((document.typeDefs.filter options.isOutput).map (linkedStruct options)).map
        fun struct => "\n" ++ struct.render) ++
      String.join ((argumentRun document).map fun struct => block struct.name struct.members) ∧
    (argumentRun document).map (·.name) = document.parameterised.map argumentName ∧
    (((argumentRun document).map (·.name)).Nodup ↔
      ∀ field ∈ document.parameterised, ∀ other ∈ document.parameterised,
        Clash field other → field = other) := by
  refine ⟨inputTypes_eq_append_argumentRun options document, map_name_argumentRun document, ?_⟩
  rw [map_name_argumentRun, List.nodup_map_iff_inj_on (nodup_parameterised htypes hfields)]
  constructor
  · exact fun hinj field hfield other hother hclash =>
      hinj field hfield other hother hclash.argumentName_eq
  · intro hclash field hfield other hother heq
    rcases argumentName_eq_iff.mp heq with hsame | hsame
    · exact hclash field hfield other hother hsame
    · exact (hclash other hother field hfield hsame).symm

/-- The name of one type may start that of another without a clash. -/
theorem argument_names_nodup_iff_overlap :
    ∃ document,
      Document.ofText "type A\x7bb(x: I): I\x7d type AB\x7bc(x: I): I\x7d" = .ok document ∧
      document.typeNames.Nodup ∧
      (∀ definition ∈ document.definitions.filterMap Definition.typeDef?,
        (definition.fields.map (·.name)).Nodup) ∧
      (argumentRun document).map (·.name) = ["ABArgs", "ABCArgs"] ∧
      ∀ field ∈ document.parameterised, ∀ other ∈ document.parameterised,
        Clash field other → field = other := by
  let document : Document := ⟨⟨0, 0⟩,
    [.typeDef ⟨⟨0, 0⟩, "A", [⟨⟨0, 7⟩, "b", ⟨⟨0, 16⟩, "I", false, false, false⟩,
      [⟨⟨0, 9⟩, "x", ⟨0, 12⟩, "I", false, false, false⟩], []⟩], false⟩,
    .typeDef ⟨⟨0, 19⟩, "AB", [⟨⟨0, 27⟩, "c", ⟨⟨0, 36⟩, "I", false, false, false⟩,
      [⟨⟨0, 29⟩, "x", ⟨0, 32⟩, "I", false, false, false⟩], []⟩], false⟩]⟩
  have htypes : document.typeNames.Nodup := by decide
  have hfields : ∀ definition ∈ document.definitions.filterMap Definition.typeDef?,
      (definition.fields.map (·.name)).Nodup := by decide
  obtain ⟨_, hnames, hiff⟩ := argument_names_nodup_iff htypes hfields {}
  have hrun : (argumentRun document).map (·.name) = ["ABArgs", "ABCArgs"] :=
    hnames.trans (by decide)
  exact ⟨document, by decide +kernel, htypes, hfields, hrun, hiff.mp (by rw [hrun]; decide)⟩

/-- No type and no field of a type is defined twice, and still two structs have one name: the types
`A` and `AB` divide it at different places. -/
theorem argument_names_clash :
    ∃ document,
      Document.ofText "type A\x7bbC(x: I): I\x7d type AB\x7bc(x: I): I\x7d" = .ok document ∧
      document.typeNames.Nodup ∧
      (∀ definition ∈ document.definitions.filterMap Definition.typeDef?,
        (definition.fields.map (·.name)).Nodup) ∧
      (argumentRun document).map (·.name) = ["ABCArgs", "ABCArgs"] ∧
      inputTypes {} document = "package model\n\ntype ID string\n\n" ++
        "\ntype A struct \x7b\n\tBC I `json:\"bC\"`\n\x7d\n" ++
        "\ntype AB struct \x7b\n\tC I `json:\"c\"`\n\x7d\n" ++
        "\ntype ABCArgs struct \x7b\n\tX I `json:\"x\"`\n\x7d\n" ++
        "\ntype ABCArgs struct \x7b\n\tX I `json:\"x\"`\n\x7d\n" := by
  let document : Document := ⟨⟨0, 0⟩,
    [.typeDef ⟨⟨0, 0⟩, "A", [⟨⟨0, 7⟩, "bC", ⟨⟨0, 17⟩, "I", false, false, false⟩,
      [⟨⟨0, 10⟩, "x", ⟨0, 13⟩, "I", false, false, false⟩], []⟩], false⟩,
    .typeDef ⟨⟨0, 20⟩, "AB", [⟨⟨0, 28⟩, "c", ⟨⟨0, 37⟩, "I", false, false, false⟩,
      [⟨⟨0, 30⟩, "x", ⟨0, 33⟩, "I", false, false, false⟩], []⟩], false⟩]⟩
  exact ⟨document, by decide +kernel, by decide, by decide, by decide +kernel, by decide +kernel⟩

end Go

end SchemaGen
