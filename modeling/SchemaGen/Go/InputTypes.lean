import SchemaGen.Go.Struct

namespace SchemaGen.Go

/-- The struct of one input type. -/
def inputStruct (options : Options) (definition : TypeDef) : Struct where
  name := definition.name
  members := (options.exportedFields definition).map (fieldMember .input)

/-- The line of a field in a struct with links: an embedded link if a resolver computes the field,
and a plain member otherwise. -/
def linkedMember (options : Options) (definition : TypeDef) (field : Field) : String :=
  if field.hasDirective options.resolveDirective then
    s!"\t{definition.name}{title field.name}Link\n"
  else fieldMember .value field

/-- The struct of one output type, with links. -/
def linkedStruct (options : Options) (definition : TypeDef) : Struct where
  name := definition.name
  members := (options.exportedFields definition).map (linkedMember options definition)

/-- The arguments of one field. -/
def argumentStruct (definition : TypeDef) (field : Field) : Struct where
  name := s!"{definition.name}{title field.name}Args"
  members := field.params.map fun param => member .value param.name param.type

/-- The arguments of the fields of one definition that take any. -/
def argumentStructs (definition : TypeDef) : List Struct :=
  (definition.fieldsBelow.filter fun field => !field.params.isEmpty).map
    (argumentStruct definition)

/-- The Go file for the resolvers. The structs of input types stand together; each later struct has
an empty line before it. Arguments are declared for root operation types too. -/
def inputTypes (options : Options) (document : Document) : String :=
  let definitions := document.typeDefs
  let inputs := (definitions.filter (·.input)).map (inputStruct options)
  let outputs := (definitions.filter options.isOutput).map (linkedStruct options)
  let arguments := (definitions.filter (!·.input)).flatMap argumentStructs
  options.header ++ "\n" ++ String.join (inputs.map Struct.render) ++
    String.join ((outputs ++ arguments).map fun struct => "\n" ++ struct.render)

end SchemaGen.Go
