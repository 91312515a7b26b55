import SchemaGen.Go.Struct

namespace SchemaGen.Go

/-- The struct of one output type. -/
def outputStruct (options : Options) (definition : TypeDef) : Struct where
  name := definition.name
  members := (options.exportedFields definition).map (fieldMember .pointer)

/-- The structs of all output types, in document order. -/
def outputStructs (options : Options) (document : Document) : List Struct :=
  (document.typeDefs.filter options.isOutput).map (outputStruct options)

/-- The Go file for the output types. -/
def outputTypes (options : Options) (document : Document) : String :=
  options.header ++
    String.join ((outputStructs options document).map fun struct => "\n" ++ struct.render)

end SchemaGen.Go
