import SchemaGen.Go.Name
import SchemaGen.Go.TypeName
import SchemaGen.Node.TypeDefs

namespace SchemaGen.Go

/-- What the generators are told besides the document. -/
structure Options where
  package : String := "model"
  /-- The root operation types, which get no struct. -/
  rootTypes : List String := ["Query", "Mutation"]
  /-- The directive of fields that a resolver computes. -/
  resolveDirective : String := "resolve"
deriving DecidableEq, Repr, Inhabited

namespace Options

/-- The name is that of a root operation type. -/
def isRoot (options : Options) (name : String) : Bool := options.rootTypes.contains name

/-- The fields of a definition that can be struct members: those whose type is no root type. -/
def exportedFields (options : Options) (definition : TypeDef) : List Field :=
  definition.fieldsBelow.filter fun field => !options.isRoot field.type.name

/-- The definition is of an output type that gets a struct. -/
def isOutput (options : Options) (definition : TypeDef) : Bool :=
  !definition.input && !options.isRoot definition.name

/-- The top of every generated file. -/
def header (options : Options) : String := s!"package {options.package}\n\ntype ID string\n"

end Options

/-- A struct declaration: its name and its lines. -/
structure Struct where
  name : String
  members : List String
deriving DecidableEq, Repr, Inhabited

/-- The declaration as Go source. -/
def Struct.render (struct : Struct) : String :=
  s!"type {struct.name} struct \x7b\n" ++ String.join struct.members ++ "\x7d\n"

/-- The line of one member, with the name it has in JSON. -/
def member (mapping : Mapping) (name : String) (type : TypeRef) : String :=
  s!"\t{memberName name} {typeName mapping type} `json:\"{name}\"`\n"

/-- The line of a field. -/
def fieldMember (mapping : Mapping) (field : Field) : String :=
  member mapping field.name field.type

end SchemaGen.Go
