import SchemaGen.Location

namespace SchemaGen

/-- A reference to a type, such as `String`, `Int!`, `[ID]` or `[ID!]!`. -/
structure TypeRef where
  loc : Location
  name : String
  /-- The outer `!`. -/
  required : Bool
  /-- The reference is in brackets. -/
  multiple : Bool
  /-- The `!` inside the brackets; only a list has one. -/
  nonNullElements : Bool
deriving DecidableEq, Repr, Inhabited

/-- A parameter of a field: `name: Type`. -/
structure Param where
  loc : Location
  name : String
  type : TypeRef
deriving DecidableEq, Repr, Inhabited

/-- A mark on a field: `@name`. -/
structure Directive where
  loc : Location
  name : String
deriving DecidableEq, Repr, Inhabited

/-- A field: `name(params): Type @directive`, with the parameters and the directives optional. -/
structure Field where
  loc : Location
  name : String
  type : TypeRef
  params : List Param
  directives : List Directive
deriving DecidableEq, Repr, Inhabited

/-- The field carries a directive of this name, once or more often. -/
def Field.hasDirective (field : Field) (name : String) : Bool :=
  field.directives.any (·.name == name)

/-- A type definition: `type Name { ... }` or, when `input` is set, `input Name { ... }`. -/
structure TypeDef where
  loc : Location
  name : String
  fields : List Field
  input : Bool
deriving DecidableEq, Repr, Inhabited

/-- A schema block, `schema { ... }`: which types are the roots of the operations. -/
structure SchemaBlock where
  loc : Location
  fields : List Field
deriving DecidableEq, Repr, Inhabited

/-- A directive definition, `directive @name on TARGET, ...`, with at least one target. -/
structure DirectiveDef where
  loc : Location
  name : String
  targets : List String
deriving DecidableEq, Repr, Inhabited

/-- A definition at the top of a schema. -/
inductive Definition where
  | typeDef (definition : TypeDef)
  | schema (block : SchemaBlock)
  | directiveDef (definition : DirectiveDef)
deriving DecidableEq, Repr, Inhabited

/-- A schema document. Its position is that of its first token, which is the end of the file if it
holds no definition. -/
structure Document where
  loc : Location
  definitions : List Definition
deriving DecidableEq, Repr, Inhabited

end SchemaGen
