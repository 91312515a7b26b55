import SchemaGen.Node.Walk

namespace SchemaGen

/-- The type definition that a node is, if it is one. -/
def Node.typeDef? : Node → Option TypeDef
  | .typeDef definition => some definition
  | _ => none

/-- Every type and input definition, in document order. -/
def Document.typeDefs (document : Document) : List TypeDef :=
  (Node.document document).collect Node.typeDef?

/-- The field that a node is, if it is one. -/
def Node.field? : Node → Option Field
  | .field content => some content
  | _ => none

/-- Every field below a type definition, in document order. -/
def TypeDef.fieldsBelow (definition : TypeDef) : List Field :=
  (Node.typeDef definition).collect Node.field?

end SchemaGen
