import SchemaGen.Document
import SchemaGen.Token

namespace SchemaGen

/-- The kinds of nodes. -/
inductive NodeKind where
  | document
  | typeDef
  | schema
  | directiveDef
  | field
  | param
  | type
  | directive
  | token
deriving DecidableEq, Repr, Inhabited

/-- The name of a kind. -/
def NodeKind.name : NodeKind → String
  | document => "Document"
  | typeDef => "TypeDef"
  | schema => "Schema"
  | directiveDef => "DirectiveDef"
  | field => "Field"
  | param => "Param"
  | type => "Type"
  | directive => "Directive"
  | token => "Token"

/-- A part of a document, or a token on its own. -/
inductive Node where
  | document (document : Document)
  | typeDef (definition : TypeDef)
  | schema (block : SchemaBlock)
  | directiveDef (definition : DirectiveDef)
  | field (field : Field)
  | param (param : Param)
  | type (type : TypeRef)
  | directive (directive : Directive)
  | token (token : Token)
deriving DecidableEq, Repr, Inhabited

/-- A definition as a node. -/
def Definition.node : Definition → Node
  | .typeDef definition => .typeDef definition
  | .schema block => .schema block
  | .directiveDef definition => .directiveDef definition

namespace Node

/-- What kind of part the node is. -/
def kind : Node → NodeKind
  | document _ => .document
  | typeDef _ => .typeDef
  | schema _ => .schema
  | directiveDef _ => .directiveDef
  | field _ => .field
  | param _ => .param
  | type _ => .type
  | directive _ => .directive
  | token _ => .token

/-- Where the node starts. -/
def loc : Node → Location
  | document node => node.loc
  | typeDef node => node.loc
  | schema node => node.loc
  | directiveDef node => node.loc
  | field node => node.loc
  | param node => node.loc
  | type node => node.loc
  | directive node => node.loc
  | token node => node.loc

/-- The name of the node. Documents and schema blocks have none; a token gives its value. -/
def name? : Node → Option String
  | document _ | schema _ => none
  | typeDef node => some node.name
  | directiveDef node => some node.name
  | field node => some node.name
  | param node => some node.name
  | type node => some node.name
  | directive node => some node.name
  | token node => some node.value

/-- The parts directly below a node. A field lists its type first, then its parameters, then its
directives. -/
def children : Node → List Node
  | document node => node.definitions.map Definition.node
  | typeDef node => node.fields.map field
  | schema node => node.fields.map field
  | field node => type node.type :: (node.params.map param ++ node.directives.map directive)
  | param node => [type node.type]
  | directiveDef _ | type _ | directive _ | token _ => []

/-- The node has no parts. -/
def isLeaf (node : Node) : Bool := node.children.isEmpty

/-- The node on one line: `Kind(name)`, or `Kind` if it has no name. -/
def label (node : Node) : String :=
  match node.name? with
  | some name => s!"{node.kind.name}({name})"
  | none => node.kind.name

end Node

end SchemaGen
