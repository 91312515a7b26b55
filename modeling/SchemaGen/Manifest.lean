import SchemaGen.Node.Walk
import SchemaGen.Text.Json

namespace SchemaGen.Manifest

/-- A field that a resolver computes. -/
structure Entry where
  typeName : String
  field : String
deriving DecidableEq, Repr, Inhabited

/-- The marked fields of one definition. A mark that is repeated counts once. -/
def entriesOf (resolveDirective : String) (definition : TypeDef) : List Entry :=
  (definition.fields.filter (·.hasDirective resolveDirective)).map fun field =>
    ⟨definition.name, field.name⟩

/-- Reports the marked fields of a type definition and goes no further there; all other nodes are
passed through. -/
def visit (resolveDirective : String) (found : List Entry) : Node → Bool × List Entry
  | .typeDef definition => (false, found ++ entriesOf resolveDirective definition)
  | _ => (true, found)

/-- Every marked field of every type definition, in document order. -/
def entries (resolveDirective : String) (document : Document) : List Entry :=
  (Node.document document).walk (visit resolveDirective) []

/-- An entry as a JSON object, inside the list. -/
def Entry.render (entry : Entry) : String :=
  "  \x7b\n    \"type\": " ++ Text.jsonString entry.typeName ++ ",\n    \"field\": " ++
    Text.jsonString entry.field ++ "\n  \x7d"

/-- A list of entries as JSON, laid out over several lines unless it is empty. -/
def renderEntries : List Entry → String
  | [] => "[]"
  | entries => "[\n" ++ String.intercalate ",\n" (entries.map Entry.render) ++ "\n]"

/-- The manifest of a document. -/
def render (resolveDirective : String) (document : Document) : String :=
  renderEntries (entries resolveDirective document)

end SchemaGen.Manifest
