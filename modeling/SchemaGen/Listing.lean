import SchemaGen.Node.TypeDefs

namespace SchemaGen.Listing

/-- The names of the type definitions, in document order or sorted by code point. Names that occur
several times are kept. -/
def names (sort : Bool) (document : Document) : List String :=
  let names := (Node.document document).collect fun node => node.typeDef?.map (·.name)
  if sort then names.mergeSort (fun a b => decide (a ≤ b)) else names

/-- The names, each with a line end. -/
def render (sort : Bool) (document : Document) : String :=
  String.join ((names sort document).map (· ++ "\n"))

end SchemaGen.Listing
