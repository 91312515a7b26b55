namespace SchemaGen.Text

/-- A run of code points, both ends included. -/
structure CodeRange where
  first : Nat
  last : Nat

/-- Whether an ascending table of runs holds this code point. -/
def CodeRange.covers : List CodeRange → Nat → Bool
  | [], _ => false
  | r :: rest, code => if code ≤ r.last then r.first ≤ code else covers rest code

end SchemaGen.Text
