import SchemaGen.Settings
import SchemaGen.Toml.Document

namespace SchemaGen.Toml

/-- The failure for a value of the wrong kind. -/
def wrongKind {α : Type} (place : Nat) (value : Value) (wanted : String) : Except Failure α :=
  .error { place, message := s!"invalid type: {value.describe}, expected {wanted}" }

/-- A value that has to be a string. -/
def stringOf (place : Nat) : Value → Except Failure String
  | .string text => .ok text
  | value => wrongKind place value "a string"

/-- A value that has to be a truth value. -/
def booleanOf (place : Nat) : Value → Except Failure Bool
  | .boolean value => .ok value
  | value => wrongKind place value "a boolean"

/-- A value that has to be an array of strings. -/
def stringsOf (place : Nat) : Value → Except Failure (List String)
  | .array elements => elements.mapM fun (place, value) => stringOf place value
  | .tables rows =>
    match rows with
    | [] => .ok []
    | row :: _ => wrongKind place (.table .header row) "a string"
  | value => wrongKind place value "a sequence"

/-- Takes one entry of a file over. Names that mean nothing here are passed over. -/
def setEntry (settings : Settings) (entry : String × Nat × Value) : Except Failure Settings :=
  let (name, place, value) := entry
  if name = "package" then do
    return { settings with package := some (← stringOf place value) }
  else if name = "sort" then do
    return { settings with sort := ← booleanOf place value }
  else if name = "resolve_directive" then do
    return { settings with resolveDirective := ← stringOf place value }
  else if name = "root_types" then do
    return { settings with rootTypes := ← stringsOf place value }
  else .ok settings

/-- The decoder that the program runs with. -/
def decode : Settings.Decoder := fun source =>
  match Entries.ofText source >>= (·.foldlM setEntry {}) with
  | .error failure => .error (failure.describe source)
  | .ok settings => .ok settings

end SchemaGen.Toml
