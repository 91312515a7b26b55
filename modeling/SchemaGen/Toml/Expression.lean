import SchemaGen.Toml.Quoted
import SchemaGen.Toml.Tree

namespace SchemaGen.Toml

open Reader

/-- How deep arrays and tables in braces may be nested, and how many parts a key may have. -/
def nestingLimit : Nat := 79

/-- One part of a key. -/
def keyPart : Reader Key := do
  let place ← place
  match ← peek? with
  | some '"' => return ⟨← basicString, place⟩
  | some '\'' => return ⟨← literalString, place⟩
  | _ =>
    let chars ← run isKeyChar
    if chars.isEmpty then fail "invalid key"
    return ⟨String.ofList chars, place⟩

/-- One part of a key with the blanks around it. -/
def spacedPart : Reader Key := do
  blanks
  let part ← keyPart
  blanks
  return part

/-- A key of one or more parts with dots between them, and the blanks around them. -/
def key : Reader (List Key) := do
  let start ← place
  let first ← spacedPart
  let more ← following '.' spacedPart
  if nestingLimit < more.length + 1 then failAt start "recursion limit exceeded"
  return first :: more

/-- A key and its value, `key = value`, with blanks around the sign. Whatever starts with a key has
to go on like this. -/
def keyValue (value : Reader Value) : Reader (List Key × Nat × Value) := do
  let path ← key
  commit do
    expect ['='] "expected `.`, `=`"
    blanks
    let start ← place
    return (path, start, ← value)

/-- An element of an array, its place, and the gaps around it. -/
def element (value : Reader Value) : Reader (Nat × Value) := do
  gaps
  let start ← place
  let value ← value
  gaps
  return (start, value)

/-- The elements of an array up to the closing bracket. A comma may follow the last one. An element
that is not followed by sound gaps does not count, so the bracket is missed in its place. -/
def elements (value : Reader Value) : Reader (List (Nat × Value)) := do
  let items ← separated ',' (element value)
  unless items.isEmpty do
    let _ ← accept [',']
  gaps
  expect [']'] "invalid array, expected `]`"
  return items

/-- The pairs of a table in braces, up to the closing one. Only values go on over several lines, and
no comma follows the last pair. What the pairs say is judged before the closing brace is looked
for. -/
def pairs (value : Reader Value) : Reader Entries := do
  let start ← place
  let pairs ← separated ',' do
    let pair ← keyValue value
    blanks
    return pair
  blanks
  match Entries.ofPairs pairs with
  | .error refusal => failAt start refusal.message
  | .ok entries =>
    expect ['}'] "invalid inline table, expected `\x7d`"
    return entries

/-- A value, given how to read the values inside brackets and braces. Without that, no further
brackets or braces may be opened. -/
def valueWith (inner : Option (Reader Value)) : Reader Value := do
  match ← peek? with
  | some '"' | some '\'' => return .string (← anyString)
  | some '[' =>
    let some inner := inner | commit (fail "recursion limit exceeded")
    expect ['['] "invalid array"
    return .array (← commit (elements inner))
  | some '{' =>
    let some inner := inner | commit (fail "recursion limit exceeded")
    expect ['{'] "invalid inline table"
    return .table .braces (← commit (pairs inner))
  | some 't' =>
    commit (expect "true".toList "invalid boolean")
    return .boolean true
  | some 'f' =>
    commit (expect "false".toList "invalid boolean")
    return .boolean false
  | _ => scan number? "invalid value"

/-- A value that may open so many brackets and braces inside each other. -/
def value : Nat → Reader Value
  | 0 => valueWith none
  | nesting + 1 => valueWith (some (value nesting))

end SchemaGen.Toml
