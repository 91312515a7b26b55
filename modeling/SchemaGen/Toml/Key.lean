import SchemaGen.Toml.Reader

namespace SchemaGen.Toml

/-- One part of a key, with its place. -/
structure Key where
  name : String
  place : Nat
deriving DecidableEq, Repr, Inhabited

/-- A character of a key without quotes. -/
def isKeyChar (c : Char) : Bool := c.isAlphanum || c == '_' || c == '-'

/-- A digit of a hexadecimal number, in upper case. -/
def upperHexDigit (value : Nat) : Char :=
  if value < 10 then Char.ofNat ('0'.toNat + value) else Char.ofNat ('A'.toNat + (value - 10))

/-- A character inside double quotes. What cannot stand there for itself is escaped. -/
def escapedChar (c : Char) : List Char :=
  match c with
  | '"' => ['\\', '"']
  | '\\' => ['\\', '\\']
  | '\x08' => ['\\', 'b']
  | '\t' => ['\\', 't']
  | '\n' => ['\\', 'n']
  | '\x0c' => ['\\', 'f']
  | '\r' => ['\\', 'r']
  | c =>
    if isPrintable c then [c]
    else ['\\', 'u', '0', '0', upperHexDigit (c.toNat / 16), upperHexDigit (c.toNat % 16)]

/-- A name as it is written in a key: without quotes if that is possible, in single quotes if they
save escapes, and in double quotes otherwise. -/
def keyText (name : String) : String :=
  let chars := name.toList
  if !chars.isEmpty && chars.all isKeyChar then name
  else if (chars.contains '"' || chars.contains '\\') && !chars.contains '\'' &&
      chars.all isPrintable then
    "'" ++ name ++ "'"
  else "\"" ++ String.ofList (chars.flatMap escapedChar) ++ "\""

end SchemaGen.Toml
