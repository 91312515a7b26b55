namespace SchemaGen.Text

/-- A decimal digit of ASCII. -/
def isDigit (c : Char) : Bool := '0' ≤ c && c ≤ '9'

/-- The value of a run of decimal digits, most significant first. -/
def digitsValue (digits : List Char) : Nat :=
  digits.foldl (fun value d => 10 * value + (d.toNat - '0'.toNat)) 0

/-- Reads an unsigned 64-bit count: at least one ASCII digit, after an optional `+`. Blanks, signs
of other kinds and values of 2^64 or more are refused. -/
def readCount? (text : String) : Option Nat :=
  let digits := match text.toList with
    | '+' :: rest => rest
    | chars => chars
  if !digits.isEmpty && digits.all isDigit && digitsValue digits < UInt64.size then
    some (digitsValue digits)
  else none

/-- As many copies of a character as asked for. -/
def copies (count : Nat) (c : Char) : String :=
  String.ofList (List.replicate count c)

/-- Pads with blanks on the left; a text that is already as wide stays whole. -/
def flushRight (width : Nat) (text : String) : String :=
  copies (width - text.length) ' ' ++ text

end SchemaGen.Text
