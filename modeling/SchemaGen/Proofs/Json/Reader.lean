import SchemaGen.Text.Number

namespace SchemaGen.Json

/-- A JSON value. A number is kept as it is written. The members of an object keep their order, and
all of them count where a name comes up twice. -/
inductive Value where
  | null
  | boolean (value : Bool)
  | number (literal : String)
  | string (text : String)
  | array (items : List Value)
  | object (members : List (String × Value))
deriving Repr, Inhabited

/-- Reads an `α` from the front of the characters, or refuses them. -/
abbrev Reader (α : Type) := StateT (List Char) Option α

/-- A character that may stand between the parts of a value. -/
def isBlank (c : Char) : Bool := c == ' ' || c == '\t' || c == '\n' || c == '\r'

namespace Reader

variable {α : Type}

/-- The next character, left in place. -/
def peek? : Reader (Option Char) := fun chars => some (chars.head?, chars)

/-- Takes a fixed word, which has to be there. -/
def expect (word : List Char) : Reader Unit := fun chars =>
  if word.isPrefixOf chars then some ((), chars.drop word.length) else none

/-- Takes the longest run of characters of a class. -/
def longest (inClass : Char → Bool) : Reader (List Char) := fun chars =>
  some (chars.takeWhile inClass, chars.dropWhile inClass)

/-- Takes the next character if it is of a class. -/
def oneOf? (inClass : Char → Bool) : Reader (List Char) := fun chars =>
  some ((chars.take 1).takeWhile inClass, if chars.head?.any inClass then chars.drop 1 else chars)

/-- Reads with blanks around. -/
def spaced (reader : Reader α) : Reader α := do
  let _ ← longest isBlank
  let value ← reader
  let _ ← longest isBlank
  return value

/-- One or more items with commas between them, and behind them the character that closes the
list. Each item takes characters away, so that there is an end. -/
def listed (close : Char) (item : Reader α) (chars : List Char) : Option (List α × List Char) :=
  match spaced item chars with
  | some (first, ',' :: rest) =>
    if rest.length < chars.length then
      (listed close item rest).map fun (others, behind) => (first :: others, behind)
    else none
  | some (first, c :: behind) => if c = close then some ([first], behind) else none
  | _ => none
termination_by chars.length

/-- Any number of items in brackets. -/
def enclosed (opening close : Char) (item : Reader α) : Reader (List α) := do
  expect [opening]
  let _ ← longest isBlank
  if (← peek?) = some close then
    expect [close]
    return []
  else listed close item

end Reader

open Reader

/-- The value of a hexadecimal digit. -/
def hexValue? (c : Char) : Option Nat :=
  if '0' ≤ c ∧ c ≤ '9' then some (c.toNat - '0'.toNat)
  else if 'a' ≤ c ∧ c ≤ 'f' then some (c.toNat - 'a'.toNat + 10)
  else if 'A' ≤ c ∧ c ≤ 'F' then some (c.toNat - 'A'.toNat + 10)
  else none

/-- The value of a hexadecimal number, most significant digit first. -/
def hexNumber? (digits : List Char) : Option Nat :=
  digits.foldlM (fun value digit => (hexValue? digit).map (16 * value + ·)) 0

/-- The character that a short escape stands for. -/
def shortEscape? : Char → Option Char
  | '"' => some '"'
  | '\\' => some '\\'
  | '/' => some '/'
  | 'b' => some '\x08'
  | 'f' => some '\x0c'
  | 'n' => some '\n'
  | 'r' => some '\r'
  | 't' => some '\t'
  | _ => none

/-- The codes that the inside of a string stands for, up to the closing quote, and the characters
behind it. Control characters have to be escaped. -/
def codes : List Char → Option (List Nat × List Char)
  | '"' :: rest => some ([], rest)
  | '\\' :: 'u' :: a :: b :: c :: d :: rest => do
    let code ← hexNumber? [a, b, c, d]
    let (others, behind) ← codes rest
    return (code :: others, behind)
  | '\\' :: name :: rest => do
    let c ← shortEscape? name
    let (others, behind) ← codes rest
    return (c.toNat :: others, behind)
  | c :: rest => do
    guard (0x20 ≤ c.toNat)
    let (others, behind) ← codes rest
    return (c.toNat :: others, behind)
  | [] => none

/-- The characters with some codes. Two surrogates, a high and a low one, are one character
together; a surrogate on its own is none. -/
def characters? : List Nat → Option (List Char)
  | [] => some []
  | code :: rest =>
    if code.isValidChar then (characters? rest).map (Char.ofNat code :: ·)
    else
      match rest with
      | low :: rest =>
        if 0xD800 ≤ code ∧ code ≤ 0xDBFF ∧ 0xDC00 ≤ low ∧ low ≤ 0xDFFF then
          let code := 0x10000 + 0x400 * (code - 0xD800) + (low - 0xDC00)
          (characters? rest).map (Char.ofNat code :: ·)
        else none
      | [] => none

/-- A string in quotes. -/
def quoted : Reader String := do
  expect ['"']
  let codes ← (codes : Reader (List Nat))
  let some chars := characters? codes | failure
  return String.ofList chars

/-- One or more decimal digits. -/
def digits : Reader (List Char) := do
  let digits ← longest Text.isDigit
  guard (digits ≠ [])
  return digits

/-- The digits before the point. Only a zero alone may start with a zero. -/
def wholePart : Reader (List Char) := do
  let digits ← digits
  guard (digits.head? = some '0' → digits = ['0'])
  return digits

/-- A point and the digits behind it, if there is one. -/
def fraction : Reader (List Char) := do
  let point ← oneOf? (· == '.')
  if point = [] then return []
  return point ++ (← digits)

/-- An exponent, if there is one. -/
def exponent : Reader (List Char) := do
  let mark ← oneOf? fun c => c == 'e' || c == 'E'
  if mark = [] then return []
  let sign ← oneOf? fun c => c == '+' || c == '-'
  return mark ++ sign ++ (← digits)

/-- A number, as it is written. -/
def number : Reader String := do
  let sign ← oneOf? (· == '-')
  let whole ← wholePart
  let fraction ← fraction
  let exponent ← exponent
  return String.ofList (sign ++ whole ++ fraction ++ exponent)

/-- A member of an object: a name, a colon and a value. -/
def member (value : Reader Value) : Reader (String × Value) := do
  let name ← quoted
  spaced (expect [':'])
  return (name, ← value)

/-- A value, given how to read the values inside brackets. -/
def valueWith (inner : Reader Value) : Reader Value := do
  match ← peek? with
  | some '"' => return .string (← quoted)
  | some '[' => return .array (← enclosed '[' ']' inner)
  | some '{' => return .object (← enclosed '{' '}' (member inner))
  | some 't' =>
    expect "true".toList
    return .boolean true
  | some 'f' =>
    expect "false".toList
    return .boolean false
  | some 'n' =>
    expect "null".toList
    return .null
  | _ => return .number (← number)

/-- A value with fewer than so many brackets inside each other. -/
def value : Nat → Reader Value
  | 0 => failure
  | nesting + 1 => valueWith (value nesting)

/-- The value that a text stands for. It never has more brackets inside each other than it has
characters. -/
def ofText? (text : String) : Option Value :=
  match spaced (value (text.length + 1)) text.toList with
  | some (value, []) => some value
  | _ => none

end SchemaGen.Json
