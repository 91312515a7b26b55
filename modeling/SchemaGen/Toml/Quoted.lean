import SchemaGen.Toml.Number
import SchemaGen.Toml.Reader

namespace SchemaGen.Toml

open Reader

/-- A character that stands for itself in a string with escapes. -/
def isBasic (c : Char) : Bool := isPrintable c && c ≠ '"' && c ≠ '\\'

/-- A character that stands for itself in a string without escapes. -/
def isLiteral (c : Char) : Bool := isPrintable c && c ≠ '\''

/-- The character of so many hexadecimal digits. Surrogates are no characters. -/
def codePoint (count : Nat) : Scanner Char := fun rest =>
  let digits := rest.take count
  let value := digits.foldl (fun value c => 16 * value + digitValue c) 0
  if digits.length = count && digits.all (digitValue · < 16) && value.isValidChar then
    some (Char.ofNat value, rest.drop count)
  else none

/-- The character of an escape, after its backslash. -/
def escape : Scanner Char
  | 'b' :: rest => some ('\x08', rest)
  | 't' :: rest => some ('\t', rest)
  | 'n' :: rest => some ('\n', rest)
  | 'f' :: rest => some ('\x0c', rest)
  | 'r' :: rest => some ('\r', rest)
  | '"' :: rest => some ('"', rest)
  | '\\' :: rest => some ('\\', rest)
  | 'u' :: rest => codePoint 4 rest
  | 'U' :: rest => codePoint 8 rest
  | _ => none

/-- Reads an escape, after its backslash. If there is no such escape, the failure is behind the
character that would have named it, which may be on the next line. -/
def escaped : Reader Char := fun rest =>
  match escape rest with
  | some (c, next) => .ok (c, next)
  | none => .error { place := rest.length - 1, message := "invalid escape sequence" }

/-- A stretch of a one-line string with escapes. -/
def basicPiece : Reader (Option (List Char)) := do
  let plain ← run isBasic
  if !plain.isEmpty then return some plain
  if ← accept ['\\'] then return some [← escaped]
  return none

/-- A string with escapes on one line, in double quotes. -/
def basicString : Reader String := commit do
  expect ['"'] "invalid basic string"
  let pieces ← many basicPiece
  expect ['"'] "invalid basic string"
  return String.ofList pieces.flatten

/-- A string without escapes on one line, in single quotes. -/
def literalString : Reader String := commit do
  expect ['\''] "invalid literal string"
  let chars ← run isLiteral
  expect ['\''] "invalid literal string"
  return String.ofList chars

/-- Quotes inside a string of several lines: one or two of them, since three would end it. -/
def innerQuotes (quote : Char) : Scanner (List Char) := fun rest =>
  let quotes := rest.takeWhile (· == quote)
  if quotes.isEmpty || 2 < quotes.length then none else some (quotes, rest.drop quotes.length)

/-- The end of a string of several lines. Up to two quotes before the three that end it belong to
the string. -/
def closingQuotes (quote : Char) : Reader (List Char) := fun rest =>
  let count := min (rest.takeWhile (· == quote)).length 5
  if count < 3 then .error { place := rest.length, message := "invalid multiline string" }
  else .ok (List.replicate (count - 3) quote, rest.drop count)

/-- Drops blanks and line ends. -/
def dropGaps : List Char → List Char
  | '\r' :: '\n' :: rest => dropGaps rest
  | c :: rest => if isBlank c || c == '\n' then dropGaps rest else c :: rest
  | [] => []

/-- A backslash at the end of a line, with all white space up to the next text. -/
def lineContinuation : Scanner Unit
  | '\\' :: rest =>
    match rest.dropWhile isBlank with
    | '\n' :: next => some ((), dropGaps next)
    | '\r' :: '\n' :: next => some ((), dropGaps next)
    | _ => none
  | _ => none

/-- A stretch of a string of several lines, with escapes. -/
def multilineBasicPiece : Reader (Option (List Char)) := fun rest =>
  match lineContinuation rest, innerQuotes '"' rest with
  | some ((), next), _ => .ok (some [], next)
  | none, some (quotes, next) => .ok (some quotes, next)
  | none, none =>
    (do
      if ← newline then return some ['\n']
      basicPiece) rest

/-- A stretch of a string of several lines, without escapes. -/
def multilineLiteralPiece : Reader (Option (List Char)) := fun rest =>
  match innerQuotes '\'' rest with
  | some (quotes, next) => .ok (some quotes, next)
  | none =>
    (do
      if ← newline then return some ['\n']
      let plain ← run isLiteral
      if plain.isEmpty then return none else return some plain) rest

/-- The rest of a string of several lines. A line end directly behind the opening is dropped. -/
def multilineString (quote : Char) (piece : Reader (Option (List Char))) :
    Reader String := commit do
  let _ ← newline
  let pieces ← many piece
  let quotes ← closingQuotes quote
  return String.ofList (pieces.flatten ++ quotes)

/-- A string of any kind. -/
def anyString : Reader String := do
  if ← accept ['"', '"', '"'] then multilineString '"' multilineBasicPiece
  else if ← accept ['\'', '\'', '\''] then multilineString '\'' multilineLiteralPiece
  else if (← peek?) == some '"' then basicString
  else literalString

end SchemaGen.Toml
