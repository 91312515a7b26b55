import SchemaGen.Text.Number

namespace SchemaGen.Toml

/-- Why a text is refused, and where: the place is the number of characters from it to the end of
the text. After a failure that is not committed something else may be tried in its stead. -/
structure Failure where
  place : Nat
  message : String
  committed : Bool := false
deriving DecidableEq, Repr, Inhabited

namespace Failure

/-- The index of the character that a place is shown at. The end of the text is shown at its last
character. -/
def shownIndex (failure : Failure) (source : List Char) : Nat :=
  min (source.length - failure.place) (source.length - 1)

/-- The line that a failure is shown on, counted from zero. -/
def line (failure : Failure) (source : List Char) : Nat :=
  (source.take (failure.shownIndex source)).count '\n'

/-- The column of a failure in its line, counted from zero. -/
def column (failure : Failure) (source : List Char) : Nat :=
  let before := (source.take (failure.shownIndex source)).reverse.takeWhile (· ≠ '\n')
  before.length + (source.length - failure.place - failure.shownIndex source)

/-- The failure in words, with the line that it is on. -/
def describe (failure : Failure) (source : String) : String :=
  let chars := source.toList
  let number := toString (failure.line chars + 1)
  let column := failure.column chars
  let margin := Text.copies (number.length + 1) ' ' ++ "|"
  let text := ((source.splitOn "\n")[failure.line chars]?).getD ""
  s!"TOML parse error at line {number}, column {column + 1}\n" ++ margin ++ "\n" ++
    number ++ " | " ++ text ++ "\n" ++ margin ++ Text.copies (column + 1) ' ' ++ "^\n" ++
    failure.message ++ "\n"

end Failure

/-- Reads an `α` from the front of the characters, or fails. -/
abbrev Reader (α : Type) := StateT (List Char) (Except Failure) α

namespace Reader

variable {α : Type}

/-- Fails at a place. -/
def failAt (place : Nat) (message : String) : Reader α := fun _ => .error { place, message }

/-- Fails where reading has got to. -/
def fail (message : String) : Reader α := fun rest => .error { place := rest.length, message }

/-- Makes every failure final: once this much of the text is known, nothing else can be meant. -/
def commit (reader : Reader α) : Reader α := fun rest =>
  match reader rest with
  | .ok result => .ok result
  | .error failure => .error { failure with committed := true }

/-- Reads what may be there. A failure that is not committed takes everything back. -/
def attempt? (reader : Reader α) : Reader (Option α) := fun rest =>
  match reader rest with
  | .ok (value, next) => .ok (some value, next)
  | .error failure => if failure.committed then .error failure else .ok (none, rest)

/-- How far reading has got, as the number of characters left. -/
def place : Reader Nat := fun rest => .ok (rest.length, rest)

/-- The next character, left in place. -/
def peek? : Reader (Option Char) := fun rest => .ok (rest.head?, rest)

/-- Whether the characters continue with a fixed word, which is taken if they do. -/
def accept (word : List Char) : Reader Bool := fun rest =>
  if word.isPrefixOf rest then .ok (true, rest.drop word.length) else .ok (false, rest)

/-- Takes a fixed word, which has to be there. -/
def expect (word : List Char) (message : String) : Reader Unit := do
  unless ← accept word do fail message

/-- Takes the longest run of characters of a class. -/
def run (inClass : Char → Bool) : Reader (List Char) := fun rest =>
  .ok (rest.takeWhile inClass, rest.dropWhile inClass)

/-- Reads with a scanner that gives the rest back, and fails where it started if nothing is
found. -/
def scan (scanner : List Char → Option (α × List Char)) (message : String) : Reader α := fun rest =>
  match scanner rest with
  | some (value, next) => .ok (value, next)
  | none => .error { place := rest.length, message }

/-- Takes steps as long as there are any, with the rest behind them. A step that reads nothing is
the last. -/
def loopFrom {σ : Type} (step : σ → Reader (Option σ)) (state : σ) (rest : List Char) :
    Except Failure (σ × List Char) :=
  match step state rest with
  | .error failure => .error failure
  | .ok (none, next) => .ok (state, next)
  | .ok (some state, next) =>
    if next.length < rest.length then loopFrom step state next else .ok (state, next)
termination_by rest.length

/-- Any number of items. -/
def many (item : Reader (Option α)) : Reader (List α) := do
  let items ← loopFrom (fun items => do return (← item).map (· :: items)) []
  return items.reverse

/-- Further items, with a separator before each. A separator that no item follows is left. -/
def following (separator : Char) (item : Reader α) : Reader (List α) :=
  many (attempt? do
    expect [separator] "expected separator"
    item)

/-- Items with a separator between them, possibly none. -/
def separated (separator : Char) (item : Reader α) : Reader (List α) := do
  match ← attempt? item with
  | none => return []
  | some first => return first :: (← following separator item)

end Reader

/-- A blank inside a line. -/
def isBlank (c : Char) : Bool := c == ' ' || c == '\t'

/-- A character that may stand in a comment: no control character but the tab. -/
def isPrintable (c : Char) : Bool := c == '\t' || (0x20 ≤ c.toNat && c.toNat ≠ 0x7F)

open Reader

/-- Skips blanks. -/
def blanks : Reader Unit := do
  let _ ← run isBlank

/-- Takes a line end if there is one: `\n` or `\r\n`. -/
def newline : Reader Bool := do
  if ← accept ['\n'] then return true
  accept ['\r', '\n']

/-- Takes a line end, which has to be there. -/
def lineBreak : Reader Unit := do
  unless ← newline do fail "expected newline"

/-- Takes a comment, up to the end of its line, if there is one. -/
def comment : Reader Bool := do
  if ← accept ['#'] then
    let _ ← run isPrintable
    return true
  else return false

/-- The end of a line, after which nothing but a comment may stand. The end of the text will do. -/
def lineEnd : Reader Unit := do
  blanks
  let _ ← comment
  unless ← newline do
    if (← peek?).isSome then fail "expected newline, `#`"

/-- Skips blanks and then a line end, with a comment before it or without. -/
def gap : Reader (Option Unit) := do
  blanks
  match ← peek? with
  | some '#' =>
    let _ ← comment
    lineBreak
    return some ()
  | some '\n' | some '\r' =>
    lineBreak
    return some ()
  | _ => return none

/-- Skips blanks, comments and line ends, as they may stand inside an array. Each comment has to be
closed by a line end. -/
def gaps : Reader Unit := do
  let _ ← many gap

end SchemaGen.Toml
