import SchemaGen.SyntaxError
import SchemaGen.Terminal
import SchemaGen.Text.Line
import SchemaGen.Text.Number

namespace SchemaGen.Diagnostic

open Terminal

/-- What the carets are labelled with. -/
def label : SyntaxError → String
  | .lexError .. => "lexical error"
  | .mismatchedBrackets _ => "unbalanced list type"
  | _ => "parse error"

/-- The line that a position is shown on: its own, or the last one when it lies behind the end of
the text. -/
def shownIndex (lines : List String) (loc : Location) : Nat := min loc.line (lines.length - 1)

/-- The column that a position is shown at: its own, or the end of the line when the position lies
on a later one. -/
def shownColumn (lines : List String) (loc : Location) (line : String) : Nat :=
  if shownIndex lines loc = loc.line then loc.column else line.length

/-- How far the first `column` characters of a line reach. A tab counts for four. -/
def visualColumn (line : String) (column : Nat) : Nat :=
  (line.toList.take column).foldl (fun width c => width + if c = '\t' then 4 else 1) 0

/-- The bar between line numbers and text. -/
def bar : String := Style.blue.wrap "|"

/-- The offending line with its number, and below it the carets; nothing for an empty text. -/
def excerpt (source : String) (cause : SyntaxError) : String :=
  let lines := Text.lines source
  let index := shownIndex lines cause.loc
  match lines[index]? with
  | none => ""
  | some line =>
    let width := max (toString (index + 2)).length 2
    let column := visualColumn line (shownColumn lines cause.loc line)
    let carets := Style.red.wrap (Text.copies cause.token.width '^')
    " " ++ Text.flushRight width (toString (index + 1)) ++ " " ++ bar ++ " " ++ line ++ "\n" ++
      " " ++ Text.flushRight width "" ++ " " ++ bar ++ " " ++ Text.copies column ' ' ++ carets ++
      " " ++ label cause ++ "\n"

/-- The whole account: the message, the offending line and carets under the offending token, always
in colour. It names the error itself and points at the innermost failure. -/
def render (source : String) (error : SyntaxError) : String :=
  let cause := error.rootCause
  let margin := "   " ++ bar ++ "\n"
  Style.red.wrap "error" ++ ": " ++ error.message ++ "\n" ++
    "  " ++ Style.blue.wrap "-->" ++
    s!" line {cause.loc.shownLine}:{cause.loc.shownColumn}\n" ++
    margin ++ excerpt source cause ++ margin

end SchemaGen.Diagnostic
