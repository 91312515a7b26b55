import SchemaGen.Location
import SchemaGen.Terminal
import SchemaGen.Text.Line
import SchemaGen.Text.Number

namespace SchemaGen

/-- A report on why a run failed, before it is laid out: a message and, where they are known, a
position, the lines around it, a suggestion and some help. -/
structure Report where
  message : String
  loc : Option Location := none
  /-- How many carets mark the position. -/
  width : Nat := 1
  file : Option String := none
  source : Option String := none
  suggestion : Option String := none
  help : Option String := none
deriving DecidableEq, Repr, Inhabited

namespace Report

open Terminal

/-- Points a report at a position. There is always at least one caret. -/
def pointingAt (report : Report) (loc : Location) (width : Nat) : Report :=
  { report with loc := some loc, width := max width 1 }

/-- The message with a tag in front, for a log. -/
def debugText (report : Report) : String := "EnhancedError: " ++ report.message

/-- One numbered line of the source. The line with the error stands out. -/
def sourceRow (colour : Bool) (width number : Nat) (style : Style) (line : String) : String :=
  paint colour style (Text.flushRight width (toString number)) ++ " " ++
    paint colour .blue "|" ++ " " ++ line ++ "\n"

/-- The row of carets below the line with the error. -/
def caretRow (colour : Bool) (width column carets : Nat) : String :=
  Text.flushRight width "" ++ " " ++ paint colour .blue "|" ++ " " ++ Text.copies column ' ' ++
    paint colour .red (Text.copies carets '^') ++ "\n"

/-- The line with the error, the carets below it, and up to two lines on either side. A position
behind the last line is shown at the end of that line; an empty source shows nothing. -/
def excerpt (colour : Bool) (source : String) (loc : Location) (carets : Nat) : String :=
  let lines := Text.lines source
  let index := min loc.line (lines.length - 1)
  match lines[index]? with
  | none => ""
  | some line =>
    let stop := min (index + 3) lines.length
    let width := (toString stop).length
    let column := if loc.line = index then loc.column else line.length
    let rows := (lines.zipIdx.take stop).drop (index - 2) |>.map fun (text, i) =>
      if i = index then
        sourceRow colour width (i + 1) .blue text ++ caretRow colour width column carets
      else sourceRow colour width (i + 1) .dimmed text
    String.join rows

/-- A remark below the report, after an empty line. -/
def remark (colour : Bool) (style : Style) (title : String) : Option String → String
  | none => ""
  | some text => "\n" ++ paint colour style title ++ " " ++ text ++ "\n"

/-- The position below the message. -/
def pointer (colour : Bool) (report : Report) : String :=
  match report.loc with
  | none => ""
  | some loc =>
    "  " ++ paint colour .blue "-->" ++ " " ++ report.file.getD "<stdin>" ++
      s!":{loc.shownLine}:{loc.shownColumn}\n"

/-- The lines around the position, after an empty line. -/
def surroundings (colour : Bool) (report : Report) : String :=
  match report.source, report.loc with
  | some source, some loc => "\n" ++ excerpt colour source loc report.width
  | _, _ => ""

/-- The report laid out, in colour or plain. -/
def render (colour : Bool) (report : Report) : String :=
  paint colour .red "error:" ++ " " ++ paint colour .bold report.message ++ "\n" ++
    report.pointer colour ++ report.surroundings colour ++
    remark colour .green "suggestion:" report.suggestion ++
    remark colour .cyan "help:" report.help

end Report

end SchemaGen
