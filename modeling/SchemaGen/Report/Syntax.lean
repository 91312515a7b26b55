import SchemaGen.Report
import SchemaGen.SyntaxError
import SchemaGen.Text.Search

namespace SchemaGen

/-- Advice for a reader of the report. -/
structure Advice where
  suggestion : Option String := none
  help : Option String := none
deriving DecidableEq, Repr, Inhabited

/-- A report with advice on it. -/
def Report.advising (report : Report) (advice : Advice) : Report :=
  { report with suggestion := advice.suggestion, help := advice.help }

namespace SyntaxError

/-- What to do about an error. A wanted definition is told by the phrase that names it. -/
def advice : SyntaxError → Advice
  | lexError .. =>
    { suggestion := some "Remove the invalid character"
      help := some "Names may only contain letters and underscores" }
  | mismatchedBrackets _ =>
    { suggestion := some "Close list types with ']', as in [String] or [String!]!" }
  | unexpectedToken expected _ =>
    if Text.startsWith "a definition" expected then
      { help := some "Definitions start with 'type', 'input', 'schema' or 'directive'" }
    else
      { suggestion := some
          "Check that every '\x7b' and '(' is closed and every field has a ': Type'" }
  | premature .. => {}

/-- The report on an error in a source. It points at the innermost failure. -/
def report (error : SyntaxError) (file : Option String) (source : String) : Report :=
  let cause := error.rootCause
  let base : Report :=
    { message := "Parse error: " ++ error.message, file, source := some source }
  (base.pointingAt cause.loc cause.token.width).advising cause.advice

end SyntaxError

end SchemaGen
