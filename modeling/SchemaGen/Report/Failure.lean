import SchemaGen.Report.Syntax
import SchemaGen.Text.Search

namespace SchemaGen

/-- Advice for a message. The first of the known phrases that occurs anywhere in it decides. -/
def adviceFor (message : String) : Advice :=
  if Text.occursIn "GOPACKAGE" message then
    { suggestion := some
        "Pass --package <name> or add `package = \"<name>\"` to .gqlgenrc.toml" }
  else if Text.occursIn "not a valid Go package name" message then
    { help := some "Go package names use letters, digits and underscores" }
  else if Text.occursIn "Failed to read schema" message then
    { help := some "Pass a schema file path, or pipe the schema on stdin" }
  else if Text.occursIn "not valid TOML" message then
    { help := some "Supported keys: package, sort, resolve_directive, root_types" }
  else {}

/-- The report on a failure, told from the outermost message to the innermost. -/
def Report.ofChain (chain : List String) : Report :=
  let message := String.intercalate ": " chain
  ({ message : Report }).advising (adviceFor message)

end SchemaGen
