import SchemaGen.Program

namespace SchemaGen

/-- What the system answers for a path. Standard input is left alone. -/
def inspect (path : String) : IO PathEntry := do
  if inputPaths.any fun names => path = "/" ++ String.intercalate "/" names then return .input
  try
    return .file (String.fromUTF8? (← IO.FS.readBinFile path))
  catch
    | .noFileOrDirectory .. => return .absent .missing
    | .inappropriateType _ code _ =>
      return if code = 21 then .directory else .absent .notDirectory
    | error => return .sealed (toString error)

/-- The environment variables that a run looks at. -/
def knownVariables : List String := ["GOPACKAGE", "CLICOLOR_FORCE", "CLICOLOR", "NO_COLOR"]

/-- The surroundings of an invocation, as the system shows them. Standard input is read only if
something comes from there. -/
def surroundings (invocation : Invocation) : IO Surroundings := do
  let entries ← invocation.paths.mapM fun path => return (path, ← inspect path)
  let input ←
    if invocation.schema.isNone || entries.any (·.2 = .input) then
      String.fromUTF8? <$> (← IO.getStdin).readBinToEnd
    else pure (some "")
  let environment ← knownVariables.filterMapM fun name =>
    return (← IO.getEnv name).map fun value => (name, value)
  return {
    files := fun path => (entries.lookup path).getD (.absent .missing)
    input
    environment }

end SchemaGen

/-- Carries out the command line and ends with its status. -/
def main (arguments : List String) : IO UInt32 := do
  let surroundings ←
    match SchemaGen.Request.ofArguments arguments with
    | some (.run invocation) => SchemaGen.surroundings invocation
    | _ => pure { files := fun _ => .absent .missing }
  let terminal ← (← IO.getStdout).isTty
  let outcome := SchemaGen.perform arguments surroundings terminal
  IO.print outcome.output
  IO.eprint outcome.errors
  return outcome.status
