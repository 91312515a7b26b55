import SchemaGen.CommandLine
import SchemaGen.Toml.Settings

namespace SchemaGen

/-- Whether reports are coloured. `CLICOLOR_FORCE` asks for colours unless it is `0`; otherwise
`NO_COLOR` and a `CLICOLOR` of `0` forbid them, and only a terminal gets them. -/
def Surroundings.colour (surroundings : Surroundings) (terminal : Bool) : Bool :=
  match surroundings.envValue? "CLICOLOR_FORCE" with
  | some value => value ≠ "0" || plain
  | none => plain
where
  /-- The choice when colours are not forced. -/
  plain : Bool :=
    (surroundings.envValue? "NO_COLOR").isNone &&
      surroundings.envValue? "CLICOLOR" ≠ some "0" && terminal

/-- The name and the version of the program. -/
def versionText : String := "gqlgen 0.0.1\n"

/-- How the program is used. -/
def usageText : String :=
  "Usage: gqlgen [OPTIONS] <types|inputs|manifest|list> [SCHEMA]\n"

/-- Carries out a command line, on a terminal or not. -/
def perform (arguments : List String) (surroundings : Surroundings) (terminal : Bool) : Outcome :=
  match Request.ofArguments arguments with
  | some (.run invocation) =>
    invocation.perform Toml.decode (surroundings.colour terminal) surroundings
  | some .version => { status := 0, output := versionText }
  | some .help => { status := 0, output := usageText }
  | none => { status := 2, errors := usageText }

end SchemaGen
