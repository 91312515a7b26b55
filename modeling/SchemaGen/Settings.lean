import SchemaGen.Files

namespace SchemaGen

/-- What a run can be told in a settings file. -/
structure Settings where
  /-- The Go package at the top of generated files. -/
  package : Option String := none
  /-- Listings are sorted. -/
  sort : Bool := false
  /-- The directive of fields that a resolver computes. -/
  resolveDirective : String := "resolve"
  /-- The root operation types, which get no struct. -/
  rootTypes : List String := ["Query", "Mutation"]
deriving DecidableEq, Repr, Inhabited

/-- Why settings cannot be used. -/
inductive SettingsError where
  | unreadable (path : String) (reason : ReadError)
  /-- The file is no TOML, or holds a value of the wrong kind; with what the decoder says of it. -/
  | invalidToml (path : String) (detail : String)
deriving DecidableEq, Repr, Inhabited

/-- What went wrong, and below it why. -/
def SettingsError.chain : SettingsError → List String
  | unreadable path reason => [s!"Failed to read config file {path}", reason.message]
  | invalidToml path detail => [s!"Config file {path} is not valid TOML", detail]

/-- Why no package can be chosen. -/
inductive PackageError where
  | missing
  | invalid (name : String)
deriving DecidableEq, Repr, Inhabited

/-- The names under which a settings file is looked for, the preferred one first. -/
def settingsNames : List String := [".gqlgenrc.toml", ".gqlgenrc"]

/-- What went wrong in words. -/
def PackageError.message : PackageError → String
  | missing =>
    "either the GOPACKAGE environment variable, the --package flag or `package` in " ++
      ".gqlgenrc.toml must be set"
  | invalid name => s!"'{name}' is not a valid Go package name"

namespace Settings

/-- Reads settings from the text of a file, or says in words of its own what is wrong with the text.
What a text leaves out is to stay as it is by default. -/
abbrev Decoder := String → Except String Settings

/-- The settings in a file. -/
def loadFile (decode : Decoder) (files : Files) (path : String) :
    Except SettingsError Settings :=
  match files.readText path with
  | .error reason => .error (.unreadable path reason)
  | .ok source =>
    match decode source with
    | .error detail => .error (.invalidToml path detail)
    | .ok settings => .ok settings

/-- The settings file that counts in a directory: the first of the known names that is there, even
if it cannot be read. -/
def find? (files : Files) (directory : String) : Option String :=
  (settingsNames.map (joinPath directory)).find? files.has

/-- The settings of a directory. Without a file they are the default. -/
def loadIn (decode : Decoder) (files : Files) (directory : String) :
    Except SettingsError Settings :=
  match find? files directory with
  | some path => loadFile decode files path
  | none => .ok {}

/-- The settings with what the command line says on top. A listing can be asked to be sorted there,
but not to be unsorted. -/
def merge (settings : Settings) (sort : Bool) (resolveDirective : Option String) : Settings :=
  { settings with
    sort := settings.sort || sort
    resolveDirective := resolveDirective.getD settings.resolveDirective }

end Settings

/-- A character that may start a package name. -/
def isPackageStart (c : Char) : Bool := c.isAlpha || c == '_'

/-- A name that can be a Go package: ASCII letters, digits and underscores, with no digit first. -/
def isPackageName (name : String) : Bool :=
  match name.toList with
  | [] => false
  | c :: rest => isPackageStart c && rest.all fun c => isPackageStart c || c.isDigit

/-- The package to generate into: the one on the command line, else the one in the environment,
else the one in the settings. -/
def Settings.choosePackage (settings : Settings) (flag environment : Option String) :
    Except PackageError String :=
  match flag <|> environment <|> settings.package with
  | none => .error .missing
  | some name => if isPackageName name then .ok name else .error (.invalid name)

end SchemaGen
