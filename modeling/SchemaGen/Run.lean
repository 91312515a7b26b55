import SchemaGen.Go.InputTypes
import SchemaGen.Go.OutputTypes
import SchemaGen.Grammar.Schema
import SchemaGen.Listing
import SchemaGen.Manifest
import SchemaGen.Report.Failure
import SchemaGen.Settings

namespace SchemaGen

/-- What a run produces. -/
inductive Task where
  /-- Go structs for the output types. -/
  | types (package : Option String)
  /-- Go structs for inputs, links and arguments. -/
  | inputs (package : Option String)
  /-- The manifest of resolved fields. -/
  | manifest
  /-- The names of all types. -/
  | list (sort : Bool)
deriving DecidableEq, Repr, Inhabited

/-- A run as the command line asks for it. -/
structure Invocation where
  task : Task
  /-- The schema file; standard input without one. -/
  schema : Option String := none
  /-- The settings file to use in place of the one in the working directory. -/
  config : Option String := none
  resolveDirective : Option String := none
  verbose : Bool := false
deriving DecidableEq, Repr, Inhabited

/-- What a run finds around it. -/
structure Surroundings where
  files : Files
  /-- The text that waits on standard input; `none` if it is not text at all. -/
  input : Option String := some ""
  /-- The environment variables that are set. -/
  environment : List (String × String) := []

namespace Surroundings

/-- The value of an environment variable, if it is set. -/
def envValue? (surroundings : Surroundings) (name : String) : Option String :=
  surroundings.environment.lookup name

/-- The package that the environment names. An empty value counts as none. -/
def package? (surroundings : Surroundings) : Option String :=
  (surroundings.envValue? "GOPACKAGE").filter (!·.isEmpty)

end Surroundings

/-- Why a run fails. -/
inductive RunError where
  | settings (error : SettingsError)
  /-- The schema cannot be read, from a file or from standard input. -/
  | unreadableSchema (path : Option String) (reason : ReadError)
  /-- The schema is read, but says nothing that makes sense. -/
  | invalidSchema (path : Option String) (source : String) (error : SyntaxError)
  | package (error : PackageError)
deriving Repr, Inhabited

/-- The report on a failed run. -/
def RunError.report : RunError → Report
  | settings error => Report.ofChain error.chain
  | unreadableSchema path reason =>
    Report.ofChain [s!"Failed to read schema from {path.getD stdinName}", reason.message]
  | invalidSchema path source error => error.report path source
  | package error => Report.ofChain [error.message]
where
  /-- What messages call standard input. -/
  stdinName : String := "stdin"

namespace Invocation

/-- The settings of a run: from the file on the command line, or from the working directory, with
the options of the command line on top. -/
def settings (invocation : Invocation) (decode : Settings.Decoder)
    (surroundings : Surroundings) : Except RunError Settings :=
  let files := surroundings.files.withInput surroundings.input
  let loaded :=
    match invocation.config with
    | some path => Settings.loadFile decode files path
    | none => Settings.loadIn decode files "."
  match loaded with
  | .error error => .error (.settings error)
  | .ok settings => .ok (settings.merge sort invocation.resolveDirective)
where
  /-- Sorting is asked for. -/
  sort : Bool :=
    match invocation.task with
    | .list sort => sort
    | _ => false

/-- The settings file of a run, if there is one. -/
def settingsPath? (invocation : Invocation) (files : Files) : Option String :=
  invocation.config <|> Settings.find? files "."

/-- The text on standard input after the settings are read. If they came from there, nothing is
left. -/
def inputLeft (invocation : Invocation) (surroundings : Surroundings) : Option String :=
  let settingsEntry := (invocation.settingsPath? surroundings.files).map surroundings.files
  if settingsEntry = some .input then some "" else surroundings.input

/-- The text of the schema. -/
def source (invocation : Invocation) (surroundings : Surroundings) : Except RunError String :=
  let input := invocation.inputLeft surroundings
  match invocation.schema with
  | some path =>
    match (surroundings.files.withInput input).readText path with
    | .ok text => .ok text
    | .error reason => .error (.unreadableSchema (some path) reason)
  | none =>
    match input with
    | some text => .ok text
    | none => .error (.unreadableSchema none .notText)

/-- The schema of a run. -/
def document (invocation : Invocation) (surroundings : Surroundings) :
    Except RunError Document := do
  let source ← invocation.source surroundings
  match Document.ofText source with
  | .ok document => return document
  | .error error => .error (.invalidSchema invocation.schema source error)

/-- The options of the Go generators. -/
def goOptions (settings : Settings) (surroundings : Surroundings) (flag : Option String) :
    Except RunError Go.Options :=
  match settings.choosePackage flag surroundings.package? with
  | .error error => .error (.package error)
  | .ok package =>
    .ok { package, rootTypes := settings.rootTypes, resolveDirective := settings.resolveDirective }

/-- What a run prints, or why it fails. The stages are the settings, the schema, the package and the
text itself, and the first one that fails decides. -/
def output (invocation : Invocation) (decode : Settings.Decoder) (surroundings : Surroundings) :
    Except RunError String := do
  let settings ← invocation.settings decode surroundings
  let document ← invocation.document surroundings
  match invocation.task with
  | .types package => return Go.outputTypes (← goOptions settings surroundings package) document
  | .inputs package => return Go.inputTypes (← goOptions settings surroundings package) document
  | .manifest => return Manifest.render settings.resolveDirective document ++ "\n"
  | .list _ => return Listing.render settings.sort document

/-- The paths that a run may look at. -/
def paths (invocation : Invocation) : List String :=
  (match invocation.config with
    | some path => [path]
    | none => settingsNames.map (joinPath ".")) ++ invocation.schema.toList

end Invocation

/-- How a run ends. -/
structure Outcome where
  status : UInt32
  output : String := ""
  errors : String := ""
deriving DecidableEq, Repr, Inhabited

/-- Carries out an invocation, with or without colours in reports. Nothing is printed before all
stages have succeeded. -/
def Invocation.perform (invocation : Invocation) (decode : Settings.Decoder) (colour : Bool)
    (surroundings : Surroundings) : Outcome :=
  match invocation.output decode surroundings with
  | .ok output => { status := 0, output }
  | .error error => { status := 1, errors := error.report.render colour }

end SchemaGen
