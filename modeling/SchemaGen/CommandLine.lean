import SchemaGen.Run

namespace SchemaGen

/-- What a command line asks for. -/
inductive Request where
  | run (invocation : Invocation)
  | version
  | help
deriving DecidableEq, Repr, Inhabited

namespace CommandLine

/-- The names of the tasks. -/
inductive Subcommand where
  | types
  | inputs
  | manifest
  | list
deriving DecidableEq, Repr, Inhabited

/-- The task of a name, spelled in full. -/
def Subcommand.ofName? : String → Option Subcommand
  | "types" => some types
  | "inputs" => some inputs
  | "manifest" => some manifest
  | "list" => some list
  | _ => none

/-- The options that take a value. -/
inductive ValueOption where
  | config
  | resolveDirective
  | package
deriving DecidableEq, Repr, Inhabited

/-- The options that take none. -/
inductive Flag where
  | verbose
  | sort
  | version
  | help
deriving DecidableEq, Repr, Inhabited

/-- An option of either kind. -/
inductive Switch where
  | value (option : ValueOption)
  | flag (flag : Flag)
deriving DecidableEq, Repr, Inhabited

/-- Where on the command line an option stands: before the task, or behind it. -/
abbrev Level := Option Subcommand

/-- The option of a long name. Some belong to certain tasks only, and the version is told before any
task. -/
def longOption? (level : Level) : String → Option Switch
  | "config" => some (.value .config)
  | "resolve-directive" => some (.value .resolveDirective)
  | "verbose" => some (.flag .verbose)
  | "help" => some (.flag .help)
  | "version" => if level = none then some (.flag .version) else none
  | "package" =>
    if level = some .types ∨ level = some .inputs then some (.value .package) else none
  | "sort" => if level = some .list then some (.flag .sort) else none
  | _ => none

/-- The option of a letter. -/
def shortOption? (level : Level) : Char → Option Switch
  | 'v' => longOption? level "verbose"
  | 'h' => longOption? level "help"
  | 'V' => longOption? level "version"
  | 'p' => longOption? level "package"
  | 's' => longOption? level "sort"
  | _ => none

/-- What one level of the command line has given so far. -/
structure Given where
  config : Option String := none
  resolveDirective : Option String := none
  package : Option String := none
  schema : Option String := none
  verbose : Bool := false
  sort : Bool := false
deriving DecidableEq, Repr, Inhabited

/-- Why reading a command line stops before its end. -/
inductive Stop where
  /-- The command line is not understood. -/
  | usage
  /-- The version is asked for. -/
  | version
  /-- Help is asked for. -/
  | help
deriving DecidableEq, Repr, Inhabited

/-- Sets something once. -/
def setOnce (old : Option String) (value : String) : Except Stop (Option String) :=
  if old.isSome then .error .usage else .ok (some value)

/-- Sets a path, which is never empty, once. -/
def setPath (old : Option String) (path : String) : Except Stop (Option String) :=
  if path.isEmpty then .error .usage else setOnce old path

/-- Takes the value of an option. -/
def Given.setValue (given : Given) (value : String) : ValueOption → Except Stop Given
  | .config => return { given with config := ← setPath given.config value }
  | .resolveDirective =>
    return { given with resolveDirective := ← setOnce given.resolveDirective value }
  | .package => return { given with package := ← setOnce given.package value }

/-- Takes a flag. Help and the version are answered at once. -/
def Given.setFlag (given : Given) : Flag → Except Stop Given
  | .verbose => if given.verbose then .error .usage else .ok { given with verbose := true }
  | .sort => if given.sort then .error .usage else .ok { given with sort := true }
  | .version => .error .version
  | .help => .error .help

/-- Takes the schema file, of which there is one at most. -/
def Given.setSchema (given : Given) (path : String) : Except Stop Given := do
  return { given with schema := ← setPath given.schema path }

/-- What a word leaves behind: an option that still waits for its value, if any. -/
abbrev Pending := Option ValueOption

/-- Takes the letters behind a single dash. The first one with a value takes the rest for it. -/
def readLetters (level : Level) (given : Given) : List Char → Except Stop (Given × Pending)
  | [] => .ok (given, none)
  | c :: rest =>
    match shortOption? level c with
    | none => .error .usage
    | some (.flag flag) => do
      readLetters level (← given.setFlag flag) rest
    | some (.value option) =>
      match rest with
      | [] => .ok (given, some option)
      | '=' :: value => do return (← given.setValue (String.ofList value) option, none)
      | value => do return (← given.setValue (String.ofList value) option, none)

/-- Takes what stands behind two dashes: a name, or a name and a value. -/
def readLong (level : Level) (given : Given) (word : List Char) :
    Except Stop (Given × Pending) :=
  let name := String.ofList (word.takeWhile (· ≠ '='))
  let value : Option String :=
    match word.dropWhile (· ≠ '=') with
    | [] => none
    | _ :: value => some (String.ofList value)
  match longOption? level name, value with
  | some (.flag flag), none => do return (← given.setFlag flag, none)
  | some (.value option), none => .ok (given, some option)
  | some (.value option), some value => do return (← given.setValue value option, none)
  | _, _ => .error .usage

/-- Reads the words behind the task. -/
def readWords (level : Level) (given : Given) (pending : Pending) :
    List String → Except Stop Given
  | [] => if pending.isSome then .error .usage else .ok given
  | word :: words =>
    match word.toList with
    | ['-', '-'] =>
      if pending.isSome then .error .usage else words.foldlM Given.setSchema given
    | '-' :: '-' :: name =>
      if pending.isSome then .error .usage
      else do
        let (given, pending) ← readLong level given name
        readWords level given pending words
    | '-' :: c :: letters =>
      if pending.isSome then .error .usage
      else do
        let (given, pending) ← readLetters level given (c :: letters)
        readWords level given pending words
    | _ =>
      match pending with
      | some option => do readWords level (← given.setValue word option) none words
      | none => do readWords level (← given.setSchema word) none words

/-- The run that both levels of a command line ask for together. What stands behind the task
overrides what stands before it. -/
def invocation (subcommand : Subcommand) (before behind : Given) : Invocation where
  task :=
    match subcommand with
    | .types => .types behind.package
    | .inputs => .inputs behind.package
    | .manifest => .manifest
    | .list => .list behind.sort
  schema := behind.schema
  config := behind.config <|> before.config
  resolveDirective := behind.resolveDirective <|> before.resolveDirective
  verbose := before.verbose || behind.verbose

/-- Reads the words behind the word `help`: at most the name of a task. -/
def readHelp : List String → Stop
  | [] => .help
  | [name] => if name = "help" ∨ (Subcommand.ofName? name).isSome then .help else .usage
  | _ => .usage

/-- Reads a command line from the front: options, the name of a task, and all the rest for it. -/
def readFront (given : Given) (pending : Pending) : List String → Except Stop Invocation
  | [] => .error .usage
  | word :: words =>
    match word.toList with
    | '-' :: '-' :: name =>
      if pending.isSome || name.isEmpty then .error .usage
      else do
        let (given, pending) ← readLong none given name
        readFront given pending words
    | '-' :: c :: letters =>
      if pending.isSome then .error .usage
      else do
        let (given, pending) ← readLetters none given (c :: letters)
        readFront given pending words
    | _ =>
      match pending with
      | some option => do readFront (← given.setValue word option) none words
      | none =>
        if word = "help" then .error (readHelp words)
        else
          match Subcommand.ofName? word with
          | none => .error .usage
          | some subcommand => do
            let behind ← readWords (some subcommand) {} none words
            return invocation subcommand given behind

end CommandLine

/-- What a command line asks for; `none` if it is not understood. Options may be written
`--name value`, `--name=value`, `-n value`, `-nvalue` and `-n=value`, and flags of one letter may
stand together. A value that is a word of its own starts with no dash, a single dash excepted. `--`
ends the options. -/
def Request.ofArguments (arguments : List String) : Option Request :=
  match CommandLine.readFront {} none arguments with
  | .ok invocation => some (.run invocation)
  | .error .version => some .version
  | .error .help => some .help
  | .error .usage => none

end SchemaGen
