namespace SchemaGen

/-- Why a path does not give a text. -/
inductive ReadError where
  | missing
  | notDirectory
  | isDirectory
  | nameTooLong
  | nulInName
  | notText
  /-- Any other reason, in the words of the system. -/
  | refused (reason : String)
deriving DecidableEq, Repr, Inhabited

/-- The reason as the system words it. -/
def ReadError.message : ReadError → String
  | missing => "No such file or directory (os error 2)"
  | notDirectory => "Not a directory (os error 20)"
  | isDirectory => "Is a directory (os error 21)"
  | nameTooLong => "File name too long (os error 36)"
  | nulInName => "file name contained an unexpected NUL byte"
  | notText => "stream did not contain valid UTF-8"
  | refused reason => reason

/-- What a path leads to. -/
inductive PathEntry where
  | absent (reason : ReadError)
  | directory
  /-- A file with its text; `none` if it is not text at all. -/
  | file (text : Option String)
  /-- Standard input, under a name of its own. -/
  | input
  /-- Something that is there and cannot be read. -/
  | sealed (reason : String)
deriving DecidableEq, Repr, Inhabited

/-- The files that a program can see: what each path leads to. -/
abbrev Files := String → PathEntry

namespace Files

/-- The path leads somewhere. -/
def has (files : Files) (path : String) : Bool :=
  match files path with
  | .absent _ => false
  | _ => true

/-- The same files while standard input holds a text; `none` if what it holds is not text at all. -/
def withInput (files : Files) (text : Option String) : Files := fun path =>
  match files path with
  | .input => .file text
  | entry => entry

/-- The text of the file at a path. Nothing is read from standard input unless it is known what it
holds. -/
def readText (files : Files) (path : String) : Except ReadError String :=
  match files path with
  | .absent reason => .error reason
  | .directory => .error .isDirectory
  | .file none => .error .notText
  | .file (some text) => .ok text
  | .input => .ok ""
  | .sealed reason => .error (.refused reason)

end Files

/-- The paths, by their names from the root of the system, under which standard input is found. -/
def inputPaths : List (List String) :=
  [["dev", "stdin"], ["dev", "fd", "0"], ["proc", "self", "fd", "0"]]

/-- The path of a name in a directory. -/
def joinPath (directory name : String) : String :=
  if directory.isEmpty then name
  else if directory.toList.getLast? = some '/' then directory ++ name
  else directory ++ "/" ++ name

end SchemaGen
