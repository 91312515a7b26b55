import SchemaGen.Toml.Expression

namespace SchemaGen.Toml

open Reader

/-- What one line says. -/
inductive Line where
  /-- Nothing, or only a comment. -/
  | empty
  /-- A value for a key: `key = value`. -/
  | entry (path : List Key) (place : Nat) (value : Value)
  /-- The header of a table: `[path]`. -/
  | table (path : List Key)
  /-- The header of one more table of a name: `[[path]]`. -/
  | row (path : List Key)
deriving Repr, Inhabited

/-- Reads a line, blanks before it passed over, with the place where it starts. A value may go on
over several lines. -/
def line : Reader (Option (Nat × Line)) := do
  blanks
  let start ← place
  match ← peek? with
  | none => return none
  | some '#' =>
    lineEnd
    return some (start, .empty)
  | some '\n' | some '\r' =>
    lineBreak
    return some (start, .empty)
  | some '[' =>
    if ← accept ['[', '['] then
      let path ← key
      expect [']', ']'] "invalid table header, expected `.`, `]]`"
      lineEnd
      return some (start, .row path)
    else
      expect ['['] "invalid table header"
      let path ← key
      expect [']'] "invalid table header, expected `.`, `]`"
      lineEnd
      return some (start, .table path)
  | some _ =>
    let (path, place, value) ← keyValue (value nestingLimit)
    lineEnd
    return some (start, .entry path place value)

/-- A document that is being read: its root table and the header whose table is open. -/
structure Draft where
  root : Entries := []
  header : List Key := []
deriving Repr, Inhabited

/-- The path of the open table. -/
def Draft.path (draft : Draft) : List String := draft.header.map (·.name)

/-- Carries out what a line says, which started at a place. -/
def Draft.add (draft : Draft) (start : Nat) : Line → Except Refusal Draft
  | .empty => .ok draft
  | .entry path place value => do
    let root ← Entries.within .header [] draft.header
      (Entries.addPath (.key draft.path) path place value) .header draft.root
    return { draft with root }
  | .table path => do
    let root ← Entries.openTable path start draft.root
    return { root, header := path }
  | .row path => do
    let root ← Entries.openRow path start draft.root
    return { root, header := path }

/-- Reads a line and carries it out. -/
def Draft.readLine (draft : Draft) : Reader (Option Draft) := do
  match ← line with
  | none => return none
  | some (start, line) =>
    match draft.add start line with
    | .ok draft => return some draft
    | .error refusal => failAt start refusal.message

/-- Reads a whole document. A byte order mark in front is passed over. -/
def document : Reader Entries := do
  let _ ← accept ['\uFEFF']
  let draft ← loopFrom Draft.readLine {}
  return draft.root

/-- The root table of a text, or the first thing wrong with it. -/
def Entries.ofText (source : String) : Except Failure Entries :=
  match document source.toList with
  | .ok (entries, _) => .ok entries
  | .error failure => .error failure

end SchemaGen.Toml
