import SchemaGen.Toml.Key
import SchemaGen.Toml.Value

namespace SchemaGen.Toml

/-- Why a table does not take what a line says. -/
inductive Refusal where
  /-- The name is taken. The table that has it is told by its path, where one is known. -/
  | duplicateKey (key : String) (table : Option (List String))
  /-- The path leads through a value that is no table to add to. -/
  | notTable (path : List String) (kind : String)
deriving DecidableEq, Repr, Inhabited

namespace Refusal

/-- A path as messages show it. -/
def pathText (path : List String) : String := String.intercalate "." path

/-- The reason in words. -/
def message : Refusal → String
  | duplicateKey key none => "duplicate key `" ++ key ++ "`"
  | duplicateKey key (some []) => "duplicate key `" ++ key ++ "` in document root"
  | duplicateKey key (some table) =>
    "duplicate key `" ++ key ++ "` in table `" ++ pathText table ++ "`"
  | notTable path kind =>
    "dotted key `" ++ pathText path ++ "` attempted to extend non-table type (" ++ kind ++ ")"

end Refusal

/-- What leads from table to table. -/
inductive Route where
  /-- A header, on the way to the table that it opens. -/
  | header
  /-- A dotted key in the table of a header, which has a path of its own. -/
  | key (table : List String)
  /-- A dotted key in braces. -/
  | braces
deriving DecidableEq, Repr, Inhabited

namespace Route

/-- How a table on the route comes to be if it is missing. -/
def made : Route → Origin
  | header => .path
  | key _ | braces => .dotted

/-- The table that is told when a name is taken at the end of the route. -/
def table? : Route → Option (List String)
  | key table => some table
  | header | braces => none

/-- Passes through a table, the last of a path. Dotted keys pass only through tables that dotted
keys or headers named on the way. A header passes through all but those in braces. -/
def pass (route : Route) (path : List String) (origin : Origin) : Except Refusal Unit :=
  match route, origin with
  | .braces, .braces | .braces, .header | .key _, .header =>
    .error (.duplicateKey (path.getLastD "") none)
  | _, .braces => .error (.notTable path "inline table")
  | _, _ => .ok ()

end Route

namespace Entries

/-- Works on the table at the end of a path, of which the given names are behind. Tables on the way
that are missing are made, and of several tables of a name the newest is meant. -/
def within (route : Route) (behind : List String) (path : List Key)
    (work : Origin → Entries → Except Refusal Entries) (origin : Origin) (entries : Entries) :
    Except Refusal Entries :=
  match path with
  | [] => work origin entries
  | key :: path =>
    let behind := behind ++ [key.name]
    match entries.value? key.name with
    | none => do
      let inner ← within route behind path work route.made []
      return entries ++ [(key.name, key.place, .table route.made inner)]
    | some (.table origin inner) => do
      route.pass behind origin
      let inner ← within route behind path work origin inner
      return entries.replace key.name (.table origin inner)
    | some (.tables rows) => do
      let newest ← within route behind path work .header (rows.getLastD [])
      return entries.replace key.name (.tables (rows.dropLast ++ [newest]))
    | some value => .error (.notTable behind value.kind)

/-- Adds an entry to a table. A table made by dotted keys takes entries by dotted keys only, and
any other table by plain keys only. -/
def add (route : Route) (plain : Bool) (key : Key) (place : Nat) (value : Value) (origin : Origin)
    (entries : Entries) : Except Refusal Entries :=
  if (origin == .dotted) == plain then .error (.duplicateKey key.name none)
  else if (entries.value? key.name).isSome then .error (.duplicateKey key.name route.table?)
  else .ok (entries ++ [(key.name, place, value)])

/-- Adds the value of a key to a table. -/
def addPath (route : Route) (path : List Key) (place : Nat) (value : Value) (origin : Origin)
    (entries : Entries) : Except Refusal Entries :=
  match path.getLast? with
  | none => .ok entries
  | some last =>
    within route [] path.dropLast (add route (path.length == 1) last place value) origin entries

/-- The table of the pairs in braces. -/
def ofPairs (pairs : List (List Key × Nat × Value)) : Except Refusal Entries :=
  pairs.foldlM (fun entries (path, place, value) =>
    addPath .braces path place value .braces entries) []

/-- The refusal of a header whose name is taken. -/
def nameTaken (path : List Key) (last : Key) : Refusal :=
  .duplicateKey (keyText last.name) (some (path.dropLast.map (·.name)))

/-- Opens the table of a header `[path]`. The table may be there already, but only because other
headers have named it on their way. -/
def openTable (path : List Key) (place : Nat) (entries : Entries) : Except Refusal Entries :=
  match path.getLast? with
  | none => .ok entries
  | some last =>
    within .header [] path.dropLast (fun _ entries =>
      match entries.value? last.name with
      | none => .ok (entries ++ [(last.name, place, .table .header [])])
      | some (.table .path inner) =>
        .ok (entries.filter (·.1 != last.name) ++ [(last.name, place, .table .header inner)])
      | some _ => .error (nameTaken path last)) .header entries

/-- Opens one more table of a header `[[path]]`. -/
def openRow (path : List Key) (place : Nat) (entries : Entries) : Except Refusal Entries :=
  match path.getLast? with
  | none => .ok entries
  | some last =>
    within .header [] path.dropLast (fun _ entries =>
      match entries.value? last.name with
      | none => .ok (entries ++ [(last.name, place, .tables [[]])])
      | some (.tables rows) => .ok (entries.replace last.name (.tables (rows ++ [[]])))
      | some _ => .error (nameTaken path last)) .header entries

end Entries

end SchemaGen.Toml
