namespace SchemaGen.Toml

/-- How a table came to be, which decides whether later lines may add to it. -/
inductive Origin where
  /-- Written in braces: nothing may be added. -/
  | braces
  /-- Named in the middle of a dotted key: further dotted keys may add to it. -/
  | dotted
  /-- Named in the middle of a header: a header of its own may still follow. -/
  | path
  /-- Opened by a header of its own. -/
  | header
deriving DecidableEq, Repr, Inhabited

/-- A value. Numbers other than integers, and dates and times, are kept as they are written. Every
entry of a table and every element of an array keeps the place where it was written, as the number
of characters from there to the end of the text. -/
inductive Value where
  | string (text : String)
  | boolean (value : Bool)
  | integer (value : Int)
  | float (text : String)
  | dateTime (text : String)
  | array (elements : List (Nat × Value))
  | table (origin : Origin) (entries : List (String × Nat × Value))
  /-- A table for each `[[header]]` of one name, oldest first. -/
  | tables (rows : List (List (String × Nat × Value)))
deriving Repr, Inhabited

/-- The entries of a table: names, places and values, in the order of the text. -/
abbrev Entries := List (String × Nat × Value)

/-- The value of a name in a table. -/
def Entries.value? (entries : Entries) (name : String) : Option Value :=
  (entries.find? (·.1 == name)).map (·.2.2)

/-- A table with another value for a name that it has. -/
def Entries.replace (entries : Entries) (name : String) (value : Value) : Entries :=
  entries.map fun entry => if entry.1 == name then (name, entry.2.1, value) else entry

/-- The kind of a value, as messages name it. -/
def Value.kind : Value → String
  | string _ => "string"
  | boolean _ => "boolean"
  | integer _ => "integer"
  | float _ => "float"
  | dateTime _ => "datetime"
  | array _ => "array"
  | table .. => "inline table"
  | tables _ => "array of tables"

/-- A character of a text that a message quotes. -/
def quotedChar : Char → List Char
  | '"' => ['\\', '"']
  | '\\' => ['\\', '\\']
  | '\n' => ['\\', 'n']
  | '\r' => ['\\', 'r']
  | '\t' => ['\\', 't']
  | '\x00' => ['\\', '0']
  | c => [c]

/-- A text as a message quotes it, on one line. -/
def quoted (text : String) : String :=
  "\"" ++ String.ofList (text.toList.flatMap quotedChar) ++ "\""

/-- What a message calls a value that is of no use. -/
def Value.describe : Value → String
  | string text => "string " ++ quoted text
  | boolean value => s!"boolean `{value}`"
  | integer value => s!"integer `{value}`"
  | float text => s!"floating point `{text}`"
  | dateTime _ => "map"
  | array _ | tables _ => "sequence"
  | table .. => "map"

end SchemaGen.Toml
