import SchemaGen.Text.UpperCase

namespace SchemaGen.Go

/-- Upper-cases the first character and leaves the rest alone. -/
def titleChars : List Char → List Char
  | [] => []
  | c :: rest => Text.upperCase c ++ rest

/-- The name with its first character in upper case. -/
def title (name : String) : String := String.ofList (titleChars name.toList)

/-- What stands before a final `Id`. -/
def beforeId? (name : List Char) : Option (List Char) :=
  if ['I', 'd'].isSuffixOf name then some (name.take (name.length - 2)) else none

/-- The exported identifier for a field or a parameter: the name in title case, with a final `Id`
spelled `ID` as Go writes it. The name `id` as a whole is `ID` as well. -/
def memberName (name : String) : String :=
  match beforeId? name.toList with
  | some before => String.ofList (titleChars before ++ ['I', 'D'])
  | none => if name = "id" then "ID" else title name

end SchemaGen.Go
