import SchemaGen.Document

namespace SchemaGen.Go

/-- How a type reference turns into a Go type. -/
inductive Mapping where
  /-- Structs for output: named types become pointers. -/
  | pointer
  /-- Structs for input: lists of scalars become single scalars, named types become pointers. -/
  | input
  /-- Structs with links and structs of arguments: named types stay values. -/
  | value
deriving DecidableEq, Repr, Inhabited

/-- A slice of the base type if it is wanted, and the base type itself if not. -/
def sliceIf (multiple : Bool) (base : String) : String :=
  if multiple then "[]" ++ base else base

/-- The Go type of a reference. Whether it is required makes no difference. `ID` is a type of its
own and stays single except in a list for input. -/
def typeName (mapping : Mapping) (type : TypeRef) : String :=
  if type.name = "String" then sliceIf (type.multiple && mapping ≠ .input) "string"
  else if type.name = "Int" then sliceIf (type.multiple && mapping ≠ .input) "int"
  else if type.name = "ID" then sliceIf (type.multiple && mapping = .input) "ID"
  else if type.multiple || mapping = .value then sliceIf type.multiple type.name
  else "*" ++ type.name

end SchemaGen.Go
