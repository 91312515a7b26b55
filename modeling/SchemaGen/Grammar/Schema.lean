import SchemaGen.Document
import SchemaGen.Grammar.Rule
import SchemaGen.Token.Lexer

namespace SchemaGen

namespace Grammar

open Rule

/-- A name: any text token. -/
def identifier : Rule String := do
  return (← token .text).value

/-- An optional `!`. -/
def bang : Rule Bool := do
  return (← Rule.optional (token .bang)).isSome

/-- A list type, `[Name!]!`, with either mark optional. -/
def listType : Rule TypeRef :=
  sequence fun loc => do
    let _ ← token .leftBracket
    let name ← identifier
    let nonNullElements ← bang
    let _ ← closing .rightBracket
    let required ← bang
    return { loc, name, required, multiple := true, nonNullElements }

/-- A single type, `Name!`, with the mark optional. -/
def namedType : Rule TypeRef :=
  sequence fun loc => do
    let name ← identifier
    let required ← bang
    return { loc, name, required, multiple := false, nonNullElements := false }

/-- A type reference that no stray `]` follows. -/
def typeRef : Rule TypeRef :=
  sequence fun _ => do
    let type ← choice "a type" [listType, namedType]
    unopened .rightBracket
    return type

/-- A parameter, `name: Type`. -/
def param : Rule Param :=
  sequence fun loc => do
    let name ← identifier
    let _ ← token .colon
    let type ← typeRef
    return { loc, name, type }

/-- Parameters in parentheses, which may hold none. -/
def params : Rule (List Param) :=
  sequence fun _ => do
    let _ ← token .leftParen
    let params ← separated param (token .comma)
    let _ ← token .rightParen
    return params

/-- A directive on a field, `@name`. -/
def directive : Rule Directive :=
  sequence fun loc => do
    let _ ← token .at
    let name ← identifier
    return { loc, name }

/-- A field, `name(params): Type @directive`. -/
def field : Rule Field :=
  sequence fun loc => do
    let name ← identifier
    let params ← Rule.optional params
    let _ ← token .colon
    let type ← typeRef
    let directives ← many directive
    return { loc, name, type, params := params.getD [], directives }

/-- Fields in curly brackets. -/
def fieldsBlock : Rule (List Field) :=
  sequence fun _ => do
    let _ ← token .leftCurly
    let fields ← many field
    let _ ← token .rightCurly
    return fields

/-- A type definition, `word Name { ... }`. -/
def typeDef (word : String) (input : Bool) : Rule Definition :=
  sequence fun loc => do
    let _ ← keyword word
    let name ← identifier
    let fields ← fieldsBlock
    return .typeDef { loc, name, fields, input }

/-- A schema block, `schema { ... }`. -/
def schemaBlock : Rule Definition :=
  sequence fun loc => do
    let _ ← keyword "schema"
    let fields ← fieldsBlock
    return .schema { loc, fields }

/-- One more target of a directive, behind a comma. -/
def furtherTarget : Rule String :=
  sequence fun _ => do
    let _ ← token .comma
    identifier

/-- A directive definition, `directive @name on TARGET, ...`. -/
def directiveDef : Rule Definition :=
  sequence fun loc => do
    let _ ← keyword "directive"
    let _ ← token .at
    let name ← identifier
    let _ ← keyword "on"
    let first ← identifier
    let further ← many furtherTarget
    return .directiveDef { loc, name, targets := first :: further }

/-- How a message says that a definition was wanted. -/
def definitionPhrase : String := "a definition ('type', 'input', 'schema' or 'directive')"

/-- Any definition. -/
def definition : Rule Definition :=
  choice definitionPhrase
    [typeDef "type" false, typeDef "input" true, schemaBlock, directiveDef]

/-- Definitions up to the end of the input:

```text
type         ::= '[' identifier '!'? ']' '!'? | identifier '!'?
param        ::= identifier ':' type
params       ::= '(' (param (',' param)*)? ')'
directive    ::= '@' identifier
field        ::= identifier params? ':' type directive*
typedef      ::= 'type' identifier '{' field* '}'
input        ::= 'input' identifier '{' field* '}'
schema       ::= 'schema' '{' field* '}'
directivedef ::= 'directive' '@' identifier 'on' identifier (',' identifier)*
definition   ::= typedef | input | schema | directivedef
document     ::= definition* EOF
```

Keywords are reserved nowhere: a type may be called `type`. -/
def document : Rule Document :=
  sequence fun loc => do
    let definitions ← many definition
    let _ ← endOfInput
    return { loc, definitions }

end Grammar

/-- The document that a list of tokens spells, or the first thing wrong with it. Blank runs do not
matter, and an end-of-file token is supplied where the list ends without one. -/
def Document.ofTokens (tokens : List Token) : Except SyntaxError Document :=
  match Grammar.document (Cursor.ofTokens tokens) with
  | .ok document _ => .ok document
  | .error error _ => .error error

/-- The document that a text spells, or the first thing wrong with it. -/
def Document.ofText (source : String) : Except SyntaxError Document :=
  Document.ofTokens (lex source)

end SchemaGen
