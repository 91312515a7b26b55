import SchemaGen.Token

namespace SchemaGen

/-- A syntax error, with the token that the reader stood at. -/
inductive SyntaxError where
  /-- Something else was wanted here. -/
  | unexpectedToken (expected : String) (token : Token)
  /-- The token is one that no schema holds; the message is the lexer's complaint. -/
  | lexError (message : String) (token : Token)
  /-- A `]` without its `[`, or a `[` without its `]`. -/
  | mismatchedBrackets (token : Token)
  /-- The definitions ended before the text did. The cause is the failure that got furthest. -/
  | premature (cause : Option SyntaxError) (token : Token)
deriving Repr, Inhabited

namespace SyntaxError

/-- The token that the error stands at. -/
def token : SyntaxError → Token
  | unexpectedToken _ token | lexError _ token | mismatchedBrackets token | premature _ token =>
    token

/-- The position that the error stands at. -/
def loc (error : SyntaxError) : Location := error.token.loc

/-- The error for a token where something else was wanted. An error token is reported as what it
is, whatever was wanted. -/
def unexpected (expected : String) (token : Token) : SyntaxError :=
  if token.kind = .error then lexError token.value token else unexpectedToken expected token

/-- The error comes from the lexer. -/
def isLexError : SyntaxError → Bool
  | lexError .. => true
  | _ => false

/-- The innermost failure: the one that says what is wrong. -/
def rootCause : SyntaxError → SyntaxError
  | premature (some cause) _ => cause.rootCause
  | error => error

/-- The position as it ends a message. -/
def position (token : Token) : String :=
  s!" at line {token.loc.shownLine}, column {token.loc.shownColumn}"

/-- The message of an error, its cause included. -/
def message : SyntaxError → String
  | unexpectedToken expected token =>
    s!"expected {expected}, found {token.displayName}" ++ position token
  | lexError message token => message ++ position token
  | mismatchedBrackets token =>
    (if token.kind = .rightBracket then "mismatched list brackets: ']' without a matching '['"
      else s!"mismatched list brackets: expected ']', found {token.displayName}") ++ position token
  | premature none token =>
    s!"stopped parsing prematurely at {token.displayName}" ++ position token
  | premature (some cause) token =>
    s!"stopped parsing prematurely at {token.displayName}" ++ position token ++ ": " ++
      cause.message

end SyntaxError

end SchemaGen
