import SchemaGen.Location
import SchemaGen.Text.Number

namespace SchemaGen

/-- The kinds of tokens. Blank runs and characters outside the language are tokens too, so that a
token list accounts for the whole source. -/
inductive TokenKind where
  | text
  | leftCurly
  | rightCurly
  | colon
  | leftParen
  | rightParen
  | comma
  | bang
  | at
  | leftBracket
  | rightBracket
  | whitespace
  | error
  | eof
deriving DecidableEq, Repr, Inhabited

namespace TokenKind

/-- The character of a punctuation kind. -/
def symbol : TokenKind → Option Char
  | leftCurly => some '{'
  | rightCurly => some '}'
  | colon => some ':'
  | leftParen => some '('
  | rightParen => some ')'
  | comma => some ','
  | bang => some '!'
  | .at => some '@'
  | leftBracket => some '['
  | rightBracket => some ']'
  | text | whitespace | error | eof => none

/-- The punctuation kind a character stands for, if it is one of the ten. -/
def ofSymbol? : Char → Option TokenKind
  | '{' => some leftCurly
  | '}' => some rightCurly
  | ':' => some colon
  | '(' => some leftParen
  | ')' => some rightParen
  | ',' => some comma
  | '!' => some bang
  | '@' => some .at
  | '[' => some leftBracket
  | ']' => some rightBracket
  | _ => none

/-- The two tables of punctuation agree. -/
theorem ofSymbol?_eq_some_iff {c : Char} {kind : TokenKind} :
    ofSymbol? c = some kind ↔ kind.symbol = some c := by
  constructor
  · intro hsymbol
    unfold ofSymbol? at hsymbol
    split at hsymbol <;> simp_all <;> (subst hsymbol; rfl)
  · intro hsymbol
    cases kind <;> simp_all [symbol] <;> (subst hsymbol; rfl)

/-- The kind in words. -/
def words : TokenKind → String
  | text => "text"
  | leftCurly => "left curly"
  | rightCurly => "right curly"
  | colon => "colon"
  | leftParen => "left paren"
  | rightParen => "right paren"
  | comma => "comma"
  | bang => "bang"
  | .at => "at"
  | leftBracket => "left bracket"
  | rightBracket => "right bracket"
  | whitespace => "whitespace"
  | error => "error"
  | eof => "end of file"

/-- How a message names the kind when it was wanted and something else was there. -/
def expectedName (kind : TokenKind) : String :=
  match kind.symbol with
  | some c => s!"'{c}'"
  | none => if kind = text then "identifier" else kind.words

end TokenKind

/-- A token of a schema. The value is the word itself for a text token, the number of characters
for a blank run, the complaint for an error token, and empty otherwise. -/
structure Token where
  kind : TokenKind
  loc : Location
  value : String := ""
deriving DecidableEq, Repr, Inhabited

namespace Token

/-- How a message names this token when it is not the one wanted. -/
def displayName (token : Token) : String :=
  match token.kind with
  | .text => s!"'{token.value}'"
  | .error => s!"invalid input ({token.value})"
  | kind => kind.expectedName

/-- How many characters of the source the token covers. -/
def width (token : Token) : Nat :=
  match token.kind with
  | .text => max token.value.length 1
  | .whitespace => (Text.readCount? token.value).getD 1
  | _ => 1

/-- The token on one line: kind, value if it has one, and position. -/
def summary (token : Token) : String :=
  if token.value.isEmpty then s!"{token.kind.words} token @({token.loc.text})"
  else s!"{token.kind.words} token = {token.value} @({token.loc.text})"

end Token

end SchemaGen
