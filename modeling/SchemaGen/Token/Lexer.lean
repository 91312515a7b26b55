import SchemaGen.Text.Alphabetic
import SchemaGen.Text.WhiteSpace
import SchemaGen.Token

namespace SchemaGen

/-- A character that may stand in a name. -/
def isNameChar (c : Char) : Bool := Text.isAlphabetic c || c == '_'

/-- A token stream that is read one token at a time. -/
inductive Lexer where
  /-- The unread characters, the first of them at the given position. -/
  | reading (loc : Location) (rest : List Char)
  /-- The end-of-file token has been given out. -/
  | finished
deriving DecidableEq, Repr, Inhabited

namespace Lexer

/-- The stream of a whole text. -/
def ofText (source : String) : Lexer := reading {} source.toList

/-- An upper bound on the tokens still to come: one for each unread character and one for the end of
the file. -/
def remaining : Lexer → Nat
  | reading _ rest => rest.length + 1
  | finished => 0

/-- The next token and the stream behind it. Punctuation is one token per character; white space
and names are taken as the longest run that starts here. -/
def next? : Lexer → Option (Token × Lexer)
  | finished => none
  | reading loc [] => some (⟨.eof, loc, ""⟩, finished)
  | reading loc (c :: rest) =>
    some <|
      match TokenKind.ofSymbol? c with
      | some kind => (⟨kind, loc, ""⟩, reading (loc.step c) rest)
      | none =>
        if Text.isWhiteSpace c then
          let run := c :: rest.takeWhile Text.isWhiteSpace
          (⟨.whitespace, loc, toString run.length⟩,
            reading (loc.after run) (rest.dropWhile Text.isWhiteSpace))
        else if isNameChar c then
          let run := c :: rest.takeWhile isNameChar
          (⟨.text, loc, String.ofList run⟩, reading (loc.after run) (rest.dropWhile isNameChar))
        else
          (⟨.error, loc, s!"unknown character '{c}'"⟩, reading (loc.step c) rest)

/-- Each token uses up some of the stream, so reading comes to an end. -/
theorem remaining_next? {lexer rest : Lexer} {token : Token}
    (hnext : lexer.next? = some (token, rest)) : rest.remaining < lexer.remaining := by
  have hshorter (p : Char → Bool) (chars : List Char) :
      (chars.dropWhile p).length ≤ chars.length := (List.dropWhile_sublist p).length_le
  unfold next? at hnext
  split at hnext
  · cases hnext
  · cases hnext
    simp [remaining]
  · split at hnext
    · cases hnext
      simp [remaining]
    · split at hnext
      · cases hnext
        simpa [remaining] using Nat.lt_succ_of_le (hshorter _ _)
      · split at hnext
        · cases hnext
          simpa [remaining] using Nat.lt_succ_of_le (hshorter _ _)
        · cases hnext
          simp [remaining]

/-- All tokens still to come. -/
def toList (lexer : Lexer) : List Token :=
  match hnext : lexer.next? with
  | none => []
  | some (token, rest) =>
    have := remaining_next? hnext
    token :: rest.toList
termination_by lexer.remaining

/-- Up to `count` tokens, and the stream behind them. -/
def take : Nat → Lexer → List Token × Lexer
  | 0, lexer => ([], lexer)
  | count + 1, lexer =>
    match lexer.next? with
    | none => ([], lexer)
    | some (token, rest) =>
      let (tokens, behind) := take count rest
      (token :: tokens, behind)

end Lexer

/-- The tokens of a text, blanks included, with one end-of-file token at the end. Lexing never fails:
a character outside the language becomes an error token, and the stream goes on behind it. -/
def lex (source : String) : List Token := (Lexer.ofText source).toList

end SchemaGen
