import SchemaGen.SyntaxError

namespace SchemaGen

/-- A position in a token list, with the failure that got furthest so far and how far that was. The
position is that of a significant token, and never one behind an end-of-file token. -/
structure Cursor where
  tokens : Array Token
  pos : Nat
  furthest : Option (Nat × SyntaxError) := none
deriving Repr, Inhabited

namespace Cursor

/-- The first position from `pos` on that holds no blank run. -/
def skipBlanks (tokens : Array Token) (pos : Nat) : Nat :=
  if h : pos < tokens.size then
    if tokens[pos].kind = .whitespace then skipBlanks tokens (pos + 1) else pos
  else pos
termination_by tokens.size - pos

/-- A token list that ends in an end-of-file token: one is added, at the position of the last
token, where it is missing. -/
def closed (tokens : List Token) : List Token :=
  match tokens.getLast? with
  | none => [⟨.eof, {}, ""⟩]
  | some last => if last.kind = .eof then tokens else tokens ++ [⟨.eof, last.loc, ""⟩]

/-- The cursor on the first significant token of a list. -/
def ofTokens (tokens : List Token) : Cursor :=
  let all := (closed tokens).toArray
  { tokens := all, pos := skipBlanks all 0 }

/-- The token that the cursor stands on. -/
def peek (cursor : Cursor) : Token := cursor.tokens.getD cursor.pos ⟨.eof, {}, ""⟩

/-- The position of that token in the source. -/
def loc (cursor : Cursor) : Location := cursor.peek.loc

/-- The cursor on the next significant token. An end-of-file token is never left behind. -/
def advance (cursor : Cursor) : Cursor :=
  if cursor.peek.kind = .eof then cursor
  else { cursor with pos := skipBlanks cursor.tokens (cursor.pos + 1) }

/-- The cursor stands on the last token. A list joined from several texts has an end-of-file token
further up, and that one is not the end. -/
def atEnd (cursor : Cursor) : Bool := cursor.pos + 1 == cursor.tokens.size

/-- How many tokens lie at or behind the cursor. -/
def remaining (cursor : Cursor) : Nat := cursor.tokens.size - cursor.pos

/-- The cursor at an earlier position, with what it has learned about failures since. -/
def reset (cursor : Cursor) (pos : Nat) : Cursor := { cursor with pos }

/-- A failure at the cursor takes the place of the recorded one if it got further, or as far and the
recorded one does not come from the lexer. -/
def record (cursor : Cursor) (error : SyntaxError) : Cursor :=
  match cursor.furthest with
  | none => { cursor with furthest := some (cursor.pos, error) }
  | some (pos, recorded) =>
    if pos < cursor.pos ∨ (pos = cursor.pos ∧ !recorded.isLexError) then
      { cursor with furthest := some (cursor.pos, error) }
    else cursor

/-- The failure that got furthest, and a cursor that has forgotten it. -/
def takeFurthest (cursor : Cursor) : Option SyntaxError × Cursor :=
  (cursor.furthest.map (·.2), { cursor with furthest := none })

@[simp]
theorem tokens_advance (cursor : Cursor) : cursor.advance.tokens = cursor.tokens := by
  unfold advance
  split <;> rfl

@[simp]
theorem furthest_advance (cursor : Cursor) : cursor.advance.furthest = cursor.furthest := by
  unfold advance
  split <;> rfl

/-- Recording a failure does not move the cursor. -/
@[simp]
theorem pos_record (cursor : Cursor) (error : SyntaxError) :
    (cursor.record error).pos = cursor.pos := by
  unfold record
  split
  · rfl
  · split <;> rfl

@[simp]
theorem tokens_record (cursor : Cursor) (error : SyntaxError) :
    (cursor.record error).tokens = cursor.tokens := by
  unfold record
  split
  · rfl
  · split <;> rfl

end Cursor

end SchemaGen
