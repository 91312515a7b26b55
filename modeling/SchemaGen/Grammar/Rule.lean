import SchemaGen.Grammar.Cursor

namespace SchemaGen

/-- Reads an `α` from a cursor and leaves the cursor behind it, or fails and leaves the cursor where
it found it. That is what lets an optional part, a repetition or a choice try a rule without
committing to it. Every failure is recorded at the cursor, also one that another reading
overrides. -/
abbrev Rule (α : Type) := EStateM SyntaxError Cursor α

namespace Rule

variable {α β : Type}

/-- Two rules in a row: the second starts where the first has stopped, unless the first fails. -/
theorem bind_apply (first : Rule α) (next : α → Rule β) (cursor : Cursor) :
    (first >>= next) cursor =
      match first cursor with
      | .ok value cursor => next value cursor
      | .error error cursor => .error error cursor := by
  simp only [bind, EStateM.bind]
  cases first cursor <;> rfl

@[simp]
theorem pure_apply (value : α) (cursor : Cursor) :
    (pure value : Rule α) cursor = .ok value cursor := rfl

/-- Fails with an error and records it. -/
def fail (error : SyntaxError) : Rule α := fun cursor => .error error (cursor.record error)

/-- Takes the current token. -/
def take : Rule Token := fun cursor => .ok cursor.peek cursor.advance

/-- One token of a kind. -/
def token (kind : TokenKind) : Rule Token := fun cursor =>
  if cursor.peek.kind = kind then take cursor
  else fail (.unexpected kind.expectedName cursor.peek) cursor

/-- A text token with exactly this spelling. -/
def keyword (word : String) : Rule Token := fun cursor =>
  if cursor.peek.kind = .text ∧ cursor.peek.value = word then take cursor
  else fail (.unexpected s!"keyword '{word}'" cursor.peek) cursor

/-- The closing half of a pair of brackets. Anything else in its place, a character outside the
language apart, is a mismatch of brackets. -/
def closing (kind : TokenKind) : Rule Token := fun cursor =>
  if cursor.peek.kind = kind then take cursor
  else if cursor.peek.kind = .error then
    fail (.unexpected kind.expectedName cursor.peek) cursor
  else fail (.mismatchedBrackets cursor.peek) cursor

/-- Refuses a closing bracket that nothing opened. Reads nothing. -/
def unopened (kind : TokenKind) : Rule Unit := fun cursor =>
  if cursor.peek.kind = kind then fail (.mismatchedBrackets cursor.peek) cursor
  else .ok () cursor

/-- The end-of-file token that closes the list. Anything else means that the definitions stopped
early, because of the failure that got furthest. -/
def endOfInput : Rule Token := fun cursor =>
  if cursor.peek.kind = .eof ∧ cursor.atEnd then take cursor
  else
    let (cause, cursor) := cursor.takeFurthest
    .error (.premature cause cursor.peek) cursor

/-- The part, or nothing where it does not match. Never fails. -/
def optional (part : Rule α) : Rule (Option α) := fun cursor =>
  match part cursor with
  | .ok value cursor => .ok (some value) cursor
  | .error _ cursor => .ok none cursor

/-- Parts as long as they match, with the cursor behind them. A part that reads nothing ends the
run, for it would match forever. -/
def manyFrom (part : Rule α) (cursor : Cursor) : List α × Cursor :=
  match part cursor with
  | .error _ next => ([], next)
  | .ok value next =>
    if next.remaining < cursor.remaining then
      let (values, last) := manyFrom part next
      (value :: values, last)
    else ([value], next)
termination_by cursor.remaining

/-- Any number of parts. Never fails. -/
def many (part : Rule α) : Rule (List α) := fun cursor =>
  let (values, last) := manyFrom part cursor
  .ok values last

/-- Further parts, each behind a separator, from behind a first part. A separator has to be followed
by a part. -/
def separatedTail (part : Rule α) (separator : Rule β) (cursor : Cursor) :
    EStateM.Result SyntaxError Cursor (List α) :=
  match separator cursor with
  | .error _ next => .ok [] next
  | .ok _ next =>
    match part next with
    | .error error last => .error error last
    | .ok value last =>
      if last.remaining < cursor.remaining then
        match separatedTail part separator last with
        | .ok values final => .ok (value :: values) final
        | .error error final => .error error final
      else .ok [value] last
termination_by cursor.remaining

/-- Any number of parts with separators between them. A separator without a part behind it makes
the whole run fail, and nothing of it counts as read. -/
def separated (part : Rule α) (separator : Rule β) : Rule (List α) := fun cursor =>
  match part cursor with
  | .error _ next => .ok [] next
  | .ok value next =>
    match separatedTail part separator next with
    | .ok values last => .ok (value :: values) last
    | .error error last => .error error (last.reset cursor.pos)

/-- All of the parts or none: if one of them fails, the cursor goes back to the start. The parts are
told where the first token stands. -/
def sequence (parts : Location → Rule α) : Rule α := fun cursor =>
  match parts cursor.loc cursor with
  | .ok value next => .ok value next
  | .error error next => .error error (next.reset cursor.pos)

/-- The first alternative that matches, with no search for the longest. -/
def firstOf : List (Rule α) → Cursor → Option α × Cursor
  | [], cursor => (none, cursor)
  | part :: parts, cursor =>
    match part cursor with
    | .ok value next => (some value, next)
    | .error _ next => firstOf parts next

/-- One of several alternatives, tried in order. When all fail, what was expected is said in one
phrase. -/
def choice (expected : String) (alternatives : List (Rule α)) : Rule α := fun cursor =>
  match firstOf alternatives cursor with
  | (some value, next) => .ok value next
  | (none, next) => fail (.unexpected expected next.peek) next

end Rule

end SchemaGen
