namespace SchemaGen

/-- Where a token or a node starts. Lines and columns are counted from zero in characters. -/
structure Location where
  line : Nat := 0
  column : Nat := 0
deriving DecidableEq, Repr, Inhabited

namespace Location

/-- The line number shown to a reader. -/
def shownLine (loc : Location) : Nat := loc.line + 1

/-- The column number shown to a reader. -/
def shownColumn (loc : Location) : Nat := loc.column + 1

/-- The position as `line,column`, both from one. -/
def text (loc : Location) : String := s!"{loc.shownLine},{loc.shownColumn}"

/-- The position after one character. Only `\n` starts a new line. -/
def step (loc : Location) (c : Char) : Location :=
  if c = '\n' then ⟨loc.line + 1, 0⟩ else ⟨loc.line, loc.column + 1⟩

/-- The position after a run of characters. -/
def after (loc : Location) (chars : List Char) : Location :=
  chars.foldl step loc

@[simp]
theorem after_nil (loc : Location) : loc.after [] = loc := rfl

@[simp]
theorem after_cons (loc : Location) (c : Char) (chars : List Char) :
    loc.after (c :: chars) = (loc.step c).after chars := rfl

/-- Positions can be counted piece by piece. -/
theorem after_append (loc : Location) (front back : List Char) :
    loc.after (front ++ back) = (loc.after front).after back := by
  simp [after]

end Location

end SchemaGen
