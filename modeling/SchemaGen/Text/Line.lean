namespace SchemaGen.Text

/-- The characters of each line, without line ends. `current` holds the characters of the line being
read, last first. -/
def splitLines (current : List Char) : List Char → List (List Char)
  | [] => if current.isEmpty then [] else [current.reverse]
  | '\n' :: rest =>
    (match current with
      | '\r' :: before => before.reverse
      | whole => whole.reverse) :: splitLines [] rest
  | c :: rest => splitLines (c :: current) rest

/-- The lines of a text, in order. A line ends at `\n`, and a `\r` directly before that `\n` belongs
to the line end; a `\r` anywhere else is an ordinary character. A final line end starts no further
line. -/
def lines (text : String) : List String :=
  (splitLines [] text.toList).map String.ofList

end SchemaGen.Text
