namespace SchemaGen.Terminal

/-- The looks that messages use. -/
inductive Style where
  | bold
  | dimmed
  | red
  | green
  | blue
  | cyan
deriving DecidableEq, Repr, Inhabited

/-- The code of a style. Colours are always bold. -/
def Style.code : Style → String
  | bold => "1"
  | dimmed => "2"
  | red => "1;31"
  | green => "1;32"
  | blue => "1;34"
  | cyan => "1;36"

/-- The sequence that switches a style on. -/
def Style.opening (style : Style) : String := "\x1b[" ++ style.code ++ "m"

/-- The sequence that switches every style off. -/
def reset : String := "\x1b[0m"

/-- The text with a style switched on again behind every reset that it holds. -/
def reopened (opening : List Char) : List Char → List Char
  | '\x1b' :: '[' :: '0' :: 'm' :: rest =>
    '\x1b' :: '[' :: '0' :: 'm' :: (opening ++ reopened opening rest)
  | c :: rest => c :: reopened opening rest
  | [] => []

/-- A text in a style. The style holds to the end of the text, also where the text itself resets
it. -/
def Style.wrap (style : Style) (text : String) : String :=
  style.opening ++ String.ofList (reopened style.opening.toList text.toList) ++ reset

/-- A text in a style if colours are wanted, and the text alone if not. -/
def paint (colour : Bool) (style : Style) (text : String) : String :=
  if colour then style.wrap text else text

end SchemaGen.Terminal
