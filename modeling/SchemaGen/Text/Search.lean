namespace SchemaGen.Text

/-- The text begins with the part. -/
def startsWith (part text : String) : Bool := part.toList.isPrefixOf text.toList

/-- The characters hold the part as one consecutive stretch. -/
def holds (part : List Char) : List Char → Bool
  | [] => part.isEmpty
  | c :: rest => part.isPrefixOf (c :: rest) || holds part rest

/-- The part occurs somewhere in the text. -/
def occursIn (part text : String) : Bool := holds part.toList text.toList

end SchemaGen.Text
