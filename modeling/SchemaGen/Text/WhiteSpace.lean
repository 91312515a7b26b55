import SchemaGen.Text.CodeRange

namespace SchemaGen.Text

/-- Every run of white space, in ascending order. -/
def whiteSpace : List CodeRange :=
  [⟨0x9, 0xD⟩, ⟨0x20, 0x20⟩, ⟨0x85, 0x85⟩, ⟨0xA0, 0xA0⟩, ⟨0x1680, 0x1680⟩, ⟨0x2000, 0x200A⟩,
    ⟨0x2028, 0x2029⟩, ⟨0x202F, 0x202F⟩, ⟨0x205F, 0x205F⟩, ⟨0x3000, 0x3000⟩]

/-- A character with the Unicode property `White_Space`. Zero-width characters, the byte order mark
and the information separators below U+0020 are outside it. -/
def isWhiteSpace (c : Char) : Bool :=
  CodeRange.covers whiteSpace c.toNat

end SchemaGen.Text
