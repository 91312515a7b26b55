import SchemaGen.Token.Lexer

namespace SchemaGen

namespace Text

/-- What a table covers lies in one of its runs. -/
theorem CodeRange.exists_of_covers {table : List CodeRange} {code : Nat}
    (hcovers : covers table code = true) : ∃ run ∈ table, run.first ≤ code ∧ code ≤ run.last := by
  induction table with
  | nil => cases hcovers
  | cons run rest ih =>
    unfold covers at hcovers
    split at hcovers
    · rename_i hlast
      exact ⟨run, .head _, by simpa using hcovers, hlast⟩
    · obtain ⟨other, hmem, hbounds⟩ := ih hcovers
      exact ⟨other, .tail _ hmem, hbounds⟩

/-- The code points of white space, one by one. -/
def whiteSpaceCodes : List Nat :=
  whiteSpace.flatMap fun run => List.range' run.first (run.last + 1 - run.first)

theorem toNat_mem_whiteSpaceCodes {c : Char} (hblank : isWhiteSpace c = true) :
    c.toNat ∈ whiteSpaceCodes := by
  obtain ⟨run, hmem, hfirst, hlast⟩ := CodeRange.exists_of_covers hblank
  refine List.mem_flatMap.mpr ⟨run, hmem, ?_⟩
  rw [List.mem_range'_1]
  omega

end Text

/-- White space is neither part of a name nor punctuation. -/
theorem isNameChar_of_isWhiteSpace {c : Char} (hblank : Text.isWhiteSpace c = true) :
    isNameChar c = false ∧ TokenKind.ofSymbol? c = none := by
  have hall : ∀ code ∈ Text.whiteSpaceCodes, isNameChar (Char.ofNat code) = false ∧
      TokenKind.ofSymbol? (Char.ofNat code) = none := by
    decide +kernel
  have hclass := hall c.toNat (Text.toNat_mem_whiteSpaceCodes hblank)
  rwa [Char.ofNat_toNat] at hclass

/-- Punctuation is neither part of a name nor white space. -/
theorem isNameChar_of_symbol {c : Char} {kind : TokenKind} (hsymbol : kind.symbol = some c) :
    isNameChar c = false ∧ Text.isWhiteSpace c = false := by
  cases kind with
  | text | whitespace | error | eof => cases hsymbol
  | _ =>
    cases hsymbol
    decide

theorem ofSymbol?_of_isNameChar {c : Char} (hname : isNameChar c = true) :
    TokenKind.ofSymbol? c = none := by
  cases hsymbol : TokenKind.ofSymbol? c with
  | none => rfl
  | some kind =>
    have hclass := isNameChar_of_symbol (TokenKind.ofSymbol?_eq_some_iff.mp hsymbol)
    rw [hname] at hclass
    cases hclass.1

theorem isWhiteSpace_of_isNameChar {c : Char} (hname : isNameChar c = true) :
    Text.isWhiteSpace c = false := by
  cases hblank : Text.isWhiteSpace c with
  | false => rfl
  | true =>
    have hclass := isNameChar_of_isWhiteSpace hblank
    rw [hname] at hclass
    cases hclass.1

/-- The only end of file in the list is its last token. -/
def ClosedOnce (tokens : List Token) : Prop :=
  ∃ front eof, tokens = front ++ [eof] ∧ eof.kind = .eof ∧ ∀ token ∈ front, token.kind ≠ .eof

namespace Lexer

theorem toList_of_next? {lexer rest : Lexer} {token : Token}
    (hnext : lexer.next? = some (token, rest)) : lexer.toList = token :: rest.toList := by
  rw [toList]
  split
  · rename_i hnone
    rw [hnone] at hnext
    cases hnext
  · rename_i hsome
    rw [hsome] at hnext
    cases hnext
    rfl

@[simp]
theorem toList_finished : finished.toList = [] := by
  rw [toList]
  rfl

@[simp]
theorem toList_nil (loc : Location) : (reading loc []).toList = [⟨.eof, loc, ""⟩] := by
  rw [toList_of_next? rfl, toList_finished]

/-- While characters are left the next token is none that ends the file, and the reading goes on. -/
theorem next?_cons (loc : Location) (c : Char) (rest : List Char) :
    ∃ token locBehind behind, (reading loc (c :: rest)).next? =
      some (token, reading locBehind behind) ∧ token.kind ≠ .eof := by
  unfold next?
  simp only
  split
  · rename_i kind hsymbol
    refine ⟨_, _, _, rfl, ?_⟩
    rintro rfl
    have hnone := TokenKind.ofSymbol?_eq_some_iff.mp hsymbol
    cases hnone
  · split
    · exact ⟨_, _, _, rfl, by simp⟩
    · split
      · exact ⟨_, _, _, rfl, by simp⟩
      · exact ⟨_, _, _, rfl, by simp⟩

theorem toList_symbol {c : Char} {kind : TokenKind} (hsymbol : kind.symbol = some c)
    (loc : Location) (rest : List Char) :
    (reading loc (c :: rest)).toList = ⟨kind, loc, ""⟩ :: (reading (loc.step c) rest).toList := by
  apply toList_of_next?
  simp [next?, TokenKind.ofSymbol?_eq_some_iff.mpr hsymbol]

/-- A run of characters of a class ends where the class does. -/
theorem span_append {p : Char → Bool} {run rest : List Char} (hrun : ∀ c ∈ run, p c = true)
    (hstop : ∀ c ∈ rest.head?, p c = false) :
    (run ++ rest).takeWhile p = run ∧ (run ++ rest).dropWhile p = rest := by
  rw [List.takeWhile_append_of_pos hrun, List.dropWhile_append_of_pos hrun]
  cases rest with
  | nil => simp
  | cons c rest => simp [hstop c rfl]

theorem toList_blanks {c : Char} {run rest : List Char}
    (hrun : ∀ d ∈ c :: run, Text.isWhiteSpace d = true)
    (hstop : ∀ d ∈ rest.head?, Text.isWhiteSpace d = false) (loc : Location) :
    (reading loc (c :: run ++ rest)).toList =
      ⟨.whitespace, loc, toString (run.length + 1)⟩ ::
        (reading (loc.after (c :: run)) rest).toList := by
  have hfirst := hrun c (.head _)
  obtain ⟨htake, hdrop⟩ := span_append (fun d hmem => hrun d (.tail _ hmem)) hstop
  apply toList_of_next?
  simp [next?, (isNameChar_of_isWhiteSpace hfirst).2, hfirst, htake, hdrop]

theorem toList_name {c : Char} {run rest : List Char} (hrun : ∀ d ∈ c :: run, isNameChar d = true)
    (hstop : ∀ d ∈ rest.head?, isNameChar d = false) (loc : Location) :
    (reading loc (c :: run ++ rest)).toList =
      ⟨.text, loc, String.ofList (c :: run)⟩ ::
        (reading (loc.after (c :: run)) rest).toList := by
  have hfirst := hrun c (.head _)
  obtain ⟨htake, hdrop⟩ := span_append (fun d hmem => hrun d (.tail _ hmem)) hstop
  apply toList_of_next?
  simp [next?, ofSymbol?_of_isNameChar hfirst, isWhiteSpace_of_isNameChar hfirst, hfirst, htake,
    hdrop]

theorem closedOnce_toList (loc : Location) (chars : List Char) :
    ClosedOnce (reading loc chars).toList := by
  induction hlength : chars.length using Nat.strongRecOn generalizing loc chars with
  | ind length ih =>
    cases chars with
    | nil => exact ⟨[], _, toList_nil loc, rfl, by simp⟩
    | cons c rest =>
      obtain ⟨token, locBehind, behind, hnext, hkind⟩ := next?_cons loc c rest
      have hshorter := remaining_next? hnext
      simp only [remaining, List.length_cons] at hshorter
      obtain ⟨front, eof, hlist, heof, hfront⟩ := ih behind.length
        (by rw [List.length_cons] at hlength; omega) locBehind behind rfl
      refine ⟨token :: front, eof, ?_, heof, ?_⟩
      · rw [toList_of_next? hnext, hlist]
        rfl
      · intro other hmem
        rcases List.mem_cons.mp hmem with rfl | hmem
        · exact hkind
        · exact hfront other hmem

end Lexer

/-- Every text ends in its only end-of-file token. -/
theorem closedOnce_lex (source : String) : ClosedOnce (lex source) :=
  Lexer.closedOnce_toList ..

end SchemaGen
