import Mathlib.Data.List.Chain
import Mathlib.Data.List.Induction
import SchemaGen.Proofs.Token.Lexer

namespace SchemaGen

/-- The position behind some characters: the number of lines they end, and the number of characters
since the last line end. -/
def Location.behind (chars : List Char) : Location where
  line := chars.count '\n'
  column := (chars.reverse.takeWhile (· ≠ '\n')).length

/-- Going over one character after the other leads to the position that counting gives. -/
theorem Location.after_behind (before chars : List Char) :
    (behind before).after chars = behind (before ++ chars) := by
  induction chars using List.reverseRecOn with
  | nil => simp
  | append_singleton chars c ih =>
    rw [after_append, ih, ← List.append_assoc, after_cons, after_nil]
    by_cases hline : c = '\n'
    · simp [step, behind, hline, Nat.add_assoc]
    · simp [step, behind, hline]

namespace Text

theorem isDigit_of_mem_toDigits {count : Nat} {c : Char} (hmem : c ∈ Nat.toDigits 10 count) :
    isDigit c = true := by
  have hdigit := Nat.isDigit_of_mem_toDigits (by decide) (by decide) hmem
  simpa [isDigit, Char.isDigit, Char.le_def] using hdigit

theorem not_mem_toDigits {c : Char} (hdigit : isDigit c = false) (count : Nat) :
    c ∉ Nat.toDigits 10 count := by
  intro hmem
  rw [isDigit_of_mem_toDigits hmem] at hdigit
  cases hdigit

/-- A count that fits into a machine word is read back from its decimal digits. -/
theorem readCount?_toString {count : Nat} (hfits : count < UInt64.size) :
    readCount? (toString count) = some count := by
  have hchars : (toString count).toList = Nat.toDigits 10 count := by simp
  have hdigits : (Nat.toDigits 10 count).all isDigit = true :=
    List.all_eq_true.mpr fun _ => isDigit_of_mem_toDigits
  have hvalue : digitsValue (Nat.toDigits 10 count) = count := Nat.ofDigitChars_ten_toDigits
  have hunsigned : ∀ rest, Nat.toDigits 10 count ≠ '+' :: rest := by
    intro rest hsign
    rw [hsign] at hdigits
    simp [isDigit] at hdigits
  unfold readCount?
  rw [hchars]
  split
  · rename_i rest hsign
    exact absurd hsign (hunsigned rest)
  · simp [hdigits, hvalue, hfits, Nat.toDigits_ne_nil]

end Text

/-- What a token says about the characters that it stands for. -/
inductive Token.StandsFor : Token → List Char → Prop
  /-- A word is its own characters. -/
  | text {loc : Location} {chunk : List Char} (hne : chunk ≠ [])
      (hnames : ∀ c ∈ chunk, isNameChar c = true) :
      StandsFor ⟨.text, loc, String.ofList chunk⟩ chunk
  /-- A blank run says how long it is. -/
  | whitespace {loc : Location} {chunk : List Char} (hne : chunk ≠ [])
      (hblanks : ∀ c ∈ chunk, Text.isWhiteSpace c = true) :
      StandsFor ⟨.whitespace, loc, toString chunk.length⟩ chunk
  /-- Punctuation says nothing but its kind. -/
  | symbol {kind : TokenKind} {loc : Location} {c : Char} (hsymbol : kind.symbol = some c) :
      StandsFor ⟨kind, loc, ""⟩ [c]
  /-- Any other character is complained about. -/
  | error {loc : Location} {c : Char} (hsymbol : ∀ kind : TokenKind, kind.symbol ≠ some c)
      (hblank : Text.isWhiteSpace c = false) (hname : isNameChar c = false) :
      StandsFor ⟨.error, loc, s!"unknown character '{c}'"⟩ [c]

namespace Token.StandsFor

variable {token : Token} {chunk : List Char}

theorem chunk_ne_nil (hstands : token.StandsFor chunk) : chunk ≠ [] := by
  cases hstands with
  | text hne _ => exact hne
  | whitespace hne _ => exact hne
  | symbol _ => simp
  | error _ _ _ => simp

theorem kind_ne_eof (hstands : token.StandsFor chunk) : token.kind ≠ .eof := by
  intro hkind
  cases hstands with
  | symbol hsymbol =>
    obtain rfl := hkind
    cases hsymbol
  | _ => cases hkind

theorem isNameChar_of_mem (hstands : token.StandsFor chunk) (hkind : token.kind = .text) :
    ∀ c ∈ chunk, isNameChar c = true := by
  cases hstands with
  | text _ hnames => exact hnames
  | symbol hsymbol =>
    obtain rfl := hkind
    cases hsymbol
  | _ => cases hkind

theorem isWhiteSpace_of_mem (hstands : token.StandsFor chunk) (hkind : token.kind = .whitespace) :
    ∀ c ∈ chunk, Text.isWhiteSpace c = true := by
  cases hstands with
  | whitespace _ hblanks => exact hblanks
  | symbol hsymbol =>
    obtain rfl := hkind
    cases hsymbol
  | _ => cases hkind

/-- Only blank runs hold white space. -/
theorem isWhiteSpace_eq_false (hstands : token.StandsFor chunk) (hkind : token.kind ≠ .whitespace) :
    ∀ c ∈ chunk, Text.isWhiteSpace c = false := by
  cases hstands with
  | text _ hnames => exact fun c hmem => isWhiteSpace_of_isNameChar (hnames c hmem)
  | whitespace _ _ => exact absurd rfl hkind
  | symbol hsymbol => simpa using (isNameChar_of_symbol hsymbol).2
  | error _ hblank _ => simpa using hblank

/-- The width of a token is the number of its characters. That of a blank run is read back from a
text, so it has to fit into a machine word. -/
theorem width_eq_of_fits (hstands : token.StandsFor chunk)
    (hfits : token.kind = .whitespace → chunk.length < UInt64.size) :
    token.width = chunk.length := by
  cases hstands with
  | text hne _ =>
    have hpos := List.length_pos_iff.mpr hne
    simp only [width, String.length_ofList]
    omega
  | whitespace _ _ => simp only [width, Text.readCount?_toString (hfits rfl), Option.getD_some]
  | @symbol kind _ _ hsymbol =>
    cases kind with
    | text | whitespace => cases hsymbol
    | _ => rfl
  | error _ _ _ => rfl

theorem width_eq (hstands : token.StandsFor chunk) (hfits : chunk.length < UInt64.size) :
    token.width = chunk.length :=
  hstands.width_eq_of_fits fun _ => hfits

end Token.StandsFor

/-- The first of these characters does not prolong the token. -/
def Token.EndsBefore (token : Token) (behind : List Char) : Prop :=
  ∀ c ∈ behind.head?, (token.kind = .text → isNameChar c = false) ∧
    (token.kind = .whitespace → Text.isWhiteSpace c = false)

/-- The two pieces are not parts of one run. -/
def Apart (piece next : Token × List Char) : Prop :=
  ¬ (piece.1.kind = .text ∧ next.1.kind = .text) ∧
    ¬ (piece.1.kind = .whitespace ∧ next.1.kind = .whitespace)

/-- A cut of characters into pieces, each with its token. The characters come behind others, which
count for the positions only. -/
structure Cut (before chars : List Char) (pieces : List (Token × List Char)) : Prop where
  flatMap_eq : pieces.flatMap Prod.snd = chars
  standsFor : ∀ piece ∈ pieces, piece.1.StandsFor piece.2
  loc_eq : ∀ {front back : List (Token × List Char)} {token : Token} {chunk : List Char},
    pieces = front ++ (token, chunk) :: back →
      token.loc = Location.behind (before ++ front.flatMap Prod.snd)
  apart : pieces.IsChain Apart

namespace Cut

variable {before behind chunk : List Char} {token : Token} {pieces : List (Token × List Char)}

theorem nil (before : List Char) : Cut before [] [] where
  flatMap_eq := rfl
  standsFor := by simp
  loc_eq hsplit := by simp at hsplit
  apart := .nil

/-- The first piece of a cut starts with the first character. -/
theorem head?_eq (hcut : Cut before behind ((token, chunk) :: pieces)) :
    behind.head? = chunk.head? := by
  have hne := (hcut.standsFor _ (.head _)).chunk_ne_nil
  rw [← hcut.flatMap_eq, List.flatMap_cons, List.head?_append_of_ne_nil _ hne]

theorem apart_of_endsBefore {next : Token × List Char} (hends : token.EndsBefore behind)
    (hcut : Cut before behind (next :: pieces)) : Apart (token, chunk) next := by
  have hnext := hcut.standsFor next (.head _)
  obtain ⟨c, more, hchunk⟩ := List.exists_cons_of_ne_nil hnext.chunk_ne_nil
  have hhead : c ∈ behind.head? := by
    rw [hcut.head?_eq, hchunk]
    rfl
  have hmem : c ∈ next.2 := by simp [hchunk]
  constructor
  · rintro ⟨hkind, hnextKind⟩
    have hnot := (hends c hhead).1 hkind
    rw [hnext.isNameChar_of_mem hnextKind c hmem] at hnot
    cases hnot
  · rintro ⟨hkind, hnextKind⟩
    have hnot := (hends c hhead).2 hkind
    rw [hnext.isWhiteSpace_of_mem hnextKind c hmem] at hnot
    cases hnot

/-- One more piece in front of a cut. -/
theorem cons (hstands : token.StandsFor chunk) (hloc : token.loc = Location.behind before)
    (hends : token.EndsBefore behind) (hcut : Cut (before ++ chunk) behind pieces) :
    Cut before (chunk ++ behind) ((token, chunk) :: pieces) where
  flatMap_eq := by rw [List.flatMap_cons, hcut.flatMap_eq]
  standsFor := List.forall_mem_cons.mpr ⟨hstands, hcut.standsFor⟩
  loc_eq := by
    intro front back other otherChunk hsplit
    cases front with
    | nil =>
      obtain ⟨hsame, _⟩ := List.cons.inj hsplit
      cases hsame
      simpa using hloc
    | cons first front =>
      obtain ⟨rfl, hrest⟩ := List.cons.inj hsplit
      rw [hcut.loc_eq hrest, List.flatMap_cons, List.append_assoc]
  apart := by
    cases pieces with
    | nil => exact .singleton _
    | cons next pieces =>
      exact List.isChain_cons_cons.mpr ⟨apart_of_endsBefore hends hcut, hcut.apart⟩

end Cut

namespace Lexer

theorem head?_dropWhile {p : Char → Bool} {chars : List Char} :
    ∀ c ∈ (chars.dropWhile p).head?, p c = false := by
  intro c hhead
  have hnot := List.head?_dropWhile_not p chars
  rw [Option.mem_def.mp hhead] at hnot
  simpa using hnot

/-- The next token stands for the characters up to where the reading goes on, and for no fewer than
it could. -/
theorem next?_standsFor (loc : Location) (c : Char) (rest : List Char) :
    ∃ token chunk behind, c :: rest = chunk ++ behind ∧
      (reading loc (c :: rest)).next? = some (token, reading (loc.after chunk) behind) ∧
      token.loc = loc ∧ token.StandsFor chunk ∧ token.EndsBefore behind := by
  have hrun {p : Char → Bool} (hfirst : p c = true) :
      (∀ d ∈ c :: rest.takeWhile p, p d = true) ∧
        c :: rest = (c :: rest.takeWhile p) ++ rest.dropWhile p :=
    ⟨List.forall_mem_cons.mpr ⟨hfirst, List.all_eq_true.mp List.all_takeWhile⟩,
      by rw [List.cons_append, List.takeWhile_append_dropWhile]⟩
  cases hsymbol : TokenKind.ofSymbol? c with
  | some kind =>
    have hkind := TokenKind.ofSymbol?_eq_some_iff.mp hsymbol
    refine ⟨_, [c], rest, rfl, by simp [next?, hsymbol], rfl, .symbol hkind, ?_⟩
    intro d _
    cases kind with
    | text | whitespace => cases hkind
    | _ => simp
  | none =>
    by_cases hblank : Text.isWhiteSpace c = true
    · obtain ⟨hblanks, hsplit⟩ := hrun hblank
      refine ⟨_, _, _, hsplit, by simp [next?, hsymbol, hblank], rfl,
        .whitespace (by simp) hblanks, ?_⟩
      intro d hhead
      exact ⟨by simp, fun _ => head?_dropWhile d hhead⟩
    · by_cases hname : isNameChar c = true
      · obtain ⟨hnames, hsplit⟩ := hrun hname
        refine ⟨_, _, _, hsplit, by simp [next?, hsymbol, hblank, hname], rfl,
          .text (by simp) hnames, ?_⟩
        intro d hhead
        exact ⟨fun _ => head?_dropWhile d hhead, by simp⟩
      · have hother : ∀ kind : TokenKind, kind.symbol ≠ some c := by
          intro kind hkind
          rw [TokenKind.ofSymbol?_eq_some_iff.mpr hkind] at hsymbol
          cases hsymbol
        refine ⟨_, [c], rest, rfl, by simp [next?, hsymbol, hblank, hname], rfl,
          .error hother (by simpa using hblank) (by simpa using hname), ?_⟩
        intro d _
        simp

/-- Reading to the end cuts the characters into the pieces of the tokens. -/
theorem exists_cut_toList (before chars : List Char) :
    ∃ pieces, Cut before chars pieces ∧ (reading (.behind before) chars).toList =
      pieces.map Prod.fst ++ [⟨.eof, .behind (before ++ chars), ""⟩] := by
  induction hlength : chars.length using Nat.strongRecOn generalizing before chars with
  | ind length ih =>
    cases chars with
    | nil => exact ⟨[], .nil before, by simp⟩
    | cons c rest =>
      obtain ⟨token, chunk, behind, hsplit, hnext, hloc, hstands, hends⟩ :=
        next?_standsFor (.behind before) c rest
      have hshorter : behind.length < length := by
        have hpos := List.length_pos_iff.mpr hstands.chunk_ne_nil
        rw [← hlength, hsplit, List.length_append]
        omega
      obtain ⟨pieces, hcut, hlist⟩ := ih behind.length hshorter (before ++ chunk) behind rfl
      rw [hsplit]
      refine ⟨(token, chunk) :: pieces, .cons hstands hloc hends hcut, ?_⟩
      rw [← hsplit, toList_of_next? hnext, Location.after_behind, hlist, hsplit, List.map_cons,
        List.cons_append, List.append_assoc]

end Lexer

/-- A token of a text is the end of the file, or it is read from some characters and stands where
they stand. -/
theorem eof_or_chunk_of_mem_lex {source : String} {token : Token} (hmem : token ∈ lex source) :
    token = ⟨.eof, .behind source.toList, ""⟩ ∨
      ∃ before chunk after, source.toList = before ++ chunk ++ after ∧
        token.loc = Location.behind before ∧ token.StandsFor chunk := by
  obtain ⟨pieces, hcut, hlist⟩ := Lexer.exists_cut_toList [] source.toList
  have hlex : token ∈ pieces.map Prod.fst ++ [⟨.eof, .behind source.toList, ""⟩] := hlist ▸ hmem
  rcases List.mem_append.mp hlex with hpiece | heof
  · obtain ⟨⟨_, chunk⟩, hpieceMem, rfl⟩ := List.mem_map.mp hpiece
    obtain ⟨front, back, hsplit⟩ := List.append_of_mem hpieceMem
    refine .inr ⟨front.flatMap Prod.snd, chunk, back.flatMap Prod.snd, ?_, hcut.loc_eq hsplit,
      hcut.standsFor _ hpieceMem⟩
    rw [← hcut.flatMap_eq, hsplit]
    simp
  · exact .inl (List.mem_singleton.mp heof)

/-- The tokens of a text of fewer than 2^64 characters are a cut of it, behind which stands the end
of the file. Nothing is lost, no run is cut in two, positions count lines and columns, and widths
count characters. -/
theorem lex_cut {source : String} (hlength : source.length < UInt64.size) :
    ∃ pieces, Cut [] source.toList pieces ∧
      lex source = pieces.map Prod.fst ++ [⟨.eof, .behind source.toList, ""⟩] ∧
      ∀ piece ∈ pieces, piece.1.kind ≠ .eof ∧ piece.2 ≠ [] ∧ piece.1.width = piece.2.length := by
  obtain ⟨pieces, hcut, hlist⟩ := Lexer.exists_cut_toList [] source.toList
  refine ⟨pieces, hcut, hlist, ?_⟩
  intro piece hmem
  have hstands := hcut.standsFor piece hmem
  refine ⟨hstands.kind_ne_eof, hstands.chunk_ne_nil, hstands.width_eq ?_⟩
  obtain ⟨front, back, hsplit⟩ := List.append_of_mem hmem
  have hwhole : source.toList.length = (pieces.flatMap Prod.snd).length := by rw [hcut.flatMap_eq]
  rw [String.length_toList, hsplit, List.flatMap_append, List.flatMap_cons, List.length_append,
    List.length_append] at hwhole
  omega

/-- A word, a blank run over a line end, a character outside the language and punctuation. -/
theorem lex_cut_two_lines :
    "ab \n %!".length < UInt64.size ∧
    ∃ pieces, Cut [] "ab \n %!".toList pieces ∧
      pieces.map Prod.fst = [⟨.text, ⟨0, 0⟩, "ab"⟩, ⟨.whitespace, ⟨0, 2⟩, "3"⟩,
        ⟨.error, ⟨1, 1⟩, "unknown character '%'"⟩, ⟨.bang, ⟨1, 2⟩, ""⟩] ∧
      ∀ piece ∈ pieces, piece.1.width = piece.2.length := by
  have hlength : "ab \n %!".length < UInt64.size := by decide
  obtain ⟨pieces, hcut, hlist, hpieces⟩ := lex_cut hlength
  refine ⟨hlength, pieces, hcut, ?_, fun piece hmem => (hpieces piece hmem).2.2⟩
  have htokens : lex "ab \n %!" = [⟨.text, ⟨0, 0⟩, "ab"⟩, ⟨.whitespace, ⟨0, 2⟩, "3"⟩,
      ⟨.error, ⟨1, 1⟩, "unknown character '%'"⟩, ⟨.bang, ⟨1, 2⟩, ""⟩] ++ [⟨.eof, ⟨1, 3⟩, ""⟩] := by
    decide +kernel
  exact (List.append_inj' (hlist.symm.trans htokens) rfl).1

end SchemaGen
