import SchemaGen.Proofs.Token.Partition

namespace SchemaGen

namespace Location

/-- Positions in the order of the text: by line, and within a line by column. -/
instance : LT Location where
  lt loc other := loc.line < other.line ∨ loc.line = other.line ∧ loc.column < other.column

theorem lt_iff {loc other : Location} :
    loc < other ↔ loc.line < other.line ∨ loc.line = other.line ∧ loc.column < other.column :=
  Iff.rfl

theorem lt_trans {loc middle other : Location} (hfirst : loc < middle) (hsecond : middle < other) :
    loc < other := by
  rw [lt_iff] at *
  omega

theorem lt_step (loc : Location) (c : Char) : loc < loc.step c := by
  rw [lt_iff, step]
  split <;> simp

theorem lt_after (loc : Location) (c : Char) (chars : List Char) :
    loc < loc.after (c :: chars) := by
  induction chars generalizing loc c with
  | nil => exact lt_step loc c
  | cons next chars ih => exact lt_trans (lt_step loc c) (ih (loc.step c) next)

/-- More characters lead further on. -/
theorem behind_lt_behind (before : List Char) {chunk : List Char} (hne : chunk ≠ []) :
    behind before < behind (before ++ chunk) := by
  obtain ⟨c, chars, rfl⟩ := List.exists_cons_of_ne_nil hne
  rw [← after_behind]
  exact lt_after ..

end Location

namespace Cut

variable {before chars : List Char} {pieces : List (Token × List Char)}

/-- What is left of a cut behind its first piece is a cut. -/
theorem tail {token : Token} {chunk : List Char}
    (hcut : Cut before chars ((token, chunk) :: pieces)) :
    Cut (before ++ chunk) (pieces.flatMap Prod.snd) pieces where
  flatMap_eq := rfl
  standsFor := (List.forall_mem_cons.mp hcut.standsFor).2
  loc_eq := by
    intro front back other otherChunk hsplit
    have hlonger : (token, chunk) :: pieces =
        ((token, chunk) :: front) ++ (other, otherChunk) :: back := by
      rw [hsplit]
      rfl
    simpa using hcut.loc_eq hlonger
  apart := hcut.apart.tail

/-- The tokens of a cut stand in increasing positions, and the end comes behind them all. -/
theorem pairwise_loc (hcut : Cut before chars pieces) :
    List.Pairwise (fun token next : Token => token.loc < next.loc)
      (pieces.map Prod.fst ++ [⟨.eof, .behind (before ++ chars), ""⟩]) := by
  induction pieces generalizing before chars with
  | nil => exact List.pairwise_singleton _ _
  | cons piece pieces ih =>
    obtain ⟨token, chunk⟩ := piece
    have hchars : chars = chunk ++ pieces.flatMap Prod.snd := by
      rw [← hcut.flatMap_eq, List.flatMap_cons]
    have hloc : token.loc = .behind before := by
      simpa using hcut.loc_eq (List.nil_append _).symm
    have hne := (hcut.standsFor _ (.head _)).chunk_ne_nil
    rw [hchars, ← List.append_assoc, List.map_cons, List.cons_append, List.pairwise_cons]
    refine ⟨?_, ih hcut.tail⟩
    intro other hmem
    rw [hloc]
    rcases List.mem_append.mp hmem with hpiece | hend
    · obtain ⟨⟨_, otherChunk⟩, hpieceMem, rfl⟩ := List.mem_map.mp hpiece
      obtain ⟨front, back, hsplit⟩ := List.append_of_mem hpieceMem
      rw [hcut.tail.loc_eq hsplit, List.append_assoc]
      exact Location.behind_lt_behind before (by simp [hne])
    · obtain rfl := List.mem_singleton.mp hend
      rw [List.append_assoc]
      exact Location.behind_lt_behind before (by simp [hne])

end Cut

/-- The tokens of a text stand in increasing positions. -/
theorem pairwise_loc_lex (source : String) :
    (lex source).Pairwise fun token next => token.loc < next.loc := by
  obtain ⟨pieces, hcut, hlist⟩ := Lexer.exists_cut_toList [] source.toList
  have hpairwise := hcut.pairwise_loc
  rwa [← hlist] at hpairwise

namespace Token.StandsFor

variable {token : Token} {chunk : List Char}

/-- Only words hold name characters. -/
theorem isNameChar_eq_false (hstands : token.StandsFor chunk) (hkind : token.kind ≠ .text) :
    ∀ c ∈ chunk, isNameChar c = false := by
  cases hstands with
  | text _ _ => exact absurd rfl hkind
  | whitespace _ hblanks => exact fun c hmem => (isNameChar_of_isWhiteSpace (hblanks c hmem)).1
  | symbol hsymbol => simpa using (isNameChar_of_symbol hsymbol).1
  | error _ _ hname => simpa using hname

/-- A word stands for what it says. -/
theorem eq_toList_value (hstands : token.StandsFor chunk) (hkind : token.kind = .text) :
    chunk = token.value.toList := by
  cases hstands with
  | text _ _ => exact String.toList_ofList.symm
  | symbol hsymbol =>
    obtain rfl := hkind
    cases hsymbol
  | _ => cases hkind

/-- Punctuation stands for its one character. -/
theorem eq_singleton (hstands : token.StandsFor chunk) {c : Char}
    (hkind : token.kind.symbol = some c) : chunk = [c] := by
  cases hstands with
  | symbol hsymbol => rw [Option.some.inj (hsymbol.symm.trans hkind)]
  | _ => cases hkind

end Token.StandsFor

/-- No name goes on from the one run of characters into the other. -/
def Parted (chars behind : List Char) : Prop :=
  ∀ c ∈ chars.getLast?, ∀ d ∈ behind.head?, isNameChar c = false ∨ isNameChar d = false

theorem Apart.parted {piece next : Token × List Char} (hapart : Apart piece next)
    (hpiece : piece.1.StandsFor piece.2) (hnext : next.1.StandsFor next.2) :
    Parted piece.2 next.2 := by
  intro c hlast d hhead
  by_cases hkind : piece.1.kind = .text
  · have hother : next.1.kind ≠ .text := fun htext => hapart.1 ⟨hkind, htext⟩
    exact .inr (hnext.isNameChar_eq_false hother d (List.mem_of_mem_head? hhead))
  · exact .inl (hpiece.isNameChar_eq_false hkind c (List.mem_of_getLast? hlast))

/-- In the text the characters stand at the position, and no name goes on across either end of
them. -/
inductive StandsWhole (source : String) (loc : Location) (chars : List Char) : Prop
  | mk {before after : List Char} (hsource : source.toList = before ++ chars ++ after)
      (hloc : loc = Location.behind before) (hbefore : Parted before chars)
      (hafter : Parted chars after)

namespace Cut

variable {pieces : List (Token × List Char)}

/-- Where two pieces of a cut meet, no name goes on. -/
theorem parted {before chars : List Char} {piece next : Token × List Char}
    {front back : List (Token × List Char)}
    (hcut : Cut before chars (front ++ piece :: next :: back)) : Parted piece.2 next.2 :=
  (List.isChain_append_cons_cons.mp hcut.apart).2.1.parted (hcut.standsFor piece (by simp))
    (hcut.standsFor next (by simp))

/-- Every piece of a cut stands whole in the text. -/
theorem standsWhole {source : String} {front back : List (Token × List Char)} {token : Token}
    {chunk : List Char} (hcut : Cut [] source.toList (front ++ (token, chunk) :: back)) :
    StandsWhole source token.loc chunk := by
  have hsource : source.toList = front.flatMap Prod.snd ++ chunk ++ back.flatMap Prod.snd := by
    rw [← hcut.flatMap_eq]
    simp
  refine .mk hsource (hcut.loc_eq rfl) ?_ ?_
  · rcases List.eq_nil_or_concat' front with rfl | ⟨more, last, rfl⟩
    · simp [Parted]
    · have hlast := (hcut.standsFor last (by simp)).chunk_ne_nil
      rw [List.append_assoc] at hcut
      intro c hmem
      rw [List.flatMap_append, List.flatMap_singleton,
        List.getLast?_append_of_ne_nil _ hlast] at hmem
      exact hcut.parted c hmem
  · cases back with
    | nil => simp [Parted]
    | cons next back =>
      have hnext := (hcut.standsFor next (by simp)).chunk_ne_nil
      intro c hmem d hhead
      rw [List.flatMap_cons, List.head?_append_of_ne_nil _ hnext] at hhead
      exact hcut.parted c hmem d hhead

end Cut

/-- The characters of a token of a text stand whole at its position. -/
theorem exists_standsWhole_of_mem_lex {source : String} {token : Token} (hmem : token ∈ lex source)
    (hkind : token.kind ≠ .eof) :
    ∃ chunk, token.StandsFor chunk ∧ StandsWhole source token.loc chunk := by
  obtain ⟨pieces, hcut, hlist⟩ := Lexer.exists_cut_toList [] source.toList
  have hlex : token ∈ pieces.map Prod.fst ++ [⟨.eof, .behind source.toList, ""⟩] := hlist ▸ hmem
  rcases List.mem_append.mp hlex with hpiece | heof
  · obtain ⟨⟨_, chunk⟩, hpieceMem, rfl⟩ := List.mem_map.mp hpiece
    obtain ⟨front, back, rfl⟩ := List.append_of_mem hpieceMem
    exact ⟨chunk, hcut.standsFor _ hpieceMem, hcut.standsWhole⟩
  · rw [List.mem_singleton.mp heof] at hkind
    exact absurd rfl hkind

end SchemaGen
