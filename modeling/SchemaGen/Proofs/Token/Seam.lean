import SchemaGen.Proofs.Token.Shift

namespace SchemaGen

/-- No run goes on from the one text into the other: of the two characters that meet, not both are
name characters and not both are white space. An empty text has nothing that could go on. -/
def Severed (front back : List Char) : Prop :=
  ∀ c ∈ front.getLast?, ∀ d ∈ back.head?,
    ¬ (isNameChar c = true ∧ isNameChar d = true) ∧
      ¬ (Text.isWhiteSpace c = true ∧ Text.isWhiteSpace d = true)

theorem Severed.of_append {chunk behind back : List Char}
    (hsevered : Severed (chunk ++ behind) back) : Severed behind back := by
  intro c hlast
  exact hsevered c (List.mem_getLast?_append_of_mem_getLast? hlast)

/-- At a seam that cuts no run, no token gets longer. -/
theorem Token.EndsBefore.append_of_severed {token : Token} {chunk behind back : List Char}
    (hends : token.EndsBefore behind) (hstands : token.StandsFor chunk)
    (hsevered : Severed (chunk ++ behind) back) : token.EndsBefore (behind ++ back) := by
  intro d hhead
  cases behind with
  | cons c behind => exact hends d hhead
  | nil =>
    obtain ⟨more, c, rfl⟩ := List.eq_nil_or_concat' chunk |>.resolve_left hstands.chunk_ne_nil
    obtain ⟨hnames, hblanks⟩ := hsevered c (by simp) d hhead
    constructor
    · intro htext
      have hname := hstands.isNameChar_of_mem htext c (by simp)
      simpa [hname] using hnames
    · intro hspace
      have hblank := hstands.isWhiteSpace_of_mem hspace c (by simp)
      simpa [hblank] using hblanks

namespace Token.StandsFor

variable {token : Token} {chunk : List Char} {c : Char}

theorem kind_eq_text (hstands : token.StandsFor chunk) (hmem : c ∈ chunk)
    (hname : isNameChar c = true) : token.kind = .text := by
  by_contra hkind
  simp [hstands.isNameChar_eq_false hkind c hmem] at hname

theorem kind_eq_whitespace (hstands : token.StandsFor chunk) (hmem : c ∈ chunk)
    (hblank : Text.isWhiteSpace c = true) : token.kind = .whitespace := by
  by_contra hkind
  simp [hstands.isWhiteSpace_eq_false hkind c hmem] at hblank

end Token.StandsFor

/-- The lexer goes over a seam that cuts no run as if it stopped there and started again. -/
theorem Lexer.toList_append {front back : List Char} (hsevered : Severed front back)
    {loc : Location} {tokens : List Token} {eof : Token}
    (hfront : (reading loc front).toList = tokens ++ [eof]) :
    (reading loc (front ++ back)).toList =
      tokens ++ (reading (loc.after front) back).toList := by
  induction hlength : front.length using Nat.strongRecOn generalizing front loc tokens with
  | ind length ih =>
    cases front with
    | nil =>
      rw [toList_nil, ← List.nil_append [_]] at hfront
      obtain ⟨rfl, _⟩ := List.append_inj' hfront rfl
      rfl
    | cons c rest =>
      obtain ⟨token, chunk, behind, hsplit, hnext, rfl, hstands, hends⟩ :=
        next?_standsFor loc c rest
      have hshorter : behind.length < length := by
        have hpos := List.length_pos_iff.mpr hstands.chunk_ne_nil
        rw [← hlength, hsplit, List.length_append]
        omega
      rw [hsplit] at hsevered hfront ⊢
      rw [toList_of_standsFor hstands hends] at hfront
      cases tokens with
      | nil =>
        -- The end of the file comes behind the first token, so there is more than one token.
        obtain ⟨more, last, hmore, _⟩ := closedOnce_toList (token.loc.after chunk) behind
        simp [hmore] at hfront
      | cons first tokens =>
        obtain ⟨rfl, hbehind⟩ := List.cons.inj hfront
        rw [List.append_assoc, Location.after_append, List.cons_append,
          toList_of_standsFor hstands (hends.append_of_severed hstands hsevered),
          ih behind.length hshorter hsevered.of_append hbehind rfl]

/-- Reading a text comes to the end of the file behind all of its characters. -/
theorem exists_lex_eq_concat (source : String) :
    ∃ tokens, lex source = tokens ++ [⟨.eof, .behind source.toList, ""⟩] := by
  obtain ⟨pieces, _, hlist⟩ := Lexer.exists_cut_toList [] source.toList
  exact ⟨pieces.map Prod.fst, hlist⟩

/-- Neighbouring tokens of a text are not parts of one run. -/
theorem isChain_lex (source : String) :
    (lex source).IsChain fun token next =>
      ¬ (token.kind = .text ∧ next.kind = .text) ∧
        ¬ (token.kind = .whitespace ∧ next.kind = .whitespace) := by
  obtain ⟨pieces, hcut, hlist⟩ := Lexer.exists_cut_toList [] source.toList
  have hlex : lex source = pieces.map Prod.fst ++ [⟨.eof, .behind source.toList, ""⟩] := hlist
  rw [hlex, List.isChain_append]
  refine ⟨(List.isChain_map _).mpr hcut.apart, .singleton _, ?_⟩
  intro token _ eof heof
  obtain rfl := Option.some.inj heof
  simp

/-- The last character of a text belongs to its last token. -/
theorem exists_last_of_lex {source : String} {tokens : List Token} {eof : Token} {c : Char}
    (hlex : lex source = tokens ++ [eof]) (hlast : c ∈ source.toList.getLast?) :
    ∃ front token chunk, tokens = front ++ [token] ∧ token.StandsFor chunk ∧ c ∈ chunk := by
  obtain ⟨pieces, hcut, hlist⟩ := Lexer.exists_cut_toList [] source.toList
  obtain ⟨rfl, _⟩ := List.append_inj' (hlex.symm.trans hlist) rfl
  rcases List.eq_nil_or_concat' pieces with rfl | ⟨more, piece, rfl⟩
  · rw [← hcut.flatMap_eq] at hlast
    cases hlast
  · have hstands := hcut.standsFor piece (by simp)
    rw [← hcut.flatMap_eq, List.flatMap_append, List.flatMap_singleton,
      List.getLast?_append_of_ne_nil _ hstands.chunk_ne_nil] at hlast
    exact ⟨more.map Prod.fst, piece.1, piece.2, by simp, hstands, List.mem_of_getLast? hlast⟩

/-- The first character of a text belongs to its first token. -/
theorem exists_first_of_lex {source : String} {d : Char} (hhead : d ∈ source.toList.head?) :
    ∃ token chunk back, lex source = token :: back ∧ token.StandsFor chunk ∧ d ∈ chunk := by
  cases hchars : source.toList with
  | nil => simp [hchars] at hhead
  | cons c rest =>
    obtain rfl : c = d := by simpa [hchars] using hhead
    obtain ⟨token, chunk, behind, hsplit, hnext, _, hstands, _⟩ := Lexer.next?_standsFor {} c rest
    have hlex : lex source = token :: (Lexer.reading (.after {} chunk) behind).toList := by
      rw [lex, Lexer.ofText, hchars]
      exact Lexer.toList_of_next? hnext
    obtain ⟨first, more, rfl⟩ := List.exists_cons_of_ne_nil hstands.chunk_ne_nil
    obtain ⟨rfl, _⟩ := List.cons.inj hsplit
    exact ⟨token, _, _, hlex, hstands, .head _⟩

/-- Where the tokens of the parts are those of the whole, the seam cuts no run. -/
theorem severed_of_lex_append {first second : String} {tokens : List Token} {eof : Token}
    {move : Token → Token} (hmove : ∀ token, (move token).kind = token.kind)
    (hfirst : lex first = tokens ++ [eof])
    (hwhole : lex (first ++ second) = tokens ++ (lex second).map move) :
    Severed first.toList second.toList := by
  intro c hlast d hhead
  obtain ⟨front, token, chunk, rfl, hstands, hc⟩ := exists_last_of_lex hfirst hlast
  obtain ⟨next, nextChunk, back, hsecond, hnext, hd⟩ := exists_first_of_lex hhead
  have hchain := isChain_lex (first ++ second)
  rw [hwhole, hsecond, List.map_cons, List.append_assoc, List.singleton_append] at hchain
  obtain ⟨hnames, hblanks⟩ := (List.isChain_append_cons_cons.mp hchain).2.1
  rw [hmove] at hnames hblanks
  constructor
  · rintro ⟨hname, hnextName⟩
    exact hnames ⟨hstands.kind_eq_text hc hname, hnext.kind_eq_text hd hnextName⟩
  · rintro ⟨hblank, hnextBlank⟩
    exact hblanks ⟨hstands.kind_eq_whitespace hc hblank, hnext.kind_eq_whitespace hd hnextBlank⟩

/-- Lexing distributes over concatenation exactly where the seam cuts no run. The tokens of the
whole are then those of the first text, without its end of file, and behind them those of the second
text, moved to the position at which the first one ends: lines by its lines, and columns by its last
column on the first line of the second text only. -/
theorem lex_append_iff (first second : String) :
    ∃ tokens, lex first = tokens ++ [⟨.eof, .behind first.toList, ""⟩] ∧
      (lex (first ++ second) =
          tokens ++ (lex second).map (Token.shift (.behind first.toList)) ↔
        Severed first.toList second.toList) := by
  obtain ⟨tokens, hfirst⟩ := exists_lex_eq_concat first
  refine ⟨tokens, hfirst, severed_of_lex_append (fun _ => rfl) hfirst, fun hsevered => ?_⟩
  have hstart : Location.behind first.toList = Location.after {} first.toList :=
    (Location.after_behind [] first.toList).symm
  rw [hstart, ← Lexer.toList_reading, lex, Lexer.ofText, String.toList_append]
  exact Lexer.toList_append hsevered hfirst

end SchemaGen
