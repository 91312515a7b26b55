import SchemaGen.Proofs.Token.Order

namespace SchemaGen

/-- A position of a text that is moved to another start. Columns move on the first line only. -/
def Location.shift (start loc : Location) : Location where
  line := start.line + loc.line
  column := if loc.line = 0 then start.column + loc.column else loc.column

namespace Location

variable (start : Location)

theorem shift_step (loc : Location) (c : Char) :
    start.shift (loc.step c) = (start.shift loc).step c := by
  by_cases hline : c = '\n'
  · simp [shift, step, hline, Nat.add_assoc]
  · by_cases hfirst : loc.line = 0 <;> simp [shift, step, hline, hfirst, Nat.add_assoc]

theorem shift_after (loc : Location) (chars : List Char) :
    start.shift (loc.after chars) = (start.shift loc).after chars := by
  induction chars generalizing loc with
  | nil => rfl
  | cons c chars ih => rw [after_cons, after_cons, ih, shift_step]

end Location

/-- A token of a text that is moved to another start. -/
def Token.shift (start : Location) (token : Token) : Token :=
  { token with loc := start.shift token.loc }

namespace Lexer

/-- A token stream of a text that is moved to another start. -/
def shift (start : Location) : Lexer → Lexer
  | reading loc rest => reading (start.shift loc) rest
  | finished => finished

theorem next?_shift (start : Location) (lexer : Lexer) :
    (lexer.shift start).next? =
      lexer.next?.map fun (token, rest) => (token.shift start, rest.shift start) := by
  fun_cases next? lexer with
  | case1 => rfl
  | case2 loc => rfl
  | case3 loc c rest =>
    simp only [shift, next?, Option.map_some]
    split
    · simp [Token.shift, Location.shift_step]
    · split
      · simp [Token.shift, Location.shift_after, Location.shift_step]
      · split
        · simp [Token.shift, Location.shift_after, Location.shift_step]
        · simp [Token.shift, Location.shift_step]

/-- A moved text has the same tokens, moved. -/
theorem toList_shift (start : Location) (lexer : Lexer) :
    (lexer.shift start).toList = lexer.toList.map (Token.shift start) := by
  fun_induction toList lexer with
  | case1 lexer hnone =>
    cases lexer with
    | finished => simp [shift]
    | reading loc rest => cases rest <;> simp [next?] at hnone
  | case2 lexer token rest hnext _ ih =>
    have hshifted : (lexer.shift start).next? = some (token.shift start, rest.shift start) := by
      rw [next?_shift, hnext]
      rfl
    rw [toList_of_next? hshifted, ih, List.map_cons]

/-- Reading a text from any position gives its tokens, moved there. -/
theorem toList_reading (start : Location) (source : String) :
    (reading start source.toList).toList = (lex source).map (Token.shift start) :=
  toList_shift start (ofText source)

/-- Characters that a token stands for are read as that token, if what follows does not prolong
it. -/
theorem toList_of_standsFor {token : Token} {chunk behind : List Char}
    (hstands : token.StandsFor chunk) (hends : token.EndsBefore behind) :
    (reading token.loc (chunk ++ behind)).toList =
      token :: (reading (token.loc.after chunk) behind).toList := by
  cases hstands with
  | @text _ chunk hne hnames =>
    obtain ⟨c, run, rfl⟩ := List.exists_cons_of_ne_nil hne
    exact toList_name hnames (fun d hhead => (hends d hhead).1 rfl) _
  | @whitespace _ chunk hne hblanks =>
    obtain ⟨c, run, rfl⟩ := List.exists_cons_of_ne_nil hne
    exact toList_blanks hblanks (fun d hhead => (hends d hhead).2 rfl) _
  | symbol hsymbol => exact toList_symbol hsymbol ..
  | @error _ c hsymbol hblank hname =>
    have hnone : TokenKind.ofSymbol? c = none :=
      Option.eq_none_iff_forall_ne_some.mpr fun kind hkind =>
        hsymbol kind (TokenKind.ofSymbol?_eq_some_iff.mp hkind)
    apply toList_of_next?
    simp [next?, hnone, hblank, hname]

end Lexer

/-- Behind the first piece of a text no name goes on where none went on before. -/
theorem Parted.of_append {chunk behind back : List Char} (hparted : Parted (chunk ++ behind) back) :
    Parted behind back := by
  intro c hlast
  apply hparted c
  rw [List.getLast?_append, Option.mem_def.mp hlast]
  rfl

/-- Where a text goes on without prolonging a name, its last token gets no longer, unless it is a
blank run. -/
theorem Token.EndsBefore.append {token : Token} {chunk behind back : List Char}
    (hends : token.EndsBefore behind) (hstands : token.StandsFor chunk)
    (hparted : Parted (chunk ++ behind) back) (hkind : token.kind ≠ .whitespace) :
    token.EndsBefore (behind ++ back) := by
  intro d hhead
  refine ⟨?_, fun hblank => absurd hblank hkind⟩
  intro htext
  cases behind with
  | cons c behind => exact (hends d hhead).1 htext
  | nil =>
    obtain ⟨more, c, rfl⟩ := List.eq_nil_or_concat' chunk |>.resolve_left hstands.chunk_ne_nil
    have hname : isNameChar c = true := hstands.isNameChar_of_mem htext c (by simp)
    have hor := hparted c (by simp) d hhead
    simpa [hname] using hor

end SchemaGen
