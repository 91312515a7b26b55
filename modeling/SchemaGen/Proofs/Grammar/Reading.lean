import Mathlib.Tactic.ByContra
import SchemaGen.Proofs.Grammar.Derivation

namespace SchemaGen

theorem significant_append (front back : List Token) :
    significant (front ++ back) = significant front ++ significant back :=
  List.filter_append ..

theorem significant_singleton {token : Token} (hkind : token.kind ≠ .whitespace) :
    significant [token] = [token] := by
  simp [significant, hkind]

/-- What starts a list of significant tokens is significant. -/
theorem significant_of_start {front tokens : List Token} (hstarts : front <+: significant tokens) :
    significant front = front := by
  rw [significant, List.filter_eq_self]
  intro token hmem
  exact (List.mem_filter.mp (hstarts.subset hmem)).2

namespace Cursor

/-- The significant tokens from a position on. -/
def ahead (tokens : Array Token) (pos : Nat) : List Token :=
  significant (tokens.toList.drop pos)

/-- The significant tokens from the cursor on. -/
def rest (cursor : Cursor) : List Token :=
  ahead cursor.tokens cursor.pos

/-- The position holds a significant token. -/
def Settled (tokens : Array Token) (pos : Nat) : Prop :=
  ∃ token, tokens[pos]? = some token ∧ token.kind ≠ .whitespace

/-- The cursor stands on a significant token of a list that ends in an end-of-file token. -/
structure Valid (cursor : Cursor) : Prop where
  closed : ∃ last, cursor.tokens.toList.getLast? = some last ∧ last.kind = .eof
  settled : Settled cursor.tokens cursor.pos

theorem ahead_of_getElem? {tokens : Array Token} {pos : Nat} {token : Token}
    (hget : tokens[pos]? = some token) (hkind : token.kind ≠ .whitespace) :
    ahead tokens pos = token :: ahead tokens (pos + 1) := by
  have hlist : tokens.toList[pos]? = some token := by simpa using hget
  obtain ⟨hlt, hval⟩ := List.getElem?_eq_some_iff.mp hlist
  unfold ahead
  rw [List.drop_eq_getElem_cons hlt, hval]
  simp [significant, hkind]

/-- Stepping over blank runs does not change what lies ahead. -/
theorem ahead_skipBlanks (tokens : Array Token) (pos : Nat) :
    ahead tokens (skipBlanks tokens pos) = ahead tokens pos := by
  fun_induction skipBlanks tokens pos with
  | case1 pos hlt hblank ih =>
    have hlist : pos < tokens.toList.length := by simpa using hlt
    have hstep : ahead tokens pos = ahead tokens (pos + 1) := by
      unfold ahead
      rw [List.drop_eq_getElem_cons hlist]
      simp [significant, hblank]
    exact ih.trans hstep.symm
  | case2 | case3 => rfl

/-- A list that ends in a token other than a blank run has a significant token behind every position
before its end. -/
theorem settled_skipBlanks {tokens : Array Token} {last : Token} {pos : Nat}
    (hlast : tokens.toList.getLast? = some last) (hkind : last.kind = .eof)
    (hpos : pos < tokens.size) : Settled tokens (skipBlanks tokens pos) := by
  fun_induction skipBlanks tokens pos with
  | case1 pos hlt hblank ih =>
    apply ih
    by_contra hnot
    have heq : pos = tokens.toList.length - 1 := by
      rw [Array.length_toList]
      omega
    rw [List.getLast?_eq_getElem?, ← heq] at hlast
    have hget : tokens[pos] = last := by simpa [hlt] using hlast
    rw [hget, hkind] at hblank
    cases hblank
  | case2 pos hlt hblank => exact ⟨tokens[pos], by simp, hblank⟩
  | case3 pos hnot => exact absurd hpos hnot

/-- Positions further on have no more tokens ahead. -/
theorem length_ahead_le (tokens : Array Token) {first second : Nat} (hle : first ≤ second) :
    (ahead tokens second).length ≤ (ahead tokens first).length := by
  have hsub : (tokens.toList.drop second).Sublist (tokens.toList.drop first) := by
    obtain ⟨gap, rfl⟩ := Nat.exists_eq_add_of_le hle
    rw [← List.drop_drop]
    exact List.drop_sublist ..
  exact (hsub.filter _).length_le

/-- Whoever has fewer tokens ahead stands further on. -/
theorem pos_lt_of_length_ahead_lt {tokens : Array Token} {first second : Nat}
    (hlt : (ahead tokens second).length < (ahead tokens first).length) : first < second := by
  by_contra hnot
  have hle := length_ahead_le tokens (Nat.le_of_not_lt hnot)
  omega

/-- A valid cursor stands on the first of the tokens ahead of it. -/
theorem Valid.rest_eq {cursor : Cursor} (hvalid : cursor.Valid) :
    cursor.rest = cursor.peek :: ahead cursor.tokens (cursor.pos + 1) := by
  obtain ⟨token, hget, hkind⟩ := hvalid.settled
  have hpeek : cursor.peek = token := by
    simp [peek, Array.getD_eq_getD_getElem?, hget]
  rw [hpeek]
  exact ahead_of_getElem? hget hkind

theorem Valid.peek_eq {cursor : Cursor} {token : Token} {later : List Token}
    (hvalid : cursor.Valid) (hrest : cursor.rest = token :: later) : cursor.peek = token := by
  rw [hvalid.rest_eq] at hrest
  exact (List.cons.inj hrest).1

/-- What a reader did between two cursors: it went over some tokens and stands behind them. -/
structure Reads (cursor : Cursor) (tokens : List Token) (next : Cursor) : Prop where
  valid : next.Valid
  sameTokens : next.tokens = cursor.tokens
  rest_eq : cursor.rest = tokens ++ next.rest

theorem Valid.reads_self {cursor : Cursor} (hvalid : cursor.Valid) : cursor.Reads [] cursor :=
  ⟨hvalid, rfl, rfl⟩

theorem Reads.trans {cursor middle next : Cursor} {front back : List Token}
    (hfront : cursor.Reads front middle) (hback : middle.Reads back next) :
    cursor.Reads (front ++ back) next where
  valid := hback.valid
  sameTokens := hback.sameTokens.trans hfront.sameTokens
  rest_eq := by rw [hfront.rest_eq, hback.rest_eq, List.append_assoc]

/-- Whoever has read a token stands further on. -/
theorem Reads.pos_lt {cursor next : Cursor} {token : Token} {tokens : List Token}
    (hreads : cursor.Reads (token :: tokens) next) : cursor.pos < next.pos := by
  have hrest := hreads.rest_eq
  unfold rest at hrest
  rw [hreads.sameTokens] at hrest
  have hshorter : (ahead cursor.tokens next.pos).length < (ahead cursor.tokens cursor.pos).length := by
    rw [hrest, List.length_append, List.length_cons]
    omega
  exact pos_lt_of_length_ahead_lt hshorter

/-- Reading uses up the tokens that remain, so repetitions come to an end. -/
theorem Reads.remaining_lt {cursor next : Cursor} {token : Token} {tokens : List Token}
    (hvalid : cursor.Valid) (hreads : cursor.Reads (token :: tokens) next) :
    next.remaining < cursor.remaining := by
  have hlt := hreads.pos_lt
  obtain ⟨current, hget, _⟩ := hvalid.settled
  obtain ⟨hsize, _⟩ := Array.getElem?_eq_some_iff.mp hget
  simp only [remaining, hreads.sameTokens]
  omega

/-- What lies behind the tokens read is what lay behind them from the start. -/
theorem Reads.rest_of_append {cursor next : Cursor} {tokens behind : List Token}
    (hreads : cursor.Reads tokens next) (hrest : cursor.rest = tokens ++ behind) :
    next.rest = behind :=
  List.append_cancel_left (hreads.rest_eq.symm.trans hrest)

/-- Taking a token other than an end of file moves behind it. -/
theorem Valid.reads_advance {cursor : Cursor} (hvalid : cursor.Valid)
    (hkind : cursor.peek.kind ≠ .eof) : cursor.Reads [cursor.peek] cursor.advance := by
  obtain ⟨last, hlast, heof⟩ := hvalid.closed
  obtain ⟨token, hget, hblank⟩ := hvalid.settled
  have hpeek : cursor.peek = token := by
    simp [peek, Array.getD_eq_getD_getElem?, hget]
  have hadvance : cursor.advance =
      { cursor with pos := skipBlanks cursor.tokens (cursor.pos + 1) } := by
    simp [advance, hkind]
  have hmore : cursor.pos + 1 < cursor.tokens.size := by
    obtain ⟨hlt, hval⟩ := Array.getElem?_eq_some_iff.mp hget
    by_contra hnot
    have heq : cursor.pos = cursor.tokens.toList.length - 1 := by
      rw [Array.length_toList]
      omega
    rw [List.getLast?_eq_getElem?, ← heq] at hlast
    have hsame : token = last := by simpa [hget] using hlast
    rw [hpeek, hsame] at hkind
    exact hkind heof
  rw [hadvance]
  refine ⟨⟨⟨last, hlast, heof⟩, settled_skipBlanks hlast heof hmore⟩, rfl, ?_⟩
  rw [hvalid.rest_eq]
  simp only [rest, ahead_skipBlanks, List.singleton_append]

end Cursor

end SchemaGen
