import SchemaGen.Proofs.Grammar.Refusal

namespace SchemaGen

/-- The failure that stands for several at one position: the first one from the lexer, else the last
one. -/
def SyntaxError.decisive (errors : List SyntaxError) : Option SyntaxError :=
  errors.find? (·.isLexError) <|> errors.getLast?

namespace Cursor

/-- Something that is done with a cursor. -/
inductive Call where
  | fail (error : SyntaxError)
  | advance
  | reset (pos : Nat)

/-- The rule that carries a call out. -/
def Call.rule : Call → Rule Unit
  | fail error => Rule.fail error
  | advance => fun cursor => .ok () cursor.advance
  | reset pos => fun cursor => .ok () (cursor.reset pos)

/-- The cursor that a call leaves, whether or not it is a failure. -/
def step (cursor : Cursor) (call : Call) : Cursor :=
  match call.rule cursor with
  | .ok _ next => next
  | .error _ next => next

/-- The failure that a call is, if it is one, with the position of the cursor. -/
def Call.failure (cursor : Cursor) : Call → List (Nat × SyntaxError)
  | fail error => [(cursor.pos, error)]
  | advance | reset _ => []

/-- The cursor after calls that are made one after the other. -/
def after (cursor : Cursor) (calls : List Call) : Cursor :=
  calls.foldl step cursor

/-- The failures among the calls, each with the position of the cursor at its time. -/
def failures (cursor : Cursor) : List Call → List (Nat × SyntaxError)
  | [] => []
  | call :: calls => call.failure cursor ++ (cursor.step call).failures calls

/-- The failures at a position, in order. -/
def failuresAt (pos : Nat) (failures : List (Nat × SyntaxError)) : List SyntaxError :=
  (failures.filter (·.1 = pos)).map (·.2)

/-- The failures at the greatest position, in order. -/
def foremost (failures : List (Nat × SyntaxError)) : List SyntaxError :=
  (failures.filter fun failure => failures.all (·.1 ≤ failure.1)).map (·.2)

end Cursor

namespace SyntaxError

/-- A failure from the lexer keeps its place. -/
theorem decisive_concat_of_isLexError {errors : List SyntaxError} {decided : SyntaxError}
    (hdecided : decisive errors = some decided) (hlexer : decided.isLexError = true)
    (error : SyntaxError) :
    decisive (errors ++ [error]) = some decided := by
  have hfind : errors.find? (·.isLexError) = some decided := by
    cases hfind : errors.find? (·.isLexError) with
    | some first => simpa [decisive, hfind] using hdecided
    | none =>
      have hlast : errors.getLast? = some decided := by simpa [decisive, hfind] using hdecided
      have hnone := List.find?_eq_none.mp hfind decided (List.mem_of_getLast? hlast)
      exact absurd hlexer hnone
  simp [decisive, List.find?_append, hfind]

/-- Any other failure gives way to the next one. -/
theorem decisive_concat_of_not_isLexError {errors : List SyntaxError} {decided : SyntaxError}
    (hdecided : decisive errors = some decided) (hlexer : decided.isLexError = false)
    (error : SyntaxError) :
    decisive (errors ++ [error]) = some error := by
  have hfind : errors.find? (·.isLexError) = none := by
    cases hfind : errors.find? (·.isLexError) with
    | none => rfl
    | some first =>
      obtain rfl : first = decided := by simpa [decisive, hfind] using hdecided
      have hfirst := List.find?_some hfind
      simp [hlexer] at hfirst
  cases herror : error.isLexError <;> simp [decisive, List.find?_append, hfind, herror]

theorem decisive_singleton (error : SyntaxError) : decisive [error] = some error := by
  cases herror : error.isLexError <;> simp [decisive, herror]

end SyntaxError

namespace Cursor

variable {cursor : Cursor} {failures : List (Nat × SyntaxError)} {top : Nat}

theorem failuresAt_append (pos : Nat) (before behind : List (Nat × SyntaxError)) :
    failuresAt pos (before ++ behind) = failuresAt pos before ++ failuresAt pos behind := by
  simp [failuresAt]

theorem failuresAt_eq_nil {pos : Nat} (hother : ∀ failure ∈ failures, failure.1 ≠ pos) :
    failuresAt pos failures = [] := by
  simpa [failuresAt] using hother

/-- The greatest position is one that nothing lies behind. -/
theorem foremost_eq_failuresAt (hbound : ∀ failure ∈ failures, failure.1 ≤ top)
    (htop : ∃ failure ∈ failures, failure.1 = top) :
    foremost failures = failuresAt top failures := by
  obtain ⟨reached, hreached, rfl⟩ := htop
  unfold foremost failuresAt
  congr 1
  refine List.filter_congr fun failure hmem => ?_
  rw [Bool.eq_iff_iff, List.all_eq_true]
  simp only [decide_eq_true_eq]
  constructor
  · exact fun hgreatest => Nat.le_antisymm (hbound failure hmem) (hgreatest reached hreached)
  · exact fun heq other hother => heq ▸ hbound other hother

/-- The cursor remembers what some failures come to: nothing if there were none, else the decisive
one of those that nothing lies behind. -/
inductive Recalls (cursor : Cursor) (failures : List (Nat × SyntaxError)) : Prop
  | nothing (hfurthest : cursor.furthest = none) (hfailures : failures = []) :
    Recalls cursor failures
  | something {top : Nat} {error : SyntaxError} (hfurthest : cursor.furthest = some (top, error))
    (hbound : ∀ failure ∈ failures, failure.1 ≤ top)
    (htop : ∃ failure ∈ failures, failure.1 = top)
    (hdecisive : SyntaxError.decisive (failuresAt top failures) = some error) :
    Recalls cursor failures

theorem givesWay_iff {recorded : SyntaxError} (hfurthest : cursor.furthest = some (top, recorded)) :
    cursor.GivesWay ↔ top < cursor.pos ∨ top = cursor.pos ∧ recorded.isLexError = false := by
  simp [GivesWay, hfurthest]

theorem forall_le_concat {pos : Nat} (hbound : ∀ failure ∈ failures, failure.1 ≤ top)
    (hpos : pos ≤ top) (error : SyntaxError) :
    ∀ failure ∈ failures ++ [(pos, error)], failure.1 ≤ top :=
  List.forall_mem_append.mpr ⟨hbound, List.forall_mem_singleton.mpr hpos⟩

/-- A failure that no other lies behind counts with those at its own position. -/
theorem recalls_concat {pos : Nat} {error decided : SyntaxError}
    (hfurthest : cursor.furthest = some (pos, decided))
    (hbound : ∀ failure ∈ failures, failure.1 ≤ pos)
    (hdecisive : SyntaxError.decisive (failuresAt pos failures ++ [error]) = some decided) :
    cursor.Recalls (failures ++ [(pos, error)]) := by
  refine .something hfurthest (forall_le_concat hbound (Nat.le_refl pos) error)
    ⟨(pos, error), by simp, rfl⟩ ?_
  rw [failuresAt_append]
  simpa [failuresAt] using hdecisive

/-- Behind all others it is the only one at its position. -/
theorem recalls_concat_of_further {pos : Nat} {error : SyntaxError}
    (hfurthest : cursor.furthest = some (pos, error))
    (hfurther : ∀ failure ∈ failures, failure.1 < pos) :
    cursor.Recalls (failures ++ [(pos, error)]) := by
  refine recalls_concat hfurthest (fun failure hmem => Nat.le_of_lt (hfurther failure hmem)) ?_
  rw [failuresAt_eq_nil fun failure hmem => Nat.ne_of_lt (hfurther failure hmem)]
  exact SyntaxError.decisive_singleton error

/-- One failure more, and the cursor remembers what they all come to. -/
theorem Recalls.record (hrecalls : cursor.Recalls failures) (error : SyntaxError) :
    (cursor.record error).Recalls (failures ++ [(cursor.pos, error)]) := by
  cases hrecalls with
  | nothing hfurthest hfailures =>
    have hgives : cursor.GivesWay := by simp [GivesWay, hfurthest]
    rw [hgives.record_eq]
    exact recalls_concat_of_further rfl (by simp [hfailures])
  | @something top recorded hfurthest hbound htop hdecisive =>
    -- Where the new failure stands to the greatest position so far decides.
    rcases Nat.lt_trichotomy top cursor.pos with hbehind | rfl | hbefore
    · rw [((givesWay_iff hfurthest).mpr (.inl hbehind)).record_eq]
      exact recalls_concat_of_further rfl fun failure hmem =>
        Nat.lt_of_le_of_lt (hbound failure hmem) hbehind
    · cases hlexer : recorded.isLexError with
      | true =>
        have hkept : ¬ cursor.GivesWay := by simp [givesWay_iff hfurthest, hlexer]
        rw [record_eq_of_not_givesWay hkept]
        exact recalls_concat hfurthest hbound
          (SyntaxError.decisive_concat_of_isLexError hdecisive hlexer error)
      | false =>
        rw [((givesWay_iff hfurthest).mpr (.inr ⟨rfl, hlexer⟩)).record_eq]
        exact recalls_concat rfl hbound
          (SyntaxError.decisive_concat_of_not_isLexError hdecisive hlexer error)
    · have hovertaken : cursor.Overtaken := ⟨top, recorded, hfurthest, hbefore⟩
      rw [hovertaken.record_eq]
      refine .something hfurthest (forall_le_concat hbound (Nat.le_of_lt hbefore) error) ?_ ?_
      · obtain ⟨failure, hmem, heq⟩ := htop
        exact ⟨failure, List.mem_append_left _ hmem, heq⟩
      · have hnone : failuresAt top [(cursor.pos, error)] = [] :=
          failuresAt_eq_nil (List.forall_mem_singleton.mpr (Nat.ne_of_lt hbefore))
        rw [failuresAt_append, hnone, List.append_nil, hdecisive]

theorem Recalls.of_furthest_eq {next : Cursor} (hrecalls : cursor.Recalls failures)
    (hsame : next.furthest = cursor.furthest) : next.Recalls failures := by
  cases hrecalls with
  | nothing hfurthest hfailures => exact .nothing (hsame.trans hfurthest) hfailures
  | something hfurthest hbound htop hdecisive =>
    exact .something (hsame.trans hfurthest) hbound htop hdecisive

theorem Recalls.step (hrecalls : cursor.Recalls failures) (call : Call) :
    (cursor.step call).Recalls (failures ++ call.failure cursor) := by
  cases call with
  | fail error => exact hrecalls.record error
  | advance =>
    rw [Call.failure, List.append_nil]
    exact hrecalls.of_furthest_eq (furthest_advance cursor)
  | reset pos =>
    rw [Call.failure, List.append_nil]
    exact hrecalls.of_furthest_eq rfl

/-- What a cursor remembers after any calls. -/
theorem Recalls.after (hrecalls : cursor.Recalls failures) (calls : List Call) :
    (cursor.after calls).Recalls (failures ++ cursor.failures calls) := by
  induction calls generalizing cursor failures with
  | nil => simpa [Cursor.after, Cursor.failures] using hrecalls
  | cons call calls ih =>
    have hrest := ih (hrecalls.step call)
    rwa [List.append_assoc] at hrest

theorem Recalls.takeFurthest_eq (hrecalls : cursor.Recalls failures) :
    cursor.takeFurthest.1 = SyntaxError.decisive (foremost failures) := by
  unfold takeFurthest
  cases hrecalls with
  | nothing hfurthest hfailures =>
    rw [hfurthest, hfailures]
    rfl
  | something hfurthest hbound htop hdecisive =>
    rw [hfurthest, foremost_eq_failuresAt hbound htop, hdecisive]
    rfl

theorem Recalls.takeFurthest_eq_none_iff (hrecalls : cursor.Recalls failures) :
    cursor.takeFurthest.1 = none ↔ failures = [] := by
  unfold takeFurthest
  cases hrecalls with
  | nothing hfurthest hfailures => simp [hfurthest, hfailures]
  | something hfurthest hbound htop hdecisive =>
    obtain ⟨failure, hmem, _⟩ := htop
    simp [hfurthest, List.ne_nil_of_mem hmem]

theorem failures_eq_nil_iff (cursor : Cursor) (calls : List Call) :
    cursor.failures calls = [] ↔ ∀ error, .fail error ∉ calls := by
  induction calls generalizing cursor with
  | nil => simp [Cursor.failures]
  | cons call calls ih =>
    cases call with
    | fail error =>
      refine iff_of_false (by simp [Cursor.failures, Call.failure]) fun hnone => ?_
      exact hnone error List.mem_cons_self
    | advance | reset pos => simp [Cursor.failures, Call.failure, ih]

/-- The record of the failure that got furthest, after any failures and moves from a cursor without
one: of the failures at the greatest position the first one from the lexer, else the last one, and
nothing exactly if nothing failed. Taking the record empties it. A failure gives back its own error
and leaves the cursor where it is. -/
theorem takeFurthest_after (tokens : Array Token) (pos : Nat) (calls : List Call) :
    let start : Cursor := { tokens, pos }
    let (taken, emptied) := (start.after calls).takeFurthest
    taken = SyntaxError.decisive (foremost (start.failures calls)) ∧
    (taken = none ↔ ∀ error, .fail error ∉ calls) ∧
    emptied.takeFurthest.1 = none ∧
    ∀ (cursor : Cursor) (error : SyntaxError), ∃ next,
      (Call.fail error).rule cursor = .error error next ∧
      next.pos = cursor.pos ∧ next.tokens = cursor.tokens := by
  intro start
  have hstart : start.Recalls [] := .nothing rfl rfl
  have hrecalls : (start.after calls).Recalls (start.failures calls) := hstart.after calls
  refine ⟨hrecalls.takeFurthest_eq, ?_, rfl, fun cursor error => ?_⟩
  · rw [← failures_eq_nil_iff start calls]
    exact hrecalls.takeFurthest_eq_none_iff
  · exact ⟨cursor.record error, rfl, pos_record cursor error, tokens_record cursor error⟩

/-- A complaint of the lexer stays, though the cursor comes back to its position. -/
example (token : Token) (tokens : Array Token) :
    let start : Cursor := { tokens, pos := 2 }
    let calls : List Call :=
      [.fail (.unexpectedToken "':'" token), .fail (.lexError "unknown character '%'" token),
        .reset 0, .fail (.mismatchedBrackets token), .reset 2, .fail (.mismatchedBrackets token)]
    (start.after calls).takeFurthest.1 = some (.lexError "unknown character '%'" token) := rfl

end Cursor

end SchemaGen
