import SchemaGen.Proofs.Grammar.Outcome

namespace SchemaGen

namespace Rule

open Grammar

/-- The rule goes back to where it started when it fails. -/
def Rewinds {α : Type} (rule : Rule α) : Prop :=
  ∀ cursor error next, rule cursor = .error error next → next.pos = cursor.pos

theorem rewinds_sequence {α : Type} (parts : Location → Rule α) : (sequence parts).Rewinds := by
  intro cursor error next heq
  unfold sequence at heq
  split at heq
  · cases heq
  · cases heq
    rfl

theorem rewinds_choice {α : Type} (expected : String) {alternatives : List (Rule α)}
    (hall : ∀ rule ∈ alternatives, rule.Rewinds) : (choice expected alternatives).Rewinds := by
  have hnone : ∀ (rules : List (Rule α)) (cursor next : Cursor), (∀ rule ∈ rules, rule.Rewinds) →
      firstOf rules cursor = (none, next) → next.pos = cursor.pos := by
    intro rules
    induction rules with
    | nil =>
      intro cursor next _ heq
      cases heq
      rfl
    | cons rule rules ih =>
      intro cursor next hrules heq
      unfold firstOf at heq
      split at heq
      · cases heq
      · rename_i error failed hfailed
        rw [ih failed next (fun other hmem => hrules other (.tail _ hmem)) heq]
        exact hrules rule (.head _) cursor error failed hfailed
  intro cursor error next heq
  unfold choice at heq
  split at heq
  · cases heq
  · rename_i failed hfailed
    cases heq
    rw [Cursor.pos_record]
    exact hnone alternatives cursor failed hall hfailed

/-- The rule was tried where the cursor stands, and failed there. -/
def GivenUp {α : Type} (rule : Rule α) (cursor : Cursor) : Prop :=
  ∃ spot error, rule spot = .error error cursor ∧ cursor.SameSpot spot

theorem givenUp_record {α : Type} {rule : Rule α} {cursor : Cursor} {error : SyntaxError}
    (heq : rule cursor = .error error (cursor.record error)) :
    rule.GivenUp (cursor.record error) :=
  ⟨cursor, error, heq, Cursor.sameSpot_record cursor error⟩

variable {α : Type} {place arrival : Place} {spells : List Token → α → Prop}
  {stops turns : Cursor → Prop} {cursor : Cursor}

/-- The part that is there, or nothing if it misses and the place is as good as behind it. -/
theorem outcome_optional (first : Token → Prop) {part : Rule α}
    {spellsOption : List Token → Option α → Prop}
    (hvalid : cursor.Valid) (hclean : cursor.Clean)
    (hpart : first cursor.peek →
      Outcome place arrival spells Anything turns cursor (part cursor))
    (hrewinds : part.Rewinds) (hmiss : ¬ first cursor.peek → part.Misses cursor)
    (hslides : ¬ first cursor.peek → place.Slides arrival cursor.peek)
    (hstep : first cursor.peek → place.step cursor.peek ≠ none)
    (hsome : ∀ {tokens value}, spells tokens value → spellsOption tokens (some value))
    (hnone : spellsOption [] none) :
    Outcome place arrival spellsOption Anything (fun next => turns next ∨ first next.peek) cursor
      (optional part cursor) := by
  by_cases hfirst : first cursor.peek
  · have houtcome := hpart hfirst
    unfold optional
    cases hfound : part cursor with
    | ok value next =>
      rw [hfound] at houtcome
      cases houtcome with
      | read hreads hspells hrun hslides hclean hstops =>
        exact .read hreads (hsome hspells) hrun hslides hclean hstops
      | turned hreads hspells hstuck hovertaken hturns =>
        exact .turned hreads (hsome hspells) hstuck hovertaken (.inl hturns)
    | error error next =>
      rw [hfound] at houtcome
      have hsame := houtcome.sameSpot (hrewinds _ _ _ hfound)
      rw [← hsame.peek_eq] at hfirst
      exact houtcome.given_up hvalid hsame (hstep (hsame.peek_eq ▸ hfirst)) hnone (.inr hfirst)
  · obtain ⟨error, hblames, heq⟩ := hmiss hfirst
    simp only [optional, heq]
    exact .passed_over hvalid hclean hblames (hslides hfirst) hnone trivial

/-- A choice comes to what the one alternative comes to that does not miss. -/
theorem outcome_choice (expected : String) (front : List (Rule α)) (rule : Rule α)
    (back : List (Rule α)) (hvalid : cursor.Valid) (hclean : cursor.Clean)
    (hmiss : ∀ other ∈ front ++ back, ∀ spot : Cursor, spot.peek = cursor.peek →
      other.Misses spot)
    (hrule : ∀ spot : Cursor, spot.SameSpot cursor → spot.Clean →
      Outcome place arrival spells stops turns spot (rule spot))
    (hrewinds : rule.Rewinds) (hstep : place.step cursor.peek ≠ none) :
    Outcome place arrival spells stops turns cursor
      (choice expected (front ++ rule :: back) cursor) := by
  obtain ⟨spot, hskip, hspot, hspotClean, _⟩ := firstOf_of_misses cursor
    (fun other hmem => hmiss other (List.mem_append_left back hmem)) (rule :: back)
  have houtcome := hrule spot hspot (hspotClean hclean)
  simp only [choice, hskip, firstOf]
  cases hfound : rule spot with
  | ok value next =>
    rw [hfound] at houtcome
    exact houtcome.of_sameSpot hspot.symm
  | error error next =>
    rw [hfound] at houtcome
    cases houtcome with
    | failed htokens hstuck =>
      have hsame : next.SameSpot spot := ⟨htokens, hrewinds _ _ _ hfound⟩
      have hovertaken := hstuck.overtaken hsame (hspot.valid hvalid) (by rwa [hspot.peek_eq])
      obtain ⟨last, hlast, hlastSame, _, hrecord⟩ := firstOf_of_misses next
        (fun other hmem other' heq => hmiss other (List.mem_append_right front hmem) other'
          (heq.trans (hsame.trans hspot).peek_eq)) []
      rw [List.append_nil] at hlast
      have hkept : last.record (.unexpected expected last.peek) = next := by
        rw [hlastSame.peek_eq, hrecord _ (SyntaxError.blames_unexpected ..), hovertaken.record_eq]
      simp only [hlast, firstOf, fail, hkept]
      exact .failed (htokens.trans hspot.tokens_eq) (hstuck.of_sameSpot hspot.symm)

/-- A repetition of parts that lead from a place back to it. It ends in front of a token that starts
no part, or it turns back in front of a part behind whose first token it was stuck, or where its
last part turned back. In the first two cases the part was tried there and given up. -/
theorem outcome_many (first : Token → Prop) {part : Rule α}
    (hpart : ∀ spot : Cursor, spot.Valid → spot.Clean → first spot.peek →
      Outcome place place spells Anything turns spot (part spot))
    (hrewinds : part.Rewinds)
    (hmiss : ∀ spot : Cursor, ¬ first spot.peek → part.Misses spot)
    (hstarts : ∀ {tokens value}, spells tokens value →
      ∃ token more, tokens = token :: more ∧ first token)
    (hturns : ∀ next, turns next → ¬ first next.peek)
    (hstep : ∀ token, first token → place.step token ≠ none)
    (hvalid : cursor.Valid) (hclean : cursor.Clean) :
    Outcome place place (Repeated spells) (fun next => ¬ first next.peek ∧ part.GivenUp next)
      (fun next => turns next ∨ first next.peek ∧ part.GivenUp next) cursor
      (many part cursor) := by
  induction hremaining : cursor.remaining using Nat.strongRecOn generalizing cursor with
  | ind remaining ih =>
    by_cases hfirst : first cursor.peek
    · have houtcome := hpart cursor hvalid hclean hfirst
      cases hfound : part cursor with
      | ok value next =>
        rw [hfound] at houtcome
        cases houtcome with
        | @read tokens _ _ stop hreads hspells hrun hslides hnextClean _ =>
          obtain ⟨token, more, rfl, _⟩ := hstarts hspells
          have hprogress := hreads.remaining_lt hvalid
          obtain ⟨values, last, hmany, hall⟩ := many_of_ok hfound hprogress
          have hrest := ih _ (hremaining ▸ hprogress) hreads.valid hnextClean rfl
          rw [hmany] at hrest
          rw [hall]
          apply Outcome.behind hreads hrun hslides
          exact hrest.ok_map (fun _ hvalues => .more hspells hvalues)
        | @turned tokens _ _ hreads hspells hstuck hovertaken hnextTurns =>
          obtain ⟨token, more, rfl, _⟩ := hstarts hspells
          obtain ⟨values, last, hmany, hall⟩ := many_of_ok hfound (hreads.remaining_lt hvalid)
          obtain ⟨error, hnext⟩ := (hmiss next (hturns _ hnextTurns)).of_overtaken hovertaken
          rw [many_of_error hnext] at hmany
          cases hmany
          rw [hall]
          have hone : Repeated spells ((token :: more) ++ []) [value] := .more hspells .none
          rw [List.append_nil] at hone
          exact .turned hreads hone hstuck hovertaken (.inl hnextTurns)
      | error error next =>
        rw [hfound] at houtcome
        rw [many_of_error hfound]
        have hsame := houtcome.sameSpot (hrewinds _ _ _ hfound)
        exact houtcome.given_up hvalid hsame (hstep _ hfirst) .none
          (.inr ⟨hsame.peek_eq ▸ hfirst, cursor, error, hfound, hsame⟩)
    · obtain ⟨error, hblames, heq⟩ := hmiss cursor hfirst
      rw [many_of_error heq]
      refine .passed_over hvalid hclean hblames (.refl ..) .none ⟨?_, givenUp_record heq⟩
      rwa [(Cursor.sameSpot_record cursor error).peek_eq]

end Rule

end SchemaGen
