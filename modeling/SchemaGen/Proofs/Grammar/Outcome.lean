import SchemaGen.Proofs.Grammar.Acceptance
import SchemaGen.Proofs.Grammar.Place

namespace SchemaGen

namespace Grammar

/-- From a place on, the tokens ahead of a cursor lead as far as the remembered position and no
further, and the remembered complaint is the one that belongs there. No document could have ended
there either. -/
inductive Stuck (place : Place) (cursor : Cursor) : Option (Nat × SyntaxError) → Prop
  | mk {read later : List Token} {token : Token} {stop : Place} {pos : Nat}
      (hrun : place.run read = some stop) (hrest : cursor.rest = read ++ token :: later)
      (hahead : Cursor.ahead cursor.tokens pos = token :: later)
      (hstep : stop.step token = none) (hinner : ¬ stop.Final) :
      Stuck place cursor (some (pos, stop.complaint token))

/-- A place that refuses the current token is stuck once its complaint is recorded. -/
theorem stuck_record {place : Place} {cursor : Cursor} (hvalid : cursor.Valid)
    (hclean : cursor.Clean) (hstep : place.step cursor.peek = none ∧ ¬ place.Final) :
    Stuck place cursor (cursor.record (place.complaint cursor.peek)).furthest := by
  rw [hclean.furthest_record (place.blames_complaint _)]
  exact .mk (Place.run_nil place) hvalid.rest_eq hvalid.rest_eq hstep.1 hstep.2

/-- Being stuck further on is being stuck. -/
theorem Stuck.behind {place stop middle : Place} {cursor reached : Cursor} {tokens : List Token}
    {furthest : Option (Nat × SyntaxError)} (hreads : cursor.Reads tokens reached)
    (hrun : place.run tokens = some stop) (hslides : stop.Slides middle reached.peek)
    (hstuck : Stuck middle reached furthest) : Stuck place cursor furthest := by
  obtain @⟨read, later, token, last, pos, hlast, hrest, hahead, hstep, hinner⟩ := hstuck
  rw [hreads.sameTokens] at hahead
  cases read with
  | nil =>
    obtain rfl : middle = last := by simpa using hlast
    have hpeek := hreads.valid.peek_eq hrest
    rw [hpeek] at hslides
    rw [← hslides.complaint_eq hstep]
    exact .mk hrun (by rw [hreads.rest_eq, hrest]; rfl) hahead
      (hslides.step_eq.trans hstep) (mt hslides.final_iff.mp hinner)
  | cons first read =>
    have hpeek := hreads.valid.peek_eq hrest
    rw [hpeek] at hslides
    have hlonger : place.run (tokens ++ first :: read) = some last := by
      rw [Place.run_append, hrun, Option.bind_some, hslides.run_cons_eq, hlast]
    exact .mk hlonger (by rw [hreads.rest_eq, hrest, List.append_assoc]) hahead hstep hinner

/-- Where the current token leads on, whoever is stuck is stuck further on. -/
theorem Stuck.overtaken {place : Place} {cursor next : Cursor}
    (hstuck : Stuck place cursor next.furthest) (hsame : next.SameSpot cursor)
    (hvalid : cursor.Valid) (hstep : place.step cursor.peek ≠ none) : next.Overtaken := by
  generalize hfurthest : next.furthest = furthest at hstuck
  obtain @⟨read, later, token, last, pos, hlast, hrest, hahead, hnone, _⟩ := hstuck
  refine ⟨pos, _, hfurthest, ?_⟩
  cases read with
  | nil =>
    obtain rfl : place = last := by simpa using hlast
    rw [hvalid.peek_eq hrest] at hstep
    exact absurd hnone hstep
  | cons first read =>
    rw [hsame.pos_eq]
    have hshorter : (Cursor.ahead cursor.tokens pos).length < cursor.rest.length := by
      rw [hahead, hrest, List.length_append, List.length_cons, List.length_cons]
      omega
    exact Cursor.pos_lt_of_length_ahead_lt hshorter

theorem Stuck.of_sameSpot {place : Place} {cursor other : Cursor}
    {furthest : Option (Nat × SyntaxError)} (hstuck : Stuck place other furthest)
    (hsame : cursor.SameSpot other) : Stuck place cursor furthest := by
  obtain ⟨hrun, hrest, hahead, hstep, hinner⟩ := hstuck
  rw [← hsame.tokens_eq] at hahead
  exact .mk hrun (hsame.rest_eq.trans hrest) hahead hstep hinner

variable {α β : Type}

/-- What a rule may come to when it is tried at a cursor that stands at a place. It reads something
and arrives at the next place, or some token on the way leads nowhere. In the second case that
token's position and the complaint about it are what the cursor remembers, even where an optional
part or a repetition hides the failure and goes back. -/
inductive Outcome (place arrival : Place) (spells : List Token → α → Prop)
    (stops turns : Cursor → Prop) (cursor : Cursor) : EStateM.Result SyntaxError Cursor α → Prop
  /-- It reads something and arrives at the target, where it may stop. -/
  | read {tokens : List Token} {value : α} {next : Cursor} {stop : Place}
      (hreads : cursor.Reads tokens next) (hspells : spells tokens value)
      (hrun : place.run tokens = some stop) (hslides : stop.Slides arrival next.peek)
      (hclean : next.Clean) (hstops : stops next) :
      Outcome place arrival spells stops turns cursor (.ok value next)
  /-- It reads something and turns back at a token behind which it was stuck. -/
  | turned {tokens : List Token} {value : α} {next : Cursor}
      (hreads : cursor.Reads tokens next) (hspells : spells tokens value)
      (hstuck : Stuck place cursor next.furthest) (hovertaken : next.Overtaken)
      (hturns : turns next) :
      Outcome place arrival spells stops turns cursor (.ok value next)
  /-- It fails because it was stuck. -/
  | failed {error : SyntaxError} {next : Cursor} (hsame : next.tokens = cursor.tokens)
      (hstuck : Stuck place cursor next.furthest) :
      Outcome place arrival spells stops turns cursor (.error error next)

/-- Nothing turns the rule back. -/
def Nothing (_ : Cursor) : Prop := False

namespace Outcome

variable {place stop middle arrival : Place} {spells : List Token → α → Prop}
  {stops turns : Cursor → Prop} {cursor reached : Cursor}

/-- An outcome further on is an outcome. -/
theorem behind {tokens : List Token} {result : EStateM.Result SyntaxError Cursor α}
    (hreads : cursor.Reads tokens reached) (hrun : place.run tokens = some stop)
    (hslides : stop.Slides middle reached.peek)
    (houtcome : Outcome middle arrival (fun more value => spells (tokens ++ more) value) stops turns
      reached result) :
    Outcome place arrival spells stops turns cursor result := by
  cases houtcome with
  | @read more value next last hmore hspells hlast hlastSlides hclean hstops =>
    have hboth := hreads.trans hmore
    cases more with
    | nil =>
      obtain rfl : middle = last := by simpa using hlast
      have hpeek : reached.peek = next.peek :=
        hreads.valid.peek_eq (hmore.rest_eq.trans hmore.valid.rest_eq)
      rw [hpeek] at hslides
      exact .read hboth hspells (by rwa [List.append_nil]) (hslides.trans hlastSlides) hclean hstops
    | cons first more =>
      rw [hreads.valid.peek_eq hmore.rest_eq] at hslides
      have hlonger : place.run (tokens ++ first :: more) = some last := by
        rw [Place.run_append, hrun, Option.bind_some, hslides.run_cons_eq, hlast]
      exact .read hboth hspells hlonger hlastSlides hclean hstops
  | turned hmore hspells hstuck hovertaken hturns =>
    exact .turned (hreads.trans hmore) hspells (hstuck.behind hreads hrun hslides) hovertaken hturns
  | failed hsame hstuck =>
    exact .failed (hsame.trans hreads.sameTokens) (hstuck.behind hreads hrun hslides)

theorem of_sameSpot {other : Cursor} {result : EStateM.Result SyntaxError Cursor α}
    (houtcome : Outcome place arrival spells stops turns other result)
    (hsame : cursor.SameSpot other) : Outcome place arrival spells stops turns cursor result := by
  cases houtcome with
  | read hreads hspells hrun hslides hclean hstops =>
    exact .read (hsame.reads hreads) hspells hrun hslides hclean hstops
  | turned hreads hspells hstuck hovertaken hturns =>
    exact .turned (hsame.reads hreads) hspells (hstuck.of_sameSpot hsame) hovertaken hturns
  | failed htokens hstuck =>
    exact .failed (htokens.trans hsame.tokens_eq.symm) (hstuck.of_sameSpot hsame)

theorem mono {result : EStateM.Result SyntaxError Cursor α} {stopsMore turnsMore : Cursor → Prop}
    (houtcome : Outcome place arrival spells stops turns cursor result)
    (hstops : ∀ next, stops next → stopsMore next)
    (hturns : ∀ next, turns next → turnsMore next) :
    Outcome place arrival spells stopsMore turnsMore cursor result := by
  cases houtcome with
  | read hreads hspells hrun hslides hclean hnext =>
    exact .read hreads hspells hrun hslides hclean (hstops _ hnext)
  | turned hreads hspells hstuck hovertaken hnext =>
    exact .turned hreads hspells hstuck hovertaken (hturns _ hnext)
  | failed htokens hstuck => exact .failed htokens hstuck

/-- Arriving at a place that is as good as another one wherever the rule may stop. -/
theorem slide {result : EStateM.Result SyntaxError Cursor α} {other : Place}
    (houtcome : Outcome place arrival spells stops turns cursor result)
    (hother : ∀ next, stops next → arrival.Slides other next.peek) :
    Outcome place other spells stops turns cursor result := by
  cases houtcome with
  | read hreads hspells hrun hslides hclean hnext =>
    exact .read hreads hspells hrun (hslides.trans (hother _ hnext)) hclean hnext
  | turned hreads hspells hstuck hovertaken hnext =>
    exact .turned hreads hspells hstuck hovertaken hnext
  | failed htokens hstuck => exact .failed htokens hstuck

theorem respell {result : EStateM.Result SyntaxError Cursor α}
    {spellsResult : List Token → α → Prop}
    (houtcome : Outcome place arrival spells stops turns cursor result)
    (hresult : ∀ tokens value, spells tokens value → spellsResult tokens value) :
    Outcome place arrival spellsResult stops turns cursor result := by
  cases houtcome with
  | read hreads hspells hrun hslides hclean hnext =>
    exact .read hreads (hresult _ _ hspells) hrun hslides hclean hnext
  | turned hreads hspells hstuck hovertaken hnext =>
    exact .turned hreads (hresult _ _ hspells) hstuck hovertaken hnext
  | failed htokens hstuck => exact .failed htokens hstuck

/-- The same success under another value. -/
theorem ok_map {value : α} {next : Cursor} {result : β} {spellsResult : List Token → β → Prop}
    (houtcome : Outcome place arrival spells stops turns cursor (.ok value next))
    (hresult : ∀ tokens, spells tokens value → spellsResult tokens result) :
    Outcome place arrival spellsResult stops turns cursor (.ok result next) := by
  cases houtcome with
  | read hreads hspells hrun hslides hclean hstops =>
    exact .read hreads (hresult _ hspells) hrun hslides hclean hstops
  | turned hreads hspells hstuck hovertaken hturns =>
    exact .turned hreads (hresult _ hspells) hstuck hovertaken hturns

theorem map {first : Rule α} {f : α → β} {spellsResult : List Token → β → Prop}
    (hfirst : Outcome place arrival spells stops turns cursor (first cursor))
    (hresult : ∀ {tokens value}, spells tokens value → spellsResult tokens (f value)) :
    Outcome place arrival spellsResult stops turns cursor
      ((first >>= fun value => pure (f value)) cursor) := by
  rw [Rule.bind_apply]
  cases hfound : first cursor with
  | ok value next =>
    rw [hfound] at hfirst
    exact hfirst.ok_map (fun _ => hresult)
  | error error next =>
    rw [hfound] at hfirst
    cases hfirst with
    | failed hsame hstuck => exact .failed hsame hstuck

/-- Two rules in a row. Where the first one turned back, the second one has to miss. -/
theorem bind {first : Rule α} {next : α → Rule β} {spellsResult : List Token → β → Prop}
    {stopsResult turnsResult : Cursor → Prop}
    (hfirst : Outcome place middle spells stops turns cursor (first cursor))
    (hnext : ∀ {tokens value reached}, cursor.Reads tokens reached → reached.Clean →
      spells tokens value → stops reached →
      Outcome middle arrival (fun more result => spellsResult (tokens ++ more) result) stopsResult
        turnsResult reached (next value reached))
    (hturn : ∀ value (reached : Cursor), turns reached → (next value).Misses reached) :
    Outcome place arrival spellsResult stopsResult turnsResult cursor ((first >>= next) cursor) := by
  rw [Rule.bind_apply]
  cases hfound : first cursor with
  | ok value reached =>
    rw [hfound] at hfirst
    cases hfirst with
    | read hreads hspells hrun hslides hclean hstops =>
      exact (hnext hreads hclean hspells hstops).behind hreads hrun hslides
    | turned hreads hspells hstuck hovertaken hturns =>
      obtain ⟨error, heq⟩ := (hturn value reached hturns).of_overtaken hovertaken
      simp only [heq]
      exact .failed hreads.sameTokens hstuck
  | error error failed =>
    rw [hfound] at hfirst
    cases hfirst with
    | failed hsame hstuck => exact .failed hsame hstuck

/-- Two rules in a row, the first of which never turns back. -/
theorem bind_sure {first : Rule α} {next : α → Rule β} {spellsResult : List Token → β → Prop}
    {stopsResult turnsResult : Cursor → Prop}
    (hfirst : Outcome place middle spells stops Nothing cursor (first cursor))
    (hnext : ∀ {tokens value reached}, cursor.Reads tokens reached → reached.Clean →
      spells tokens value → stops reached →
      Outcome middle arrival (fun more result => spellsResult (tokens ++ more) result) stopsResult
        turnsResult reached (next value reached)) :
    Outcome place arrival spellsResult stopsResult turnsResult cursor ((first >>= next) cursor) :=
  hfirst.bind hnext (fun _ _ hturned => hturned.elim)

theorem sequence {parts : Location → Rule α}
    (hparts : Outcome place arrival spells stops turns cursor (parts cursor.loc cursor)) :
    Outcome place arrival spells stops turns cursor (Rule.sequence parts cursor) := by
  unfold Rule.sequence
  cases hfound : parts cursor.loc cursor with
  | ok value next =>
    rw [hfound] at hparts
    exact hparts
  | error error next =>
    rw [hfound] at hparts
    cases hparts with
    | failed hsame hstuck => exact .failed hsame hstuck

/-- Doing nothing, in front of a token that makes the place as good as the one to arrive at. -/
theorem pure {value : α} (hvalid : cursor.Valid) (hclean : cursor.Clean) (hspells : spells [] value)
    (hslides : place.Slides arrival cursor.peek) (hstops : stops cursor) :
    Outcome place arrival spells stops turns cursor ((Pure.pure value : Rule α) cursor) :=
  .read hvalid.reads_self hspells (Place.run_nil place) hslides hclean hstops

/-- Failing where the place refuses the current token, with the complaint that belongs there. -/
theorem fail {error : SyntaxError} (hvalid : cursor.Valid) (hclean : cursor.Clean)
    (hstep : place.step cursor.peek = none ∧ ¬ place.Final)
    (herror : error = place.complaint cursor.peek) :
    Outcome place arrival spells stops turns cursor (Rule.fail error cursor) := by
  subst herror
  exact .failed (Cursor.tokens_record ..) (stuck_record hvalid hclean hstep)

/-- Taking a token that leads to the place to arrive at. -/
theorem take (hvalid : cursor.Valid) (hclean : cursor.Clean)
    (hstep : place.step cursor.peek = some arrival) :
    Outcome place arrival (fun tokens found => tokens = [cursor.peek] ∧ found = cursor.peek)
      Rule.Anything Nothing cursor (Rule.take cursor) := by
  have hkind : cursor.peek.kind ≠ .eof := by
    intro heof
    rw [place.step_eq_none (.inl heof)] at hstep
    cases hstep
  exact .read (hvalid.reads_advance hkind) ⟨rfl, rfl⟩ (by simp [hstep]) (.refl ..)
    (hclean.advance hvalid hkind) trivial

theorem sameSpot {error : SyntaxError} {next : Cursor}
    (hfailed : Outcome place arrival spells stops turns cursor (.error error next))
    (hpos : next.pos = cursor.pos) : next.SameSpot cursor := by
  cases hfailed with
  | failed htokens _ => exact ⟨htokens, hpos⟩

/-- A part that fails behind its first token, tried by somebody who can do without it. -/
theorem given_up {error : SyntaxError} {value : β} {spellsResult : List Token → β → Prop}
    {stopsResult turnsResult : Cursor → Prop} {next : Cursor} {other : Place}
    (hfailed : Outcome place arrival spells stops turns cursor (.error error next))
    (hvalid : cursor.Valid) (hsame : next.SameSpot cursor)
    (hstep : place.step cursor.peek ≠ none) (hnone : spellsResult [] value)
    (hturns : turnsResult next) :
    Outcome place other spellsResult stopsResult turnsResult cursor (.ok value next) := by
  cases hfailed with
  | failed htokens hstuck =>
    exact .turned ⟨hsame.valid hvalid, htokens, hsame.rest_eq.symm⟩ hnone hstuck
      (hstuck.overtaken hsame hvalid hstep) hturns

/-- A part that misses, tried by somebody who can do without it. -/
theorem passed_over {error : SyntaxError} {value : α} (hvalid : cursor.Valid)
    (hclean : cursor.Clean) (hblames : error.Blames cursor.peek)
    (hslides : place.Slides arrival cursor.peek) (hnone : spells [] value)
    (hstops : stops (cursor.record error)) :
    Outcome place arrival spells stops turns cursor (.ok value (cursor.record error)) := by
  have hsame := Cursor.sameSpot_record cursor error
  rw [← hsame.peek_eq] at hslides
  exact .read ⟨hsame.valid hvalid, hsame.tokens_eq, hsame.rest_eq.symm⟩ hnone
    (Place.run_nil place) hslides (hclean.record hblames) hstops

end Outcome

end Grammar

end SchemaGen
