import SchemaGen.Proofs.Grammar.Document

namespace SchemaGen

namespace Cursor

/-- The next cursor stands on a significant token of the same list, no earlier than this one. -/
structure Onward (cursor next : Cursor) : Prop where
  valid : next.Valid
  tokens_eq : next.tokens = cursor.tokens
  pos_le : cursor.pos ≤ next.pos

theorem Onward.trans {cursor middle next : Cursor} (hfirst : cursor.Onward middle)
    (hsecond : middle.Onward next) : cursor.Onward next where
  valid := hsecond.valid
  tokens_eq := hsecond.tokens_eq.trans hfirst.tokens_eq
  pos_le := Nat.le_trans hfirst.pos_le hsecond.pos_le

theorem SameSpot.onward {cursor next : Cursor} (hsame : next.SameSpot cursor)
    (hvalid : cursor.Valid) : cursor.Onward next where
  valid := hsame.valid hvalid
  tokens_eq := hsame.tokens_eq
  pos_le := Nat.le_of_eq hsame.pos_eq.symm

theorem Valid.pos_lt {cursor : Cursor} (hvalid : cursor.Valid) :
    cursor.pos < cursor.tokens.size := by
  obtain ⟨token, hget, _⟩ := hvalid.settled
  exact (Array.getElem?_eq_some_iff.mp hget).1

/-- The token that a valid cursor looks at is there. -/
theorem Valid.getElem?_pos {cursor : Cursor} (hvalid : cursor.Valid) :
    cursor.tokens[cursor.pos]? = some cursor.peek := by
  simp [peek, hvalid.pos_lt]

theorem Valid.pos_lt_advance {cursor : Cursor} (hvalid : cursor.Valid)
    (hkind : cursor.peek.kind ≠ .eof) : cursor.pos < cursor.advance.pos :=
  (hvalid.reads_advance hkind).pos_lt

theorem Valid.onward_advance {cursor : Cursor} (hvalid : cursor.Valid) :
    cursor.Onward cursor.advance := by
  by_cases hkind : cursor.peek.kind = .eof
  · have hstays : cursor.advance = cursor := if_pos hkind
    rw [hstays]
    exact ⟨hvalid, rfl, Nat.le_refl _⟩
  · have hreads := hvalid.reads_advance hkind
    exact ⟨hreads.valid, hreads.sameTokens, Nat.le_of_lt (hvalid.pos_lt_advance hkind)⟩

/-- Going on is leaving fewer tokens behind. -/
theorem Onward.remaining_lt_iff {cursor next : Cursor} (honward : cursor.Onward next) :
    next.remaining < cursor.remaining ↔ next.pos ≠ cursor.pos := by
  have hpos := honward.pos_le
  have hinside := honward.valid.pos_lt
  rw [honward.tokens_eq] at hinside
  rw [remaining, remaining, honward.tokens_eq]
  omega

end Cursor

namespace Rule

variable {α β : Type}

/-- A result that keeps the contract at a cursor. -/
inductive Kept (cursor : Cursor) : EStateM.Result SyntaxError Cursor α → Prop
  | ok {value : α} {next : Cursor} (honward : cursor.Onward next) : Kept cursor (.ok value next)
  | error {error : SyntaxError} {next : Cursor} (hvalid : next.Valid)
      (hsame : next.SameSpot cursor) : Kept cursor (.error error next)

/-- From every valid cursor the rule goes on or stays: it keeps the list, it ends on a significant
token of it, on success no earlier than it started, and on failure where it started. -/
def Contract (rule : Rule α) : Prop :=
  ∀ cursor : Cursor, cursor.Valid → Kept cursor (rule cursor)

/-- Whenever the rule succeeds, it reads at least one token. -/
def Consumes (rule : Rule α) : Prop :=
  ∀ (cursor next : Cursor) (value : α), cursor.Valid → rule cursor = .ok value next →
    cursor.pos < next.pos

theorem Contract.onward {rule : Rule α} (hrule : rule.Contract) {cursor next : Cursor} {value : α}
    (hvalid : cursor.Valid) (hok : rule cursor = .ok value next) : cursor.Onward next := by
  have hkept := hrule cursor hvalid
  rw [hok] at hkept
  cases hkept with
  | ok honward => exact honward

theorem Contract.sameSpot {rule : Rule α} (hrule : rule.Contract) {cursor next : Cursor}
    {error : SyntaxError} (hvalid : cursor.Valid) (herror : rule cursor = .error error next) :
    next.SameSpot cursor := by
  have hkept := hrule cursor hvalid
  rw [herror] at hkept
  cases hkept with
  | error _ hsame => exact hsame

theorem Kept.of_sameSpot {cursor next : Cursor} {error : SyntaxError} (hvalid : cursor.Valid)
    (hsame : next.SameSpot cursor) :
    Kept cursor (.error error next : EStateM.Result SyntaxError Cursor α) :=
  .error (hsame.valid hvalid) hsame

/-- What becomes of several parts in a row: they go on as long as they succeed. When one of them
fails the ones before it have been read, but the list is still the same. -/
inductive Moved (cursor : Cursor) : EStateM.Result SyntaxError Cursor α → Prop
  | ok {value : α} {next : Cursor} (honward : cursor.Onward next) : Moved cursor (.ok value next)
  | error {error : SyntaxError} {next : Cursor} (htokens : next.tokens = cursor.tokens) :
      Moved cursor (.error error next)

theorem Moved.of_onward {cursor reached : Cursor} {result : EStateM.Result SyntaxError Cursor α}
    (honward : cursor.Onward reached) (hmoved : Moved reached result) : Moved cursor result := by
  cases hmoved with
  | ok hnext => exact .ok (honward.trans hnext)
  | error htokens => exact .error (htokens.trans honward.tokens_eq)

theorem Kept.moved {cursor : Cursor} {result : EStateM.Result SyntaxError Cursor α}
    (hkept : Kept cursor result) : Moved cursor result := by
  cases hkept with
  | ok honward => exact .ok honward
  | error _ hsame => exact .error hsame.tokens_eq

theorem contract_fail (error : SyntaxError) : (fail error : Rule α).Contract :=
  fun cursor hvalid => .of_sameSpot hvalid (Cursor.sameSpot_record cursor error)

theorem contract_token (kind : TokenKind) : (token kind).Contract := by
  intro cursor hvalid
  unfold token
  split
  · exact .ok hvalid.onward_advance
  · exact contract_fail _ cursor hvalid

theorem contract_keyword (word : String) : (keyword word).Contract := by
  intro cursor hvalid
  unfold keyword
  split
  · exact .ok hvalid.onward_advance
  · exact contract_fail _ cursor hvalid

theorem contract_closing (kind : TokenKind) : (closing kind).Contract := by
  intro cursor hvalid
  unfold closing
  split
  · exact .ok hvalid.onward_advance
  · split
    · exact contract_fail _ cursor hvalid
    · exact contract_fail _ cursor hvalid

theorem contract_unopened (kind : TokenKind) : (unopened kind).Contract := by
  intro cursor hvalid
  unfold unopened
  split
  · exact contract_fail _ cursor hvalid
  · exact .ok ⟨hvalid, rfl, Nat.le_refl _⟩

theorem contract_endOfInput : endOfInput.Contract := by
  intro cursor hvalid
  unfold endOfInput
  split
  · exact .ok hvalid.onward_advance
  · have hsame : cursor.takeFurthest.2.SameSpot cursor := ⟨rfl, rfl⟩
    exact .of_sameSpot hvalid hsame

theorem Contract.map {rule : Rule α} (hrule : rule.Contract) (f : α → β) :
    (rule >>= fun value => pure (f value)).Contract := by
  intro cursor hvalid
  rw [bind_apply]
  cases hfound : rule cursor with
  | ok value next => exact .ok (hrule.onward hvalid hfound)
  | error error next => exact .of_sameSpot hvalid (hrule.sameSpot hvalid hfound)

theorem Contract.optional {part : Rule α} (hpart : part.Contract) : (optional part).Contract := by
  intro cursor hvalid
  unfold Rule.optional
  cases hfound : part cursor with
  | ok value next => exact .ok (hpart.onward hvalid hfound)
  | error error next => exact .ok ((hpart.sameSpot hvalid hfound).onward hvalid)

theorem exists_of_firstOf {alternatives : List (Rule α)}
    (hall : ∀ rule ∈ alternatives, rule.Contract) {cursor next : Cursor} {value : α}
    (hvalid : cursor.Valid) (hfirst : firstOf alternatives cursor = (some value, next)) :
    ∃ rule ∈ alternatives, ∃ spot : Cursor, spot.SameSpot cursor ∧ rule spot = .ok value next := by
  induction alternatives generalizing cursor with
  | nil => cases hfirst
  | cons rule alternatives ih =>
    rw [List.forall_mem_cons] at hall
    unfold firstOf at hfirst
    cases hfound : rule cursor with
    | ok found reached =>
      rw [hfound] at hfirst
      cases hfirst
      exact ⟨rule, .head _, cursor, ⟨rfl, rfl⟩, hfound⟩
    | error error failed =>
      rw [hfound] at hfirst
      have hsame := hall.1.sameSpot hvalid hfound
      obtain ⟨other, hmem, spot, hspot, hok⟩ := ih hall.2 (hsame.valid hvalid) hfirst
      exact ⟨other, .tail _ hmem, spot, hspot.trans hsame, hok⟩

theorem sameSpot_of_firstOf {alternatives : List (Rule α)}
    (hall : ∀ rule ∈ alternatives, rule.Contract) {cursor next : Cursor} (hvalid : cursor.Valid)
    (hfirst : firstOf alternatives cursor = (none, next)) : next.SameSpot cursor := by
  induction alternatives generalizing cursor with
  | nil =>
    cases hfirst
    exact ⟨rfl, rfl⟩
  | cons rule alternatives ih =>
    rw [List.forall_mem_cons] at hall
    unfold firstOf at hfirst
    cases hfound : rule cursor with
    | ok found reached =>
      rw [hfound] at hfirst
      cases hfirst
    | error error failed =>
      rw [hfound] at hfirst
      have hsame := hall.1.sameSpot hvalid hfound
      exact (ih hall.2 (hsame.valid hvalid) hfirst).trans hsame

theorem contract_choice (expected : String) {alternatives : List (Rule α)}
    (hall : ∀ rule ∈ alternatives, rule.Contract) : (choice expected alternatives).Contract := by
  intro cursor hvalid
  unfold choice
  split
  · rename_i value next hfirst
    obtain ⟨rule, hmem, spot, hspot, hok⟩ := exists_of_firstOf hall hvalid hfirst
    exact .ok ((hspot.onward hvalid).trans ((hall rule hmem).onward (hspot.valid hvalid) hok))
  · rename_i next hfirst
    have hsame := sameSpot_of_firstOf hall hvalid hfirst
    exact .of_sameSpot hvalid ((Cursor.sameSpot_record next _).trans hsame)

/-- Parts one after the other, each of which keeps the contract. What follows a part may depend on
what the part gives. -/
inductive InOrder : {α : Type} → Rule α → Prop
  | done {α : Type} (value : α) : InOrder (pure value)
  | last {α : Type} {part : Rule α} (hpart : part.Contract) : InOrder part
  | next {α β : Type} {part : Rule α} {rest : α → Rule β} (hpart : part.Contract)
      (hrest : ∀ value, InOrder (rest value)) : InOrder (part >>= rest)

theorem InOrder.moved {parts : Rule α} (hparts : InOrder parts) {cursor : Cursor}
    (hvalid : cursor.Valid) : Moved cursor (parts cursor) := by
  induction hparts generalizing cursor with
  | done value => exact .ok ⟨hvalid, rfl, Nat.le_refl _⟩
  | last hpart => exact (hpart cursor hvalid).moved
  | @next _ _ part rest hpart _ ih =>
    rw [bind_apply]
    cases hfound : part cursor with
    | error error failed => exact .error (hpart.sameSpot hvalid hfound).tokens_eq
    | ok value reached =>
      have honward := hpart.onward hvalid hfound
      exact (ih value honward.valid).of_onward honward

theorem eq_ok_of_sequence {parts : Location → Rule α} {cursor next : Cursor} {value : α}
    (hok : sequence parts cursor = .ok value next) : parts cursor.loc cursor = .ok value next := by
  unfold sequence at hok
  split at hok
  · rename_i hfound
    rw [hfound]
    exact hok
  · cases hok

theorem contract_sequence {parts : Location → Rule α} (hparts : ∀ loc, InOrder (parts loc)) :
    (sequence parts).Contract := by
  intro cursor hvalid
  have hmoved := (hparts cursor.loc).moved hvalid
  unfold sequence
  cases hfound : parts cursor.loc cursor with
  | ok value next =>
    rw [hfound] at hmoved
    cases hmoved with
    | ok honward => exact .ok honward
  | error error next =>
    rw [hfound] at hmoved
    cases hmoved with
    | error htokens =>
      have hsame : (next.reset cursor.pos).SameSpot cursor := ⟨htokens, rfl⟩
      exact .of_sameSpot hvalid hsame

/-- The run of a repetition: parts as long as they succeed and move on. -/
inductive Repeats (part : Rule α) : Cursor → List α → Cursor → Prop
  /-- The part fails. -/
  | ended {cursor next : Cursor} {error : SyntaxError} (hpart : part cursor = .error error next) :
      Repeats part cursor [] next
  /-- The part succeeds without reading anything. -/
  | idle {cursor next : Cursor} {value : α} (hpart : part cursor = .ok value next)
      (hpos : next.pos = cursor.pos) : Repeats part cursor [value] next
  | again {cursor next last : Cursor} {value : α} {values : List α}
      (hpart : part cursor = .ok value next) (hpos : next.pos ≠ cursor.pos)
      (hmore : Repeats part next values last) : Repeats part cursor (value :: values) last

theorem Repeats.onward {part : Rule α} (hpart : part.Contract) {cursor last : Cursor}
    {values : List α} (hrepeats : Repeats part cursor values last) (hvalid : cursor.Valid) :
    cursor.Onward last := by
  induction hrepeats with
  | ended herror => exact (hpart.sameSpot hvalid herror).onward hvalid
  | idle hok _ => exact hpart.onward hvalid hok
  | again hok _ _ ih =>
    have honward := hpart.onward hvalid hok
    exact honward.trans (ih honward.valid)

/-- Repeating a part that keeps the contract comes to an end. -/
theorem Contract.repeats {part : Rule α} (hpart : part.Contract) {cursor : Cursor}
    (hvalid : cursor.Valid) :
    ∃ values last, many part cursor = .ok values last ∧ Repeats part cursor values last := by
  induction hremaining : cursor.remaining using Nat.strongRecOn generalizing cursor with
  | ind remaining ih =>
    cases hfound : part cursor with
    | error error next => exact ⟨[], next, many_of_error hfound, .ended hfound⟩
    | ok value next =>
      have honward := hpart.onward hvalid hfound
      -- Only a part that has read something leaves fewer tokens, which is what lets it be repeated.
      by_cases hpos : next.pos = cursor.pos
      · have hstops : ¬ next.remaining < cursor.remaining :=
          fun hless => honward.remaining_lt_iff.mp hless hpos
        refine ⟨[value], next, ?_, .idle hfound hpos⟩
        rw [many, manyFrom, hfound]
        simp only [if_neg hstops]
      · have hless := honward.remaining_lt_iff.mpr hpos
        obtain ⟨values, last, hmany, hrepeats⟩ := ih _ (hremaining ▸ hless) honward.valid rfl
        obtain ⟨_, _, hmore, hall⟩ := many_of_ok hfound hless
        rw [hmany] at hmore
        cases hmore
        exact ⟨value :: values, last, hall, .again hfound hpos hrepeats⟩

theorem Contract.many {part : Rule α} (hpart : part.Contract) : (many part).Contract := by
  intro cursor hvalid
  obtain ⟨values, last, hmany, hrepeats⟩ := hpart.repeats hvalid
  rw [hmany]
  exact .ok (hrepeats.onward hpart hvalid)

/-- The run of separators with parts behind them, as long as there is a separator. -/
inductive Continues (part : Rule α) (separator : Rule β) :
    Cursor → EStateM.Result SyntaxError Cursor (List α) → Prop
  /-- There is no further separator. -/
  | ended {cursor next : Cursor} {error : SyntaxError}
      (hseparator : separator cursor = .error error next) :
      Continues part separator cursor (.ok [] next)
  /-- There is no part behind the separator. -/
  | missing {cursor behind next : Cursor} {sign : β} {error : SyntaxError}
      (hseparator : separator cursor = .ok sign behind) (hpart : part behind = .error error next) :
      Continues part separator cursor (.error error next)
  | again {cursor behind next last : Cursor} {sign : β} {value : α} {values : List α}
      (hseparator : separator cursor = .ok sign behind) (hpart : part behind = .ok value next)
      (hmore : Continues part separator next (.ok values last)) :
      Continues part separator cursor (.ok (value :: values) last)
  | broken {cursor behind next last : Cursor} {sign : β} {value : α} {error : SyntaxError}
      (hseparator : separator cursor = .ok sign behind) (hpart : part behind = .ok value next)
      (hmore : Continues part separator next (.error error last)) :
      Continues part separator cursor (.error error last)

section

variable {part : Rule α} {separator : Rule β} (hpart : part.Contract)
  (hseparator : separator.Contract)

include hpart hseparator

/-- Parts behind separators that are never empty come to an end. -/
theorem continues_separatedTail (hconsumes : separator.Consumes) {cursor : Cursor}
    (hvalid : cursor.Valid) :
    Continues part separator cursor (separatedTail part separator cursor) := by
  induction hremaining : cursor.remaining using Nat.strongRecOn generalizing cursor with
  | ind remaining ih =>
    cases hsign : separator cursor with
    | error error next =>
      rw [separatedTail, hsign]
      exact .ended hsign
    | ok sign behind =>
      have hbehind := hseparator.onward hvalid hsign
      cases hfound : part behind with
      | error error next =>
        rw [separatedTail, hsign]
        simp only [hfound]
        exact .missing hsign hfound
      | ok value next =>
        have honward := hpart.onward hbehind.valid hfound
        -- The part may be empty, but the separator is not.
        have hless : next.remaining < cursor.remaining := by
          rw [(hbehind.trans honward).remaining_lt_iff]
          have hstrict := hconsumes _ _ _ hvalid hsign
          have hpos := honward.pos_le
          omega
        have hmore := ih _ (hremaining ▸ hless) honward.valid rfl
        have hboth : (separator >>= fun _ => part) cursor = .ok value next := by
          simp [bind_apply, hsign, hfound]
        rw [separatedTail_of_ok hboth hless]
        cases htail : separatedTail part separator next with
        | ok values last =>
          rw [htail] at hmore
          exact .again hsign hfound hmore
        | error error last =>
          rw [htail] at hmore
          exact .broken hsign hfound hmore

theorem Continues.moved {cursor : Cursor} {result : EStateM.Result SyntaxError Cursor (List α)}
    (hcontinues : Continues part separator cursor result) (hvalid : cursor.Valid) :
    Moved cursor result := by
  induction hcontinues with
  | ended hsign => exact .ok ((hseparator.sameSpot hvalid hsign).onward hvalid)
  | missing hsign hfound =>
    have hbehind := hseparator.onward hvalid hsign
    exact .error ((hpart.sameSpot hbehind.valid hfound).tokens_eq.trans hbehind.tokens_eq)
  | again hsign hfound _ ih =>
    have hbehind := hseparator.onward hvalid hsign
    have honward := hbehind.trans (hpart.onward hbehind.valid hfound)
    cases ih honward.valid with
    | ok hlast => exact .ok (honward.trans hlast)
  | broken hsign hfound _ ih =>
    have hbehind := hseparator.onward hvalid hsign
    have honward := hbehind.trans (hpart.onward hbehind.valid hfound)
    exact (ih honward.valid).of_onward honward

theorem contract_separated (hconsumes : separator.Consumes) :
    (separated part separator).Contract := by
  intro cursor hvalid
  unfold separated
  cases hfound : part cursor with
  | error error next => exact .ok ((hpart.sameSpot hvalid hfound).onward hvalid)
  | ok value next =>
    have honward := hpart.onward hvalid hfound
    have hcontinues := continues_separatedTail hpart hseparator hconsumes honward.valid
    have hmoved := (hcontinues.moved hpart hseparator honward.valid).of_onward honward
    simp only
    cases htail : separatedTail part separator next with
    | ok values last =>
      rw [htail] at hmoved
      cases hmoved with
      | ok hlast => exact .ok hlast
    | error error last =>
      rw [htail] at hmoved
      cases hmoved with
      | error htokens =>
        have hsame : (last.reset cursor.pos).SameSpot cursor := ⟨htokens, rfl⟩
        exact .of_sameSpot hvalid hsame

end

/-- The rule keeps the contract and reads something whenever it succeeds. -/
structure MovesOn (rule : Rule α) : Prop where
  contract : rule.Contract
  consumes : rule.Consumes

theorem movesOn_token {kind : TokenKind} (hkind : kind ≠ .eof) : (token kind).MovesOn := by
  refine ⟨contract_token kind, ?_⟩
  intro cursor next value hvalid hok
  unfold token at hok
  split at hok
  · rename_i hpeek
    cases hok
    exact hvalid.pos_lt_advance (by rwa [hpeek])
  · cases hok

theorem movesOn_keyword (word : String) : (keyword word).MovesOn := by
  refine ⟨contract_keyword word, ?_⟩
  intro cursor next value hvalid hok
  unfold keyword at hok
  split at hok
  · rename_i hword
    cases hok
    exact hvalid.pos_lt_advance (by simp [hword.1])
  · cases hok

/-- A repetition of the rule never ends for want of anything read. -/
theorem MovesOn.remaining_lt {rule : Rule α} (hrule : rule.MovesOn) {cursor next : Cursor}
    {value : α} (hvalid : cursor.Valid) (hok : rule cursor = .ok value next) :
    next.remaining < cursor.remaining := by
  have hstrict := hrule.consumes _ _ _ hvalid hok
  rw [(hrule.contract.onward hvalid hok).remaining_lt_iff]
  exact Nat.ne_of_gt hstrict

/-- A run of parts reads something if the first of them does. -/
theorem MovesOn.consumes_bind {first : Rule α} {rest : α → Rule β} (hfirst : first.MovesOn)
    (hrest : ∀ value, InOrder (rest value)) : (first >>= rest).Consumes := by
  intro cursor next result hvalid hok
  rw [bind_apply] at hok
  cases hfound : first cursor with
  | error error failed =>
    rw [hfound] at hok
    cases hok
  | ok value reached =>
    simp only [hfound] at hok
    have hmoved := (hrest value).moved (hfirst.contract.onward hvalid hfound).valid
    rw [hok] at hmoved
    cases hmoved with
    | ok honward =>
      have hstrict := hfirst.consumes _ _ _ hvalid hfound
      exact Nat.lt_of_lt_of_le hstrict honward.pos_le

theorem MovesOn.sequence {first : Rule α} {rest : Location → α → Rule β} (hfirst : first.MovesOn)
    (hrest : ∀ loc value, InOrder (rest loc value)) :
    (sequence fun loc => first >>= rest loc).MovesOn := by
  refine ⟨contract_sequence fun loc => .next hfirst.contract (hrest loc), ?_⟩
  intro cursor next value hvalid hok
  exact hfirst.consumes_bind (hrest cursor.loc) _ _ _ hvalid (eq_ok_of_sequence hok)

theorem movesOn_choice (expected : String) {alternatives : List (Rule α)}
    (hall : ∀ rule ∈ alternatives, rule.MovesOn) : (choice expected alternatives).MovesOn := by
  have hcontract := fun rule hmem => (hall rule hmem).contract
  refine ⟨contract_choice expected hcontract, ?_⟩
  intro cursor next value hvalid hok
  unfold choice at hok
  split at hok
  · rename_i found reached hfirst
    cases hok
    obtain ⟨rule, hmem, spot, hspot, hrule⟩ := exists_of_firstOf hcontract hvalid hfirst
    rw [← hspot.pos_eq]
    exact (hall rule hmem).consumes _ _ _ (hspot.valid hvalid) hrule
  · cases hok

end Rule

namespace Grammar

open Rule

theorem movesOn_identifier : identifier.MovesOn where
  contract := (contract_token .text).map _
  consumes := (movesOn_token (by decide)).consumes_bind fun _ => .done _

theorem contract_bang : bang.Contract :=
  (contract_token .bang).optional.map _

theorem contract_listType : listType.Contract :=
  contract_sequence fun _ => .next (contract_token _) fun _ =>
    .next movesOn_identifier.contract fun _ => .next contract_bang fun _ =>
    .next (contract_closing _) fun _ => .next contract_bang fun _ => .done _

theorem contract_namedType : namedType.Contract :=
  contract_sequence fun _ => .next movesOn_identifier.contract fun _ =>
    .next contract_bang fun _ => .done _

theorem contract_typeRef : typeRef.Contract := by
  have hchoice : (choice "a type" [listType, namedType]).Contract :=
    contract_choice _ (by simp [contract_listType, contract_namedType])
  exact contract_sequence fun _ => .next hchoice fun _ => .next (contract_unopened _) fun _ =>
    .done _

theorem movesOn_param : param.MovesOn :=
  movesOn_identifier.sequence fun _ _ => .next (contract_token _) fun _ =>
    .next contract_typeRef fun _ => .done _

theorem contract_params : params.Contract := by
  have hrun : (separated param (token .comma)).Contract :=
    contract_separated movesOn_param.contract (contract_token _)
      (movesOn_token (by decide)).consumes
  exact contract_sequence fun _ => .next (contract_token _) fun _ => .next hrun fun _ =>
    .next (contract_token _) fun _ => .done _

theorem movesOn_directive : directive.MovesOn :=
  (movesOn_token (by decide)).sequence fun _ _ => .next movesOn_identifier.contract fun _ =>
    .done _

theorem movesOn_field : field.MovesOn :=
  movesOn_identifier.sequence fun _ _ => .next contract_params.optional fun _ =>
    .next (contract_token _) fun _ => .next contract_typeRef fun _ =>
    .next movesOn_directive.contract.many fun _ => .done _

theorem contract_fieldsBlock : fieldsBlock.Contract :=
  contract_sequence fun _ => .next (contract_token _) fun _ =>
    .next movesOn_field.contract.many fun _ => .next (contract_token _) fun _ => .done _

theorem movesOn_typeDef (word : String) (input : Bool) : (typeDef word input).MovesOn :=
  (movesOn_keyword word).sequence fun _ _ => .next movesOn_identifier.contract fun _ =>
    .next contract_fieldsBlock fun _ => .done _

theorem movesOn_schemaBlock : schemaBlock.MovesOn :=
  (movesOn_keyword "schema").sequence fun _ _ => .next contract_fieldsBlock fun _ => .done _

theorem movesOn_furtherTarget : furtherTarget.MovesOn :=
  (movesOn_token (by decide)).sequence fun _ _ => .last movesOn_identifier.contract

theorem movesOn_directiveDef : directiveDef.MovesOn :=
  (movesOn_keyword "directive").sequence fun _ _ => .next (contract_token _) fun _ =>
    .next movesOn_identifier.contract fun _ => .next (contract_keyword _) fun _ =>
    .next movesOn_identifier.contract fun _ =>
    .next movesOn_furtherTarget.contract.many fun _ => .done _

theorem movesOn_definition : definition.MovesOn := by
  apply movesOn_choice
  simp [movesOn_typeDef, movesOn_schemaBlock, movesOn_directiveDef]

theorem contract_document : document.Contract :=
  contract_sequence fun _ => .next movesOn_definition.contract.many fun _ =>
    .next contract_endOfInput fun _ => .done _

/-- The rules of the grammar. -/
inductive SchemaRule : {α : Type} → Rule α → Prop
  | identifier : SchemaRule identifier
  | bang : SchemaRule bang
  | listType : SchemaRule listType
  | namedType : SchemaRule namedType
  | typeRef : SchemaRule typeRef
  | param : SchemaRule param
  | params : SchemaRule params
  | directive : SchemaRule directive
  | field : SchemaRule field
  | fieldsBlock : SchemaRule fieldsBlock
  | typeDef (word : String) (input : Bool) : SchemaRule (typeDef word input)
  | schemaBlock : SchemaRule schemaBlock
  | furtherTarget : SchemaRule furtherTarget
  | directiveDef : SchemaRule directiveDef
  | definition : SchemaRule definition
  | document : SchemaRule document

theorem SchemaRule.contract {α : Type} {rule : Rule α} (hrule : SchemaRule rule) :
    rule.Contract := by
  cases hrule with
  | identifier => exact movesOn_identifier.contract
  | bang => exact contract_bang
  | listType => exact contract_listType
  | namedType => exact contract_namedType
  | typeRef => exact contract_typeRef
  | param => exact movesOn_param.contract
  | params => exact contract_params
  | directive => exact movesOn_directive.contract
  | field => exact movesOn_field.contract
  | fieldsBlock => exact contract_fieldsBlock
  | typeDef word input => exact (movesOn_typeDef word input).contract
  | schemaBlock => exact movesOn_schemaBlock.contract
  | furtherTarget => exact movesOn_furtherTarget.contract
  | directiveDef => exact movesOn_directiveDef.contract
  | definition => exact movesOn_definition.contract
  | document => exact contract_document

/-- The rules that the grammar repeats. -/
inductive RepeatedRule : {α : Type} → Rule α → Prop
  | definition : RepeatedRule definition
  | field : RepeatedRule field
  | directive : RepeatedRule directive
  | furtherTarget : RepeatedRule furtherTarget

theorem RepeatedRule.movesOn {α : Type} {part : Rule α} (hpart : RepeatedRule part) :
    part.MovesOn := by
  cases hpart with
  | definition => exact movesOn_definition
  | field => exact movesOn_field
  | directive => exact movesOn_directive
  | furtherTarget => exact movesOn_furtherTarget

/-- No rule leaks what it has read, and the cursor never leaves the list: every rule of the grammar
keeps the contract, the ways to build rules keep it, whatever the rules that they are given, and
repetitions come to an end. -/
theorem rules_keep_contract :
    (∀ tokens : List Token, (Cursor.ofTokens tokens).Valid) ∧
    (∀ cursor : Cursor, cursor.Valid →
      cursor.tokens[cursor.pos]? = some cursor.peek ∧ cursor.Onward cursor.advance) ∧
    (∀ {α : Type} {rule : Rule α}, SchemaRule rule → rule.Contract) ∧
    -- The ways to read one token or to look at it, and to fail.
    (∀ kind word, (token kind).Contract ∧ (keyword word).Contract ∧ (closing kind).Contract ∧
      (unopened kind).Contract ∧ endOfInput.Contract) ∧
    (∀ {α : Type} (error : SyntaxError), (fail error : Rule α).Contract) ∧
    -- The ways to build rules from rules.
    (∀ {α : Type} {part : Rule α}, part.Contract →
      (optional part).Contract ∧ (many part).Contract) ∧
    (∀ {α : Type} {parts : Location → Rule α}, (∀ loc, InOrder (parts loc)) →
      (sequence parts).Contract) ∧
    (∀ {α : Type} {alternatives : List (Rule α)} (expected : String),
      (∀ rule ∈ alternatives, rule.Contract) → (choice expected alternatives).Contract) ∧
    -- Repetitions come to an end.
    (∀ {α : Type} {part : Rule α} {cursor : Cursor}, part.Contract → cursor.Valid →
      ∃ values last, many part cursor = .ok values last ∧ Repeats part cursor values last) ∧
    (∀ {α β : Type} {part : Rule α} {separator : Rule β}, part.Contract → separator.Contract →
      separator.Consumes → (separated part separator).Contract ∧
        ∀ cursor : Cursor, cursor.Valid →
          Continues part separator cursor (separatedTail part separator cursor)) ∧
    -- No repetition of the grammar ends because nothing has been read.
    (definition.Consumes ∧ field.Consumes ∧ param.Consumes ∧ directive.Consumes) ∧
    (∀ {α : Type} {part : Rule α} {cursor next : Cursor} {value : α}, RepeatedRule part →
      cursor.Valid → part cursor = .ok value next → next.remaining < cursor.remaining) := by
  refine ⟨Cursor.valid_ofTokens, fun _ hvalid => ⟨hvalid.getElem?_pos, hvalid.onward_advance⟩,
    SchemaRule.contract, ?tokens, contract_fail, fun hpart => ⟨hpart.optional, hpart.many⟩,
    contract_sequence, fun expected hall => contract_choice expected hall,
    fun hpart hvalid => hpart.repeats hvalid, ?separated, ?consumes,
    fun hpart hvalid hok => hpart.movesOn.remaining_lt hvalid hok⟩
  case tokens =>
    exact fun kind word => ⟨contract_token kind, contract_keyword word, contract_closing kind,
      contract_unopened kind, contract_endOfInput⟩
  case separated =>
    intro α β part separator hpart hseparator hconsumes
    refine ⟨contract_separated hpart hseparator hconsumes, ?_⟩
    exact fun cursor hvalid => continues_separatedTail hpart hseparator hconsumes hvalid
  case consumes =>
    exact ⟨movesOn_definition.consumes, movesOn_field.consumes, movesOn_param.consumes,
      movesOn_directive.consumes⟩

/-- A field that breaks off inside its type is given back whole, whatever it is part of. -/
theorem rules_keep_contract_broken_off :
    (∃ error next, field (Cursor.ofTokens (lex " a: [B")) = .error error next ∧ next.Valid ∧
      next.pos = 1) ∧
    (∃ values last, many field (Cursor.ofTokens (lex " a: [B")) = .ok values last ∧
      Repeats field (Cursor.ofTokens (lex " a: [B")) values last) ∧
    (separated field (token .comma)).Contract ∧
    (choice "a field or fields" [many field, fieldsBlock]).Contract ∧
    (sequence fun loc => token .at >>= fun sign =>
      (fail (.unexpected loc.text sign) : Rule Field)).Contract := by
  obtain ⟨hstart, _, hschema, htokens, hfail, hbuilt, hsequence, hchoice, hmany, hseparated, _⟩ :=
    rules_keep_contract
  have hfield := hschema .field
  refine ⟨?_, hmany hfield (hstart _), ?_, ?_, ?_⟩
  · have hkept := hfield _ (hstart (lex " a: [B"))
    have hfails : (match field (Cursor.ofTokens (lex " a: [B")) with
      | .ok .. => false
      | .error .. => true) = true := by decide +kernel
    cases hfound : field (Cursor.ofTokens (lex " a: [B")) with
    | ok value next => simp [hfound] at hfails
    | error error next =>
      rw [hfound] at hkept
      cases hkept with
      | error hvalid hsame =>
        exact ⟨error, next, rfl, hvalid, hsame.pos_eq.trans (by decide +kernel)⟩
  · exact (hseparated hfield (htokens .comma "").1 (movesOn_token (by decide)).consumes).1
  · apply hchoice
    simp [(hbuilt hfield).2, hschema .fieldsBlock]
  · exact hsequence fun loc => .next (htokens .at "").1 fun sign => .last (hfail _)

end Grammar

end SchemaGen
