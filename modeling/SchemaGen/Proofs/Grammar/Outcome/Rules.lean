import SchemaGen.Proofs.Grammar.Completeness
import SchemaGen.Proofs.Grammar.Outcome.Combinators

namespace SchemaGen.Grammar

open Rule

section

variable {α : Type} {place middle arrival : Place} {cursor : Cursor}
  {spells : List Token → α → Prop} {stops turns : Cursor → Prop}

theorem outcome_token {kind : TokenKind} (hvalid : cursor.Valid) (hclean : cursor.Clean)
    (hexpects : place.Expects kind arrival cursor.peek) :
    Outcome place arrival
      (fun tokens found => tokens = [cursor.peek] ∧ found = cursor.peek ∧ cursor.peek.kind = kind)
      Anything Nothing cursor (token kind cursor) := by
  unfold token
  split
  · rename_i hkind
    exact (Outcome.take hvalid hclean (hexpects.step_eq hkind)).ok_map
      (fun _ htaken => ⟨htaken.1, htaken.2, hkind⟩)
  · rename_i hkind
    exact .fail hvalid hclean (hexpects.refuses hkind) (hexpects.complaint_eq hkind)

/-- A token of a kind, and what follows it. -/
theorem outcome_token_bind {kind : TokenKind} {next : Token → Rule α} (hvalid : cursor.Valid)
    (hclean : cursor.Clean) (hexpects : place.Expects kind middle cursor.peek)
    (hnext : ∀ reached, cursor.Reads [cursor.peek] reached → reached.Clean →
      cursor.peek.kind = kind →
      Outcome middle arrival (fun more result => spells (cursor.peek :: more) result) stops turns
        reached (next cursor.peek reached)) :
    Outcome place arrival spells stops turns cursor ((token kind >>= next) cursor) := by
  apply (outcome_token hvalid hclean hexpects).bind_sure
  rintro _ _ reached hreads hclean ⟨rfl, rfl, hkind⟩ _
  exact hnext reached hreads hclean hkind

/-- A name, and what follows it. -/
theorem outcome_identifier_bind {next : String → Rule α} (hvalid : cursor.Valid)
    (hclean : cursor.Clean) (hexpects : place.Expects .text middle cursor.peek)
    (hnext : ∀ reached, cursor.Reads [cursor.peek] reached → reached.Clean →
      cursor.peek.kind = .text →
      Outcome middle arrival (fun more result => spells (cursor.peek :: more) result) stops turns
        reached (next cursor.peek.value reached)) :
    Outcome place arrival spells stops turns cursor ((identifier >>= next) cursor) := by
  have hname : Outcome place middle
      (fun tokens name =>
        tokens = [cursor.peek] ∧ name = cursor.peek.value ∧ cursor.peek.kind = .text)
      Anything Nothing cursor (identifier cursor) := by
    apply (outcome_token hvalid hclean hexpects).map
    rintro tokens found ⟨htokens, rfl, hkind⟩
    exact ⟨htokens, rfl, hkind⟩
  apply hname.bind_sure
  rintro _ _ reached hreads hclean ⟨rfl, rfl, hkind⟩ _
  exact hnext reached hreads hclean hkind

/-- A word, and what follows it. -/
theorem outcome_keyword_bind {word : String} {next : Token → Rule α} (middle : Place)
    (hvalid : cursor.Valid) (hclean : cursor.Clean)
    (hhit : cursor.peek.IsWord word → place.step cursor.peek = some middle)
    (hmiss : ¬ cursor.peek.IsWord word → (place.step cursor.peek = none ∧ ¬ place.Final) ∧
      .unexpected s!"keyword '{word}'" cursor.peek = place.complaint cursor.peek)
    (hnext : ∀ reached, cursor.Reads [cursor.peek] reached → reached.Clean →
      cursor.peek.IsWord word →
      Outcome middle arrival (fun more result => spells (cursor.peek :: more) result) stops turns
        reached (next cursor.peek reached)) :
    Outcome place arrival spells stops turns cursor ((keyword word >>= next) cursor) := by
  have hkeyword : Outcome place middle
      (fun tokens found => tokens = [cursor.peek] ∧ found = cursor.peek ∧ cursor.peek.IsWord word)
      Anything Nothing cursor (keyword word cursor) := by
    unfold keyword
    split
    · rename_i hword
      exact (Outcome.take hvalid hclean (hhit hword)).ok_map
        (fun _ htaken => ⟨htaken.1, htaken.2, hword⟩)
    · rename_i hword
      exact .fail hvalid hclean (hmiss hword).1 (hmiss hword).2
  apply hkeyword.bind_sure
  rintro _ _ reached hreads hclean ⟨rfl, rfl, hword⟩ _
  exact hnext reached hreads hclean hword

/-- An optional mark, at a place that is as good as the one behind it where there is none. -/
theorem outcome_bang (arrival : Place) (hvalid : cursor.Valid) (hclean : cursor.Clean)
    (hhit : cursor.peek.kind = .bang → place.step cursor.peek = some arrival)
    (hslides : cursor.peek.kind ≠ .bang → place.Slides arrival cursor.peek) :
    Outcome place arrival IsMark Anything Nothing cursor (bang cursor) := by
  have hoption : Outcome place arrival (fun tokens found => IsMark tokens found.isSome) Anything
      Nothing cursor (Rule.optional (token .bang) cursor) := by
    by_cases hkind : cursor.peek.kind = .bang
    · have htaken : Rule.optional (token .bang) cursor = .ok (some cursor.peek) cursor.advance := by
        simp [Rule.optional, token, take, hkind]
      rw [htaken]
      apply (Outcome.take hvalid hclean (hhit hkind)).ok_map
      rintro tokens ⟨rfl, _⟩
      exact .present hkind
    · obtain ⟨error, hblames, heq⟩ := misses_token hkind
      simp only [Rule.optional, heq]
      exact .passed_over hvalid hclean hblames (hslides hkind) .absent trivial
  exact hoption.map (fun hmark => hmark)

end

variable {cursor : Cursor}

theorem outcome_closing (owner : Owner) (hvalid : cursor.Valid) (hclean : cursor.Clean) :
    Outcome (.listMarked owner) (.typeEnd owner)
      (fun tokens found =>
        tokens = [cursor.peek] ∧ found = cursor.peek ∧ cursor.peek.kind = .rightBracket)
      Anything Nothing cursor (closing .rightBracket cursor) := by
  unfold closing
  split
  · rename_i hkind
    exact (Outcome.take hvalid hclean (by simp [Place.step, hkind])).ok_map
      (fun _ htaken => ⟨htaken.1, htaken.2, hkind⟩)
  · rename_i hkind
    split
    · rename_i herror
      exact .fail hvalid hclean (by simp [Place.step, Place.Final, hkind])
        (by simp [Place.complaint, herror])
    · rename_i herror
      exact .fail hvalid hclean (by simp [Place.step, Place.Final, hkind])
        (by simp [Place.complaint, herror])

/-- The outer mark of a type, or none. -/
theorem outcome_typeMark (owner : Owner) (hvalid : cursor.Valid) (hclean : cursor.Clean) :
    Outcome (.typeEnd owner) (.typeMarked owner) IsMark Anything Nothing cursor (bang cursor) := by
  apply outcome_bang _ hvalid hclean
  · intro hkind
    cases owner <;> simp [Place.step, hkind]
  · exact Place.typeEnd_slides owner

theorem outcome_listType (owner : Owner) (hvalid : cursor.Valid) (hclean : cursor.Clean)
    (hkind : cursor.peek.kind = .leftBracket) :
    Outcome (.typeStart owner) (.typeMarked owner) IsType Anything Nothing cursor
      (listType cursor) := by
  have hopens : (Place.typeStart owner).Expects .leftBracket (.listStart owner) cursor.peek :=
    .of_hit hkind (by simp [Place.step, hkind])
  apply Outcome.sequence
  apply outcome_token_bind hvalid hclean hopens
  intro named hreads hclean _
  apply outcome_identifier_bind hreads.valid hclean (.of_step rfl (by simp [Place.Final]) rfl)
  intro inner hreads hclean hname
  apply (outcome_bang (.listMarked owner) hreads.valid hclean
    (fun h => by simp [Place.step, h]) (Place.listName_slides owner)).bind_sure
  intro innerTokens nonNullElements closed hreads hclean hinner _
  apply (outcome_closing owner hreads.valid hclean).bind_sure
  rintro _ _ outer hreads hclean ⟨rfl, rfl, hclosing⟩ _
  apply (outcome_typeMark owner hreads.valid hclean).map
  intro outerTokens required houter
  exact .list hkind hname hinner hclosing houter

theorem outcome_namedType (owner : Owner) (hvalid : cursor.Valid) (hclean : cursor.Clean)
    (hkind : cursor.peek.kind = .text) :
    Outcome (.typeStart owner) (.typeMarked owner) IsType Anything Nothing cursor
      (namedType cursor) := by
  have hnamed : (Place.typeStart owner).Expects .text (.typeEnd owner) cursor.peek :=
    .of_hit hkind (by simp [Place.step, hkind])
  apply Outcome.sequence
  apply outcome_identifier_bind hvalid hclean hnamed
  intro outer hreads hclean hname
  apply (outcome_typeMark owner hreads.valid hclean).map
  intro outerTokens required houter
  exact .named hname houter

/-- Either kind of type, up to its outer mark. -/
theorem outcome_typeChoice (owner : Owner) (hvalid : cursor.Valid) (hclean : cursor.Clean) :
    Outcome (.typeStart owner) (.typeMarked owner) IsType Anything Nothing cursor
      (choice "a type" [listType, namedType] cursor) := by
  by_cases hlist : cursor.peek.kind = .leftBracket
  · apply outcome_choice "a type" [] listType [namedType] hvalid hclean
    · intro other hmem spot hpeek
      obtain rfl := List.mem_singleton.mp hmem
      exact misses_namedType (by rw [hpeek, hlist]; decide)
    · intro spot hspot hspotClean
      exact outcome_listType owner (hspot.valid hvalid) hspotClean (by rwa [hspot.peek_eq])
    · exact rewinds_sequence _
    · simp [Place.step, hlist]
  · by_cases hname : cursor.peek.kind = .text
    · apply outcome_choice "a type" [listType] namedType [] hvalid hclean
      · intro other hmem spot hpeek
        obtain rfl := List.mem_singleton.mp hmem
        exact misses_listType (by rwa [hpeek])
      · intro spot hspot hspotClean
        exact outcome_namedType owner (hspot.valid hvalid) hspotClean (by rwa [hspot.peek_eq])
      · exact rewinds_sequence _
      · simp [Place.step, hname]
    · rw [choice_of_misses]
      · exact .fail hvalid hclean (by simp [Place.step, Place.Final, hlist, hname]) rfl
      · intro other hmem spot hpeek
        rw [← hpeek] at hlist hname
        simp only [List.mem_cons, List.not_mem_nil, or_false] at hmem
        rcases hmem with rfl | rfl
        · exact misses_listType hlist
        · exact misses_namedType hname

/-- A type, behind which a stray `]` is refused. -/
theorem outcome_typeRef (owner : Owner) (hvalid : cursor.Valid) (hclean : cursor.Clean) :
    Outcome (.typeStart owner) (.ofOwner owner) IsType Anything Nothing cursor
      (typeRef cursor) := by
  apply Outcome.sequence
  apply (outcome_typeChoice owner hvalid hclean).bind_sure
  intro tokens type reached hreads hclean htype _
  have hunopened : Outcome (.typeMarked owner) (.ofOwner owner) (fun more (_ : Unit) => more = [])
      Anything Nothing reached (unopened .rightBracket reached) := by
    unfold unopened
    split
    · rename_i hkind
      apply Outcome.fail hreads.valid hclean
      · cases owner <;> simp [Place.step, Place.Final, hkind]
      · cases owner <;> simp [Place.complaint, hkind]
    · rename_i hkind
      exact .pure hreads.valid hclean rfl (Place.typeMarked_slides owner hkind) trivial
  apply hunopened.map
  rintro more _ rfl
  rwa [List.append_nil]

theorem outcome_param (hvalid : cursor.Valid) (hclean : cursor.Clean) :
    Outcome .nextParam .paramEnd IsParam Anything Nothing cursor (param cursor) := by
  apply Outcome.sequence
  apply outcome_identifier_bind hvalid hclean (.of_step rfl (by decide) rfl)
  intro named hreads hclean hname
  apply outcome_token_bind hreads.valid hclean (.of_step rfl (by decide) rfl)
  intro typed hreads hclean hcolon
  apply (outcome_typeRef .param hreads.valid hclean).map
  intro tokens type htype
  exact .mk hname hcolon htype

/-- A further parameter behind its comma. -/
theorem outcome_furtherParam (hvalid : cursor.Valid) (hclean : cursor.Clean)
    (hkind : cursor.peek.kind = .comma) :
    Outcome .paramEnd .paramEnd (Behind .comma IsParam) Anything Nothing cursor
      ((token .comma >>= fun _ => param) cursor) := by
  have hcomma : Place.paramEnd.Expects .comma .nextParam cursor.peek :=
    .of_hit hkind (by simp [Place.step, hkind])
  apply outcome_token_bind hvalid hclean hcomma
  intro reached hreads hclean hcomma
  exact (outcome_param hreads.valid hclean).respell (fun _ _ hparam => .mk hcomma hparam)

/-- Further parameters, up to a token that is no comma. A comma without a parameter behind it makes
them fail. -/
theorem outcome_furtherParams (hvalid : cursor.Valid) (hclean : cursor.Clean) :
    Outcome .paramEnd .paramsClose (Repeated (Behind .comma IsParam)) Anything Nothing cursor
      (separatedTail param (token .comma) cursor) := by
  induction hremaining : cursor.remaining using Nat.strongRecOn generalizing cursor with
  | ind remaining ih =>
    by_cases hkind : cursor.peek.kind = .comma
    · have houtcome := outcome_furtherParam hvalid hclean hkind
      cases hfound : (token .comma >>= fun _ => param) cursor with
      | ok value next =>
        rw [hfound] at houtcome
        cases houtcome with
        | read hreads hspells hrun hslides hnextClean _ =>
          obtain ⟨comma, more, rfl, _⟩ := hspells.starts (fun _ hcomma => hcomma)
          have hprogress := hreads.remaining_lt hvalid
          have hrest := ih _ (hremaining ▸ hprogress) hreads.valid hnextClean rfl
          rw [separatedTail_of_ok hfound hprogress]
          apply Outcome.behind hreads hrun hslides
          cases htail : separatedTail param (token .comma) next with
          | ok values last =>
            rw [htail] at hrest
            exact hrest.ok_map (fun _ hvalues => .more hspells hvalues)
          | error error last =>
            rw [htail] at hrest
            cases hrest with
            | failed htokens hstuck => exact .failed htokens hstuck
        | turned _ _ _ _ hturned => exact hturned.elim
      | error error next =>
        rw [hfound] at houtcome
        have hcomma : token .comma cursor = take cursor := if_pos hkind
        rw [separatedTail_of_error hcomma hfound]
        cases houtcome with
        | failed htokens hstuck => exact .failed htokens hstuck
    · obtain ⟨error, hblames, heq⟩ := misses_token hkind
      rw [separatedTail, heq]
      exact .passed_over hvalid hclean hblames (Place.paramEnd_slides hkind) .none trivial

/-- The parameters between the parentheses. If the first one fails behind its name, they turn back
in front of that name. -/
theorem outcome_paramRun (hvalid : cursor.Valid) (hclean : cursor.Clean) :
    Outcome .params .paramsClose IsParamRun Anything (·.peek.kind = .text) cursor
      (separated param (token .comma) cursor) := by
  by_cases hkind : cursor.peek.kind = .text
  · have houtcome : Outcome .params .paramEnd IsParam Anything Nothing cursor (param cursor) :=
      (outcome_param hvalid hclean).behind hvalid.reads_self (Place.run_nil _)
        (Place.params_slides_nextParam hkind)
    unfold separated
    cases hfound : param cursor with
    | ok value next =>
      rw [hfound] at houtcome
      cases houtcome with
      | read hreads hspells hrun hslides hnextClean _ =>
        have hrest := outcome_furtherParams hreads.valid hnextClean
        apply Outcome.behind hreads hrun hslides
        cases htail : separatedTail param (token .comma) next with
        | ok values last =>
          rw [htail] at hrest
          simp only
          rw [htail]
          exact (hrest.ok_map (fun _ hvalues => IsParamRun.some hspells hvalues)).mono
            (fun _ hstop => hstop) (fun _ hturned => hturned.elim)
        | error error last =>
          rw [htail] at hrest
          simp only
          rw [htail]
          cases hrest with
          | failed htokens hstuck => exact .failed htokens hstuck
      | turned _ _ _ _ hturned => exact hturned.elim
    | error error next =>
      rw [hfound] at houtcome
      have hsame := houtcome.sameSpot (rewinds_sequence _ _ _ _ hfound)
      exact houtcome.given_up hvalid hsame (by simp [Place.step, hkind]) .none
        (by rwa [hsame.peek_eq])
  · obtain ⟨error, hblames, heq⟩ := misses_param hkind
    simp only [separated, heq]
    exact .passed_over hvalid hclean hblames (Place.params_slides hkind) .none trivial

theorem outcome_params (hvalid : cursor.Valid) (hclean : cursor.Clean)
    (hkind : cursor.peek.kind = .leftParen) :
    Outcome .fieldName .paramsEnd IsParams Anything Nothing cursor (params cursor) := by
  have hopening : Place.fieldName.Expects .leftParen .params cursor.peek :=
    .of_hit hkind (by simp [Place.step, hkind])
  apply Outcome.sequence
  apply outcome_token_bind hvalid hclean hopening
  intro opened hreads hclean hopening
  apply (outcome_paramRun hreads.valid hclean).bind
  · intro tokens parameters closed hreads hclean hrun _
    apply outcome_token_bind hreads.valid hclean (.of_step rfl (by decide) rfl)
    intro reached hreads hclean hclosing
    exact .pure hreads.valid hclean (.mk hopening hrun hclosing) (.refl ..) trivial
  · intro parameters reached hturned
    exact (misses_token (by rw [hturned]; decide)).bind _

theorem outcome_directive (hvalid : cursor.Valid) (hclean : cursor.Clean)
    (hkind : cursor.peek.kind = .at) :
    Outcome .fieldEnd .fieldEnd IsDirective Anything Nothing cursor (directive cursor) := by
  have hsign : Place.fieldEnd.Expects .at .directiveSign cursor.peek :=
    .of_hit hkind (by simp [Place.step, hkind])
  apply Outcome.sequence
  apply outcome_token_bind hvalid hclean hsign
  intro named hreads hclean hsign
  apply outcome_identifier_bind hreads.valid hclean (.of_step rfl (by decide) rfl)
  intro reached hreads hclean hname
  exact .pure hreads.valid hclean (.mk hsign hname) (.refl ..) trivial

theorem outcome_directives (hvalid : cursor.Valid) (hclean : cursor.Clean) :
    Outcome .fieldEnd .fieldEnd (Repeated IsDirective) (·.peek.kind ≠ .at) (·.peek.kind = .at)
      cursor (many directive cursor) := by
  have hmany := outcome_many (·.kind = .at) (fun _ => outcome_directive) (rewinds_sequence _)
    (fun _ => misses_directive) IsDirective.starts (fun _ hturned => hturned.elim)
    (fun _ hkind => by simp [Place.step, hkind]) hvalid hclean
  exact hmany.mono (fun _ hstop => hstop.1) (fun _ hturned => (hturned.resolve_left id).1)

/-- The parameters of a field, if there are any. -/
theorem outcome_fieldParams (hvalid : cursor.Valid) (hclean : cursor.Clean) :
    Outcome .fieldName .paramsEnd (fun tokens found => IsParams? tokens (found.getD [])) Anything
      (·.peek.kind = .leftParen) cursor (Rule.optional params cursor) := by
  have hoption : Outcome .fieldName .paramsEnd (fun tokens found => IsParams? tokens (found.getD []))
      Anything (fun next => Nothing next ∨ next.peek.kind = .leftParen) cursor
      (Rule.optional params cursor) :=
    outcome_optional (·.kind = .leftParen) hvalid hclean (outcome_params hvalid hclean)
      (rewinds_sequence _) misses_params Place.fieldName_slides
      (fun hkind => by simp [Place.step, hkind]) (fun hparams => .present hparams) .absent
  exact hoption.mono (fun _ hstop => hstop) (fun _ hturned => hturned.resolve_left id)

/-- A field. If a directive fails behind its `@`, the field turns back in front of it. -/
theorem outcome_field (hvalid : cursor.Valid) (hclean : cursor.Clean)
    (hkind : cursor.peek.kind = .text) :
    Outcome .block .block IsField Anything (·.peek.kind = .at) cursor (field cursor) := by
  have hnamed : Place.block.Expects .text .fieldName cursor.peek :=
    .of_hit hkind (by simp [Place.step, hkind])
  apply Outcome.sequence
  apply outcome_identifier_bind hvalid hclean hnamed
  intro named hreads hclean hname
  apply (outcome_fieldParams hreads.valid hclean).bind
  · intro paramTokens parameters listed hreads hclean hparams _
    apply outcome_token_bind hreads.valid hclean (.of_step rfl (by decide) rfl)
    intro typed hreads hclean hcolon
    apply (outcome_typeRef .field hreads.valid hclean).bind_sure
    intro typeTokens type marked hreads hclean htype _
    have hmarks := (outcome_directives hreads.valid hclean).slide
      (fun _ hkind => Place.fieldEnd_slides hkind)
    apply (hmarks.mono (fun _ _ => trivial) (fun _ hturned => hturned)).map
    intro directiveTokens directives hdirectives
    exact .mk hname hparams hcolon htype hdirectives
  · intro parameters reached hturned
    exact (misses_token (by rw [hturned]; decide)).bind _

theorem outcome_fields (hvalid : cursor.Valid) (hclean : cursor.Clean) :
    Outcome .block .block (Repeated IsField) (·.peek.kind ≠ .text)
      (fun next => next.peek.kind = .at ∨ next.peek.kind = .text) cursor (many field cursor) := by
  have hmany := outcome_many (·.kind = .text) (fun _ => outcome_field) (rewinds_sequence _)
    (fun _ => misses_field) IsField.starts (fun _ hkind => by rw [hkind]; decide)
    (fun _ hkind => by simp [Place.step, hkind]) hvalid hclean
  exact hmany.mono (fun _ hstop => hstop.1) (fun _ hturned => hturned.imp_right And.left)

theorem outcome_fieldsBlock {turns : Cursor → Prop} (hvalid : cursor.Valid)
    (hclean : cursor.Clean) :
    Outcome .blockStart .top IsBlock Anything turns cursor (fieldsBlock cursor) := by
  apply Outcome.sequence
  apply outcome_token_bind hvalid hclean (.of_step rfl (by decide) rfl)
  intro opened hreads hclean hopening
  apply (outcome_fields hreads.valid hclean).bind
  · intro tokens fields closed hreads hclean hfields hstop
    apply outcome_token_bind hreads.valid hclean (Place.block_expects hstop)
    intro reached hreads hclean hclosing
    exact .pure hreads.valid hclean (.mk hopening hfields hclosing) (.refl ..) trivial
  · intro fields reached hturned
    apply (misses_token _).bind
    rcases hturned with hkind | hkind <;> rw [hkind] <;> decide

/-- Either kind of type definition, where its word stands. -/
theorem outcome_typeDef {word : String} {input : Bool} {turns : Cursor → Prop}
    (hvalid : cursor.Valid) (hclean : cursor.Clean) (hword : cursor.peek.IsWord word)
    (hstep : Place.top.step cursor.peek = some .typeName)
    (hspells : ∀ {start name : Token} {tokens fields}, start.IsWord word → name.kind = .text →
      IsBlock tokens fields → IsDefinition (start :: name :: tokens)
        (.typeDef { loc := start.loc, name := name.value, fields, input })) :
    Outcome .top .top IsDefinition Anything turns cursor (typeDef word input cursor) := by
  apply Outcome.sequence
  apply outcome_keyword_bind _ hvalid hclean (fun _ => hstep) (fun hmiss => absurd hword hmiss)
  intro named hreads hclean _
  apply outcome_identifier_bind hreads.valid hclean (.of_step rfl (by decide) rfl)
  intro opened hreads hclean hname
  apply (outcome_fieldsBlock hreads.valid hclean).map
  intro tokens fields hfields
  exact hspells hword hname hfields

theorem outcome_schemaBlock {turns : Cursor → Prop} (hvalid : cursor.Valid)
    (hclean : cursor.Clean) (hword : cursor.peek.IsWord "schema") :
    Outcome .top .top IsDefinition Anything turns cursor (schemaBlock cursor) := by
  have hstep : Place.top.step cursor.peek = some .blockStart := by
    simp [Place.step, Token.IsWord, hword.1, hword.2]
  apply Outcome.sequence
  apply outcome_keyword_bind _ hvalid hclean (fun _ => hstep) (fun hmiss => absurd hword hmiss)
  intro opened hreads hclean _
  apply (outcome_fieldsBlock hreads.valid hclean).map
  intro tokens fields hfields
  exact .schema hword hfields

theorem outcome_furtherTarget (hvalid : cursor.Valid) (hclean : cursor.Clean)
    (hkind : cursor.peek.kind = .comma) :
    Outcome .target .target (Behind .comma IsName) Anything Nothing cursor
      (furtherTarget cursor) := by
  have hcomma : Place.target.Expects .comma .nextTarget cursor.peek :=
    .of_hit hkind (by simp [Place.step, hkind])
  apply Outcome.sequence
  apply outcome_token_bind hvalid hclean hcomma
  intro named hreads hclean hcomma
  apply (outcome_token hreads.valid hclean (.of_step rfl (by decide) rfl)).map
  rintro _ _ ⟨rfl, rfl, hname⟩
  exact .mk hcomma (.mk hname)

/-- The cursor stands in front of a comma that no target follows. -/
def ComesToComma (cursor : Cursor) : Prop :=
  cursor.peek.kind = .comma ∧ furtherTarget.GivenUp cursor

/-- A directive definition. If a target is missing behind its comma, the definition turns back in
front of the comma. -/
theorem outcome_directiveDef (hvalid : cursor.Valid) (hclean : cursor.Clean)
    (hword : cursor.peek.IsWord "directive") :
    Outcome .top .top IsDefinition Anything ComesToComma cursor (directiveDef cursor) := by
  have hstep : Place.top.step cursor.peek = some .definitionSign := by
    simp [Place.step, Token.IsWord, hword.1, hword.2]
  apply Outcome.sequence
  apply outcome_keyword_bind _ hvalid hclean (fun _ => hstep) (fun hmiss => absurd hword hmiss)
  intro signed hreads hclean _
  apply outcome_token_bind hreads.valid hclean (.of_step rfl (by decide) rfl)
  intro named hreads hclean hsign
  apply outcome_identifier_bind hreads.valid hclean (.of_step rfl (by decide) rfl)
  intro linked hreads hclean hname
  apply outcome_keyword_bind .firstTarget hreads.valid hclean
    (fun hon => by simp [Place.step, hon])
    (fun hnot => ⟨by simp [Place.step, Place.Final, hnot], rfl⟩)
  intro aimed hreads hclean hon
  apply outcome_identifier_bind hreads.valid hclean (.of_step rfl (by decide) rfl)
  intro listed hreads hclean htarget
  have hmany := outcome_many (·.kind = .comma) (fun _ => outcome_furtherTarget)
    (rewinds_sequence _) (fun _ => misses_furtherTarget)
    (fun hfurther => hfurther.starts (fun _ hcomma => hcomma)) (fun _ hturned => hturned.elim)
    (fun _ hkind => by simp [Place.step, hkind]) hreads.valid hclean
  have htargets := (hmany.slide (fun _ hstop => Place.target_slides hstop.1)).mono
    (fun _ _ => trivial) (fun _ hturned => hturned.resolve_left id)
  apply htargets.map
  intro tokens targets htargets
  exact .directiveDef hword hsign hname hon htarget htargets

theorem rewinds_of_mem_definitionRules {word : String} {rule : Rule Definition}
    (hmem : (word, rule) ∈ definitionRules) : rule.Rewinds := by
  simp only [definitionRules, List.mem_cons, List.not_mem_nil, or_false, Prod.mk.injEq] at hmem
  rcases hmem with ⟨_, rfl⟩ | ⟨_, rfl⟩ | ⟨_, rfl⟩ | ⟨_, rfl⟩ <;> exact rewinds_sequence _

theorem outcome_of_mem_definitionRules {word : String} {rule : Rule Definition}
    (hmem : (word, rule) ∈ definitionRules) (hvalid : cursor.Valid) (hclean : cursor.Clean)
    (hword : cursor.peek.IsWord word) :
    Outcome .top .top IsDefinition Anything ComesToComma cursor (rule cursor) := by
  simp only [definitionRules, List.mem_cons, List.not_mem_nil, or_false, Prod.mk.injEq] at hmem
  rcases hmem with ⟨rfl, rfl⟩ | ⟨rfl, rfl⟩ | ⟨rfl, rfl⟩ | ⟨rfl, rfl⟩
  · exact outcome_typeDef hvalid hclean hword (by simp [Place.step, hword]) .typeDef
  · exact outcome_typeDef hvalid hclean hword (by simp [Place.step, hword]) .inputDef
  · exact outcome_schemaBlock hvalid hclean hword
  · exact outcome_directiveDef hvalid hclean hword

/-- A definition, where one of the four words stands. -/
theorem outcome_definition (hvalid : cursor.Valid) (hclean : cursor.Clean)
    (hstart : StartsDefinition cursor.peek) :
    Outcome .top .top IsDefinition Anything ComesToComma cursor (definition cursor) := by
  obtain ⟨_, hlisted, hword⟩ := id hstart
  obtain ⟨⟨word, rule⟩, hmem, rfl⟩ := List.mem_map.mp hlisted
  obtain ⟨front, back, hsplit, hmiss⟩ := definitionRules_split hmem
  rw [definition_eq, hsplit]
  apply outcome_choice _ _ _ _ hvalid hclean
  · intro other hother spot hpeek
    exact hmiss other hother spot (hpeek ▸ hword)
  · intro spot hspot hspotClean
    exact outcome_of_mem_definitionRules hmem (hspot.valid hvalid) hspotClean
      (hspot.peek_eq ▸ hword)
  · exact rewinds_of_mem_definitionRules hmem
  · intro hnone
    exact (Place.top_step_eq_none_iff _).mp hnone hstart

theorem rewinds_definition : definition.Rewinds := by
  rw [definition_eq]
  apply rewinds_choice
  intro rule hmem
  obtain ⟨⟨word, _⟩, hentry, rfl⟩ := List.mem_map.mp hmem
  exact rewinds_of_mem_definitionRules hentry

/-- Any number of definitions. They stop in front of a token that starts none, or turn back in front
of one that fails behind its first word, or in front of a comma without a target. -/
theorem outcome_definitions (hvalid : cursor.Valid) (hclean : cursor.Clean) :
    Outcome .top .top (Repeated IsDefinition)
      (fun next => ¬ StartsDefinition next.peek ∧ definition.GivenUp next)
      (fun next => ComesToComma next ∨ StartsDefinition next.peek ∧ definition.GivenUp next)
      cursor (many definition cursor) := by
  apply outcome_many StartsDefinition (fun _ => outcome_definition) rewinds_definition
    (fun _ => misses_definition) IsDefinition.starts _ _ hvalid hclean
  · intro next hcomma hstart
    have hkind := hcomma.1
    rw [hstart.kind_eq] at hkind
    cases hkind
  · intro token hstart hnone
    exact (Place.top_step_eq_none_iff _).mp hnone hstart

end SchemaGen.Grammar
