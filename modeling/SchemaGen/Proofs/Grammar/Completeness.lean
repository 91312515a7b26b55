import SchemaGen.Proofs.Grammar.Acceptance

namespace SchemaGen.Grammar

open Rule

theorem accepts_identifier {name : Token} (hname : name.kind = .text) :
    Accepts identifier [name] name.value Anything :=
  (accepts_token hname (by decide)).map (·.value)

theorem accepts_bang {tokens : List Token} {marked : Bool} (hmark : IsMark tokens marked) :
    Accepts bang tokens marked (·.kind ≠ .bang) := by
  cases hmark with
  | absent =>
    exact (accepts_optional_none (fun cursor hkind => misses_token hkind)).map Option.isSome
  | present hbang =>
    exact ((accepts_token hbang (by decide)).optional.map Option.isSome).mono (fun _ _ => trivial)

theorem accepts_listType {opening name closing : Token} {inner outer : List Token}
    {nonNullElements required : Bool} (hopening : opening.kind = .leftBracket)
    (hname : name.kind = .text) (hinner : IsMark inner nonNullElements)
    (hclosing : closing.kind = .rightBracket) (houter : IsMark outer required) :
    Accepts listType (opening :: name :: (inner ++ closing :: outer))
      { loc := opening.loc, name := name.value, required, multiple := true, nonNullElements }
      (·.kind ≠ .bang) := by
  apply Accepts.sequence
  apply (accepts_token hopening (by decide)).bind_token
  apply (accepts_identifier hname).bind_token
  apply (accepts_bang hinner).bind
  · apply (accepts_closing hclosing (by decide)).bind_token
    exact (accepts_bang houter).map _
  · intro after _
    simp [hclosing]

theorem accepts_namedType {name : Token} {outer : List Token} {required : Bool}
    (hname : name.kind = .text) (houter : IsMark outer required) :
    Accepts namedType (name :: outer)
      { loc := name.loc, name := name.value, required, multiple := false,
        nonNullElements := false }
      (·.kind ≠ .bang) := by
  apply Accepts.sequence
  apply (accepts_identifier hname).bind_token
  exact (accepts_bang houter).map _

theorem accepts_typeChoice {tokens : List Token} {type : TypeRef} (htype : IsType tokens type) :
    Accepts (choice "a type" [listType, namedType]) tokens type (·.kind ≠ .bang) := by
  cases htype with
  | list hopening hname hinner hclosing houter =>
    have hlist := accepts_listType hopening hname hinner hclosing houter
    exact hlist.choice "a type" [namedType] (fun _ hmem => absurd hmem List.not_mem_nil)
  | @named name outer required hname houter =>
    have hmiss : ∀ other ∈ [listType], ∀ cursor : Cursor, cursor.peek = name →
        other.Misses cursor := by
      intro other hmem cursor hpeek
      obtain rfl := List.mem_singleton.mp hmem
      exact misses_listType (by rw [hpeek, hname]; decide)
    exact (accepts_namedType hname houter).choice "a type" [] hmiss

/-- The token neither prolongs a type, as `!` does, nor makes it stray, as `]` does. -/
def FollowsType (after : Token) : Prop :=
  after.kind ≠ .bang ∧ after.kind ≠ .rightBracket

theorem accepts_typeRef {tokens : List Token} {type : TypeRef} (htype : IsType tokens type) :
    Accepts typeRef tokens type FollowsType := by
  have hunopened : Accepts (unopened .rightBracket >>= fun _ => pure type) [] type FollowsType :=
    ((accepts_unopened .rightBracket).map (fun _ => type)).mono (fun _ hafter => hafter.2)
  have hbody : Accepts (choice "a type" [listType, namedType] >>= fun found =>
      unopened .rightBracket >>= fun _ => pure found) (tokens ++ []) type FollowsType :=
    (accepts_typeChoice htype).bind hunopened (fun _ hafter => hafter.1)
  rw [List.append_nil] at hbody
  cases htype <;> exact hbody.sequence

theorem accepts_param {tokens : List Token} {parameter : Param} (hparam : IsParam tokens parameter) :
    Accepts param tokens parameter FollowsType := by
  obtain ⟨hname, hcolon, htype⟩ := hparam
  apply Accepts.sequence
  apply (accepts_identifier hname).bind_token
  apply (accepts_token hcolon (by decide)).bind_token
  exact (accepts_typeRef htype).map _

theorem accepts_paramRun {tokens : List Token} {parameters : List Param}
    (hrun : IsParamRun tokens parameters) :
    Accepts (separated param (token .comma)) tokens parameters (·.kind = .rightParen) := by
  cases hrun with
  | none =>
    apply accepts_separated_none
    intro cursor hkind
    exact misses_param (by rw [hkind]; decide)
  | some hparam hmore =>
    have hsign : ∀ token : Token, token.kind = .comma → FollowsType token := by
      intro token hkind
      simp [FollowsType, hkind]
    apply (accepts_separated_some (by decide) accepts_param hsign hparam hmore).mono
    intro after hkind
    simp [FollowsType, hkind]

theorem accepts_params {tokens : List Token} {parameters : List Param}
    (hparams : IsParams tokens parameters) : Accepts params tokens parameters Anything := by
  obtain ⟨hopening, hrun, hclosing⟩ := hparams
  apply Accepts.sequence
  apply (accepts_token hopening (by decide)).bind_token
  apply (accepts_paramRun hrun).bind
  · exact (accepts_token hclosing (by decide)).map _
  · intro after _
    exact hclosing

theorem accepts_directive {tokens : List Token} {mark : Directive} (hmark : IsDirective tokens mark) :
    Accepts directive tokens mark Anything := by
  obtain ⟨hsign, hname⟩ := hmark
  apply Accepts.sequence
  apply (accepts_token hsign (by decide)).bind_token
  exact (accepts_identifier hname).map _

theorem accepts_directives {tokens : List Token} {marks : List Directive}
    (hmarks : Repeated IsDirective tokens marks) :
    Accepts (many directive) tokens marks (·.kind ≠ .at) := by
  refine accepts_many (fun hmark => ⟨accepts_directive hmark, ?_⟩)
    (fun cursor hkind => misses_directive hkind) (fun _ _ => trivial) hmarks
  obtain ⟨_, _⟩ := hmark
  exact ⟨_, _, rfl, trivial⟩

/-- The token prolongs neither the type of a field nor its directives. -/
def FollowsField (after : Token) : Prop :=
  FollowsType after ∧ after.kind ≠ .at

theorem IsDirective.starts {tokens : List Token} {mark : Directive}
    (hmark : IsDirective tokens mark) : ∃ sign more, tokens = sign :: more ∧ sign.kind = .at := by
  obtain ⟨hsign, _⟩ := hmark
  exact ⟨_, _, rfl, hsign⟩

/-- What stands behind the parameters of a field, or behind its name if it has none. -/
theorem accepts_fieldEnd {colon : Token} {typeTokens directiveTokens : List Token}
    {type : TypeRef} {directives : List Directive} (hcolon : colon.kind = .colon)
    (htype : IsType typeTokens type) (hdirectives : Repeated IsDirective directiveTokens directives)
    (build : TypeRef → List Directive → Field) :
    Accepts (token .colon >>= fun _ => typeRef >>= fun found => many directive >>= fun marks =>
      pure (build found marks)) (colon :: (typeTokens ++ directiveTokens)) (build type directives)
      FollowsField := by
  apply (accepts_token hcolon (by decide)).bind_token
  apply (accepts_typeRef htype).bind
  · exact ((accepts_directives hdirectives).mono (fun _ hafter => hafter.2)).map _
  · intro after hafter
    apply hdirectives.follow_headD _ hafter.1
    intro tokens mark hmark
    obtain ⟨sign, more, rfl, hsign⟩ := hmark.starts
    exact ⟨sign, more, rfl, by simp [FollowsType, hsign]⟩

theorem accepts_field {tokens : List Token} {member : Field} (hfield : IsField tokens member) :
    Accepts field tokens member FollowsField := by
  obtain ⟨hname, hparams, hcolon, htype, hdirectives⟩ := hfield
  apply Accepts.sequence
  apply (accepts_identifier hname).bind_token
  cases hparams with
  | absent =>
    have hnone : Accepts (Rule.optional params) [] none (·.kind ≠ .leftParen) :=
      accepts_optional_none (fun cursor hkind => misses_params hkind)
    apply hnone.bind (accepts_fieldEnd hcolon htype hdirectives _)
    intro after _
    simp [hcolon]
  | present hsome =>
    apply (accepts_params hsome).optional.bind (accepts_fieldEnd hcolon htype hdirectives _)
    intro _ _
    trivial

theorem IsField.starts {tokens : List Token} {member : Field} (hfield : IsField tokens member) :
    ∃ name more, tokens = name :: more ∧ name.kind = .text := by
  obtain ⟨hname, _⟩ := hfield
  exact ⟨_, _, rfl, hname⟩

theorem accepts_fields {tokens : List Token} {fields : List Field}
    (hfields : Repeated IsField tokens fields) :
    Accepts (many field) tokens fields (·.kind = .rightCurly) := by
  refine accepts_many (fun hfield => ⟨accepts_field hfield, ?_⟩) ?_ ?_ hfields
  · obtain ⟨name, more, rfl, hname⟩ := hfield.starts
    exact ⟨name, more, rfl, by simp [FollowsField, FollowsType, hname]⟩
  · intro cursor hkind
    exact misses_field (by rw [hkind]; decide)
  · intro after hkind
    simp [FollowsField, FollowsType, hkind]

theorem accepts_fieldsBlock {tokens : List Token} {fields : List Field}
    (hblock : IsBlock tokens fields) : Accepts fieldsBlock tokens fields Anything := by
  obtain ⟨hopening, hfields, hclosing⟩ := hblock
  apply Accepts.sequence
  apply (accepts_token hopening (by decide)).bind_token
  apply (accepts_fields hfields).bind
  · exact (accepts_token hclosing (by decide)).map _
  · intro after _
    exact hclosing

theorem accepts_typeDef {word : String} {input : Bool} {start name : Token} {tokens : List Token}
    {fields : List Field} (hword : start.IsWord word) (hname : name.kind = .text)
    (hblock : IsBlock tokens fields) :
    Accepts (typeDef word input) (start :: name :: tokens)
      (.typeDef { loc := start.loc, name := name.value, fields, input }) Anything := by
  apply Accepts.sequence
  apply (accepts_keyword hword).bind_token
  apply (accepts_identifier hname).bind_token
  exact (accepts_fieldsBlock hblock).map _

theorem accepts_schemaBlock {start : Token} {tokens : List Token} {fields : List Field}
    (hword : start.IsWord "schema") (hblock : IsBlock tokens fields) :
    Accepts schemaBlock (start :: tokens) (.schema { loc := start.loc, fields }) Anything := by
  apply Accepts.sequence
  apply (accepts_keyword hword).bind_token
  exact (accepts_fieldsBlock hblock).map _

theorem accepts_furtherTarget {tokens : List Token} {target : String}
    (htarget : Behind .comma IsName tokens target) :
    Accepts furtherTarget tokens target Anything := by
  obtain ⟨hcomma, hname⟩ := htarget
  obtain ⟨hname⟩ := hname
  apply Accepts.sequence
  exact (accepts_token hcomma (by decide)).bind_token (accepts_identifier hname)

theorem accepts_directiveDef {start sign name on target : Token} {tokens : List Token}
    {targets : List String} (hword : start.IsWord "directive") (hsign : sign.kind = .at)
    (hname : name.kind = .text) (hon : on.IsWord "on") (htarget : target.kind = .text)
    (htargets : Repeated (Behind .comma IsName) tokens targets) :
    Accepts directiveDef (start :: sign :: name :: on :: target :: tokens)
      (.directiveDef { loc := start.loc, name := name.value, targets := target.value :: targets })
      (·.kind ≠ .comma) := by
  have hmany : Accepts (many furtherTarget) tokens targets (·.kind ≠ .comma) :=
    accepts_many (fun hfurther => ⟨accepts_furtherTarget hfurther,
      hfurther.starts (fun _ _ => trivial)⟩) (fun cursor hkind => misses_furtherTarget hkind)
      (fun _ _ => trivial) htargets
  apply Accepts.sequence
  apply (accepts_keyword hword).bind_token
  apply (accepts_token hsign (by decide)).bind_token
  apply (accepts_identifier hname).bind_token
  apply (accepts_keyword hon).bind_token
  apply (accepts_identifier htarget).bind_token
  exact hmany.map _

theorem accepts_definition_of_mem {word : String} {rule : Rule Definition} {start : Token}
    {tokens : List Token} {content : Definition} (hmem : (word, rule) ∈ definitionRules)
    (hword : start.IsWord word)
    (hrule : Accepts rule (start :: tokens) content (·.kind ≠ .comma)) :
    Accepts definition (start :: tokens) content (·.kind ≠ .comma) := by
  obtain ⟨front, back, hsplit, hmiss⟩ := definitionRules_split hmem
  rw [definition_eq, hsplit]
  apply hrule.choice definitionPhrase back
  intro other hother cursor hpeek
  exact hmiss other (List.mem_append_left back hother) cursor (hpeek ▸ hword)

/-- A definition is read whole before any token but a comma, which could bring another target. -/
theorem accepts_definition {tokens : List Token} {content : Definition}
    (hdefinition : IsDefinition tokens content) :
    Accepts definition tokens content (·.kind ≠ .comma) := by
  cases hdefinition with
  | typeDef hword hname hblock =>
    exact accepts_definition_of_mem (by simp [definitionRules]) hword
      ((accepts_typeDef hword hname hblock).mono (fun _ _ => trivial))
  | inputDef hword hname hblock =>
    exact accepts_definition_of_mem (by simp [definitionRules]) hword
      ((accepts_typeDef hword hname hblock).mono (fun _ _ => trivial))
  | schema hword hblock =>
    exact accepts_definition_of_mem (by simp [definitionRules]) hword
      ((accepts_schemaBlock hword hblock).mono (fun _ _ => trivial))
  | directiveDef hword hsign hname hon htarget htargets =>
    exact accepts_definition_of_mem (by simp [definitionRules]) hword
      (accepts_directiveDef hword hsign hname hon htarget htargets)

theorem succeeds_directiveDef {start sign name on target : Token} (tokens : List Token)
    (hword : start.IsWord "directive") (hsign : sign.kind = .at) (hname : name.kind = .text)
    (hon : on.IsWord "on") (htarget : target.kind = .text) :
    directiveDef.Succeeds (start :: sign :: name :: on :: target :: tokens) := by
  apply Succeeds.sequence
  intro loc
  apply (accepts_keyword hword).bind_succeeds
  apply (accepts_token hsign (by decide)).bind_succeeds
  apply (accepts_identifier hname).bind_succeeds
  apply (accepts_keyword hon).bind_succeeds
  apply (accepts_identifier htarget).bind_succeeds
  exact fun _ _ _ _ _ => ⟨_, _, rfl⟩

theorem succeeds_definition_of_mem {word : String} {rule : Rule Definition} {start : Token}
    {tokens : List Token} (hmem : (word, rule) ∈ definitionRules) (hword : start.IsWord word)
    (hrule : rule.Succeeds (start :: tokens)) : definition.Succeeds (start :: tokens) := by
  obtain ⟨front, back, hsplit, hmiss⟩ := definitionRules_split hmem
  rw [definition_eq, hsplit]
  apply hrule.choice definitionPhrase back
  intro other hother cursor hpeek
  exact hmiss other (List.mem_append_left back hother) cursor (hpeek ▸ hword)

/-- Where a definition stands, a definition is read: in front of a comma perhaps a longer one. -/
theorem succeeds_definition {tokens : List Token} {content : Definition}
    (hdefinition : IsDefinition tokens content) : definition.Succeeds tokens := by
  cases hdefinition with
  | typeDef hword hname hblock =>
    exact succeeds_definition_of_mem (.head _) hword
      (accepts_typeDef hword hname hblock).succeeds
  | inputDef hword hname hblock =>
    exact succeeds_definition_of_mem (.tail _ (.head _)) hword
      (accepts_typeDef hword hname hblock).succeeds
  | schema hword hblock =>
    exact succeeds_definition_of_mem (by simp [definitionRules]) hword
      (accepts_schemaBlock hword hblock).succeeds
  | directiveDef hword hsign hname hon htarget _ =>
    exact succeeds_definition_of_mem (by simp [definitionRules]) hword
      (succeeds_directiveDef _ hword hsign hname hon htarget)

theorem IsDefinition.starts {tokens : List Token} {content : Definition}
    (hdefinition : IsDefinition tokens content) :
    ∃ start more, tokens = start :: more ∧ StartsDefinition start := by
  cases hdefinition with
  | typeDef hword _ _ => exact ⟨_, _, rfl, _, by decide, hword⟩
  | inputDef hword _ _ => exact ⟨_, _, rfl, _, by decide, hword⟩
  | schema hword _ => exact ⟨_, _, rfl, _, by decide, hword⟩
  | directiveDef hword _ _ _ _ _ => exact ⟨_, _, rfl, _, by decide, hword⟩

/-- All the definitions in front of an end of file are read. -/
theorem accepts_definitions {tokens : List Token} {contents : List Definition}
    (hcontents : Repeated IsDefinition tokens contents) :
    Accepts (many definition) tokens contents (·.kind = .eof) := by
  refine accepts_many (fun hdefinition => ⟨accepts_definition hdefinition, ?_⟩) ?_ ?_ hcontents
  · obtain ⟨start, more, rfl, hstart⟩ := hdefinition.starts
    exact ⟨start, more, rfl, by simp [hstart.kind_eq]⟩
  · intro cursor hkind
    apply misses_definition
    intro hstart
    rw [hstart.kind_eq] at hkind
    cases hkind
  · intro after hkind
    simp [hkind]

end SchemaGen.Grammar
