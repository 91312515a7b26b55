import SchemaGen.Proofs.Grammar.Refusal

namespace SchemaGen.Grammar

/-- What a type belongs to. -/
inductive Owner where
  | field
  | param
deriving DecidableEq, Repr

/-- A place in a document: what has been read so far, as far as it matters for what may come next.
Schema documents nest to a fixed depth only, so there are finitely many places. -/
inductive Place where
  /-- Between definitions. -/
  | top
  /-- Behind `type` or `input`. -/
  | typeName
  /-- Behind `schema`, or behind the name of a type definition. -/
  | blockStart
  /-- Behind `{`, or anywhere else where a field or `}` is next. -/
  | block
  /-- Behind the name of a field. -/
  | fieldName
  /-- Behind `(`. -/
  | params
  /-- Behind the name of a parameter. -/
  | paramName
  /-- Behind a parameter. -/
  | paramEnd
  /-- Behind the comma between two parameters. -/
  | nextParam
  /-- Where nothing but `)` is left. No token leads here; it is what `params` and `paramEnd` become
  when no parameter and no comma follows. -/
  | paramsClose
  /-- Behind `)`. -/
  | paramsEnd
  /-- Behind the colon in front of a type. -/
  | typeStart (owner : Owner)
  /-- Behind `[`. -/
  | listStart (owner : Owner)
  /-- Behind the name in a list type. -/
  | listName (owner : Owner)
  /-- Behind the `!` in a list type. -/
  | listMarked (owner : Owner)
  /-- Behind a type that may still get its `!`. -/
  | typeEnd (owner : Owner)
  /-- Behind the `!` of a type. -/
  | typeMarked (owner : Owner)
  /-- Behind a directive of a field, or behind its type where nothing prolongs that. -/
  | fieldEnd
  /-- Behind the `@` on a field. -/
  | directiveSign
  /-- Behind `directive`. -/
  | definitionSign
  /-- Behind the `@` of a directive definition. -/
  | directiveName
  /-- Behind the name of a directive definition. -/
  | onWord
  /-- Behind `on`. -/
  | firstTarget
  /-- Behind a target. -/
  | target
  /-- Behind the comma between two targets. -/
  | nextTarget
deriving DecidableEq, Repr

namespace Place

/-- The place behind a token, or nothing if no document goes on with that token. -/
def step : Place → Token → Option Place
  | top, token =>
    if token.IsWord "type" ∨ token.IsWord "input" then some typeName
    else if token.IsWord "schema" then some blockStart
    else if token.IsWord "directive" then some definitionSign
    else none
  | typeName, token => if token.kind = .text then some blockStart else none
  | blockStart, token => if token.kind = .leftCurly then some block else none
  | block, token =>
    if token.kind = .text then some fieldName
    else if token.kind = .rightCurly then some top
    else none
  | fieldName, token =>
    if token.kind = .leftParen then some params
    else if token.kind = .colon then some (typeStart .field)
    else none
  | params, token =>
    if token.kind = .text then some paramName
    else if token.kind = .rightParen then some paramsEnd
    else none
  | paramName, token => if token.kind = .colon then some (typeStart .param) else none
  | paramEnd, token | typeMarked .param, token =>
    if token.kind = .comma then some nextParam
    else if token.kind = .rightParen then some paramsEnd
    else none
  | nextParam, token => if token.kind = .text then some paramName else none
  | paramsClose, token => if token.kind = .rightParen then some paramsEnd else none
  | paramsEnd, token => if token.kind = .colon then some (typeStart .field) else none
  | typeStart owner, token =>
    if token.kind = .leftBracket then some (listStart owner)
    else if token.kind = .text then some (typeEnd owner)
    else none
  | listStart owner, token => if token.kind = .text then some (listName owner) else none
  | listName owner, token =>
    if token.kind = .bang then some (listMarked owner)
    else if token.kind = .rightBracket then some (typeEnd owner)
    else none
  | listMarked owner, token => if token.kind = .rightBracket then some (typeEnd owner) else none
  | typeEnd .param, token =>
    if token.kind = .bang then some (typeMarked .param)
    else if token.kind = .comma then some nextParam
    else if token.kind = .rightParen then some paramsEnd
    else none
  | typeEnd .field, token =>
    if token.kind = .bang then some (typeMarked .field)
    else if token.kind = .at then some directiveSign
    else if token.kind = .text then some fieldName
    else if token.kind = .rightCurly then some top
    else none
  | fieldEnd, token | typeMarked .field, token =>
    if token.kind = .at then some directiveSign
    else if token.kind = .text then some fieldName
    else if token.kind = .rightCurly then some top
    else none
  | directiveSign, token => if token.kind = .text then some fieldEnd else none
  | definitionSign, token => if token.kind = .at then some directiveName else none
  | directiveName, token => if token.kind = .text then some onWord else none
  | onWord, token => if token.IsWord "on" then some firstTarget else none
  | firstTarget, token | nextTarget, token => if token.kind = .text then some target else none
  | target, token =>
    if token.kind = .comma then some nextTarget
    else if token.IsWord "type" ∨ token.IsWord "input" then some typeName
    else if token.IsWord "schema" then some blockStart
    else if token.IsWord "directive" then some definitionSign
    else none

/-- The complaint about a token that leads nowhere. -/
def complaint : Place → Token → SyntaxError
  | top, token | target, token => .unexpected definitionPhrase token
  | typeName, token | nextParam, token | listStart _, token | directiveSign, token
  | directiveName, token | firstTarget, token | nextTarget, token =>
    .unexpected TokenKind.text.expectedName token
  | blockStart, token => .unexpected TokenKind.leftCurly.expectedName token
  | block, token | fieldEnd, token => .unexpected TokenKind.rightCurly.expectedName token
  | fieldName, token | paramName, token | paramsEnd, token =>
    .unexpected TokenKind.colon.expectedName token
  | params, token | paramEnd, token | paramsClose, token =>
    .unexpected TokenKind.rightParen.expectedName token
  | typeStart _, token => .unexpected "a type" token
  | listName _, token | listMarked _, token =>
    if token.kind = .error then .unexpected TokenKind.rightBracket.expectedName token
    else .mismatchedBrackets token
  | typeEnd .field, token | typeMarked .field, token =>
    if token.kind = .rightBracket then .mismatchedBrackets token
    else .unexpected TokenKind.rightCurly.expectedName token
  | typeEnd .param, token | typeMarked .param, token =>
    if token.kind = .rightBracket then .mismatchedBrackets token
    else .unexpected TokenKind.rightParen.expectedName token
  | definitionSign, token => .unexpected TokenKind.at.expectedName token
  | onWord, token => .unexpected "keyword 'on'" token

/-- The place behind several tokens. -/
def run (place : Place) (tokens : List Token) : Option Place :=
  tokens.foldlM step place

@[simp]
theorem run_nil (place : Place) : place.run [] = some place := rfl

@[simp]
theorem run_cons (place : Place) (token : Token) (tokens : List Token) :
    place.run (token :: tokens) = (place.step token).bind (·.run tokens) := rfl

theorem run_append (place : Place) (front back : List Token) :
    place.run (front ++ back) = (place.run front).bind (·.run back) :=
  List.foldlM_append ..

theorem run_append_eq_some {place stop : Place} {front back : List Token}
    (hrun : place.run (front ++ back) = some stop) :
    ∃ middle, place.run front = some middle ∧ middle.run back = some stop := by
  rw [run_append] at hrun
  exact Option.bind_eq_some_iff.mp hrun

/-- A token that leads nowhere leads nowhere whatever follows it. -/
theorem run_eq_none {place stop : Place} {front : List Token} {token : Token}
    (hrun : place.run front = some stop) (hstep : stop.step token = none) (back : List Token) :
    place.run (front ++ token :: back) = none := by
  simp [run_append, hrun, hstep]

/-- A document may end here. -/
def Final (place : Place) : Prop :=
  place = top ∨ place = target

instance (place : Place) : Decidable place.Final :=
  inferInstanceAs (Decidable (_ ∨ _))

theorem blames_complaint (place : Place) (token : Token) :
    (place.complaint token).Blames token := by
  have hunexpected := fun expected => SyntaxError.blames_unexpected expected token
  cases place with
  | listName owner | listMarked owner =>
    simp only [complaint]
    split
    · exact hunexpected _
    · rename_i hkind
      exact .brackets hkind
  | typeEnd owner | typeMarked owner =>
    cases owner <;>
    · simp only [complaint]
      split
      · rename_i hkind
        exact .brackets (by simp [hkind])
      · exact hunexpected _
  | _ => exact hunexpected _

@[simp]
theorem token_complaint (place : Place) (token : Token) : (place.complaint token).token = token :=
  (place.blames_complaint token).token_eq

@[simp]
theorem rootCause_complaint (place : Place) (token : Token) :
    (place.complaint token).rootCause = place.complaint token :=
  (place.blames_complaint token).rootCause_eq

/-- Ends of file and blank runs are part of no definition. -/
theorem step_eq_none (place : Place) {token : Token}
    (hkind : token.kind = .eof ∨ token.kind = .whitespace) : place.step token = none := by
  cases place with
  | typeEnd owner | typeMarked owner => cases owner <;> rcases hkind with h | h <;> simp [step, h]
  | _ => rcases hkind with h | h <;> simp [step, Token.IsWord, h]

/-- What leads somewhere holds neither. -/
theorem kind_ne_of_run {place stop : Place} {tokens : List Token}
    (hrun : place.run tokens = some stop) :
    ∀ token ∈ tokens, ¬ (token.kind = .eof ∨ token.kind = .whitespace) := by
  intro token hmem hkind
  obtain ⟨front, back, rfl⟩ := List.append_of_mem hmem
  obtain ⟨middle, _, hback⟩ := run_append_eq_some hrun
  simp [middle.step_eq_none hkind] at hback

theorem significant_of_run {place stop : Place} {tokens : List Token}
    (hrun : place.run tokens = some stop) : significant tokens = tokens := by
  rw [significant, List.filter_eq_self]
  intro token hmem
  have hkind := kind_ne_of_run hrun token hmem
  simp only [not_or] at hkind
  simpa using hkind.2

/-- A punctuation token, at no place in particular. -/
def sign (kind : TokenKind) : Token := ⟨kind, {}, ""⟩

/-- A text token, at no place in particular. -/
def word (value : String) : Token := ⟨.text, {}, value⟩

/-- What closes the block around a type. -/
def ownerCompletion : Owner → List Token
  | .field => [sign .rightCurly]
  | .param => [sign .rightParen, sign .colon, word "x", sign .rightCurly]

/-- Tokens that complete a document from a place on. -/
def completion : Place → List Token
  | top | target => []
  | typeName => [word "x", sign .leftCurly, sign .rightCurly]
  | blockStart => [sign .leftCurly, sign .rightCurly]
  | block | fieldEnd => ownerCompletion .field
  | fieldName | paramsEnd => sign .colon :: word "x" :: ownerCompletion .field
  | params | paramEnd | paramsClose => ownerCompletion .param
  | paramName => sign .colon :: word "x" :: ownerCompletion .param
  | nextParam => word "x" :: sign .colon :: word "x" :: ownerCompletion .param
  | typeStart owner => word "x" :: ownerCompletion owner
  | listStart owner => word "x" :: sign .rightBracket :: ownerCompletion owner
  | listName owner | listMarked owner => sign .rightBracket :: ownerCompletion owner
  | typeEnd owner | typeMarked owner => ownerCompletion owner
  | directiveSign => word "x" :: ownerCompletion .field
  | definitionSign => [sign .at, word "x", word "on", word "x"]
  | directiveName => [word "x", word "on", word "x"]
  | onWord => [word "on", word "x"]
  | firstTarget | nextTarget => [word "x"]

/-- Every place can be completed to a document, so whatever leads to a place can. -/
theorem run_completion (place : Place) :
    ∃ stop, place.run place.completion = some stop ∧ stop.Final := by
  cases place with
  | target | definitionSign | directiveName | onWord | firstTarget | nextTarget =>
    exact ⟨target, rfl, .inr rfl⟩
  | typeStart owner | listStart owner | listName owner | listMarked owner | typeEnd owner
  | typeMarked owner => cases owner <;> exact ⟨top, rfl, .inl rfl⟩
  | _ => exact ⟨top, rfl, .inl rfl⟩

/-- In front of a token, a place is as good as another one: the token leads from both to the same
place, or it leads nowhere and the complaint is the same. This is how an optional part that is
absent gives way to what follows it. -/
structure Slides (place other : Place) (token : Token) : Prop where
  final_iff : place.Final ↔ other.Final
  step_eq : place.step token = other.step token
  complaint_eq : other.step token = none → place.complaint token = other.complaint token

theorem Slides.refl (place : Place) (token : Token) : place.Slides place token :=
  ⟨Iff.rfl, rfl, fun _ => rfl⟩

theorem Slides.trans {place middle other : Place} {token : Token}
    (hfirst : place.Slides middle token) (hsecond : middle.Slides other token) :
    place.Slides other token where
  final_iff := hfirst.final_iff.trans hsecond.final_iff
  step_eq := hfirst.step_eq.trans hsecond.step_eq
  complaint_eq hnone :=
    (hfirst.complaint_eq (hsecond.step_eq.trans hnone)).trans (hsecond.complaint_eq hnone)

theorem Slides.run_cons_eq {place other : Place} {token : Token} (hslides : place.Slides other token)
    (tokens : List Token) : place.run (token :: tokens) = other.run (token :: tokens) := by
  simp [hslides.step_eq]

/-- The place behind a type, once nothing prolongs the type. -/
def ofOwner : Owner → Place
  | .field => fieldEnd
  | .param => paramEnd

section

variable {token : Token}

theorem fieldName_slides (hkind : token.kind ≠ .leftParen) :
    fieldName.Slides paramsEnd token :=
  ⟨by decide, by simp [step, hkind], fun _ => rfl⟩

theorem params_slides (hkind : token.kind ≠ .text) : params.Slides paramsClose token :=
  ⟨by decide, by simp [step, hkind], fun _ => rfl⟩

theorem params_slides_nextParam (hkind : token.kind = .text) : params.Slides nextParam token :=
  ⟨by decide, by simp [step, hkind], by simp [step, hkind]⟩

theorem paramEnd_slides (hkind : token.kind ≠ .comma) : paramEnd.Slides paramsClose token :=
  ⟨by decide, by simp [step, hkind], fun _ => rfl⟩

theorem listName_slides (owner : Owner) (hkind : token.kind ≠ .bang) :
    (listName owner).Slides (listMarked owner) token :=
  ⟨by simp [Final], by simp [step, hkind], fun _ => rfl⟩

theorem typeEnd_slides (owner : Owner) (hkind : token.kind ≠ .bang) :
    (typeEnd owner).Slides (typeMarked owner) token := by
  cases owner <;> exact ⟨by decide, by simp [step, hkind], fun _ => rfl⟩

theorem typeMarked_slides (owner : Owner) (hkind : token.kind ≠ .rightBracket) :
    (typeMarked owner).Slides (ofOwner owner) token := by
  cases owner <;> exact ⟨by decide, rfl, fun _ => by simp [complaint, ofOwner, hkind]⟩

theorem fieldEnd_slides (hkind : token.kind ≠ .at) : fieldEnd.Slides block token :=
  ⟨by decide, by simp [step, hkind], fun _ => rfl⟩

theorem target_slides (hkind : token.kind ≠ .comma) : target.Slides top token :=
  ⟨by decide, by simp [step, hkind], fun _ => rfl⟩

end

/-- In front of a token, a place takes nothing but a token of a kind. -/
structure Expects (place : Place) (kind : TokenKind) (arrival : Place) (token : Token) : Prop where
  step_eq : token.kind = kind → place.step token = some arrival
  refuses : token.kind ≠ kind → place.step token = none ∧ ¬ place.Final
  complaint_eq : token.kind ≠ kind →
    .unexpected kind.expectedName token = place.complaint token

theorem Expects.of_hit {place arrival : Place} {kind : TokenKind} {token : Token}
    (hkind : token.kind = kind) (hstep : place.step token = some arrival) :
    place.Expects kind arrival token :=
  ⟨fun _ => hstep, fun hnot => absurd hkind hnot, fun hnot => absurd hkind hnot⟩

/-- A place with one kind to go on with, whatever the token. -/
theorem Expects.of_step {place arrival : Place} {kind : TokenKind} {token : Token}
    (hstep : place.step token = if token.kind = kind then some arrival else none)
    (hinner : ¬ place.Final)
    (hcomplaint : .unexpected kind.expectedName token = place.complaint token) :
    place.Expects kind arrival token where
  step_eq hkind := by rw [hstep, if_pos hkind]
  refuses hkind := ⟨by rw [hstep, if_neg hkind], hinner⟩
  complaint_eq _ := hcomplaint

/-- A block takes nothing but `}` where no field starts. -/
theorem block_expects {token : Token} (hkind : token.kind ≠ .text) :
    block.Expects .rightCurly top token :=
  .of_step (by simp [step, hkind]) (by decide) rfl

/-- A document goes on at the top exactly with the words that start a definition. -/
theorem top_step_eq_none_iff (token : Token) : top.step token = none ↔ ¬ StartsDefinition token := by
  simp only [step, StartsDefinition, definitionRules, List.map_cons, List.map_nil, List.mem_cons,
    List.not_mem_nil, or_false, exists_eq_or_imp, exists_eq_left]
  grind

end Place

end SchemaGen.Grammar
