import Mathlib.Data.List.Nodup
import Mathlib.Tactic.Push
import Mathlib.Tactic.Tauto
import SchemaGen.Proofs.Grammar.Reading

namespace SchemaGen

namespace SyntaxError

/-- The errors that a rule may give out about a token. A token that the lexer complained about is
always reported with that complaint. -/
inductive Blames (token : Token) : SyntaxError → Prop
  | lexer (hkind : token.kind = .error) : Blames token (lexError token.value token)
  | unexpected (hkind : token.kind ≠ .error) (expected : String) :
      Blames token (unexpectedToken expected token)
  | brackets (hkind : token.kind ≠ .error) : Blames token (mismatchedBrackets token)

theorem blames_unexpected (expected : String) (token : Token) :
    (unexpected expected token).Blames token := by
  unfold SyntaxError.unexpected
  split
  · rename_i hkind
    exact .lexer hkind
  · rename_i hkind
    exact .unexpected hkind expected

theorem Blames.token_eq {token : Token} {error : SyntaxError} (hblames : error.Blames token) :
    error.token = token := by
  cases hblames <;> rfl

/-- A failure at a token is never itself a report of one, so it is its own root cause. -/
theorem Blames.rootCause_eq {token : Token} {error : SyntaxError} (hblames : error.Blames token) :
    error.rootCause = error := by
  cases hblames <;> rfl

/-- Two complaints about one token either override each other or are the same. -/
theorem Blames.eq_of_isLexError {token : Token} {first second : SyntaxError}
    (hfirst : first.Blames token) (hsecond : second.Blames token)
    (hlexer : first.isLexError = true) : first = second := by
  cases hfirst with
  | lexer hkind =>
    cases hsecond with
    | lexer => rfl
    | unexpected hnot => exact absurd hkind hnot
    | brackets hnot => exact absurd hkind hnot
  | unexpected => cases hlexer
  | brackets => cases hlexer

end SyntaxError

namespace Cursor

/-- Two cursors at the same token of the same list, whatever they remember of failures. -/
structure SameSpot (cursor other : Cursor) : Prop where
  tokens_eq : cursor.tokens = other.tokens
  pos_eq : cursor.pos = other.pos

theorem SameSpot.peek_eq {cursor other : Cursor} (hsame : cursor.SameSpot other) :
    cursor.peek = other.peek := by
  simp [peek, hsame.tokens_eq, hsame.pos_eq]

theorem SameSpot.rest_eq {cursor other : Cursor} (hsame : cursor.SameSpot other) :
    cursor.rest = other.rest := by
  simp [rest, hsame.tokens_eq, hsame.pos_eq]

theorem SameSpot.valid {cursor other : Cursor} (hsame : cursor.SameSpot other)
    (hvalid : other.Valid) : cursor.Valid where
  closed := hsame.tokens_eq ▸ hvalid.closed
  settled := by
    rw [hsame.tokens_eq, hsame.pos_eq]
    exact hvalid.settled

theorem SameSpot.reads {cursor other next : Cursor} {tokens : List Token}
    (hsame : cursor.SameSpot other) (hreads : other.Reads tokens next) :
    cursor.Reads tokens next where
  valid := hreads.valid
  sameTokens := hreads.sameTokens.trans hsame.tokens_eq.symm
  rest_eq := hsame.rest_eq.trans hreads.rest_eq

theorem SameSpot.symm {cursor other : Cursor} (hsame : cursor.SameSpot other) :
    other.SameSpot cursor :=
  ⟨hsame.tokens_eq.symm, hsame.pos_eq.symm⟩

theorem SameSpot.trans {cursor middle other : Cursor} (hfirst : cursor.SameSpot middle)
    (hsecond : middle.SameSpot other) : cursor.SameSpot other :=
  ⟨hfirst.tokens_eq.trans hsecond.tokens_eq, hfirst.pos_eq.trans hsecond.pos_eq⟩

theorem sameSpot_record (cursor : Cursor) (error : SyntaxError) :
    (cursor.record error).SameSpot cursor :=
  ⟨tokens_record .., pos_record ..⟩

/-- Nothing was recorded behind the cursor's token, and what was recorded at it blames it. -/
def Clean (cursor : Cursor) : Prop :=
  ∀ pos error, cursor.furthest = some (pos, error) →
    pos < cursor.pos ∨ pos = cursor.pos ∧ error.Blames cursor.peek

/-- A failure was recorded further on than where the cursor stands. -/
def Overtaken (cursor : Cursor) : Prop :=
  ∃ pos error, cursor.furthest = some (pos, error) ∧ cursor.pos < pos

/-- What the cursor remembers makes room for a failure at its own token. -/
def GivesWay (cursor : Cursor) : Prop :=
  ∀ pos error, cursor.furthest = some (pos, error) →
    pos < cursor.pos ∨ pos = cursor.pos ∧ error.isLexError = false

theorem GivesWay.record_eq {cursor : Cursor} (hgives : cursor.GivesWay) (error : SyntaxError) :
    cursor.record error = { cursor with furthest := some (cursor.pos, error) } := by
  unfold record
  split
  · rfl
  · rename_i pos recorded hfurthest
    have hroom := hgives pos recorded hfurthest
    rw [if_pos (by simpa using hroom)]

theorem record_eq_of_not_givesWay {cursor : Cursor} (hkept : ¬ cursor.GivesWay)
    (error : SyntaxError) : cursor.record error = cursor := by
  unfold record
  split
  · rename_i hfurthest
    exact absurd (fun pos recorded hsome => by simp [hfurthest] at hsome) hkept
  · rename_i pos recorded hfurthest
    rw [if_neg]
    intro hroom
    apply hkept
    intro otherPos other hother
    rw [hfurthest] at hother
    cases hother
    simpa using hroom

/-- Before a recorded failure nothing further is learned. -/
theorem Overtaken.record_eq {cursor : Cursor} (hovertaken : cursor.Overtaken)
    (error : SyntaxError) : cursor.record error = cursor := by
  obtain ⟨pos, recorded, hfurthest, hlt⟩ := hovertaken
  apply record_eq_of_not_givesWay
  intro hgives
  have hroom := hgives pos recorded hfurthest
  omega

/-- A complaint about the current token is what a clean cursor remembers of it. -/
theorem Clean.furthest_record {cursor : Cursor} {error : SyntaxError} (hclean : cursor.Clean)
    (hblames : error.Blames cursor.peek) :
    (cursor.record error).furthest = some (cursor.pos, error) := by
  by_cases hgives : cursor.GivesWay
  · rw [hgives.record_eq]
  · rw [record_eq_of_not_givesWay hgives]
    unfold GivesWay at hgives
    push Not at hgives
    obtain ⟨pos, recorded, hfurthest, hle, hlexer⟩ := hgives
    rcases hclean pos recorded hfurthest with hlt | ⟨heq, hrecorded⟩
    · omega
    · have hsame := hrecorded.eq_of_isLexError hblames (by simpa using hlexer heq)
      rw [hfurthest, heq, hsame]

theorem Clean.record {cursor : Cursor} {error : SyntaxError} (hclean : cursor.Clean)
    (hblames : error.Blames cursor.peek) : (cursor.record error).Clean := by
  intro pos recorded hfurthest
  rw [hclean.furthest_record hblames] at hfurthest
  cases hfurthest
  exact .inr ⟨(pos_record ..).symm, by rwa [(sameSpot_record cursor error).peek_eq]⟩

/-- Of two complaints about one token the later one counts. -/
theorem record_record {cursor : Cursor} {first second : SyntaxError}
    (hfirst : first.Blames cursor.peek) (hsecond : second.Blames cursor.peek) :
    (cursor.record first).record second = cursor.record second := by
  by_cases hgives : cursor.GivesWay
  · rw [hgives.record_eq first, hgives.record_eq second]
    by_cases hlexer : first.isLexError = true
    · have hsame := hfirst.eq_of_isLexError hsecond hlexer
      subst hsame
      exact record_eq_of_not_givesWay (fun hroom => by simpa [hlexer] using hroom _ _ rfl) _
    · rw [GivesWay.record_eq]
      intro pos error hfurthest
      cases hfurthest
      exact .inr ⟨rfl, by simpa using hlexer⟩
  · rw [record_eq_of_not_givesWay hgives]

/-- Behind a token that was taken, everything recorded lies further back. -/
theorem Clean.advance {cursor : Cursor} (hclean : cursor.Clean) (hvalid : cursor.Valid)
    (hkind : cursor.peek.kind ≠ .eof) : cursor.advance.Clean := by
  intro pos error hfurthest
  rw [furthest_advance] at hfurthest
  have hlt := (hvalid.reads_advance hkind).pos_lt
  rcases hclean pos error hfurthest with hbefore | ⟨heq, _⟩
  · exact .inl (by omega)
  · exact .inl (by omega)

end Cursor

namespace Rule

variable {α β : Type}

/-- The rule fails at the cursor's own token: it records one complaint and leaves the rest as it
was. -/
def Misses (rule : Rule α) (cursor : Cursor) : Prop :=
  ∃ error, error.Blames cursor.peek ∧ rule cursor = .error error (cursor.record error)

theorem misses_token {kind : TokenKind} {cursor : Cursor} (hkind : cursor.peek.kind ≠ kind) :
    (token kind).Misses cursor :=
  ⟨_, SyntaxError.blames_unexpected .., if_neg hkind⟩

theorem misses_keyword {word : String} {cursor : Cursor} (hword : ¬ cursor.peek.IsWord word) :
    (keyword word).Misses cursor :=
  ⟨_, SyntaxError.blames_unexpected .., if_neg hword⟩

theorem Misses.bind {first : Rule α} {cursor : Cursor} (hmiss : first.Misses cursor)
    (next : α → Rule β) : (first >>= next).Misses cursor := by
  obtain ⟨error, hblames, heq⟩ := hmiss
  exact ⟨error, hblames, by simp [bind_apply, heq]⟩

theorem Misses.sequence {parts : Location → Rule α} {cursor : Cursor}
    (hmiss : (parts cursor.loc).Misses cursor) : (sequence parts).Misses cursor := by
  obtain ⟨error, hblames, heq⟩ := hmiss
  refine ⟨error, hblames, ?_⟩
  have hreset : (cursor.record error).reset cursor.pos = cursor.record error := by
    rw [← Cursor.pos_record cursor error]
    rfl
  simp [Rule.sequence, heq, hreset]

/-- Behind a recorded failure a rule that misses leaves the cursor alone. -/
theorem Misses.of_overtaken {rule : Rule α} {cursor : Cursor} (hmiss : rule.Misses cursor)
    (hovertaken : cursor.Overtaken) : ∃ error, rule cursor = .error error cursor := by
  obtain ⟨error, _, heq⟩ := hmiss
  exact ⟨error, by rw [heq, hovertaken.record_eq]⟩

/-- Alternatives that miss are passed over, and what they record counts no more than what is
recorded at the same token afterwards. -/
theorem firstOf_of_misses {front : List (Rule α)} (cursor : Cursor)
    (hmiss : ∀ rule ∈ front, ∀ other : Cursor, other.peek = cursor.peek → rule.Misses other)
    (back : List (Rule α)) :
    ∃ next : Cursor, firstOf (front ++ back) cursor = firstOf back next ∧ next.SameSpot cursor ∧
      (cursor.Clean → next.Clean) ∧
      ∀ error, SyntaxError.Blames cursor.peek error → next.record error = cursor.record error := by
  induction front generalizing cursor with
  | nil => exact ⟨cursor, rfl, ⟨rfl, rfl⟩, id, fun _ _ => rfl⟩
  | cons rule front ih =>
    obtain ⟨error, hblames, heq⟩ := hmiss rule (by simp) cursor rfl
    have hspot := Cursor.sameSpot_record cursor error
    obtain ⟨next, hfirst, hsame, hclean, hrecord⟩ := ih (cursor.record error) (by
      intro other hmem third hpeek
      exact hmiss other (by simp [hmem]) third (hpeek.trans hspot.peek_eq))
    refine ⟨next, ?_, hsame.trans hspot, fun h => hclean (h.record hblames), ?_⟩
    · simp [firstOf, heq, hfirst]
    · intro later hlater
      rw [hrecord later (by rwa [hspot.peek_eq]), Cursor.record_record hblames hlater]

/-- When every alternative misses, the phrase that stands for all of them is what is remembered. -/
theorem choice_of_misses {alternatives : List (Rule α)} {cursor : Cursor} (expected : String)
    (hmiss : ∀ rule ∈ alternatives, ∀ other : Cursor, other.peek = cursor.peek →
      rule.Misses other) :
    choice expected alternatives cursor =
      .error (.unexpected expected cursor.peek)
        (cursor.record (.unexpected expected cursor.peek)) := by
  obtain ⟨next, hfirst, hsame, _, hrecord⟩ := firstOf_of_misses cursor hmiss []
  rw [List.append_nil] at hfirst
  simp only [choice, hfirst, firstOf, fail, hsame.peek_eq]
  rw [hrecord _ (SyntaxError.blames_unexpected ..)]

end Rule

namespace Grammar

open Rule

variable {cursor : Cursor}

theorem misses_identifier (hkind : cursor.peek.kind ≠ .text) : identifier.Misses cursor :=
  (misses_token hkind).bind _

theorem misses_listType (hkind : cursor.peek.kind ≠ .leftBracket) : listType.Misses cursor :=
  ((misses_token hkind).bind _).sequence

theorem misses_namedType (hkind : cursor.peek.kind ≠ .text) : namedType.Misses cursor :=
  ((misses_identifier hkind).bind _).sequence

theorem misses_param (hkind : cursor.peek.kind ≠ .text) : param.Misses cursor :=
  ((misses_identifier hkind).bind _).sequence

theorem misses_params (hkind : cursor.peek.kind ≠ .leftParen) : params.Misses cursor :=
  ((misses_token hkind).bind _).sequence

theorem misses_directive (hkind : cursor.peek.kind ≠ .at) : directive.Misses cursor :=
  ((misses_token hkind).bind _).sequence

theorem misses_field (hkind : cursor.peek.kind ≠ .text) : field.Misses cursor :=
  ((misses_identifier hkind).bind _).sequence

theorem misses_furtherTarget (hkind : cursor.peek.kind ≠ .comma) : furtherTarget.Misses cursor :=
  ((misses_token hkind).bind _).sequence

theorem misses_typeDef {word : String} (input : Bool) (hword : ¬ cursor.peek.IsWord word) :
    (typeDef word input).Misses cursor :=
  ((misses_keyword hword).bind _).sequence

theorem misses_schemaBlock (hword : ¬ cursor.peek.IsWord "schema") : schemaBlock.Misses cursor :=
  ((misses_keyword hword).bind _).sequence

theorem misses_directiveDef (hword : ¬ cursor.peek.IsWord "directive") :
    directiveDef.Misses cursor :=
  ((misses_keyword hword).bind _).sequence

/-- A token spells one word only. -/
theorem not_isWord_of_isWord {token : Token} {word other : String} (hword : token.IsWord word)
    (hne : word ≠ other) : ¬ token.IsWord other := by
  intro hother
  exact hne (hword.2.symm.trans hother.2)

/-- The alternatives for a definition, each with the word that it starts with. -/
def definitionRules : List (String × Rule Definition) :=
  [("type", typeDef "type" false), ("input", typeDef "input" true), ("schema", schemaBlock),
    ("directive", directiveDef)]

theorem definition_eq : definition = choice definitionPhrase (definitionRules.map Prod.snd) := rfl

theorem misses_of_mem_definitionRules {word : String} {rule : Rule Definition}
    (hmem : (word, rule) ∈ definitionRules) (hword : ¬ cursor.peek.IsWord word) :
    rule.Misses cursor := by
  simp only [definitionRules, List.mem_cons, List.not_mem_nil, or_false, Prod.mk.injEq] at hmem
  rcases hmem with ⟨rfl, rfl⟩ | ⟨rfl, rfl⟩ | ⟨rfl, rfl⟩ | ⟨rfl, rfl⟩
  · exact misses_typeDef _ hword
  · exact misses_typeDef _ hword
  · exact misses_schemaBlock hword
  · exact misses_directiveDef hword

/-- The words differ, so on the word of one alternative all the others miss. -/
theorem definitionRules_split {word : String} {rule : Rule Definition}
    (hmem : (word, rule) ∈ definitionRules) :
    ∃ front back, definitionRules.map Prod.snd = front ++ rule :: back ∧
      ∀ other ∈ front ++ back, ∀ cursor : Cursor, cursor.peek.IsWord word →
        other.Misses cursor := by
  obtain ⟨front, back, hsplit⟩ := List.append_of_mem hmem
  refine ⟨front.map Prod.snd, back.map Prod.snd, by simp [hsplit], ?_⟩
  intro other hother cursor hword
  rw [← List.map_append, List.mem_map] at hother
  obtain ⟨⟨otherWord, otherRule⟩, hentry, rfl⟩ := hother
  have hnodup : (definitionRules.map Prod.fst).Nodup := by decide
  have hne : word ≠ otherWord := by
    rintro rfl
    rw [hsplit, List.map_append, List.map_cons, List.nodup_middle] at hnodup
    apply (List.nodup_cons.mp hnodup).1
    rw [← List.map_append]
    exact List.mem_map.mpr ⟨_, hentry, rfl⟩
  have hlisted : (otherWord, otherRule) ∈ definitionRules := by
    rw [hsplit]
    simp only [List.mem_append, List.mem_cons] at hentry ⊢
    tauto
  exact misses_of_mem_definitionRules hlisted (not_isWord_of_isWord hword hne)

/-- The token is one of the words that start a definition. -/
def StartsDefinition (token : Token) : Prop :=
  ∃ word ∈ definitionRules.map Prod.fst, token.IsWord word

theorem StartsDefinition.kind_eq {token : Token} (hstart : StartsDefinition token) :
    token.kind = .text := by
  obtain ⟨_, _, hword⟩ := hstart
  exact hword.1

/-- Where no definition starts, the failure to find one is what is remembered. -/
theorem definition_of_not_starts (hstart : ¬ StartsDefinition cursor.peek) :
    definition cursor =
      .error (.unexpected definitionPhrase cursor.peek)
        (cursor.record (.unexpected definitionPhrase cursor.peek)) := by
  rw [definition_eq]
  apply choice_of_misses
  intro rule hmem other hpeek
  obtain ⟨⟨word, _⟩, hentry, rfl⟩ := List.mem_map.mp hmem
  apply misses_of_mem_definitionRules hentry
  intro hword
  exact hstart ⟨word, List.mem_map.mpr ⟨_, hentry, rfl⟩, hpeek ▸ hword⟩

theorem misses_definition (hstart : ¬ StartsDefinition cursor.peek) : definition.Misses cursor :=
  ⟨_, SyntaxError.blames_unexpected .., definition_of_not_starts hstart⟩

end Grammar

end SchemaGen
