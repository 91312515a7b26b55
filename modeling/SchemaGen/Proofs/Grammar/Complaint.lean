import Mathlib.Data.List.Induction
import Mathlib.Tactic.SplitIfs
import SchemaGen.Proofs.Grammar.Place

namespace SchemaGen

/-- Kinds are told apart by how messages name them. -/
theorem TokenKind.expectedName_injective {kind other : TokenKind}
    (hsame : kind.expectedName = other.expectedName) : kind = other := by
  revert hsame
  cases kind <;> cases other <;> decide

namespace Grammar

/-- What may be wanted where another token stands. -/
inductive Wanted where
  /-- A token of a kind. -/
  | ofKind (kind : TokenKind)
  /-- A keyword. -/
  | keyword (word : String)
  /-- The start of a type. -/
  | type
  /-- The start of a definition. -/
  | definition
deriving DecidableEq, Repr

namespace Wanted

/-- How a message says what is wanted. -/
def phrase : Wanted → String
  | ofKind kind => kind.expectedName
  | keyword word => s!"keyword '{word}'"
  | type => "a type"
  | definition => definitionPhrase

/-- The token is one that is wanted. -/
def Admits : Wanted → Token → Prop
  | ofKind kind, token => token.kind = kind
  | keyword word, token => token.IsWord word
  | type, token => token.kind = .text ∨ token.kind = .leftBracket
  | definition, token => ∃ word ∈ ["type", "input", "schema", "directive"], token.IsWord word

theorem exists_admits (wanted : Wanted) : ∃ token, wanted.Admits token := by
  cases wanted with
  | ofKind kind => exact ⟨Place.sign kind, rfl⟩
  | keyword word => exact ⟨Place.word word, rfl, rfl⟩
  | type => exact ⟨Place.sign .leftBracket, .inr rfl⟩
  | definition => exact ⟨Place.word "type", "type", by decide, rfl, rfl⟩

theorem head?_expectedName (kind : TokenKind) :
    kind.expectedName.toList.head? ≠ some 'k' ∧ kind.expectedName.toList.head? ≠ some 'a' := by
  cases kind <;> decide

theorem toList_phrase_keyword (word : String) :
    (keyword word).phrase.toList = "keyword '".toList ++ (word.toList ++ ['\'']) := by
  have htext (text : String) : toString text = text := rfl
  simp [phrase, htext]

/-- Different things that are wanted are said differently. -/
theorem phrase_injective {wanted other : Wanted} (hsame : wanted.phrase = other.phrase) :
    wanted = other := by
  have hword (word : String) : (keyword word).phrase.toList.head? = some 'k' := by
    rw [toList_phrase_keyword]
    rfl
  have hhead := congrArg (·.toList.head?) hsame
  cases wanted with
  | ofKind kind =>
    have hkind := head?_expectedName kind
    cases other with
    | ofKind other => rw [TokenKind.expectedName_injective hsame]
    | keyword word => exact absurd (hhead.trans (hword word)) hkind.1
    | type | definition => exact absurd hhead hkind.2
  | keyword word =>
    cases other with
    | ofKind kind => exact absurd (hhead.symm.trans (hword word)) (head?_expectedName kind).1
    | keyword other =>
      have hchars := congrArg String.toList hsame
      rw [toList_phrase_keyword, toList_phrase_keyword] at hchars
      rw [String.toList_inj.mp (List.append_cancel_right (List.append_cancel_left hchars))]
    | type | definition => cases (hword word).symm.trans hhead
  | type =>
    cases other with
    | ofKind kind => exact absurd hhead.symm (head?_expectedName kind).2
    | keyword word => cases hhead.trans (hword word)
    | type => rfl
    | definition => exact absurd hsame (by decide)
  | definition =>
    cases other with
    | ofKind kind => exact absurd hhead.symm (head?_expectedName kind).2
    | keyword word => cases hhead.trans (hword word)
    | type => exact absurd hsame (by decide)
    | definition => rfl

end Wanted

namespace Place

/-- What the complaint at a place says was wanted, unless it is the lexer's or about brackets. -/
def wanted : Place → Wanted
  | top | target => .definition
  | typeName | nextParam | listStart _ | directiveSign | directiveName | firstTarget
  | nextTarget => .ofKind .text
  | blockStart => .ofKind .leftCurly
  | block | fieldEnd | typeEnd .field | typeMarked .field => .ofKind .rightCurly
  | fieldName | paramName | paramsEnd => .ofKind .colon
  | params | paramEnd | paramsClose | typeEnd .param | typeMarked .param => .ofKind .rightParen
  | typeStart _ => .type
  | listName _ | listMarked _ => .ofKind .rightBracket
  | definitionSign => .ofKind .at
  | onWord => .keyword "on"

/-- What is wanted at a place leads on from there. -/
theorem step_of_admits {place : Place} {token : Token} (hadmits : place.wanted.Admits token) :
    ∃ next, place.step token = some next := by
  cases place with
  | top | target =>
    obtain ⟨word, hmem, hword⟩ := hadmits
    simp only [List.mem_cons, List.not_mem_nil, or_false] at hmem
    rcases hmem with rfl | rfl | rfl | rfl <;> simp [step, Token.IsWord, hword.1, hword.2]
  | typeStart owner => rcases hadmits with hkind | hkind <;> simp [step, hkind]
  | typeEnd owner | typeMarked owner =>
    cases owner <;> (rw [wanted, Wanted.Admits] at hadmits; simp [step, hadmits])
  | _ =>
    rw [wanted, Wanted.Admits] at hadmits
    simp [step, hadmits]

/-- A definition is wanted exactly where a document may end. -/
theorem wanted_eq_definition_iff (place : Place) : place.wanted = .definition ↔ place.Final := by
  cases place with
  | typeEnd owner | typeMarked owner => cases owner <;> simp [wanted, Final]
  | _ => simp [wanted, Final]

theorem phrase_wanted_eq_iff (place : Place) :
    place.wanted.phrase = definitionPhrase ↔ place.Final := by
  rw [← wanted_eq_definition_iff]
  exact ⟨@Wanted.phrase_injective _ .definition, congrArg Wanted.phrase⟩

/-- The place is inside a list type, behind its name. -/
def InList : Place → Prop
  | listName _ | listMarked _ => True
  | _ => False

/-- The place is directly behind a type. -/
def BehindType : Place → Prop
  | typeEnd _ | typeMarked _ => True
  | _ => False

/-- At this place this token is one bracket too few or too many. -/
def MindsBrackets (place : Place) (token : Token) : Prop :=
  place.InList ∨ token.kind = .rightBracket ∧ place.BehindType

section

variable {place : Place} {token : Token}

theorem complaint_of_error (hkind : token.kind = .error) :
    place.complaint token = .lexError token.value token := by
  cases place with
  | typeEnd owner | typeMarked owner =>
    cases owner <;> simp [complaint, SyntaxError.unexpected, hkind]
  | _ => simp [complaint, SyntaxError.unexpected, hkind]

theorem complaint_of_mindsBrackets (hkind : token.kind ≠ .error)
    (hbrackets : place.MindsBrackets token) :
    place.complaint token = .mismatchedBrackets token := by
  rcases hbrackets with hinside | ⟨hclosing, hbehind⟩
  · cases place with
    | listName owner | listMarked owner => simp [complaint, hkind]
    | _ => cases hinside
  · cases place with
    | typeEnd owner | typeMarked owner => cases owner <;> simp [complaint, hclosing]
    | _ => cases hbehind

theorem complaint_of_not_mindsBrackets (hkind : token.kind ≠ .error)
    (hbrackets : ¬ place.MindsBrackets token) :
    place.complaint token = .unexpectedToken place.wanted.phrase token := by
  cases place with
  | listName owner | listMarked owner => exact absurd (.inl trivial) hbrackets
  | typeEnd owner | typeMarked owner =>
    have hclosing : token.kind ≠ .rightBracket := fun hclosing =>
      hbrackets (.inr ⟨hclosing, trivial⟩)
    cases owner <;>
      simp [complaint, SyntaxError.unexpected, hkind, hclosing, wanted, Wanted.phrase]
  | onWord => exact if_neg hkind
  | _ => simp [complaint, SyntaxError.unexpected, hkind, wanted, Wanted.phrase]

theorem complaint_eq_lexError_iff {message : String} :
    place.complaint token = .lexError message token ↔
      token.kind = .error ∧ message = token.value := by
  by_cases hkind : token.kind = .error
  · simp [complaint_of_error hkind, hkind, eq_comm]
  · by_cases hbrackets : place.MindsBrackets token
    · simp [complaint_of_mindsBrackets hkind hbrackets, hkind]
    · simp [complaint_of_not_mindsBrackets hkind hbrackets, hkind]

theorem complaint_eq_mismatchedBrackets_iff :
    place.complaint token = .mismatchedBrackets token ↔
      token.kind ≠ .error ∧ place.MindsBrackets token := by
  by_cases hkind : token.kind = .error
  · simp [complaint_of_error hkind, hkind]
  · by_cases hbrackets : place.MindsBrackets token
    · simp [complaint_of_mindsBrackets hkind hbrackets, hkind, hbrackets]
    · simp [complaint_of_not_mindsBrackets hkind hbrackets, hbrackets]

theorem eq_phrase_of_complaint {expected : String} {other : Token}
    (hcomplaint : place.complaint token = .unexpectedToken expected other) :
    other = token ∧ expected = place.wanted.phrase := by
  by_cases hkind : token.kind = .error
  · rw [complaint_of_error hkind] at hcomplaint
    cases hcomplaint
  · by_cases hbrackets : place.MindsBrackets token
    · rw [complaint_of_mindsBrackets hkind hbrackets] at hcomplaint
      cases hcomplaint
    · rw [complaint_of_not_mindsBrackets hkind hbrackets] at hcomplaint
      cases hcomplaint
      exact ⟨rfl, rfl⟩

end

/-- The place is inside a type or directly behind it. -/
def InType : Place → Prop
  | typeStart _ | listStart _ | listName _ | listMarked _ | typeEnd _ | typeMarked _ => True
  | _ => False

/-- The tokens of a type that have been read at a place, from behind the colon on. -/
inductive Trail : Place → List Token → Prop
  | typeStart {owner : Owner} : Trail (typeStart owner) []
  | listStart {owner : Owner} {opening : Token} (hopening : opening.kind = .leftBracket) :
      Trail (listStart owner) [opening]
  | listName {owner : Owner} {opening name : Token} (hopening : opening.kind = .leftBracket)
      (hname : name.kind = .text) : Trail (listName owner) [opening, name]
  | listMarked {owner : Owner} {opening name mark : Token} (hopening : opening.kind = .leftBracket)
      (hname : name.kind = .text) (hmark : mark.kind = .bang) :
      Trail (listMarked owner) [opening, name, mark]
  | typeEnd {owner : Owner} {tokens : List Token} {type : TypeRef} (htype : IsType tokens type)
      (hunmarked : type.required = false) : Trail (typeEnd owner) tokens
  | typeMarked {owner : Owner} {tokens : List Token} {type : TypeRef} (htype : IsType tokens type) :
      Trail (typeMarked owner) tokens

end Place

/-- A `!` behind a type that has none marks the type. -/
theorem IsType.marked {tokens : List Token} {type : TypeRef} {mark : Token}
    (htype : IsType tokens type) (hunmarked : type.required = false) (hmark : mark.kind = .bang) :
    ∃ marked, IsType (tokens ++ [mark]) marked := by
  cases htype with
  | @list opening name closing inner outer _ required hopening hname hinner hclosing houter =>
    obtain rfl : required = false := hunmarked
    cases houter
    have hlist := IsType.list hopening hname hinner hclosing (.present hmark)
    exact ⟨_, by simpa using hlist⟩
  | @named name outer required hname houter =>
    obtain rfl : required = false := hunmarked
    cases houter
    exact ⟨_, .named hname (.present hmark)⟩

namespace Place

/-- Behind the `!` of a type there is nothing more of it. -/
theorem not_inType_of_step_typeMarked {owner : Owner} {token : Token} {next : Place}
    (hstep : (typeMarked owner).step token = some next) : ¬ next.InType := by
  intro hnext
  cases owner <;>
  · simp only [step] at hstep
    split_ifs at hstep <;> cases hstep <;> cases hnext

/-- One more token within a type belongs to what has been read of it. -/
theorem Trail.step {place next : Place} {read : List Token} {token : Token}
    (htrail : Trail place read) (hstep : place.step token = some next) (hnext : next.InType) :
    Trail next (read ++ [token]) := by
  cases htrail with
  | typeStart =>
    simp only [Place.step] at hstep
    split_ifs at hstep with hopening hname <;> cases hstep
    · exact .listStart hopening
    · exact .typeEnd (.named hname .absent) rfl
  | listStart hopening =>
    simp only [Place.step] at hstep
    split_ifs at hstep with hname
    cases hstep
    exact .listName hopening hname
  | listName hopening hname =>
    simp only [Place.step] at hstep
    split_ifs at hstep with hmark hclosing <;> cases hstep
    · exact .listMarked hopening hname hmark
    · exact .typeEnd (.list hopening hname .absent hclosing .absent) rfl
  | listMarked hopening hname hmark =>
    simp only [Place.step] at hstep
    split_ifs at hstep with hclosing
    cases hstep
    exact .typeEnd (.list hopening hname (.present hmark) hclosing .absent) rfl
  | @typeEnd owner tokens type htype hunmarked =>
    by_cases hmark : token.kind = .bang
    · obtain rfl : Place.typeMarked owner = next := by
        cases owner <;> simpa [Place.step, hmark] using hstep
      obtain ⟨marked, hmarked⟩ := htype.marked hunmarked hmark
      exact .typeMarked hmarked
    · rw [(typeEnd_slides owner hmark).step_eq] at hstep
      exact absurd hnext (not_inType_of_step_typeMarked hstep)
  | typeMarked htype => exact absurd hnext (not_inType_of_step_typeMarked hstep)

/-- A type is entered by a colon. -/
theorem trail_of_enters {place next : Place} {token : Token}
    (hstep : place.step token = some next) (hplace : ¬ place.InType) (hnext : next.InType) :
    token.kind = .colon ∧ Trail next [] := by
  cases place with
  | fieldName =>
    simp only [step] at hstep
    split_ifs at hstep with _ hcolon <;> cases hstep
    · cases hnext
    · exact ⟨hcolon, .typeStart⟩
  | paramName | paramsEnd =>
    simp only [step] at hstep
    split_ifs at hstep with hcolon
    cases hstep
    exact ⟨hcolon, .typeStart⟩
  | typeStart _ | listStart _ | listName _ | listMarked _ | typeEnd _ | typeMarked _ =>
    exact absurd trivial hplace
  | _ =>
    simp only [step] at hstep
    split_ifs at hstep <;> cases hstep <;> cases hnext

/-- Inside a type or behind it, what has been read ends in a colon and what there is of the type. -/
theorem exists_trail {tokens : List Token} {stop : Place} (hrun : top.run tokens = some stop)
    (hstop : stop.InType) :
    ∃ front colon read, tokens = front ++ colon :: read ∧ colon.kind = .colon ∧
      Trail stop read := by
  induction tokens using List.reverseRecOn generalizing stop with
  | nil =>
    cases hrun
    cases hstop
  | append_singleton tokens token ih =>
    obtain ⟨middle, hmiddle, hlast⟩ := run_append_eq_some hrun
    have hstep : middle.step token = some stop := by simpa [Option.bind_eq_some_iff] using hlast
    by_cases hinside : middle.InType
    · obtain ⟨front, colon, read, rfl, hcolon, htrail⟩ := ih hmiddle hinside
      exact ⟨front, colon, read ++ [token], by simp, hcolon, htrail.step hstep hstop⟩
    · obtain ⟨hcolon, htrail⟩ := trail_of_enters hstep hinside hstop
      exact ⟨tokens, token, [], rfl, hcolon, htrail⟩

/-- Wherever a colon leads, it leads in front of a type. -/
theorem step_of_colon {place next : Place} {colon : Token} (hcolon : colon.kind = .colon)
    (hstep : place.step colon = some next) : ∃ owner, next = typeStart owner := by
  cases place with
  | typeEnd owner | typeMarked owner => cases owner <;> simp [step, hcolon] at hstep
  | fieldName | paramsEnd => exact ⟨.field, by simpa [step, hcolon, eq_comm] using hstep⟩
  | paramName => exact ⟨.param, by simpa [step, hcolon, eq_comm] using hstep⟩
  | _ => simp [step, Token.IsWord, hcolon] at hstep

/-- Wherever an opening bracket leads, it leads into a list. -/
theorem step_of_leftBracket {place next : Place} {opening : Token}
    (hopening : opening.kind = .leftBracket) (hstep : place.step opening = some next) :
    ∃ owner, next = listStart owner := by
  cases place with
  | typeEnd owner | typeMarked owner => cases owner <;> simp [step, hopening] at hstep
  | typeStart owner => exact ⟨owner, by simpa [step, hopening, eq_comm] using hstep⟩
  | _ => simp [step, Token.IsWord, hopening] at hstep

/-- A whole type leads from in front of it to behind it. -/
theorem run_type {owner : Owner} {tokens : List Token} {type : TypeRef}
    (htype : IsType tokens type) :
    (typeStart owner).run tokens = some (typeEnd owner) ∨
      (typeStart owner).run tokens = some (typeMarked owner) := by
  have houter {outer : List Token} {required : Bool} (hmark : IsMark outer required) :
      (typeEnd owner).run outer = some (typeEnd owner) ∨
        (typeEnd owner).run outer = some (typeMarked owner) := by
    cases hmark with
    | absent => exact .inl rfl
    | present hkind => cases owner <;> simp [step, hkind]
  cases htype with
  | list hopening hname hinner hclosing hmark =>
    cases hinner with
    | absent => simpa [step, hopening, hname, hclosing] using houter hmark
    | present hkind => simpa [step, hopening, hname, hclosing, hkind] using houter hmark
  | named hname hmark => simpa [step, hname] using houter hmark

theorem InList.inType {place : Place} (hinside : place.InList) : place.InType := by
  cases place with
  | listName _ | listMarked _ => trivial
  | _ => cases hinside

theorem BehindType.inType {place : Place} (hbehind : place.BehindType) : place.InType := by
  cases place with
  | typeEnd _ | typeMarked _ => trivial
  | _ => cases hbehind

end Place

/-- The tokens end inside a list type, behind its name or behind the `!` of the name. -/
inductive EndsInList : List Token → Prop
  | mk {front inner : List Token} {opening name : Token} {mark : Bool}
      (hopening : opening.kind = .leftBracket) (hname : name.kind = .text)
      (hinner : IsMark inner mark) : EndsInList (front ++ opening :: name :: inner)

/-- The tokens end in a whole type behind a colon. -/
inductive EndsInType : List Token → Prop
  | mk {front tokens : List Token} {colon : Token} {type : TypeRef}
      (hcolon : colon.kind = .colon) (htype : IsType tokens type) :
      EndsInType (front ++ colon :: tokens)

/-- In front of the token one bracket is missing, or the token is one too many. -/
def BracketsAmiss (before : List Token) (token : Token) : Prop :=
  EndsInList before ∨ token.kind = .rightBracket ∧ EndsInType before

section

variable {tokens : List Token} {stop : Place}

theorem endsInList_iff (hrun : Place.top.run tokens = some stop) :
    EndsInList tokens ↔ stop.InList := by
  constructor
  · rintro @⟨front, inner, opening, name, mark, hopening, hname, hinner⟩
    obtain ⟨middle, _, hback⟩ := Place.run_append_eq_some hrun
    obtain ⟨next, hstep, hrest⟩ := Option.bind_eq_some_iff.mp hback
    obtain ⟨owner, rfl⟩ := Place.step_of_leftBracket hopening hstep
    cases hinner with
    | absent =>
      obtain rfl : .listName owner = stop := by simpa [Place.step, hname] using hrest
      trivial
    | present hmark =>
      obtain rfl : .listMarked owner = stop := by simpa [Place.step, hname, hmark] using hrest
      trivial
  · intro hinside
    obtain ⟨front, colon, read, rfl, _, htrail⟩ := Place.exists_trail hrun hinside.inType
    rw [← List.singleton_append, ← List.append_assoc]
    cases htrail with
    | listName hopening hname => exact .mk hopening hname .absent
    | listMarked hopening hname hmark => exact .mk hopening hname (.present hmark)
    | _ => cases hinside

theorem endsInType_iff (hrun : Place.top.run tokens = some stop) :
    EndsInType tokens ↔ stop.BehindType := by
  constructor
  · rintro @⟨front, tokens, colon, type, hcolon, htype⟩
    obtain ⟨middle, _, hback⟩ := Place.run_append_eq_some hrun
    obtain ⟨next, hstep, hrest⟩ := Option.bind_eq_some_iff.mp hback
    obtain ⟨owner, rfl⟩ := Place.step_of_colon hcolon hstep
    rcases Place.run_type htype with hend | hmarked
    · obtain rfl := Option.some.inj (hend.symm.trans hrest)
      trivial
    · obtain rfl := Option.some.inj (hmarked.symm.trans hrest)
      trivial
  · intro hbehind
    obtain ⟨front, colon, read, rfl, hcolon, htrail⟩ := Place.exists_trail hrun hbehind.inType
    cases htrail with
    | typeEnd htype _ => exact .mk hcolon htype
    | typeMarked htype => exact .mk hcolon htype
    | _ => cases hbehind

/-- What has been read shows whether a place minds the brackets. -/
theorem bracketsAmiss_iff (hrun : Place.top.run tokens = some stop) (token : Token) :
    BracketsAmiss tokens token ↔ stop.MindsBrackets token := by
  rw [BracketsAmiss, Place.MindsBrackets, endsInList_iff hrun, endsInType_iff hrun]

end

/-- A phrase of a message names a token. -/
def Names (expected : String) (token : Token) : Prop :=
  ∃ wanted : Wanted, wanted.phrase = expected ∧ wanted.Admits token

/-- Whatever the complaint at a place names would have led on from there. -/
theorem Place.step_of_names {place : Place} {token : Token}
    (hnames : Names place.wanted.phrase token) : ∃ next, place.step token = some next := by
  obtain ⟨wanted, hphrase, hadmits⟩ := hnames
  obtain rfl := Wanted.phrase_injective hphrase
  exact step_of_admits hadmits

end Grammar

end SchemaGen
