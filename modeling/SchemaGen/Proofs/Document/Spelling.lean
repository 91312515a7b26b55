import SchemaGen.Proofs.Document.Relabel

namespace SchemaGen

open Grammar

/-- A name as a text may hold it: one or more name characters. -/
def IsIdentifier (name : String) : Prop :=
  name ≠ "" ∧ name.toList.all isNameChar = true

instance (name : String) : Decidable (IsIdentifier name) :=
  inferInstanceAs (Decidable (_ ∧ _))

theorem isIdentifier_of_mem_keywords : ∀ word ∈ keywords, IsIdentifier word := by
  decide

theorem IsIdentifier.not_mem {name : String} (hname : IsIdentifier name) {c : Char}
    (hc : isNameChar c = false) : c ∉ name.toList := by
  intro hmem
  simp [List.all_eq_true.mp hname.2 c hmem] at hc

/-- Only a list says anything about its elements. -/
def TypeRef.WellFormed (type : TypeRef) : Prop :=
  IsIdentifier type.name ∧ (type.multiple = false → type.nonNullElements = false)

def Param.WellFormed (param : Param) : Prop :=
  IsIdentifier param.name ∧ param.type.WellFormed

def Directive.WellFormed (directive : Directive) : Prop :=
  IsIdentifier directive.name

def Field.WellFormed (field : Field) : Prop :=
  IsIdentifier field.name ∧ field.type.WellFormed ∧ (∀ param ∈ field.params, param.WellFormed) ∧
    ∀ directive ∈ field.directives, directive.WellFormed

def Definition.WellFormed : Definition → Prop
  | .typeDef definition =>
    IsIdentifier definition.name ∧ ∀ field ∈ definition.fields, field.WellFormed
  | .schema block => ∀ field ∈ block.fields, field.WellFormed
  | .directiveDef definition =>
    IsIdentifier definition.name ∧ definition.targets ≠ [] ∧
      ∀ target ∈ definition.targets, IsIdentifier target

/-- All names and targets are identifiers, directive definitions have a target, and no type that is
not a list says anything about elements. -/
def Document.WellFormed (document : Document) : Prop :=
  ∀ content ∈ document.definitions, content.WellFormed

/-- Positions have no part in it. -/
theorem Field.wellFormed_relabel (move : Location → Location) (field : Field) :
    (field.relabel move id).WellFormed ↔ field.WellFormed := by
  have hparam (param : Param) : (param.relabel move id).WellFormed ↔ param.WellFormed := Iff.rfl
  have hdirective (directive : Directive) :
      (directive.relabel move id).WellFormed ↔ directive.WellFormed := Iff.rfl
  have htype : (field.type.relabel move id).WellFormed ↔ field.type.WellFormed := Iff.rfl
  simp only [WellFormed, relabel, List.forall_mem_map, hparam, hdirective, htype, id]

theorem Definition.wellFormed_relabel (move : Location → Location) (content : Definition) :
    (content.relabel move id).WellFormed ↔ content.WellFormed := by
  cases content with
  | typeDef definition => simp [WellFormed, relabel, Field.wellFormed_relabel]
  | schema block => simp [WellFormed, relabel, Field.wellFormed_relabel]
  | directiveDef definition => simp [WellFormed, relabel]

theorem Document.wellFormed_unlocated (document : Document) :
    document.unlocated.WellFormed ↔ document.WellFormed := by
  simp [WellFormed, unlocated, relabel, Definition.wellFormed_relabel]

/-- The token can be written: it is punctuation or an identifier. -/
def Token.Spellable (token : Token) : Prop :=
  (∃ c, token.kind.symbol = some c) ∨ token.kind = .text ∧ IsIdentifier token.value

theorem Token.spellable_of_kind {token : Token} {kind : TokenKind} (hkind : token.kind = kind)
    {c : Char} (hsymbol : kind.symbol = some c) : token.Spellable :=
  .inl ⟨c, hkind ▸ hsymbol⟩

theorem Token.spellable_of_isWord {token : Token} {word : String} (hword : token.IsWord word)
    (hmem : word ∈ keywords) : token.Spellable :=
  .inr ⟨hword.1, hword.2.symm ▸ isIdentifier_of_mem_keywords word hmem⟩

namespace Grammar

open Token

theorem Repeated.spellable {α : Type} {part : List Token → α → Prop} (formed : α → Prop)
    (hpart : ∀ {tokens value}, part tokens value → formed value → ∀ token ∈ tokens, token.Spellable)
    {tokens : List Token} {values : List α} (hvalues : Repeated part tokens values)
    (hformed : ∀ value ∈ values, formed value) : ∀ token ∈ tokens, token.Spellable := by
  induction hvalues with
  | none => simp
  | more hfirst _ ih =>
    rw [List.forall_mem_cons] at hformed
    rw [List.forall_mem_append]
    exact ⟨hpart hfirst hformed.1, ih hformed.2⟩

theorem Behind.spellable {α : Type} {kind : TokenKind} {part : List Token → α → Prop} {c : Char}
    (hsymbol : kind.symbol = some c) (formed : α → Prop)
    (hpart : ∀ {tokens value}, part tokens value → formed value → ∀ token ∈ tokens, token.Spellable)
    {tokens : List Token} {value : α} (hbehind : Behind kind part tokens value)
    (hformed : formed value) : ∀ token ∈ tokens, token.Spellable := by
  obtain ⟨hsign, hvalue⟩ := hbehind
  rw [List.forall_mem_cons]
  exact ⟨spellable_of_kind hsign hsymbol, hpart hvalue hformed⟩

theorem IsName.spellable {tokens : List Token} {name : String} (hname : IsName tokens name)
    (hformed : IsIdentifier name) : ∀ token ∈ tokens, token.Spellable := by
  obtain ⟨hkind⟩ := hname
  simpa using .inr ⟨hkind, hformed⟩

theorem IsMark.spellable {tokens : List Token} {mark : Bool} (hmark : IsMark tokens mark) :
    ∀ token ∈ tokens, token.Spellable := by
  cases hmark with
  | absent => simp
  | present hkind => simpa using spellable_of_kind hkind rfl

theorem IsType.spellable {tokens : List Token} {type : TypeRef} (htype : IsType tokens type)
    (hformed : type.WellFormed) : ∀ token ∈ tokens, token.Spellable := by
  cases htype with
  | list hopening hname hinner hclosing houter =>
    simp only [List.forall_mem_cons, List.forall_mem_append]
    exact ⟨spellable_of_kind hopening rfl, .inr ⟨hname, hformed.1⟩, hinner.spellable,
      spellable_of_kind hclosing rfl, houter.spellable⟩
  | named hname houter =>
    simp only [List.forall_mem_cons]
    exact ⟨.inr ⟨hname, hformed.1⟩, houter.spellable⟩

theorem IsParam.spellable {tokens : List Token} {param : Param} (hparam : IsParam tokens param)
    (hformed : param.WellFormed) : ∀ token ∈ tokens, token.Spellable := by
  obtain ⟨hname, hcolon, htype⟩ := hparam
  simp only [List.forall_mem_cons]
  exact ⟨.inr ⟨hname, hformed.1⟩, spellable_of_kind hcolon rfl, htype.spellable hformed.2⟩

theorem IsParamRun.spellable {tokens : List Token} {params : List Param}
    (hrun : IsParamRun tokens params) (hformed : ∀ param ∈ params, param.WellFormed) :
    ∀ token ∈ tokens, token.Spellable := by
  cases hrun with
  | none => simp
  | some hparam hmore =>
    rw [List.forall_mem_cons] at hformed
    rw [List.forall_mem_append]
    exact ⟨hparam.spellable hformed.1, hmore.spellable Param.WellFormed
      (Behind.spellable rfl Param.WellFormed IsParam.spellable) hformed.2⟩

theorem IsParams?.spellable {tokens : List Token} {params : List Param}
    (hparams : IsParams? tokens params) (hformed : ∀ param ∈ params, param.WellFormed) :
    ∀ token ∈ tokens, token.Spellable := by
  cases hparams with
  | absent => simp
  | present hpresent =>
    obtain ⟨hopening, hrun, hclosing⟩ := hpresent
    simp only [List.forall_mem_cons, List.forall_mem_append]
    exact ⟨spellable_of_kind hopening rfl, hrun.spellable hformed, spellable_of_kind hclosing rfl,
      List.forall_mem_nil _⟩

theorem IsDirective.spellable {tokens : List Token} {mark : Directive}
    (hdirective : IsDirective tokens mark) (hformed : mark.WellFormed) :
    ∀ token ∈ tokens, token.Spellable := by
  obtain ⟨hsign, hname⟩ := hdirective
  simp only [List.forall_mem_cons]
  exact ⟨spellable_of_kind hsign rfl, .inr ⟨hname, hformed⟩, List.forall_mem_nil _⟩

theorem IsField.spellable {tokens : List Token} {member : Field} (hfield : IsField tokens member)
    (hformed : member.WellFormed) : ∀ token ∈ tokens, token.Spellable := by
  obtain ⟨hname, hparams, hcolon, htype, hdirectives⟩ := hfield
  obtain ⟨hnameFormed, htypeFormed, hparamsFormed, hdirectivesFormed⟩ := hformed
  simp only [List.forall_mem_cons, List.forall_mem_append]
  exact ⟨.inr ⟨hname, hnameFormed⟩, hparams.spellable hparamsFormed, spellable_of_kind hcolon rfl,
    htype.spellable htypeFormed,
    hdirectives.spellable Directive.WellFormed IsDirective.spellable hdirectivesFormed⟩

theorem IsBlock.spellable {tokens : List Token} {fields : List Field}
    (hblock : IsBlock tokens fields) (hformed : ∀ field ∈ fields, field.WellFormed) :
    ∀ token ∈ tokens, token.Spellable := by
  obtain ⟨hopening, hfields, hclosing⟩ := hblock
  simp only [List.forall_mem_cons, List.forall_mem_append]
  exact ⟨spellable_of_kind hopening rfl, hfields.spellable Field.WellFormed IsField.spellable hformed,
    spellable_of_kind hclosing rfl, List.forall_mem_nil _⟩

/-- The tokens of a well-formed definition can be written. -/
theorem IsDefinition.spellable {tokens : List Token} {content : Definition}
    (hdefinition : IsDefinition tokens content) (hformed : content.WellFormed) :
    ∀ token ∈ tokens, token.Spellable := by
  cases hdefinition with
  | typeDef hword hname hblock =>
    simp only [List.forall_mem_cons]
    exact ⟨spellable_of_isWord hword (by decide), .inr ⟨hname, hformed.1⟩,
      hblock.spellable hformed.2⟩
  | inputDef hword hname hblock =>
    simp only [List.forall_mem_cons]
    exact ⟨spellable_of_isWord hword (by decide), .inr ⟨hname, hformed.1⟩,
      hblock.spellable hformed.2⟩
  | schema hword hblock =>
    simp only [List.forall_mem_cons]
    exact ⟨spellable_of_isWord hword (by decide), hblock.spellable hformed⟩
  | directiveDef hword hsign hname hon htarget htargets =>
    obtain ⟨hnameFormed, _, htargetsFormed⟩ := hformed
    rw [List.forall_mem_cons] at htargetsFormed
    simp only [List.forall_mem_cons]
    exact ⟨spellable_of_isWord hword (by decide), spellable_of_kind hsign rfl,
      .inr ⟨hname, hnameFormed⟩, spellable_of_isWord hon (by decide),
      .inr ⟨htarget, htargetsFormed.1⟩,
      htargets.spellable IsIdentifier (Behind.spellable rfl IsIdentifier IsName.spellable)
        htargetsFormed.2⟩

end Grammar

section

open Place (sign word)

/-- A mark, if there is one. -/
def markSpelling (mark : Bool) : List Token :=
  if mark then [sign .bang] else []

def TypeRef.spelling (type : TypeRef) : List Token :=
  if type.multiple then
    sign .leftBracket :: word type.name ::
      (markSpelling type.nonNullElements ++ sign .rightBracket :: markSpelling type.required)
  else word type.name :: markSpelling type.required

def Param.spelling (param : Param) : List Token :=
  word param.name :: sign .colon :: param.type.spelling

/-- Parameters in parentheses, or nothing at all if there are none. -/
def paramsSpelling : List Param → List Token
  | [] => []
  | first :: more =>
    sign .leftParen ::
      (first.spelling ++ more.flatMap (fun param => sign .comma :: param.spelling) ++
        [sign .rightParen])

def Directive.spelling (directive : Directive) : List Token :=
  [sign .at, word directive.name]

def Field.spelling (field : Field) : List Token :=
  word field.name :: (paramsSpelling field.params ++
    sign .colon :: (field.type.spelling ++ field.directives.flatMap Directive.spelling))

def blockSpelling (fields : List Field) : List Token :=
  sign .leftCurly :: (fields.flatMap Field.spelling ++ [sign .rightCurly])

def targetsSpelling : List String → List Token
  | [] => []
  | first :: more => word first :: more.flatMap fun target => [sign .comma, word target]

def Definition.spelling : Definition → List Token
  | .typeDef definition =>
    word (if definition.input then "input" else "type") :: word definition.name ::
      blockSpelling definition.fields
  | .schema block => word "schema" :: blockSpelling block.fields
  | .directiveDef definition =>
    word "directive" :: sign .at :: word definition.name :: word "on" ::
      targetsSpelling definition.targets

/-- The tokens of a document in the shortest way to write it, without the end of the file. -/
def Document.spelling (document : Document) : List Token :=
  document.definitions.flatMap Definition.spelling

end

namespace Grammar

theorem repeated_flatMap {α : Type} {part : List Token → α → Prop} {f : α → α}
    {spelling : α → List Token} {values : List α}
    (hpart : ∀ value ∈ values, part (spelling value) (f value)) :
    Repeated part (values.flatMap spelling) (values.map f) := by
  induction values with
  | nil => exact .none
  | cons value values ih =>
    rw [List.forall_mem_cons] at hpart
    exact .more hpart.1 (ih hpart.2)

theorem isMark_spelling (mark : Bool) : IsMark (markSpelling mark) mark := by
  cases mark
  · exact .absent
  · exact .present rfl

theorem isType_spelling {type : TypeRef} (hformed : type.WellFormed) :
    IsType type.spelling (type.relabel (fun _ => {}) id) := by
  obtain ⟨loc, name, required, multiple, nonNullElements⟩ := type
  cases multiple with
  | true => exact .list rfl rfl (isMark_spelling nonNullElements) rfl (isMark_spelling required)
  | false =>
    obtain rfl := hformed.2 rfl
    exact .named rfl (isMark_spelling required)

theorem isParam_spelling {param : Param} (hformed : param.WellFormed) :
    IsParam param.spelling (param.relabel (fun _ => {}) id) :=
  .mk rfl rfl (isType_spelling hformed.2)

theorem isParams?_spelling {params : List Param} (hformed : ∀ param ∈ params, param.WellFormed) :
    IsParams? (paramsSpelling params) (params.map (Param.relabel (fun _ => {}) id)) := by
  cases params with
  | nil => exact .absent
  | cons first more =>
    rw [List.forall_mem_cons] at hformed
    refine .present (.mk rfl (.some (isParam_spelling hformed.1) (repeated_flatMap ?_)) rfl)
    intro param hmem
    exact .mk rfl (isParam_spelling (hformed.2 param hmem))

theorem isField_spelling {member : Field} (hformed : member.WellFormed) :
    IsField member.spelling (member.relabel (fun _ => {}) id) :=
  .mk rfl (isParams?_spelling hformed.2.2.1) rfl (isType_spelling hformed.2.1)
    (repeated_flatMap fun _ _ => .mk rfl rfl)

theorem isBlock_spelling {fields : List Field} (hformed : ∀ field ∈ fields, field.WellFormed) :
    IsBlock (blockSpelling fields) (fields.map (Field.relabel (fun _ => {}) id)) :=
  .mk rfl (repeated_flatMap fun field hmem => isField_spelling (hformed field hmem)) rfl

theorem isDefinition_spelling {content : Definition} (hformed : content.WellFormed) :
    IsDefinition content.spelling (content.relabel (fun _ => {}) id) := by
  cases content with
  | typeDef definition =>
    obtain ⟨loc, name, fields, input⟩ := definition
    cases input with
    | true => exact .inputDef ⟨rfl, rfl⟩ rfl (isBlock_spelling hformed.2)
    | false => exact .typeDef ⟨rfl, rfl⟩ rfl (isBlock_spelling hformed.2)
  | schema block => exact .schema ⟨rfl, rfl⟩ (isBlock_spelling hformed)
  | directiveDef definition =>
    obtain ⟨loc, name, targets⟩ := definition
    cases targets with
    | nil => exact absurd rfl hformed.2.1
    | cons target targets =>
      have hfurther : Repeated (Behind .comma IsName)
          (targets.flatMap fun target => [Place.sign .comma, Place.word target]) (targets.map id) :=
        repeated_flatMap fun _ _ => .mk rfl (.mk rfl)
      exact .directiveDef ⟨rfl, rfl⟩ rfl rfl ⟨rfl, rfl⟩ rfl hfurther

end Grammar

namespace Document

/-- The tokens spell the document, wherever they stand. -/
def SpelledBy (document : Document) (tokens : List Token) : Prop :=
  ∃ located, IsDocument (tokens ++ [Place.sign .eof]) located ∧
    located.unlocated = document.unlocated

/-- Every well-formed document can be spelled. -/
theorem spelledBy_spelling {document : Document} (hformed : document.WellFormed) :
    document.SpelledBy document.spelling := by
  have hdefinitions : Repeated IsDefinition document.spelling document.unlocated.definitions :=
    repeated_flatMap fun content hmem => isDefinition_spelling (hformed content hmem)
  obtain ⟨later, hsplit⟩ := append_cons_eq_headD_cons document.spelling (Place.sign .eof) []
  refine ⟨_, .mk hdefinitions rfl (by rw [hsplit]; rfl), ?_⟩
  exact congrArg (Document.mk {}) (congrArg Document.definitions (unlocated_unlocated document))

/-- All tokens of a well-formed document can be written. -/
theorem SpelledBy.spellable {document : Document} {tokens : List Token}
    (hspelled : document.SpelledBy tokens) (hformed : document.WellFormed) :
    ∀ token ∈ tokens, token.Spellable := by
  obtain ⟨located, hdocument, hsame⟩ := hspelled
  rw [← wellFormed_unlocated, ← hsame, wellFormed_unlocated] at hformed
  generalize hstream : tokens ++ [Place.sign .eof] = stream at hdocument
  obtain ⟨hdefinitions, _, _⟩ := hdocument
  rw [(List.append_inj' hstream rfl).1]
  exact hdefinitions.spellable Definition.WellFormed IsDefinition.spellable hformed

end Document

end SchemaGen
