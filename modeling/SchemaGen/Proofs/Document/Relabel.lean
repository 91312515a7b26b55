import SchemaGen.Proofs.Grammar.Failure

namespace SchemaGen

section

variable (move : Location → Location) (rename : String → String)

def TypeRef.relabel (type : TypeRef) : TypeRef :=
  { type with loc := move type.loc, name := rename type.name }

def Param.relabel (param : Param) : Param :=
  { loc := move param.loc, name := rename param.name, type := param.type.relabel move rename }

def Directive.relabel (directive : Directive) : Directive :=
  { loc := move directive.loc, name := rename directive.name }

def Field.relabel (field : Field) : Field where
  loc := move field.loc
  name := rename field.name
  type := field.type.relabel move rename
  params := field.params.map (Param.relabel move rename)
  directives := field.directives.map (Directive.relabel move rename)

def Definition.relabel : Definition → Definition
  | .typeDef definition => .typeDef { definition with
      loc := move definition.loc
      name := rename definition.name
      fields := definition.fields.map (Field.relabel move rename) }
  | .schema block => .schema {
      loc := move block.loc
      fields := block.fields.map (Field.relabel move rename) }
  | .directiveDef definition => .directiveDef {
      loc := move definition.loc
      name := rename definition.name
      targets := definition.targets.map rename }

/-- The document with every position moved and every name and target renamed. -/
def Document.relabel (document : Document) : Document where
  loc := move document.loc
  definitions := document.definitions.map (Definition.relabel move rename)

end

section

variable (move moveMore : Location → Location) (rename renameMore : String → String)

theorem Field.relabel_relabel (field : Field) :
    (field.relabel move rename).relabel moveMore renameMore =
      field.relabel (moveMore ∘ move) (renameMore ∘ rename) := by
  simp [relabel, TypeRef.relabel, Param.relabel, Directive.relabel]

theorem Definition.relabel_relabel (content : Definition) :
    (content.relabel move rename).relabel moveMore renameMore =
      content.relabel (moveMore ∘ move) (renameMore ∘ rename) := by
  cases content <;> simp [relabel, Field.relabel_relabel]

/-- Relabelling twice is relabelling once. -/
theorem Document.relabel_relabel (document : Document) :
    (document.relabel move rename).relabel moveMore renameMore =
      document.relabel (moveMore ∘ move) (renameMore ∘ rename) := by
  simp [relabel, Definition.relabel_relabel]

end

namespace Grammar

/-- The words that the grammar tells from other names. -/
def keywords : List String := ["type", "input", "schema", "directive", "on"]

/-- The function on tokens moves and renames like the two functions on positions and names. What
tokens other than text say is left open. -/
structure Relabels (move : Location → Location) (rename : String → String)
    (onToken : Token → Token) : Prop where
  kind_eq (token : Token) : (onToken token).kind = token.kind
  loc_eq (token : Token) : (onToken token).loc = move token.loc
  value_eq {token : Token} (hkind : token.kind = .text) :
    (onToken token).value = rename token.value
  keyword_eq {word : String} (hword : word ∈ keywords) : rename word = word

section

variable {move : Location → Location} {rename : String → String} {onToken : Token → Token}

namespace Relabels

theorem kind_of (hrelabels : Relabels move rename onToken) {token : Token} {kind : TokenKind}
    (hkind : token.kind = kind) : (onToken token).kind = kind :=
  (hrelabels.kind_eq token).trans hkind

theorem isWord (hrelabels : Relabels move rename onToken) {token : Token} {word : String}
    (hword : token.IsWord word) (hmem : word ∈ keywords) : (onToken token).IsWord word := by
  refine ⟨hrelabels.kind_of hword.1, ?_⟩
  rw [hrelabels.value_eq hword.1, hword.2, hrelabels.keyword_eq hmem]

end Relabels

theorem Repeated.relabel {α : Type} {part : List Token → α → Prop} {f : α → α}
    (hpart : ∀ {tokens value}, part tokens value → part (tokens.map onToken) (f value))
    {tokens : List Token} {values : List α} (hvalues : Repeated part tokens values) :
    Repeated part (tokens.map onToken) (values.map f) := by
  induction hvalues with
  | none => exact .none
  | more hfirst _ ih =>
    rw [List.map_append, List.map_cons]
    exact .more (hpart hfirst) ih

variable (hrelabels : Relabels move rename onToken)

include hrelabels

theorem IsName.relabel {tokens : List Token} {name : String} (hname : IsName tokens name) :
    IsName (tokens.map onToken) (rename name) := by
  obtain ⟨hkind⟩ := hname
  rw [← hrelabels.value_eq hkind]
  exact .mk (hrelabels.kind_of hkind)

theorem IsMark.relabel {tokens : List Token} {mark : Bool} (hmark : IsMark tokens mark) :
    IsMark (tokens.map onToken) mark := by
  cases hmark with
  | absent => exact .absent
  | present hkind => exact .present (hrelabels.kind_of hkind)

theorem IsType.relabel {tokens : List Token} {type : TypeRef} (htype : IsType tokens type) :
    IsType (tokens.map onToken) (type.relabel move rename) := by
  cases htype with
  | list hopening hname hinner hclosing houter =>
    have hlist := IsType.list (hrelabels.kind_of hopening) (hrelabels.kind_of hname)
      (hinner.relabel hrelabels) (hrelabels.kind_of hclosing) (houter.relabel hrelabels)
    rw [hrelabels.loc_eq, hrelabels.value_eq hname] at hlist
    simpa [TypeRef.relabel] using hlist
  | named hname houter =>
    have hnamed := IsType.named (hrelabels.kind_of hname) (houter.relabel hrelabels)
    rwa [hrelabels.loc_eq, hrelabels.value_eq hname] at hnamed

theorem IsParam.relabel {tokens : List Token} {param : Param} (hparam : IsParam tokens param) :
    IsParam (tokens.map onToken) (param.relabel move rename) := by
  obtain ⟨hname, hcolon, htype⟩ := hparam
  have hmapped := IsParam.mk (hrelabels.kind_of hname) (hrelabels.kind_of hcolon)
    (htype.relabel hrelabels)
  rwa [hrelabels.loc_eq, hrelabels.value_eq hname] at hmapped

theorem Behind.relabel {α : Type} {kind : TokenKind} {part : List Token → α → Prop} {f : α → α}
    (hpart : ∀ {tokens value}, part tokens value → part (tokens.map onToken) (f value))
    {tokens : List Token} {value : α} (hbehind : Behind kind part tokens value) :
    Behind kind part (tokens.map onToken) (f value) := by
  obtain ⟨hsign, hvalue⟩ := hbehind
  exact .mk (hrelabels.kind_of hsign) (hpart hvalue)

theorem IsParamRun.relabel {tokens : List Token} {params : List Param}
    (hrun : IsParamRun tokens params) :
    IsParamRun (tokens.map onToken) (params.map (Param.relabel move rename)) := by
  cases hrun with
  | none => exact .none
  | some hparam hmore =>
    rw [List.map_append]
    exact .some (hparam.relabel hrelabels)
      (hmore.relabel (Behind.relabel hrelabels (IsParam.relabel hrelabels)))

theorem IsParams?.relabel {tokens : List Token} {params : List Param}
    (hparams : IsParams? tokens params) :
    IsParams? (tokens.map onToken) (params.map (Param.relabel move rename)) := by
  cases hparams with
  | absent => exact .absent
  | present hpresent =>
    obtain ⟨hopening, hrun, hclosing⟩ := hpresent
    have hmapped := hrun.relabel hrelabels
    rw [List.map_cons, List.map_append]
    exact .present (.mk (hrelabels.kind_of hopening) hmapped (hrelabels.kind_of hclosing))

theorem IsDirective.relabel {tokens : List Token} {mark : Directive}
    (hdirective : IsDirective tokens mark) :
    IsDirective (tokens.map onToken) (mark.relabel move rename) := by
  obtain ⟨hsign, hname⟩ := hdirective
  have hmapped := IsDirective.mk (hrelabels.kind_of hsign) (hrelabels.kind_of hname)
  rwa [hrelabels.loc_eq, hrelabels.value_eq hname] at hmapped

theorem IsField.relabel {tokens : List Token} {member : Field} (hfield : IsField tokens member) :
    IsField (tokens.map onToken) (member.relabel move rename) := by
  obtain ⟨hname, hparams, hcolon, htype, hdirectives⟩ := hfield
  have hmapped := IsField.mk (hrelabels.kind_of hname) (hparams.relabel hrelabels)
    (hrelabels.kind_of hcolon) (htype.relabel hrelabels)
    (hdirectives.relabel (IsDirective.relabel hrelabels))
  rw [hrelabels.loc_eq, hrelabels.value_eq hname] at hmapped
  simpa [Field.relabel] using hmapped

theorem IsBlock.relabel {tokens : List Token} {fields : List Field}
    (hblock : IsBlock tokens fields) :
    IsBlock (tokens.map onToken) (fields.map (Field.relabel move rename)) := by
  obtain ⟨hopening, hfields, hclosing⟩ := hblock
  rw [List.map_cons, List.map_append]
  exact .mk (hrelabels.kind_of hopening) (hfields.relabel (IsField.relabel hrelabels))
    (hrelabels.kind_of hclosing)

theorem IsDefinition.relabel {tokens : List Token} {content : Definition}
    (hdefinition : IsDefinition tokens content) :
    IsDefinition (tokens.map onToken) (content.relabel move rename) := by
  cases hdefinition with
  | typeDef hword hname hblock =>
    have hmapped := IsDefinition.typeDef (hrelabels.isWord hword (by decide))
      (hrelabels.kind_of hname) (hblock.relabel hrelabels)
    rwa [hrelabels.loc_eq, hrelabels.value_eq hname] at hmapped
  | inputDef hword hname hblock =>
    have hmapped := IsDefinition.inputDef (hrelabels.isWord hword (by decide))
      (hrelabels.kind_of hname) (hblock.relabel hrelabels)
    rwa [hrelabels.loc_eq, hrelabels.value_eq hname] at hmapped
  | schema hword hblock =>
    have hmapped := IsDefinition.schema (hrelabels.isWord hword (by decide))
      (hblock.relabel hrelabels)
    rwa [hrelabels.loc_eq] at hmapped
  | directiveDef hword hsign hname hon htarget htargets =>
    have hmapped := IsDefinition.directiveDef (hrelabels.isWord hword (by decide))
      (hrelabels.kind_of hsign) (hrelabels.kind_of hname) (hrelabels.isWord hon (by decide))
      (hrelabels.kind_of htarget)
      (htargets.relabel (Behind.relabel hrelabels (IsName.relabel hrelabels)))
    rwa [hrelabels.loc_eq, hrelabels.value_eq hname, hrelabels.value_eq htarget] at hmapped

/-- Relabelled tokens spell the relabelled document. -/
theorem IsDocument.relabel {stream : List Token} {document : Document}
    (hdocument : IsDocument stream document) :
    IsDocument (stream.map onToken) (document.relabel move rename) := by
  obtain @⟨tokens, eof, first, definitions, hdefinitions, heof, hfirst⟩ := hdocument
  have hhead : (tokens.map onToken ++ [onToken eof]).head? = some (onToken first) := by
    rw [← List.map_singleton, ← List.map_append, List.head?_map, hfirst]
    rfl
  have hmapped := IsDocument.mk (hdefinitions.relabel (IsDefinition.relabel hrelabels))
    (hrelabels.kind_of heof) hhead
  rw [hrelabels.loc_eq] at hmapped
  simpa [Document.relabel] using hmapped

end

/-- The grammar cannot tell the tokens apart: they are of one kind, and if one of them is a keyword
then the other one is the same. -/
structure Alike (token other : Token) : Prop where
  kind_eq : other.kind = token.kind
  isWord_iff {word : String} (hword : word ∈ keywords) : other.IsWord word ↔ token.IsWord word

instance (token other : Token) : Decidable (Alike token other) :=
  decidable_of_iff (other.kind = token.kind ∧
      ∀ word ∈ keywords, other.IsWord word ↔ token.IsWord word)
    ⟨fun hboth => ⟨hboth.1, hboth.2 _⟩, fun halike => ⟨halike.1, fun _ hword => halike.2 hword⟩⟩

/-- Where a token leads does not depend on where it stands, nor on what it says unless that is a
keyword. -/
theorem Place.step_of_alike (place : Place) {token other : Token} (halike : Alike token other) :
    place.step other = place.step token := by
  have hkind := halike.kind_eq
  have htype := halike.isWord_iff (show "type" ∈ keywords by decide)
  have hinput := halike.isWord_iff (show "input" ∈ keywords by decide)
  have hschema := halike.isWord_iff (show "schema" ∈ keywords by decide)
  have hdirective := halike.isWord_iff (show "directive" ∈ keywords by decide)
  have hon := halike.isWord_iff (show "on" ∈ keywords by decide)
  cases place with
  | typeEnd owner | typeMarked owner => cases owner <;> simp only [step, hkind]
  | _ => simp only [step, hkind, htype, hinput, hschema, hdirective, hon]

theorem Place.run_map_of_alike {onToken : Token → Token} (place : Place) {tokens : List Token}
    (halike : ∀ token ∈ tokens, Alike token (onToken token)) :
    place.run (tokens.map onToken) = place.run tokens := by
  induction tokens generalizing place with
  | nil => rfl
  | cons token tokens ih =>
    rw [List.forall_mem_cons] at halike
    simp [place.step_of_alike halike.1, fun next : Place => ih next halike.2]

theorem significant_map_of_alike {onToken : Token → Token} {tokens : List Token}
    (halike : ∀ token ∈ tokens, Alike token (onToken token)) :
    significant (tokens.map onToken) = (significant tokens).map onToken := by
  rw [significant, List.filter_map]
  congr 1
  apply List.filter_congr
  intro token hmem
  simp [(halike token hmem).kind_eq]

/-- A token without its position and, unless it is text, without its value. -/
def bare (token : Token) : Token :=
  ⟨token.kind, {}, if token.kind = .text then token.value else ""⟩

theorem relabels_bare : Relabels (fun _ => {}) id bare where
  kind_eq _ := rfl
  loc_eq _ := rfl
  value_eq hkind := if_pos hkind
  keyword_eq _ := rfl

theorem alike_bare (token : Token) : Alike token (bare token) where
  kind_eq := rfl
  isWord_iff := by
    intro word _
    constructor
    · rintro ⟨htext, hvalue⟩
      exact ⟨htext, (if_pos htext).symm.trans hvalue⟩
    · rintro ⟨htext, hvalue⟩
      exact ⟨htext, (if_pos htext).trans hvalue⟩

end Grammar

/-- The document without its positions. -/
def Document.unlocated (document : Document) : Document :=
  document.relabel (fun _ => {}) id

theorem Document.unlocated_unlocated (document : Document) :
    document.unlocated.unlocated = document.unlocated :=
  relabel_relabel ..

end SchemaGen
