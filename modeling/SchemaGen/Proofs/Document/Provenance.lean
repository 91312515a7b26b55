import Mathlib.Data.List.Forall2
import Mathlib.Data.List.Perm.Basic
import SchemaGen.Proofs.Document.Spelling
import SchemaGen.Proofs.Node.Walk
import SchemaGen.Proofs.Token.Order

namespace SchemaGen

open Grammar

/-- What the first token of a node says. A document has no token of its own, it starts with its
first definition; and a token on its own is not part of any document. -/
def Node.opening? : Node → Option String
  | typeDef node => some (if node.input then "input" else "type")
  | schema _ => some "schema"
  | directiveDef _ => some "directive"
  | field node => some node.name
  | param node => some node.name
  | type node => some (if node.multiple then "[" else node.name)
  | directive _ => some "@"
  | document _ | token _ => none

def Param.nodes (param : Param) : List Node :=
  [.param param, .type param.type]

/-- The nodes of a field in the order in which they are written: the type comes behind the
parameters. -/
def Field.nodes (field : Field) : List Node :=
  .field field ::
    (field.params.flatMap Param.nodes ++ .type field.type :: field.directives.map .directive)

def Definition.nodes : Definition → List Node
  | .typeDef definition => .typeDef definition :: definition.fields.flatMap Field.nodes
  | .schema block => .schema block :: block.fields.flatMap Field.nodes
  | .directiveDef definition => [.directiveDef definition]

/-- All nodes below a document, in the order in which they are written. -/
def Document.nodes (document : Document) : List Node :=
  document.definitions.flatMap Definition.nodes

/-- The node starts with the token: it stands where the token stands, and the token says what the
first token of the node says. -/
inductive Opens : Node → Token → Prop
  | word {node : Node} {token : Token} (hkind : token.kind = .text) (hloc : token.loc = node.loc)
      (hopening : node.opening? = some token.value) : Opens node token
  | sign {node : Node} {token : Token} {c : Char} (hsymbol : token.kind.symbol = some c)
      (hloc : token.loc = node.loc) (hopening : node.opening? = some (String.singleton c)) :
      Opens node token

theorem Opens.loc_eq {node : Node} {token : Token} (hopens : Opens node token) :
    token.loc = node.loc := by
  cases hopens with
  | word _ hloc _ => exact hloc
  | sign _ hloc _ => exact hloc

/-- Each of the nodes starts with a token of its own, in the order of the tokens. -/
abbrev Opened (nodes : List Node) (tokens : List Token) : Prop :=
  List.SublistForall₂ Opens nodes tokens

namespace Opened

variable {nodes more : List Node} {tokens behind : List Token}

theorem skip (hnodes : Opened nodes tokens) (front : List Token) :
    Opened nodes (front ++ tokens) := by
  induction front with
  | nil => exact hnodes
  | cons _ _ ih => exact .cons_right ih

theorem append (hnodes : Opened nodes tokens) (hmore : Opened more behind) :
    Opened (nodes ++ more) (tokens ++ behind) := by
  induction hnodes with
  | nil => exact hmore.skip _
  | cons hopens _ ih => exact .cons hopens ih
  | cons_right _ ih => exact .cons_right ih

theorem concat (hnodes : Opened nodes tokens) (behind : List Token) :
    Opened nodes (tokens ++ behind) := by
  simpa using hnodes.append .nil

theorem exists_opens (hnodes : Opened nodes tokens) {node : Node} (hmem : node ∈ nodes) :
    ∃ token ∈ tokens, Opens node token := by
  induction hnodes with
  | nil => cases hmem
  | @cons _ token _ _ hopens _ ih =>
    rcases List.mem_cons.mp hmem with rfl | hmem
    · exact ⟨token, .head _, hopens⟩
    · obtain ⟨other, hother, hopened⟩ := ih hmem
      exact ⟨other, .tail _ hother, hopened⟩
  | cons_right _ ih =>
    obtain ⟨other, hother, hopened⟩ := ih hmem
    exact ⟨other, .tail _ hother, hopened⟩

/-- Nodes that start with tokens in increasing positions stand in increasing positions. -/
theorem pairwise_loc (hnodes : Opened nodes tokens)
    (htokens : tokens.Pairwise fun token next => token.loc < next.loc) :
    nodes.Pairwise fun node next => node.loc < next.loc := by
  induction hnodes with
  | nil => exact .nil
  | cons hopens hmore ih =>
    rw [List.pairwise_cons] at htokens ⊢
    refine ⟨fun next hmem => ?_, ih htokens.2⟩
    obtain ⟨token, htoken, hnext⟩ := exists_opens hmore hmem
    rw [← hopens.loc_eq, ← hnext.loc_eq]
    exact htokens.1 token htoken
  | cons_right _ ih => exact ih (List.pairwise_cons.mp htokens).2

end Opened

namespace Grammar

theorem Repeated.opened {α : Type} {part : List Token → α → Prop} (nodes : α → List Node)
    (hpart : ∀ {tokens value}, part tokens value → Opened (nodes value) tokens)
    {tokens : List Token} {values : List α} (hvalues : Repeated part tokens values) :
    Opened (values.flatMap nodes) tokens := by
  induction hvalues with
  | none => exact .nil
  | more hfirst _ ih => exact (hpart hfirst).append ih

theorem Behind.opened {α : Type} {kind : TokenKind} {part : List Token → α → Prop}
    (nodes : α → List Node)
    (hpart : ∀ {tokens value}, part tokens value → Opened (nodes value) tokens)
    {tokens : List Token} {value : α} (hbehind : Behind kind part tokens value) :
    Opened (nodes value) tokens := by
  obtain ⟨_, hvalue⟩ := hbehind
  exact .cons_right (hpart hvalue)

theorem IsType.opened {tokens : List Token} {type : TypeRef} (htype : IsType tokens type) :
    Opened [.type type] tokens := by
  cases htype with
  | list hopening => exact .cons (.sign (congrArg TokenKind.symbol hopening) rfl rfl) .nil
  | named hname => exact .cons (.word hname rfl rfl) .nil

theorem IsParam.opened {tokens : List Token} {param : Param} (hparam : IsParam tokens param) :
    Opened param.nodes tokens := by
  obtain ⟨hname, _, htype⟩ := hparam
  exact .cons (.word hname rfl rfl) (.cons_right htype.opened)

theorem IsParams?.opened {tokens : List Token} {params : List Param}
    (hparams : IsParams? tokens params) : Opened (params.flatMap Param.nodes) tokens := by
  cases hparams with
  | absent => exact .nil
  | present hpresent =>
    obtain ⟨_, hrun, _⟩ := hpresent
    refine .cons_right (Opened.concat ?_ _)
    cases hrun with
    | none => exact .nil
    | some hparam hmore =>
      exact hparam.opened.append
        (hmore.opened Param.nodes (Behind.opened Param.nodes IsParam.opened))

theorem IsDirective.opened {tokens : List Token} {mark : Directive}
    (hdirective : IsDirective tokens mark) : Opened [.directive mark] tokens := by
  obtain ⟨hsign, _⟩ := hdirective
  exact .cons (.sign (congrArg TokenKind.symbol hsign) rfl rfl) .nil

/-- The nodes of a field start in the order in which they are written. -/
theorem IsField.opened {tokens : List Token} {member : Field} (hfield : IsField tokens member) :
    Opened member.nodes tokens := by
  obtain ⟨hname, hparams, _, htype, hdirectives⟩ := hfield
  have hmarks := hdirectives.opened (fun mark => [.directive mark]) IsDirective.opened
  rw [← List.map_eq_flatMap] at hmarks
  exact .cons (.word hname rfl rfl)
    (hparams.opened.append (.cons_right (htype.opened.append hmarks)))

theorem IsBlock.opened {tokens : List Token} {fields : List Field}
    (hblock : IsBlock tokens fields) : Opened (fields.flatMap Field.nodes) tokens := by
  obtain ⟨_, hfields, _⟩ := hblock
  exact .cons_right (Opened.concat (hfields.opened Field.nodes IsField.opened) _)

theorem IsDefinition.opened {tokens : List Token} {content : Definition}
    (hdefinition : IsDefinition tokens content) : Opened content.nodes tokens := by
  cases hdefinition with
  | typeDef hword _ hblock | inputDef hword _ hblock =>
    exact .cons (.word hword.1 rfl (congrArg some hword.2.symm)) (.cons_right hblock.opened)
  | schema hword hblock =>
    exact .cons (.word hword.1 rfl (congrArg some hword.2.symm)) hblock.opened
  | directiveDef hword => exact .cons (.word hword.1 rfl (congrArg some hword.2.symm)) .nil

end Grammar

/-- All words among the tokens are identifiers. -/
def WellNamed (tokens : List Token) : Prop :=
  ∀ token ∈ tokens, token.kind = .text → IsIdentifier token.value

theorem wellNamed_cons {token : Token} {tokens : List Token} :
    WellNamed (token :: tokens) ↔
      (token.kind = .text → IsIdentifier token.value) ∧ WellNamed tokens :=
  List.forall_mem_cons

theorem wellNamed_append {front back : List Token} :
    WellNamed (front ++ back) ↔ WellNamed front ∧ WellNamed back :=
  List.forall_mem_append

namespace Grammar

theorem Repeated.wellFormed {α : Type} {part : List Token → α → Prop} (formed : α → Prop)
    (hpart : ∀ {tokens value}, part tokens value → WellNamed tokens → formed value)
    {tokens : List Token} {values : List α} (hvalues : Repeated part tokens values)
    (hnames : WellNamed tokens) : ∀ value ∈ values, formed value := by
  induction hvalues with
  | none => simp
  | more hfirst _ ih =>
    rw [wellNamed_append] at hnames
    rw [List.forall_mem_cons]
    exact ⟨hpart hfirst hnames.1, ih hnames.2⟩

theorem Behind.wellFormed {α : Type} {kind : TokenKind} {part : List Token → α → Prop}
    (formed : α → Prop)
    (hpart : ∀ {tokens value}, part tokens value → WellNamed tokens → formed value)
    {tokens : List Token} {value : α} (hbehind : Behind kind part tokens value)
    (hnames : WellNamed tokens) : formed value := by
  obtain ⟨_, hvalue⟩ := hbehind
  exact hpart hvalue (wellNamed_cons.mp hnames).2

theorem IsName.wellFormed {tokens : List Token} {name : String} (hname : IsName tokens name)
    (hnames : WellNamed tokens) : IsIdentifier name := by
  obtain ⟨hkind⟩ := hname
  exact (wellNamed_cons.mp hnames).1 hkind

theorem IsType.wellFormed {tokens : List Token} {type : TypeRef} (htype : IsType tokens type)
    (hnames : WellNamed tokens) : type.WellFormed := by
  cases htype with
  | list _ hname =>
    simp only [wellNamed_cons] at hnames
    exact ⟨hnames.2.1 hname, by simp⟩
  | named hname => exact ⟨(wellNamed_cons.mp hnames).1 hname, fun _ => rfl⟩

theorem IsParam.wellFormed {tokens : List Token} {param : Param} (hparam : IsParam tokens param)
    (hnames : WellNamed tokens) : param.WellFormed := by
  obtain ⟨hname, _, htype⟩ := hparam
  simp only [wellNamed_cons] at hnames
  exact ⟨hnames.1 hname, htype.wellFormed hnames.2.2⟩

theorem IsParams?.wellFormed {tokens : List Token} {params : List Param}
    (hparams : IsParams? tokens params) (hnames : WellNamed tokens) :
    ∀ param ∈ params, param.WellFormed := by
  cases hparams with
  | absent => simp
  | present hpresent =>
    obtain ⟨_, hrun, _⟩ := hpresent
    cases hrun with
    | none => simp
    | some hparam hmore =>
      simp only [wellNamed_cons, wellNamed_append] at hnames
      obtain ⟨_, ⟨hfirst, hfurther⟩, _⟩ := hnames
      rw [List.forall_mem_cons]
      exact ⟨hparam.wellFormed hfirst, hmore.wellFormed Param.WellFormed
        (Behind.wellFormed Param.WellFormed IsParam.wellFormed) hfurther⟩

theorem IsDirective.wellFormed {tokens : List Token} {mark : Directive}
    (hdirective : IsDirective tokens mark) (hnames : WellNamed tokens) : mark.WellFormed := by
  obtain ⟨_, hname⟩ := hdirective
  simp only [wellNamed_cons] at hnames
  exact hnames.2.1 hname

theorem IsField.wellFormed {tokens : List Token} {member : Field} (hfield : IsField tokens member)
    (hnames : WellNamed tokens) : member.WellFormed := by
  obtain ⟨hname, hparams, _, htype, hdirectives⟩ := hfield
  simp only [wellNamed_cons, wellNamed_append] at hnames
  obtain ⟨hfirst, hparamNames, _, htypeNames, hdirectiveNames⟩ := hnames
  exact ⟨hfirst hname, htype.wellFormed htypeNames, hparams.wellFormed hparamNames,
    hdirectives.wellFormed Directive.WellFormed IsDirective.wellFormed hdirectiveNames⟩

theorem IsBlock.wellFormed {tokens : List Token} {fields : List Field}
    (hblock : IsBlock tokens fields) (hnames : WellNamed tokens) :
    ∀ field ∈ fields, field.WellFormed := by
  obtain ⟨_, hfields, _⟩ := hblock
  simp only [wellNamed_cons, wellNamed_append] at hnames
  exact hfields.wellFormed Field.WellFormed IsField.wellFormed hnames.2.1

/-- What is spelled with identifiers only is well-formed. -/
theorem IsDefinition.wellFormed {tokens : List Token} {content : Definition}
    (hdefinition : IsDefinition tokens content) (hnames : WellNamed tokens) :
    content.WellFormed := by
  cases hdefinition with
  | typeDef _ hname hblock | inputDef _ hname hblock =>
    simp only [wellNamed_cons] at hnames
    exact ⟨hnames.2.1 hname, hblock.wellFormed hnames.2.2⟩
  | schema _ hblock => exact hblock.wellFormed (wellNamed_cons.mp hnames).2
  | directiveDef _ _ hname _ htarget htargets =>
    simp only [wellNamed_cons] at hnames
    obtain ⟨_, _, hnamed, _, htargetNamed, hfurther⟩ := hnames
    refine ⟨hnamed hname, by simp, List.forall_mem_cons.mpr ⟨htargetNamed htarget, ?_⟩⟩
    exact htargets.wellFormed IsIdentifier (Behind.wellFormed IsIdentifier IsName.wellFormed)
      hfurther

end Grammar

namespace Node

/-- The node and all nodes below it, in the order in which a walk that looks everywhere visits
them. -/
def visited (root : Node) : List Node :=
  (root.preorder (fun state _ => (true, state)) ()).1

theorem visited_eq (node : Node) : node.visited = node :: node.children.flatMap visited := by
  have hall (nodes : List Node) :
      (preorderAll (fun state _ => (true, state)) nodes ()).1 = nodes.flatMap visited := by
    induction nodes with
    | nil => simp [preorderAll]
    | cons node nodes ih => simp [preorderAll, ih, visited]
  rw [visited, preorder, ← hall]

end Node

/-- A walk visits the type of a field before its parameters; apart from that it goes by what is
written. -/
theorem Field.visited_perm_nodes (field : Field) : (Node.field field).visited.Perm field.nodes := by
  have htype (type : TypeRef) : (Node.type type).visited = [.type type] := by
    rw [Node.visited_eq]
    rfl
  have hdirective (directive : Directive) : (Node.directive directive).visited =
      [.directive directive] := by
    rw [Node.visited_eq]
    rfl
  have hparam (param : Param) : (Node.param param).visited = param.nodes := by
    rw [Node.visited_eq, Node.children, List.flatMap_singleton, htype]
    rfl
  have hchildren : (Node.field field).children.flatMap Node.visited =
      .type field.type ::
        (field.params.flatMap Param.nodes ++ field.directives.map .directive) := by
    simp only [Node.children, List.flatMap_cons, List.flatMap_append, List.flatMap_map, htype,
      hparam, hdirective, ← List.map_eq_flatMap]
    rfl
  rw [Node.visited_eq, hchildren]
  exact List.perm_middle.symm.cons _

theorem Definition.visited_perm_nodes (content : Definition) :
    content.node.visited.Perm content.nodes := by
  have hfields (fields : List Field) :
      ((fields.map Node.field).flatMap Node.visited).Perm (fields.flatMap Field.nodes) := by
    rw [List.flatMap_map]
    exact List.Perm.flatMap_left _ fun field _ => field.visited_perm_nodes
  rw [Node.visited_eq]
  cases content with
  | typeDef definition => exact (hfields definition.fields).cons _
  | schema block => exact (hfields block.fields).cons _
  | directiveDef definition => exact List.Perm.refl _

/-- Below the document, a walk visits exactly the nodes of the document. -/
theorem Document.visited_perm_nodes (document : Document) :
    (Node.document document).visited.Perm (.document document :: document.nodes) := by
  rw [Node.visited_eq, Node.children, List.flatMap_map]
  exact (List.Perm.flatMap_left _ fun content _ => content.visited_perm_nodes).cons _

/-- The words of a text are identifiers. -/
theorem wellNamed_lex (source : String) : WellNamed (lex source) := by
  intro token hmem hkind
  obtain ⟨chunk, hstands, _⟩ := exists_standsWhole_of_mem_lex hmem (by simp [hkind])
  have hnames := hstands.isNameChar_of_mem hkind
  have hne := hstands.chunk_ne_nil
  rw [hstands.eq_toList_value hkind] at hnames hne
  exact ⟨fun hempty => hne (by simp [hempty]), List.all_eq_true.mpr hnames⟩

/-- A node that starts with a token of a text shows that token, whole, at its position. -/
theorem Opens.standsWhole {source : String} {node : Node} {token : Token}
    (hopens : Opens node token) (hmem : token ∈ lex source) :
    ∃ text, node.opening? = some text ∧ StandsWhole source node.loc text.toList := by
  cases hopens with
  | word hkind hloc hopening =>
    obtain ⟨chunk, hstands, hwhole⟩ := exists_standsWhole_of_mem_lex hmem (by simp [hkind])
    rw [hloc, hstands.eq_toList_value hkind] at hwhole
    exact ⟨token.value, hopening, hwhole⟩
  | sign hsymbol hloc hopening =>
    have hkind : token.kind ≠ .eof := by
      intro heof
      rw [heof] at hsymbol
      cases hsymbol
    obtain ⟨chunk, hstands, hwhole⟩ := exists_standsWhole_of_mem_lex hmem hkind
    rw [hloc, hstands.eq_singleton hsymbol] at hwhole
    exact ⟨_, hopening, by simpa using hwhole⟩

/-- The first node stands where the first token stands. -/
theorem Grammar.loc_head?_nodes {tokens : List Token} {definitions : List Definition}
    (hdefinitions : Repeated IsDefinition tokens definitions) :
    (definitions.flatMap Definition.nodes).head?.map Node.loc = tokens.head?.map Token.loc := by
  cases hdefinitions with
  | none => rfl
  | more hfirst _ => cases hfirst <;> rfl

namespace Document

/-- The tokens of a text that is read spell the definitions of the document, and the end of the text
is behind them. -/
theorem exists_tokens_of_ofText {source : String} {document : Document}
    (hok : ofText source = .ok document) :
    ∃ tokens, significant (lex source) = tokens ++ [⟨.eof, .behind source.toList, ""⟩] ∧
      Repeated IsDefinition tokens document.definitions ∧
      document.loc = (tokens.head?.map Token.loc).getD (.behind source.toList) := by
  obtain ⟨pieces, _, hlist⟩ := Lexer.exists_cut_toList [] source.toList
  have hlex : lex source = pieces.map Prod.fst ++ [⟨.eof, .behind source.toList, ""⟩] := hlist
  have hends : significant (lex source) =
      significant (pieces.map Prod.fst) ++ [⟨.eof, .behind source.toList, ""⟩] := by
    rw [hlex, significant_append, significant_singleton (by simp)]
  rw [ofText_eq_ok_iff, hends, isDocument_concat_iff] at hok
  exact ⟨_, hends, hok.2⟩

/-- What is read from a text is well-formed. -/
theorem wellFormed_of_ofText {source : String} {document : Document}
    (hok : ofText source = .ok document) : document.WellFormed := by
  obtain ⟨tokens, htokens, hdefinitions, _⟩ := exists_tokens_of_ofText hok
  have hnames : WellNamed tokens := by
    intro token hmem
    have hsignificant : token ∈ significant (lex source) := by simp [htokens, hmem]
    exact wellNamed_lex source token (List.mem_of_mem_filter hsignificant)
  exact hdefinitions.wellFormed Definition.WellFormed IsDefinition.wellFormed hnames

/-- Positions in a document that was read from a text are faithful and in order. At the position of
every node below the document the text has the first token of the node, whole. Names and targets are
identifiers, directive definitions have a target, and only lists say anything about their elements.
In the order in which they are written, which holds every node that a walk visits, the nodes stand
in strictly increasing positions, and the document stands where the first of them does, or else at
the end of the text. -/
theorem ofText_provenance {source : String} {document : Document}
    (hok : ofText source = .ok document) :
    (∀ node ∈ document.nodes, ∃ token ∈ lex source, Opens node token ∧
      ∃ text, node.opening? = some text ∧ StandsWhole source node.loc text.toList) ∧
    document.WellFormed ∧
    document.nodes.Pairwise (fun node next => node.loc < next.loc) ∧
    (Node.document document).visited.Perm (.document document :: document.nodes) ∧
    document.loc = (document.nodes.head?.map Node.loc).getD (.behind source.toList) := by
  obtain ⟨tokens, htokens, hdefinitions, hloc⟩ := exists_tokens_of_ofText hok
  have hsublist : tokens.Sublist (lex source) := by
    have hlexed : (significant (lex source)).Sublist (lex source) := List.filter_sublist
    rw [htokens] at hlexed
    exact (List.sublist_append_left ..).trans hlexed
  have hopened := hdefinitions.opened Definition.nodes IsDefinition.opened
  refine ⟨?_, ?_, ?_, document.visited_perm_nodes, ?_⟩
  · intro node hmem
    obtain ⟨token, htoken, hopens⟩ := hopened.exists_opens hmem
    have hlexed := hsublist.subset htoken
    exact ⟨token, hlexed, hopens, hopens.standsWhole hlexed⟩
  · have hnames : WellNamed tokens := fun token hmem =>
      wellNamed_lex source token (hsublist.subset hmem)
    exact hdefinitions.wellFormed Definition.WellFormed IsDefinition.wellFormed hnames
  · exact hopened.pairwise_loc ((pairwise_loc_lex source).sublist hsublist)
  · rw [hloc, nodes, loc_head?_nodes hdefinitions]

/-- A parameter of a list type on the second line: the list stands at its bracket, and the type of
the field comes behind the parameter. -/
theorem ofText_provenance_list_param :
    ∃ document, ofText "type A\x7b\n b(c: [D]): E @f\x7d" = .ok document ∧
      document.nodes.map (fun node => (node.loc, node.opening?)) =
        [(⟨0, 0⟩, some "type"), (⟨1, 1⟩, some "b"), (⟨1, 3⟩, some "c"), (⟨1, 6⟩, some "["),
          (⟨1, 12⟩, some "E"), (⟨1, 14⟩, some "@")] ∧
      document.nodes.Pairwise (fun node next => node.loc < next.loc) ∧
      ∀ node ∈ document.nodes, ∃ text, node.opening? = some text ∧
        StandsWhole "type A\x7b\n b(c: [D]): E @f\x7d" node.loc text.toList := by
  have hok : ofText "type A\x7b\n b(c: [D]): E @f\x7d" = .ok ⟨⟨0, 0⟩, [.typeDef ⟨⟨0, 0⟩, "A",
      [⟨⟨1, 1⟩, "b", ⟨⟨1, 12⟩, "E", false, false, false⟩,
        [⟨⟨1, 3⟩, "c", ⟨1, 6⟩, "D", false, true, false⟩], [⟨⟨1, 14⟩, "f"⟩]⟩], false⟩]⟩ := by
    decide +kernel
  obtain ⟨hstands, _, hpairwise, _⟩ := ofText_provenance hok
  refine ⟨_, hok, rfl, hpairwise, fun node hmem => ?_⟩
  obtain ⟨_, _, _, hwhole⟩ := hstands node hmem
  exact hwhole

end Document

end SchemaGen
