import SchemaGen.Node.TypeDefs
import SchemaGen.Proofs.Node.Walk

namespace SchemaGen

/-- The type definition that a definition is, if it is one. -/
def Definition.typeDef? : Definition → Option TypeDef
  | .typeDef definition => some definition
  | .schema _ | .directiveDef _ => none

universe u v

variable {σ : Type u} {α : Type v}

namespace Node

/-- Nodes in front are dealt with before the rest of the stack is looked at. -/
theorem walkStack_append (visit : σ → Node → Bool × σ) (state : σ) (nodes stack : List Node) :
    walkStack visit state (nodes ++ stack) =
      walkStack visit (walkStack visit state nodes) stack := by
  induction hsize : totalSize size nodes using Nat.strongRecOn generalizing nodes state with
  | ind total ih =>
    cases nodes with
    | nil => simp [walkStack]
    | cons node nodes =>
      rw [totalSize, size_eq] at hsize
      rw [List.cons_append, walkStack, walkStack]
      cases hvisit : visit state node with
      | mk descend next =>
        cases descend with
        | true =>
          have hbelow := ih _ (by rw [totalSize_append]; omega) next (node.children ++ nodes) rfl
          simpa using hbelow
        | false => exact ih _ (by omega) next nodes rfl

/-- Nodes that the visitor passes over, with all below them, leave no trace. -/
theorem walkStack_of_passed (Passed : Node → Prop) {visit : σ → Node → Bool × σ}
    (hvisit : ∀ node, Passed node → ∀ state, visit state node = (true, state))
    (hchildren : ∀ node, Passed node → ∀ child ∈ node.children, Passed child) (state : σ)
    {nodes : List Node} (hnodes : ∀ node ∈ nodes, Passed node) :
    walkStack visit state nodes = state := by
  induction hsize : totalSize size nodes using Nat.strongRecOn generalizing nodes with
  | ind total ih =>
    cases nodes with
    | nil => rw [walkStack]
    | cons node nodes =>
      obtain ⟨hnode, hbehind⟩ := List.forall_mem_cons.mp hnodes
      rw [totalSize, size_eq] at hsize
      rw [walkStack, hvisit node hnode]
      refine ih _ (by rw [totalSize_append]; omega) ?_ rfl
      intro other hmem
      rcases List.mem_append.mp hmem with hchild | hother
      · exact hchildren node hnode other hchild
      · exact hbehind other hother

/-- The node is part of a field. -/
def InField : Node → Prop
  | field _ | param _ | type _ | directive _ => True
  | document _ | typeDef _ | schema _ | directiveDef _ | token _ => False

theorem InField.children {node : Node} (hnode : node.InField) :
    ∀ child ∈ node.children, child.InField := by
  intro child hmem
  cases node with
  | field content =>
    simp only [Node.children, List.mem_cons, List.mem_append, List.mem_map] at hmem
    obtain rfl | ⟨_, _, rfl⟩ | ⟨_, _, rfl⟩ := hmem <;> trivial
  | param content =>
    obtain rfl := List.mem_singleton.mp hmem
    trivial
  | type content | directive content => cases hmem
  | document _ | typeDef _ | schema _ | directiveDef _ | token _ => cases hnode

/-- A visitor that does something at type definitions, looks no further there, and passes over all
other nodes. -/
def atTypeDefs (act : σ → TypeDef → σ) (state : σ) : Node → Bool × σ
  | typeDef definition => (false, act state definition)
  | _ => (true, state)

theorem walkStack_definitions (act : σ → TypeDef → σ) (state : σ) (definitions : List Definition) :
    walkStack (atTypeDefs act) state (definitions.map Definition.node) =
      (definitions.filterMap Definition.typeDef?).foldl act state := by
  induction definitions generalizing state with
  | nil => simp [walkStack]
  | cons definition definitions ih =>
    rw [List.map_cons, ← List.singleton_append, walkStack_append, ih]
    cases definition with
    | typeDef content => simp [walkStack, Definition.node, atTypeDefs, Definition.typeDef?]
    | directiveDef content =>
      rw [List.filterMap_cons_none rfl]
      simp [walkStack, Definition.node, atTypeDefs, children]
    | schema block =>
      -- The walk goes through the fields of the block, and the visitor passes over all of them.
      have hfields : walkStack (atTypeDefs act) state (block.fields.map field) = state := by
        refine walkStack_of_passed InField ?_ (fun _ => InField.children) state ?_
        · intro node hnode state
          cases node <;> first | rfl | cases hnode
        · intro node hmem
          obtain ⟨_, _, rfl⟩ := List.mem_map.mp hmem
          trivial
      rw [List.filterMap_cons_none rfl]
      simp [walkStack, Definition.node, atTypeDefs, children, hfields]

/-- A walk that stops at type definitions goes through them in document order. -/
theorem walk_atTypeDefs (act : σ → TypeDef → σ) (state : σ) (content : Document) :
    (document content).walk (atTypeDefs act) state =
      (content.definitions.filterMap Definition.typeDef?).foldl act state := by
  rw [← walkStack_definitions, walk, walkStack]
  simp [atTypeDefs, children]

/-- The visitor of a collecting walk. -/
def gathering (select : σ → Node → Option α × σ) (found : List α × σ) (node : Node) :
    Bool × List α × σ :=
  match select found.2 node with
  | (some item, next) => (false, item :: found.1, next)
  | (none, next) => (true, found.1, next)

theorem collectWith_eq_walk (root : Node) (select : σ → Node → Option α × σ) (state : σ) :
    root.collectWith select state =
      ((root.walk (gathering select) ([], state)).1.reverse,
        (root.walk (gathering select) ([], state)).2) := rfl

/-- A collecting walk takes fields as they come, and looks at nothing below them. -/
theorem walkStack_fields (fields found : List Field) :
    walkStack (gathering fun _ node => (node.field?, ())) (found, ()) (fields.map field) =
      (fields.reverse ++ found, ()) := by
  induction fields generalizing found with
  | nil => simp [walkStack]
  | cons content fields ih =>
    have hfound : gathering (fun _ node => (node.field?, ())) (found, ()) (field content) =
        (false, content :: found, ()) := rfl
    rw [List.map_cons, walkStack, hfound]
    simp [ih]

end Node

/-- What is collected from type definitions comes from those of the document, in its order. -/
theorem Document.collect_typeDefs (document : Document) (f : TypeDef → α) :
    (Node.document document).collect (fun node => node.typeDef?.map f) =
      (document.definitions.filterMap Definition.typeDef?).map f := by
  let gather (found : List α × Unit) (definition : TypeDef) : List α × Unit :=
    (f definition :: found.1, ())
  have hvisit : Node.gathering (fun _ node => (node.typeDef?.map f, ())) =
      Node.atTypeDefs gather := by
    funext found node
    cases node <;> rfl
  have hfold (definitions : List TypeDef) (found : List α × Unit) :
      (definitions.foldl gather found).1 = (definitions.map f).reverse ++ found.1 := by
    induction definitions generalizing found with
    | nil => rfl
    | cons definition definitions ih => simp [ih, gather]
  rw [Node.collect, Node.collectWith_eq_walk, hvisit, Node.walk_atTypeDefs, hfold,
    List.append_nil, List.reverse_reverse]

/-- The type definitions that the generators look at are those of the document, in its order. -/
theorem Document.typeDefs_eq_filterMap (document : Document) :
    document.typeDefs = document.definitions.filterMap Definition.typeDef? := by
  have hcollect := document.collect_typeDefs id
  simp only [Option.map_id, List.map_id, id_eq] at hcollect
  exact hcollect

/-- The fields that a walk finds below a type definition are those of the definition. -/
@[simp]
theorem TypeDef.fieldsBelow_eq (definition : TypeDef) :
    definition.fieldsBelow = definition.fields := by
  have hpassed : Node.gathering (fun _ node => (node.field?, ())) ([], ()) (.typeDef definition) =
      (true, [], ()) := rfl
  rw [fieldsBelow, Node.collect, Node.collectWith_eq_walk, Node.walk, Node.walkStack, hpassed]
  simp [Node.children, Node.walkStack_fields]

end SchemaGen
