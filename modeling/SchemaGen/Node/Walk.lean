import SchemaGen.Node

namespace SchemaGen.Node

universe u v

/-- The sizes of all the parts together. -/
def totalSize {α : Type} (size : α → Nat) : List α → Nat
  | [] => 0
  | part :: parts => size part + totalSize size parts

theorem totalSize_append {α : Type} (size : α → Nat) (front back : List α) :
    totalSize size (front ++ back) = totalSize size front + totalSize size back := by
  induction front with
  | nil => simp [totalSize]
  | cons part parts ih => simp [totalSize, ih, Nat.add_assoc]

theorem totalSize_map {α β : Type} (size : β → Nat) (f : α → β) (parts : List α) :
    totalSize size (parts.map f) = totalSize (size ∘ f) parts := by
  induction parts with
  | nil => rfl
  | cons part parts ih => simp [totalSize, ih]

theorem totalSize_const {α : Type} (size : Nat) (parts : List α) :
    totalSize (fun _ => size) parts = parts.length * size := by
  induction parts with
  | nil => simp [totalSize]
  | cons part parts ih => simp [totalSize, ih, Nat.succ_mul, Nat.add_comm]

/-- The number of nodes of a field: itself and its type, two for each parameter and one for each
directive. -/
def fieldSize (field : Field) : Nat := 2 + 2 * field.params.length + field.directives.length

/-- The number of nodes of a list of fields. -/
def fieldsSize (fields : List Field) : Nat := totalSize fieldSize fields

/-- The number of nodes of a definition. -/
def definitionSize : Definition → Nat
  | .typeDef definition => 1 + fieldsSize definition.fields
  | .schema block => 1 + fieldsSize block.fields
  | .directiveDef _ => 1

/-- The number of nodes at and below a node. -/
def size : Node → Nat
  | document node => 1 + totalSize definitionSize node.definitions
  | typeDef node => 1 + fieldsSize node.fields
  | schema node => 1 + fieldsSize node.fields
  | field node => fieldSize node
  | param _ => 2
  | directiveDef _ | type _ | directive _ | token _ => 1

/-- A node counts itself and what its children count. -/
theorem size_eq (node : Node) : node.size = 1 + totalSize size node.children := by
  have hdefinition : size ∘ Definition.node = definitionSize := by
    funext definition
    cases definition <;> rfl
  have hfield : size ∘ field = fieldSize := rfl
  have hparam : size ∘ param = fun _ => 2 := rfl
  have hdirective : size ∘ directive = fun _ => 1 := rfl
  cases node with
  | field node =>
    simp only [size, children, fieldSize, totalSize, totalSize_append, totalSize_map, hparam,
      hdirective, totalSize_const]
    omega
  | _ => simp [size, children, fieldsSize, totalSize, totalSize_map, hdefinition, hfield]

/-- Visits the nodes on a stack and, where the visitor says so, those below them, threading a state
through the visits. -/
def walkStack {σ : Type u} (visit : σ → Node → Bool × σ) (state : σ) : List Node → σ
  | [] => state
  | node :: stack =>
    match visit state node with
    | (true, next) => walkStack visit next (node.children ++ stack)
    | (false, next) => walkStack visit next stack
termination_by stack => totalSize size stack
decreasing_by
  · simp only [totalSize, totalSize_append, size_eq node]
    omega
  · simp only [totalSize, size_eq node]
    omega

/-- Visits a node and the nodes below it, parents first and from left to right. Where the visitor
answers `false`, the nodes below are passed over. -/
def walk {σ : Type u} (root : Node) (visit : σ → Node → Bool × σ) (state : σ) : σ :=
  walkStack visit state [root]

/-- Gathers what a selector finds, in the order of the walk, without looking below a find. The
selector may keep a state of its own. -/
def collectWith {σ : Type u} {α : Type v} (root : Node) (select : σ → Node → Option α × σ)
    (state : σ) : List α × σ :=
  let visit := fun (found : List α × σ) node =>
    match select found.2 node with
    | (some item, next) => (false, (item :: found.1, next))
    | (none, next) => (true, (found.1, next))
  let (found, last) := root.walk visit ([], state)
  (found.reverse, last)

/-- Gathers what a selector finds, in the order of the walk, without looking below a find. -/
def collect {α : Type v} (root : Node) (select : Node → Option α) : List α :=
  (root.collectWith (fun _ node => (select node, ())) ()).1

end SchemaGen.Node
