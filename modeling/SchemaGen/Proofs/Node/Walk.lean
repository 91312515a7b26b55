import Mathlib.Logic.Function.Iterate
import SchemaGen.Node.Walk

namespace SchemaGen.Node

universe u

variable {σ : Type u}

mutual

/-- Walks through a node by recursion. Gives the nodes that the visitor is called on, in the order
of the calls, and the state behind them. -/
def preorder (visit : σ → Node → Bool × σ) (node : Node) (state : σ) : List Node × σ :=
  match visit state node with
  | (true, next) =>
    let (calls, last) := preorderAll visit node.children next
    (node :: calls, last)
  | (false, next) => ([node], next)
termination_by 2 * node.size
decreasing_by
  rw [size_eq node]
  omega

/-- Walks through some nodes by recursion, one after the other. -/
def preorderAll (visit : σ → Node → Bool × σ) (nodes : List Node) (state : σ) : List Node × σ :=
  match nodes with
  | [] => ([], state)
  | node :: nodes =>
    let (calls, next) := preorder visit node state
    let (more, last) := preorderAll visit nodes next
    (calls ++ more, last)
termination_by 2 * totalSize size nodes + 1
decreasing_by
  · simp only [totalSize]
    omega
  · simp only [totalSize, size_eq node]
    omega

end

/-- The visitor, with a list of the nodes that it has been called on. -/
def logged (visit : σ → Node → Bool × σ) (log : List Node × σ) (node : Node) :
    Bool × List Node × σ :=
  let (descend, next) := visit log.2 node
  (descend, log.1 ++ [node], next)

/-- One round of the walk. The node on top of the stack, which is its end, is taken off and visited.
If the visitor wants to see its children they are put on the stack, the leftmost one on top. -/
def round (visit : σ → Node → Bool × σ) : σ × List Node → σ × List Node
  | (state, stack) =>
    match stack.getLast? with
    | none => (state, stack)
    | some node =>
      match visit state node with
      | (true, next) => (next, stack.dropLast ++ node.children.reverse)
      | (false, next) => (next, stack.dropLast)

theorem round_concat_true {visit : σ → Node → Bool × σ} {state next : σ} {node : Node}
    (hvisit : visit state node = (true, next)) (stack : List Node) :
    round visit (state, stack ++ [node]) = (next, stack ++ node.children.reverse) := by
  simp [round, hvisit]

theorem round_concat_false {visit : σ → Node → Bool × σ} {state next : σ} {node : Node}
    (hvisit : visit state node = (false, next)) (stack : List Node) :
    round visit (state, stack ++ [node]) = (next, stack) := by
  simp [round, hvisit]

/-- A round does not change what the walk comes to. -/
theorem walkStack_round (visit : σ → Node → Bool × σ) (state : σ) (stack : List Node) :
    walkStack visit (round visit (state, stack)).1 (round visit (state, stack)).2.reverse =
      walkStack visit state stack.reverse := by
  rcases List.eq_nil_or_concat stack with rfl | ⟨stack, node, rfl⟩
  · rfl
  · rw [List.concat_eq_append, List.reverse_concat]
    conv =>
      rhs
      rw [walkStack]
    cases hvisit : visit state node with
    | mk descend next =>
      cases descend with
      | true => simp [round_concat_true hvisit]
      | false => simp [round_concat_false hvisit]

/-- Once the stack is empty, the state is what the walk comes to. -/
theorem walkStack_of_rounds {visit : σ → Node → Bool × σ} {count : Nat} {state last : σ}
    {stack : List Node} (hrounds : (round visit)^[count] (state, stack) = (last, [])) :
    walkStack visit state stack.reverse = last := by
  induction count generalizing state stack with
  | zero =>
    cases hrounds
    rw [List.reverse_nil, walkStack]
  | succ count ih =>
    rw [Function.iterate_succ_apply] at hrounds
    rw [← walkStack_round]
    exact ih hrounds

/-- Nodes on top of the stack are dealt with as the recursion deals with them, in as many rounds as
the visitor is called, and what lies below stays as it is. -/
theorem rounds_preorderAll (visit : σ → Node → Bool × σ) (nodes : List Node) (state : σ)
    (stack : List Node) :
    (round visit)^[(preorderAll visit nodes state).1.length] (state, stack ++ nodes.reverse) =
      ((preorderAll visit nodes state).2, stack) := by
  induction hsize : totalSize size nodes using Nat.strongRecOn generalizing nodes state stack with
  | ind total ih =>
    cases nodes with
    | nil => simp [preorderAll]
    | cons node nodes =>
      rw [totalSize, size_eq] at hsize
      have hbehind (next : σ) := ih _ (by omega) nodes next stack rfl
      rw [preorderAll, preorder, List.reverse_cons, ← List.append_assoc]
      cases hvisit : visit state node with
      | mk descend next =>
        cases descend with
        | true =>
          -- The children come to lie above the nodes behind, which are part of the stack for them.
          have hchildren := ih _ (by omega) node.children next (stack ++ nodes.reverse) rfl
          simp only [List.cons_append, List.length_cons, List.length_append,
            Function.iterate_succ_apply, round_concat_true hvisit]
          rw [Nat.add_comm, Function.iterate_add_apply, hchildren, hbehind]
        | false =>
          simp only [List.singleton_append, List.length_cons, Function.iterate_succ_apply,
            round_concat_false hvisit, hbehind]

/-- Keeping a log does not change the walk, and the log is the list of the calls. -/
theorem preorderAll_logged (visit : σ → Node → Bool × σ) (nodes log : List Node) (state : σ) :
    preorderAll (logged visit) nodes (log, state) =
      ((preorderAll visit nodes state).1, log ++ (preorderAll visit nodes state).1,
        (preorderAll visit nodes state).2) := by
  induction hsize : totalSize size nodes using Nat.strongRecOn generalizing nodes log state with
  | ind total ih =>
    cases nodes with
    | nil => simp [preorderAll]
    | cons node nodes =>
      rw [totalSize, size_eq] at hsize
      have hbehind (log : List Node) (next : σ) := ih _ (by omega) nodes log next rfl
      have hchildren (log : List Node) (next : σ) := ih _ (by omega) node.children log next rfl
      simp only [preorderAll, preorder, logged]
      cases hvisit : visit state node with
      | mk descend next =>
        cases descend with
        | true => simp [hchildren, hbehind]
        | false => simp [hbehind]

theorem preorderAll_singleton (visit : σ → Node → Bool × σ) (node : Node) (state : σ) :
    preorderAll visit [node] state = preorder visit node state := by
  simp [preorderAll]

/-- The walk with a stack comes to an end, after one round for each call of the visitor. It calls
the visitor on the nodes that the recursion calls it on, in the same order, and ends in the same
state. -/
theorem walk_eq_preorder (root : Node) (visit : σ → Node → Bool × σ) (state : σ) :
    ∃ calls last, preorder visit root state = (calls, last) ∧
      (round visit)^[calls.length] (state, [root]) = (last, []) ∧
      (round (logged visit))^[calls.length] (([], state), [root]) = ((calls, last), []) ∧
      root.walk visit state = last ∧ root.walk (logged visit) ([], state) = (calls, last) := by
  have hlogged := preorderAll_logged visit [root] [] state
  have hrounds := rounds_preorderAll visit [root] state []
  have hloggedRounds := rounds_preorderAll (logged visit) [root] ([], state) []
  rw [hlogged] at hloggedRounds
  rw [preorderAll_singleton] at hrounds hloggedRounds
  refine ⟨_, _, rfl, hrounds, hloggedRounds, ?_, ?_⟩
  · exact walkStack_of_rounds hrounds
  · exact walkStack_of_rounds hloggedRounds

end SchemaGen.Node
