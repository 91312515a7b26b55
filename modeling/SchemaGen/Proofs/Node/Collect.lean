import Mathlib.Data.List.Basic
import SchemaGen.Proofs.Node.TypeDefs

namespace SchemaGen.Node

universe u v

variable {σ : Type u} {α : Type v}

/-- The node that a path leads to. A path names the child to go to at each step; in the order of
paths a node comes before all nodes below it, and these come before its siblings to the right. -/
def at? : Node → List Nat → Option Node
  | node, [] => some node
  | node, i :: path => node.children[i]?.bind fun child => child.at? path

/-- The selector matches no node above the end of the path. -/
def NoneAbove (select : Node → Option α) (root : Node) (path : List Nat) : Prop :=
  ∀ above node, above <+: path → above ≠ path → root.at? above = some node → select node = none

variable {select : Node → Option α}

theorem noneAbove_nil (root : Node) : NoneAbove select root [] := by
  intro above _ hprefix hne
  exact absurd (List.prefix_nil.mp hprefix) hne

theorem noneAbove_cons {root child : Node} {i : Nat} {path : List Nat}
    (hchild : root.children[i]? = some child) :
    NoneAbove select root (i :: path) ↔ select root = none ∧ NoneAbove select child path := by
  constructor
  · intro hnone
    refine ⟨hnone [] root List.nil_prefix (by simp) rfl, ?_⟩
    intro above node hprefix hne hnode
    refine hnone (i :: above) node ((List.prefix_cons_inj i).mpr hprefix) (by simpa using hne) ?_
    simpa [at?, hchild] using hnode
  · rintro ⟨hroot, hbelow⟩ above node hprefix hne hnode
    cases above with
    | nil =>
      obtain rfl := Option.some.inj hnode
      exact hroot
    | cons j above =>
      obtain ⟨rfl, habove⟩ := List.cons_prefix_cons.mp hprefix
      exact hbelow above node habove (by simpa using hne) (by simpa [at?, hchild] using hnode)

/-- Induction over the trees on a stack: what holds of the children of the first one and of the
trees behind it holds of all. -/
@[elab_as_elim]
theorem forest_induction {motive : List Node → Prop} (nil : motive [])
    (cons : ∀ node nodes, motive node.children → motive nodes → motive (node :: nodes))
    (nodes : List Node) : motive nodes := by
  induction hsize : totalSize size nodes using Nat.strongRecOn generalizing nodes with
  | ind total ih =>
    cases nodes with
    | nil => exact nil
    | cons node nodes =>
      rw [totalSize, size_eq] at hsize
      exact cons node nodes (ih _ (by omega) _ rfl) (ih _ (by omega) _ rfl)

/-- The nodes of some trees that have no match above them, with their paths. The first step of a
path is the number of the tree, counted from the given one. -/
def reachedFrom (select : Node → Option α) (start : Nat) : List Node → List (List Nat × Node)
  | [] => []
  | node :: nodes =>
    let below := if (select node).isSome then [] else reachedFrom select 0 node.children
    (([], node) :: below).map (fun (path, found) => (start :: path, found)) ++
      reachedFrom select (start + 1) nodes
termination_by nodes => totalSize size nodes
decreasing_by
  · simp only [totalSize, size_eq node]
    omega
  · simp only [totalSize, size_eq node]
    omega

/-- The nodes of a tree that have no match above them, with their paths. -/
def reached (select : Node → Option α) (node : Node) : List (List Nat × Node) :=
  ([], node) :: if (select node).isSome then [] else reachedFrom select 0 node.children

@[simp]
theorem reachedFrom_nil (start : Nat) : reachedFrom select start [] = [] := by
  rw [reachedFrom]

theorem reachedFrom_cons (start : Nat) (node : Node) (nodes : List Node) :
    reachedFrom select start (node :: nodes) =
      (reached select node).map (fun (path, found) => (start :: path, found)) ++
        reachedFrom select (start + 1) nodes := by
  rw [reachedFrom, reached]

/-- What is reached in a tree, if it is known what is reached below the children of its root. -/
theorem mem_reached_of_children {node : Node}
    (hchildren : ∀ path found, (path, found) ∈ reachedFrom select 0 node.children ↔
      ∃ i rest child, path = (0 + i) :: rest ∧ node.children[i]? = some child ∧
        child.at? rest = some found ∧ NoneAbove select child rest)
    (path : List Nat) (found : Node) :
    (path, found) ∈ reached select node ↔
      node.at? path = some found ∧ NoneAbove select node path := by
  cases path with
  | nil =>
    have hroot : ([], found) ∈ reached select node ↔ found = node := by
      simp [reached, hchildren]
    rw [hroot, at?, Option.some.injEq, eq_comm]
    exact (and_iff_left (noneAbove_nil node)).symm
  | cons i rest =>
    have hbelow : (i :: rest, found) ∈ reached select node ↔
        select node = none ∧ ∃ child, node.children[i]? = some child ∧
          child.at? rest = some found ∧ NoneAbove select child rest := by
      cases hselect : select node with
      | some value => simp [reached, hselect]
      | none => simp [reached, hselect, hchildren]
    rw [hbelow]
    constructor
    · rintro ⟨hnode, child, hchild, hfound, hnone⟩
      exact ⟨by simpa [at?, hchild] using hfound, (noneAbove_cons hchild).mpr ⟨hnode, hnone⟩⟩
    · rintro ⟨hfound, hnone⟩
      obtain ⟨child, hchild, hrest⟩ := Option.bind_eq_some_iff.mp hfound
      obtain ⟨hnode, hclear⟩ := (noneAbove_cons hchild).mp hnone
      exact ⟨hnode, child, hchild, hrest, hclear⟩

theorem mem_reachedFrom (nodes : List Node) (start : Nat) (path : List Nat) (found : Node) :
    (path, found) ∈ reachedFrom select start nodes ↔
      ∃ i rest node, path = (start + i) :: rest ∧ nodes[i]? = some node ∧
        node.at? rest = some found ∧ NoneAbove select node rest := by
  induction nodes using forest_induction generalizing start path found with
  | nil => simp
  | cons node nodes hchildren hnodes =>
    have hfirst := mem_reached_of_children fun path found => hchildren 0 path found
    rw [reachedFrom_cons, List.mem_append, hnodes]
    constructor
    · rintro (hmem | ⟨i, rest, other, rfl, hother, hfound⟩)
      · obtain ⟨⟨rest, below⟩, hrest, heq⟩ := List.mem_map.mp hmem
        cases heq
        exact ⟨0, rest, node, rfl, rfl, (hfirst rest _).mp hrest⟩
      · exact ⟨i + 1, rest, other, by rw [Nat.add_right_comm, Nat.add_assoc], hother, hfound⟩
    · rintro ⟨i, rest, other, rfl, hother, hfound⟩
      cases i with
      | zero =>
        cases hother
        exact .inl (List.mem_map.mpr ⟨(rest, found), (hfirst rest found).mpr hfound, rfl⟩)
      | succ i =>
        exact .inr ⟨i, rest, other, by rw [Nat.add_right_comm, Nat.add_assoc], hother, hfound⟩

/-- A node is reached if it is there and has no match above it. -/
theorem mem_reached (node : Node) (path : List Nat) (found : Node) :
    (path, found) ∈ reached select node ↔
      node.at? path = some found ∧ NoneAbove select node path :=
  mem_reached_of_children (mem_reachedFrom node.children 0) path found

theorem pairwise_reachedFrom (nodes : List Node) (start : Nat) :
    (reachedFrom select start nodes).Pairwise fun item next => item.1 < next.1 := by
  induction nodes using forest_induction generalizing start with
  | nil => simp
  | cons node nodes hchildren hnodes =>
    have hreached : (reached select node).Pairwise fun item next => item.1 < next.1 := by
      rw [reached, List.pairwise_cons]
      split
      · simp
      · refine ⟨?_, hchildren 0⟩
        rintro ⟨path, found⟩ hmem
        obtain ⟨_, _, _, rfl, _⟩ := (mem_reachedFrom ..).mp hmem
        exact List.nil_lt_cons ..
    rw [reachedFrom_cons, List.pairwise_append, List.pairwise_map]
    refine ⟨hreached.imp fun hlt => List.cons_lt_cons_iff.mpr (.inr ⟨rfl, hlt⟩), hnodes _, ?_⟩
    intro item hitem next hnext
    obtain ⟨_, _, rfl⟩ := List.mem_map.mp hitem
    obtain ⟨i, _, _, hpath, _⟩ := (mem_reachedFrom ..).mp hnext
    rw [hpath]
    exact List.cons_lt_cons_iff.mpr (.inl (by omega))

theorem pairwise_reached (node : Node) :
    (reached select node).Pairwise fun item next => item.1 < next.1 := by
  have hsingle : (reachedFrom select 0 [node]).Pairwise fun item next => item.1 < next.1 :=
    pairwise_reachedFrom [node] 0
  rw [reachedFrom_cons, reachedFrom_nil, List.append_nil, List.pairwise_map] at hsingle
  refine hsingle.imp fun hlt => ?_
  simpa [List.cons_lt_cons_iff] using hlt

/-- A selector that decides by the node alone, and takes a note of each call. -/
def noting (select : Node → Option α) (note : σ → Node → σ) (state : σ) (node : Node) :
    Option α × σ :=
  (select node, note state node)

/-- A collecting walk over some trees calls the selector on the nodes that are reached and keeps
what it says about them, the last value in front. -/
theorem walkStack_gathering (note : σ → Node → σ) (nodes : List Node) (start : Nat)
    (found : List α) (state : σ) :
    walkStack (gathering (noting select note)) (found, state) nodes =
      (((reachedFrom select start nodes).filterMap fun item => select item.2).reverse ++ found,
        ((reachedFrom select start nodes).map Prod.snd).foldl note state) := by
  induction nodes using forest_induction generalizing start found state with
  | nil => simp [walkStack]
  | cons node nodes hchildren hnodes =>
    rw [reachedFrom_cons, walkStack]
    cases hselect : select node with
    | some value => simp [gathering, noting, hselect, hnodes (start + 1), reached]
    | none =>
      -- The children lie on the stack in front of the trees behind.
      simp [gathering, noting, hselect, walkStack_append, hchildren 0, hnodes (start + 1), reached,
        Function.comp_def]

theorem collectWith_noting (root : Node) (note : σ → Node → σ) (state : σ) :
    root.collectWith (noting select note) state =
      ((reached select root).filterMap fun item => select item.2,
        ((reached select root).map Prod.snd).foldl note state) := by
  rw [collectWith_eq_walk, walk, walkStack_gathering note [root] 0]
  simp [reachedFrom_cons, Function.comp_def]

/-- The value of a reached node that is a match, with its path. -/
def matched? (select : Node → Option α) (item : List Nat × Node) : Option (List Nat × α) :=
  (select item.2).map fun value => (item.1, value)

/-- Collecting gives the topmost matches in the order of the walk, which is the order of paths: a
node before the nodes below it, and siblings from left to right. The selector is called once on
every node that has no match above it, in that order, and on no other node. -/
theorem collect_topmost (root : Node) (select : Node → Option α) :
    ∃ (topmost : List (List Nat × α)) (called : List (List Nat × Node)),
      root.collect select = topmost.map Prod.snd ∧
      topmost.Pairwise (fun item next => item.1 < next.1) ∧
      (∀ path value, (path, value) ∈ topmost ↔
        (∃ node, root.at? path = some node ∧ select node = some value) ∧
          NoneAbove select root path) ∧
      root.collectWith (fun log node => (select node, log ++ [node])) [] =
        (root.collect select, called.map Prod.snd) ∧
      called.Pairwise (fun item next => item.1 < next.1) ∧
      ∀ path node, (path, node) ∈ called ↔
        root.at? path = some node ∧ NoneAbove select root path := by
  have hcollect : root.collect select = (reached select root).filterMap fun item => select item.2 :=
    congrArg Prod.fst (collectWith_noting root (fun _ _ => ()) ())
  have hlog : root.collectWith (fun log node => (select node, log ++ [node])) [] =
      ((reached select root).filterMap fun item => select item.2,
        ((reached select root).map Prod.snd).foldl (fun log node => log ++ [node]) []) :=
    collectWith_noting root (fun log node => log ++ [node]) []
  refine ⟨(reached select root).filterMap (matched? select), reached select root, ?_, ?_, ?_, ?_,
    pairwise_reached root, mem_reached root⟩
  · rw [hcollect, List.map_filterMap]
    refine List.filterMap_congr fun item _ => ?_
    simp [matched?, Function.comp_def]
  · rw [List.pairwise_filterMap]
    refine (pairwise_reached root).imp ?_
    intro item next hlt first hfirst second hsecond
    obtain ⟨_, _, rfl⟩ := Option.map_eq_some_iff.mp hfirst
    obtain ⟨_, _, rfl⟩ := Option.map_eq_some_iff.mp hsecond
    exact hlt
  · intro path value
    simp only [List.mem_filterMap, Prod.exists, mem_reached, matched?, Option.map_eq_some_iff,
      Prod.mk.injEq]
    constructor
    · rintro ⟨_, node, ⟨hnode, hnone⟩, _, hselect, rfl, rfl⟩
      exact ⟨⟨node, hnode, hselect⟩, hnone⟩
    · rintro ⟨⟨node, hnode, hselect⟩, hnone⟩
      exact ⟨path, node, ⟨hnode, hnone⟩, value, hselect, rfl, rfl⟩
  · rw [hlog, hcollect, ← List.flatMap_eq_foldl, List.flatMap_singleton']

end SchemaGen.Node
