import PathHierarchy.Forest.Node

/-!
# Walking a forest with a stack

The iterator keeps the nodes still to visit on a stack, its top last; a step pops the top and
pushes the node's children last first. Whatever the stack holds, what the iterator yields from
it is the pre-order of the stack's nodes read from the top down (`Iter.toList_eq`): a step yields
the top node and leaves on the stack its children's pre-order ahead of the rest. So the
iterator of a forest yields `preorder r₁ ++ … ++ preorder rₙ` over its roots, each node once,
and counting, leaves, `find?`, `findAll` and `descendantValues` all read that pre-order
(`iter_eq_preorder`).

`render` keeps a stack of its own, of nodes with their depths. Each step writes the line of the
node it pops and leaves the rest of the pre-order, with depths, on the stack (`outline_eq`), so
the outline has one line per node in the iterator's order, indented two spaces for each level
below the roots (`render_eq_outline`).
-/

set_option autoImplicit false

namespace PathHierarchy.Forest

namespace Node

theorem preorderAll_eq_flatMap (l : List Node) : preorderAll l = l.flatMap preorder := by
  induction l with
  | nil => rfl
  | cons n ns ih => rw [preorderAll_cons, ih, List.flatMap_cons]

theorem preorder_eq_flatMap (n : Node) : n.preorder = n :: n.children.flatMap preorder := by
  rw [preorder_eq, preorderAll_eq_flatMap]

mutual

/-- A node at depth `depth` and every node below it, in pre-order, each with its depth: the
node's own, and one more for each level further down. -/
def preorderAt (depth : Nat) : Node → List (Node × Nat)
  | ⟨v, t, cs, s⟩ => (⟨v, t, cs, s⟩, depth) :: preorderAllAt (depth + 1) cs

/-- The nodes of a forest whose roots stand at depth `depth`, in pre-order, with their depths. -/
def preorderAllAt (depth : Nat) : List Node → List (Node × Nat)
  | [] => []
  | n :: ns => preorderAt depth n ++ preorderAllAt depth ns

end

theorem preorderAt_eq (depth : Nat) (n : Node) :
    preorderAt depth n = (n, depth) :: preorderAllAt (depth + 1) n.children := by
  cases n
  rw [preorderAt]

theorem preorderAllAt_eq_flatMap (depth : Nat) (l : List Node) :
    preorderAllAt depth l = l.flatMap (preorderAt depth) := by
  induction l with
  | nil => rw [preorderAllAt, List.flatMap_nil]
  | cons n ns ih => rw [preorderAllAt, ih, List.flatMap_cons]

mutual

theorem map_fst_preorderAt : ∀ (depth : Nat) (n : Node), (preorderAt depth n).map (·.1) = n.preorder
  | depth, ⟨v, t, cs, s⟩ => by
    rw [preorderAt, preorder, List.map_cons, map_fst_preorderAllAt]

theorem map_fst_preorderAllAt :
    ∀ (depth : Nat) (l : List Node), (preorderAllAt depth l).map (·.1) = preorderAll l
  | _, [] => by rw [preorderAllAt, preorderAll_nil, List.map_nil]
  | depth, n :: ns => by
    rw [preorderAllAt, preorderAll_cons, List.map_append, map_fst_preorderAt, map_fst_preorderAllAt]

end

theorem mem_indent {c : Char} {depth : Nat} (h : c ∈ (indent depth).toList) : c = ' ' := by
  rw [indent, String.toList_join, List.mem_flatMap] at h
  obtain ⟨s, hs, hc⟩ := h
  rw [List.eq_of_mem_replicate hs] at hc
  simpa using hc

end Node

theorem reverse_toList_of_back? {α : Type} {s : Array α} {x : α} (h : s.back? = some x) :
    s.toList.reverse = x :: s.pop.toList.reverse := by
  rw [toList_eq_pop_append h, List.reverse_append, List.reverse_singleton, List.singleton_append]

namespace Iter

/-- What is on the stack, read from the top down, and the pre-order of those nodes: what is still
to be yielded. -/
def pending (it : Iter) : List Node := Node.preorderAll it.stack.toList.reverse

theorem pending_of_next_eq_none {it : Iter} (h : it.next = none) : it.pending = [] := by
  unfold next at h
  split at h
  · next hback => rw [pending, Array.back?_eq_none_iff.1 hback]; rfl
  · cases h

theorem pending_of_next_eq_some {it it' : Iter} {n : Node} (h : it.next = some (n, it')) :
    it.pending = n :: it'.pending := by
  unfold next at h
  split at h
  · cases h
  · next n' hback =>
    rw [Option.some.injEq, Prod.mk.injEq] at h
    obtain ⟨rfl, rfl⟩ := h
    rw [pending, pending, reverse_toList_of_back? hback, Array.toList_append, List.toList_toArray,
      List.reverse_append, List.reverse_reverse, Node.preorderAll_cons, Node.preorderAll_append,
      Node.preorder_eq, List.cons_append]

/-- The iterator yields exactly what is still to be yielded from its stack. The induction
follows the iterator's own steps; each keeps `toList = pending`. -/
theorem toList_eq (it : Iter) : it.toList = it.pending := by
  fun_induction toList it with
  | case1 it h => rw [pending_of_next_eq_none h]
  | case2 it n it' h _ ih => rw [pending_of_next_eq_some h, ih]

end Iter

theorem toList_iter (f : Forest) : f.iter.toList = f.nodes := by
  rw [Iter.toList_eq, Iter.pending, iter, List.toList_toArray, List.reverse_reverse, nodes]

theorem Node.descendantValues_eq (n : Node) : n.descendantValues = n.preorder.map (·.value) := by
  have hstack : (Iter.mk #[n]).pending = n.preorder := by
    rw [Iter.pending, List.toList_toArray, List.reverse_singleton, Node.preorderAll_cons,
      Node.preorderAll_nil, List.append_nil]
  rw [descendantValues, Iter.toList_eq, hstack]

/-- The iterator yields the recursive pre-order of the roots, `preorder r₁ ++ … ++ preorder rₙ`,
where the pre-order of a node is the node followed by the pre-order of each child in turn; a
node's `descendantValues` are the values of its pre-order. So the node count is the number of
nodes, the leaf values are those of the childless nodes in pre-order, `find?` gives the first
node in pre-order with the value and `findAll` every such node in pre-order. -/
theorem iter_eq_preorder (f : Forest) :
    (∀ n : Node, n.preorder = n :: n.children.flatMap Node.preorder) ∧
    f.iter.toList = f.flatMap Node.preorder ∧
    (∀ n : Node, n.descendantValues = n.preorder.map (·.value)) ∧
    f.nodeCount = (f.flatMap Node.preorder).length ∧
    f.leafValues = ((f.flatMap Node.preorder).filter Node.isLeaf).map (·.value) ∧
    (∀ v, f.find? v = (f.flatMap Node.preorder).find? (·.value == v)) ∧
    (∀ v, f.findAll v = (f.flatMap Node.preorder).filter (·.value == v)) := by
  have hiter : f.iter.toList = f.flatMap Node.preorder := by
    rw [toList_iter, nodes, Node.preorderAll_eq_flatMap]
  refine ⟨Node.preorder_eq_flatMap, hiter, Node.descendantValues_eq, ?_, ?_, fun v => ?_,
    fun v => ?_⟩
  · rw [nodeCount, hiter]
  · rw [leafValues, hiter]
  · rw [find?, hiter]
  · rw [findAll, hiter]

/-! ### The outline -/

/-- The outline loop writes, after what it has written, the line of every node still on its
stack with what lies below it, in pre-order from the top of the stack down. The induction
follows the loop's own steps. -/
theorem outline_eq (out : String) (stack : Array (Node × Nat)) :
    outline out stack = out ++ String.join ((stack.toList.reverse.flatMap
      fun p => Node.preorderAt p.2 p.1).map fun p => Node.indent p.2 ++ p.1.title ++ "\n") := by
  fun_induction outline out stack with
  | case1 out stack h =>
    rw [Array.back?_eq_none_iff.1 h]
    simp
  | case2 out stack n depth h _ ih =>
    have hkids : ((n.children.reverse.map (·, depth + 1)).reverse.flatMap
        fun p => Node.preorderAt p.2 p.1) = Node.preorderAllAt (depth + 1) n.children := by
      rw [List.map_reverse, List.reverse_reverse, List.flatMap_map, Node.preorderAllAt_eq_flatMap]
    rw [ih, reverse_toList_of_back? h, Array.toList_append, List.toList_toArray, List.reverse_append,
      List.flatMap_append, hkids, List.flatMap_cons, Node.preorderAt_eq]
    simp [String.append_assoc]

theorem render_eq (f : Forest) :
    f.render = String.join ((Node.preorderAllAt 0 f).map
      fun p => Node.indent p.2 ++ p.1.title ++ "\n") := by
  rw [render, outline_eq, List.toList_toArray, List.map_reverse, List.reverse_reverse,
    List.flatMap_map, ← Node.preorderAllAt_eq_flatMap, String.empty_append]

theorem splitOn_flatMap_append_newline (ls : List (List Char)) (hls : ∀ l ∈ ls, '\n' ∉ l) :
    (ls.flatMap (· ++ ['\n'])).splitOn '\n' = ls ++ [[]] := by
  have hjoin : ls.flatMap (· ++ ['\n']) = ['\n'].intercalate (ls ++ [[]]) := by
    induction ls with
    | nil => rfl
    | cons l ls ih =>
      rw [List.flatMap_cons, ih fun l' hl' => hls l' (List.mem_cons_of_mem l hl'), List.cons_append,
        List.intercalate_cons_of_ne_nil (by simp), List.append_assoc]
  rw [hjoin]
  refine List.splitOn_intercalate '\n' (fun l hl => ?_) (by simp)
  rcases List.mem_append.1 hl with hl | hl
  · exact hls l hl
  · rw [List.mem_singleton.1 hl]
    exact List.not_mem_nil

/-- The outline of a forest has one line per node, in the order the iterator yields the nodes:
each node's title, indented by two spaces for each level below the roots, and a line break. When
no title holds a line break, the text splits at its line breaks into those lines, as many as
the forest has nodes, and an empty piece after the last break. -/
theorem render_eq_outline (f : Forest) :
    (Node.preorderAllAt 0 f).map (·.1) = f.iter.toList ∧
    f.render = String.join ((Node.preorderAllAt 0 f).map
      fun p => Node.indent p.2 ++ p.1.title ++ "\n") ∧
    ((∀ n ∈ f.iter.toList, '\n' ∉ n.title.toList) →
      f.render.toList.splitOn '\n' =
        ((Node.preorderAllAt 0 f).map fun p => (Node.indent p.2 ++ p.1.title).toList) ++ [[]] ∧
      (Node.preorderAllAt 0 f).length = f.nodeCount) := by
  have horder : (Node.preorderAllAt 0 f).map (·.1) = f.iter.toList := by
    rw [Node.map_fst_preorderAllAt, toList_iter, nodes]
  refine ⟨horder, render_eq f, fun htitles => ⟨?_, ?_⟩⟩
  ·
    have hlines : ∀ l ∈ (Node.preorderAllAt 0 f).map
        (fun p => (Node.indent p.2 ++ p.1.title).toList), '\n' ∉ l := by
      intro l hl hnl
      obtain ⟨⟨n, depth⟩, hp, rfl⟩ := List.mem_map.1 hl
      rw [String.toList_append, List.mem_append] at hnl
      rcases hnl with hnl | hnl
      · exact absurd (Node.mem_indent hnl) (by decide)
      · have hn : n ∈ f.iter.toList := horder ▸ List.mem_map_of_mem (f := (·.1)) hp
        exact htitles n hn hnl
    rw [← splitOn_flatMap_append_newline _ hlines, render_eq, String.toList_join, List.flatMap_map,
      List.flatMap_map]
    congr 2
    funext p
    simp
  · rw [nodeCount, ← horder, List.length_map]

end PathHierarchy.Forest
