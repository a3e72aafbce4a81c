import PathHierarchy.Json.Value

/-!
# Nodes and forests

A node of a select tree has a value (the assembled path up to it, also its key), a title shown
for it, its children in order, and a flag that marks it selectable. A forest is the list of
root nodes.

All queries walk the forest in pre-order: a node, then each of its children's subtrees in
order. They do so without recursion, through an explicit stack of the nodes still to visit
(`Iter`): the top node is popped and its children are pushed last first, so that the first child
is on top. `render` walks its own stack of nodes paired with their depths and writes each title
on a line of its own, indented two spaces per level.
-/

set_option autoImplicit false

namespace PathHierarchy.Forest

/-- A node of a select tree. -/
structure Node where
  value : String
  title : String
  children : List Node
  selectable : Bool
  deriving Inhabited

namespace Node

/-- A new node without children. -/
def leaf (value title : String) : Node := ⟨value, title, [], false⟩

/-- Whether a node has no children. -/
def isLeaf (n : Node) : Bool := n.children.isEmpty

mutual

/-- A node and all nodes below it, in pre-order. -/
def preorder : Node → List Node
  | ⟨v, t, cs, s⟩ => ⟨v, t, cs, s⟩ :: preorderAll cs

/-- Every node of a forest, in pre-order. -/
def preorderAll : List Node → List Node
  | [] => []
  | n :: ns => preorder n ++ preorderAll ns

end

theorem preorder_eq (n : Node) : n.preorder = n :: preorderAll n.children := by
  cases n
  rw [preorder]

@[simp] theorem preorderAll_nil : preorderAll [] = [] := by
  rw [preorderAll]

@[simp] theorem preorderAll_cons (n : Node) (ns : List Node) :
    preorderAll (n :: ns) = n.preorder ++ preorderAll ns := by
  rw [preorderAll]

@[simp] theorem preorderAll_append (l₁ l₂ : List Node) :
    preorderAll (l₁ ++ l₂) = preorderAll l₁ ++ preorderAll l₂ := by
  induction l₁ with
  | nil => simp
  | cons n ns ih => simp [ih]

theorem length_preorderAll_reverse (l : List Node) :
    (preorderAll l.reverse).length = (preorderAll l).length := by
  induction l with
  | nil => rfl
  | cons n ns ih => simp [ih, Nat.add_comm]

/-- Replacing the last node of a list of pending nodes by its children, last child first, leaves
one node fewer to visit. -/
theorem length_preorderAll_pop_lt (l : List Node) (n : Node) :
    (preorderAll (l ++ n.children.reverse)).length < (preorderAll (l ++ [n])).length := by
  simp [length_preorderAll_reverse, preorder_eq]

/-- Two spaces for each level of depth. -/
def indent (depth : Nat) : String := String.join (List.replicate depth "  ")

mutual

/-- Mark a node and every node below it selectable. -/
def markSelectable : Node → Node
  | ⟨v, t, cs, _⟩ => ⟨v, t, markSelectableAll cs, true⟩

/-- Mark every node of a forest selectable. -/
def markSelectableAll : List Node → List Node
  | [] => []
  | n :: ns => markSelectable n :: markSelectableAll ns

end

/-- The order of sorted siblings: by value, compared character by character, which is the
byte order of their UTF-8 text. -/
def valueLE (a b : Node) : Bool := decide (a.value ≤ b.value)

mutual

/-- Sort the children of a node by value, stably, at every level below it, by recursion: the
form of the sorting loop `Node.sortChildren` that the proofs about sorted forests use. -/
def sortDeep : Node → Node
  | ⟨v, t, cs, s⟩ => ⟨v, t, (sortDeepAll cs).mergeSort valueLE, s⟩

/-- `sortDeep` on each node of a forest, keeping their order. -/
def sortDeepAll : List Node → List Node
  | [] => []
  | n :: ns => sortDeep n :: sortDeepAll ns

end

mutual

/-- A node as JSON: key, value, title, children, and `selectable: true` when marked. -/
def toJson : Node → Json.Value
  | ⟨v, t, cs, s⟩ =>
    .object ([("key", .string v), ("value", .string v), ("title", .string t),
      ("children", .array (toJsonAll cs))] ++ if s then [("selectable", .bool true)] else [])

/-- The nodes of a forest as JSON. -/
def toJsonAll : List Node → List Json.Value
  | [] => []
  | n :: ns => toJson n :: toJsonAll ns

end

end Node

/-- A stack is what is left of it after a pop, then the popped top. -/
theorem toList_eq_pop_append {α : Type} {s : Array α} {x : α} (h : s.back? = some x) :
    s.toList = s.pop.toList ++ [x] := by
  obtain ⟨l, hl⟩ := List.getLast?_eq_some_iff.1 (show s.toList.getLast? = some x by
    rw [Array.getLast?_toList, h])
  rw [Array.toList_pop, hl, List.dropLast_concat]

/-- Pre-order iteration, kept as the stack of the nodes still to visit; the top of the stack is
its last element. -/
structure Iter where
  stack : Array Node

namespace Iter

/-- How many nodes are still to be yielded: those on the stack and every node below them. -/
def remaining (it : Iter) : Nat := (Node.preorderAll it.stack.toList).length

/-- Pop the top node and push its children, last child first, so that the first child is on
top. -/
def next (it : Iter) : Option (Node × Iter) :=
  match it.stack.back? with
  | none => none
  | some n => some (n, ⟨it.stack.pop ++ n.children.reverse.toArray⟩)

theorem remaining_next_lt {it it' : Iter} {n : Node} (h : it.next = some (n, it')) :
    it'.remaining < it.remaining := by
  unfold next at h
  split at h
  · cases h
  · next n' hback =>
    cases h
    rw [remaining, remaining, toList_eq_pop_append hback, Array.toList_append, List.toList_toArray]
    exact Node.length_preorderAll_pop_lt _ _

/-- Every node the iterator yields, in order. -/
def toList (it : Iter) : List Node :=
  match h : it.next with
  | none => []
  | some (n, it') =>
    have := remaining_next_lt h
    n :: it'.toList
termination_by it.remaining

end Iter

namespace Node

/-- The values of a node and all nodes below it, visited from a stack that holds the node
alone. -/
def descendantValues (n : Node) : List String := (Iter.mk #[n]).toList.map (·.value)

end Node

/-- How many nodes are still to be written from a stack of nodes with their depths. -/
def pendingLines (stack : Array (Node × Nat)) : Nat :=
  (Node.preorderAll (stack.toList.map (·.1))).length

theorem pendingLines_lt {stack : Array (Node × Nat)} {n : Node} {depth : Nat}
    (h : stack.back? = some (n, depth)) :
    pendingLines (stack.pop ++ (n.children.reverse.map (·, depth + 1)).toArray) <
      pendingLines stack := by
  have hkids : (n.children.reverse.map (·, depth + 1)).map (·.1) = n.children.reverse := by
    rw [List.map_map]
    exact List.map_id _
  rw [pendingLines, pendingLines, toList_eq_pop_append h, Array.toList_append, List.toList_toArray,
    List.map_append, List.map_append, hkids, List.map_singleton]
  exact Node.length_preorderAll_pop_lt _ _

/-- The outline loop: pop a node with its depth, write its title on a line indented by the
depth, and push its children one level deeper, last child first. -/
def outline (out : String) (stack : Array (Node × Nat)) : String :=
  match h : stack.back? with
  | none => out
  | some (n, depth) =>
    have := pendingLines_lt h
    outline (out ++ Node.indent depth ++ n.title ++ "\n")
      (stack.pop ++ (n.children.reverse.map (·, depth + 1)).toArray)
termination_by pendingLines stack
decreasing_by exact this

end PathHierarchy.Forest

namespace PathHierarchy

open Forest

/-- The root nodes of a select tree. -/
abbrev Forest := List Node

namespace Forest

/-- Every node, in pre-order. -/
def nodes (f : Forest) : List Node := Node.preorderAll f

/-- The iterator over every node: the roots on the stack, the first one on top. -/
def iter (f : Forest) : Iter := ⟨f.reverse.toArray⟩

/-- The number of nodes the iterator yields. -/
def nodeCount (f : Forest) : Nat := f.iter.toList.length

/-- The values of the nodes, in the order the iterator yields them. -/
def values (f : Forest) : List String := f.iter.toList.map (·.value)

/-- The first node the iterator yields with the value `v`. -/
def find? (f : Forest) (v : String) : Option Node := f.iter.toList.find? (·.value == v)

/-- Every node with the value `v`, in the order the iterator yields them. -/
def findAll (f : Forest) (v : String) : List Node := f.iter.toList.filter (·.value == v)

/-- The values of the leaves, in the order the iterator yields them. -/
def leafValues (f : Forest) : List String := (f.iter.toList.filter Node.isLeaf).map (·.value)

/-- The outline: every title on its own line, two spaces per level, from a stack that holds
the roots at depth zero, the first one on top. -/
def render (f : Forest) : String := outline "" (f.reverse.map (·, 0)).toArray

/-- The forest as a JSON array of nodes. -/
def toJson (f : Forest) : Json.Value := .array (Node.toJsonAll f)

end Forest

end PathHierarchy
