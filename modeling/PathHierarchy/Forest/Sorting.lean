import PathHierarchy.Forest.Node

/-!
# Sorting children with a stack

`Node.sortDeep` sorts the children of a node by value at every level, by recursion. Sorting a
node in place does the same with a stack of the nodes still to sort (`Node.sortChildren`): each
round pops a node, sorts its children, and pushes them, the last child on top, so that the
rounds after it sort below each child in turn. The builder sorts the roots of a forest by value
and then sorts below each root this way (`Builder.arrange`).

The stack holds references into the node being sorted. A reference is an address, the positions
of the children on the way down (`Node.get?`), and a change through it replaces the node there
(`Node.modifyAt`). A reference pushed names a child of a node already sorted, and no node above
it is sorted again, so an address names the same node for as long as it is on the stack.
-/

set_option autoImplicit false

namespace PathHierarchy.Forest

namespace Node

/-- The node at an address: the positions of the children on the way down. -/
def get? : Node → List Nat → Option Node
  | n, [] => some n
  | n, i :: α => n.children[i]?.bind fun c => c.get? α

/-- Change the node at an address; an address that leads to no node changes nothing. -/
def modifyAt : Node → (Node → Node) → List Nat → Node
  | n, f, [] => f n
  | n, f, i :: α => { n with children := n.children.modify i fun c => c.modifyAt f α }

/-- Sort a node's own children by value, stably, leaving those below them as they are. -/
def sortOwnChildren (n : Node) : Node := { n with children := n.children.mergeSort valueLE }

end Node

/-- The sorting loop's state: the node being sorted, and the addresses of the nodes still to
sort, the top of the stack first. -/
structure SortStack where
  root : Node
  pending : List (List Nat)

namespace SortStack

/-- One round: pop the address on top, sort the children of the node there, and push the
addresses of those children in order, so that the last one is on top. Nothing once the stack is
empty; otherwise the address popped and the state after the round. -/
def next : SortStack → Option (List Nat × SortStack)
  | ⟨_, []⟩ => none
  | ⟨root, α :: rest⟩ =>
    let root := root.modifyAt Node.sortOwnChildren α
    let count := ((root.get? α).map (·.children.length)).getD 0
    some (α, ⟨root, (List.range count).reverse.map (α ++ [·]) ++ rest⟩)

/-- At most `rounds` rounds of the loop, fewer if the stack empties first. -/
def run : Nat → SortStack → SortStack
  | 0, s => s
  | rounds + 1, s =>
    match s.next with
    | none => s
    | some (_, s') => s'.run rounds

end SortStack

namespace Node

/-- Sort the children by value at every level below a node, in place: the loop starts with the
node alone on the stack, and since it sorts one node a round, it is given one round per node. -/
def sortChildren (n : Node) : Node := (SortStack.run n.preorder.length ⟨n, [[]]⟩).root

end Node

end PathHierarchy.Forest
