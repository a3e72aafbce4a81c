import PathHierarchy.Forest.Node
import Std.Data.HashMap

/-!
# The arena a forest is built in

While entries are folded in, nodes live in one flat array of slots and refer to their children
by slot number, so neither building nor tearing down recurses with the depth of a path. Each
parent keeps the slots of its children in the order they were made, and an index from their
values to their slots, so finding a child is one lookup.

A child is always made after its parent and so has a higher slot number. `Arena.intoRoots`
relies on that: it builds the nested nodes in one pass from the last slot down, so the
children of a slot are ready, and are moved out of their places, when the slot is built.
-/

set_option autoImplicit false

namespace PathHierarchy.Forest

/-- The children of one parent, by slot: in the order they were made, and by value. -/
structure Children where
  order : List Nat
  index : Std.HashMap String Nat

instance : EmptyCollection Children := ⟨⟨[], ∅⟩⟩

/-- A node while the forest is being built. -/
structure Slot where
  path : String
  title : String
  children : Children

/-- The nodes made so far, and which of them are roots. -/
structure Arena where
  slots : Array Slot
  roots : Children

instance : EmptyCollection Arena := ⟨⟨#[], ∅⟩⟩

namespace Arena

/-- The children of `parent`, or the roots for `none`. -/
def siblings (a : Arena) : Option Nat → Children
  | some p => (a.slots[p]?.map (·.children)).getD ∅
  | none => a.roots

/-- Change the children of `parent`, or the roots for `none`. -/
def modifySiblings (a : Arena) (f : Children → Children) : Option Nat → Arena
  | some p => { a with slots := a.slots.modify p fun s => { s with children := f s.children } }
  | none => { a with roots := f a.roots }

/-- The slot of the node valued `path` under `parent`, made with the title `segment` when it
is missing. -/
def getOrInsert (a : Arena) (parent : Option Nat) (path segment : String) : Nat × Arena :=
  match (a.siblings parent).index[path]? with
  | some idx => (idx, a)
  | none =>
    let idx := a.slots.size
    let a := { a with slots := a.slots.push ⟨path, segment, ∅⟩ }
    (idx, a.modifySiblings (fun c => ⟨c.order ++ [idx], c.index.insert path idx⟩) parent)

/-- Retitle the node in slot `idx`. -/
def setTitle (a : Arena) (idx : Nat) (title : String) : Arena :=
  { a with slots := a.slots.modify idx fun s => { s with title := title } }

/-- Walk a chain of values down from `parent`, reusing or making a node at each level; the
label, if any, titles the last one. -/
def insertChain (label : Option String) : List (String × String) → Option Nat → Arena → Arena
  | [], _, a => a
  | (v, segment) :: rest, parent, a =>
    let (idx, a) := a.getOrInsert parent v segment
    let a := match rest, label with
      | [], some l => a.setTitle idx l
      | _, _ => a
    insertChain label rest (some idx) a

/-- The values along a chain from `parent` that the arena does not have yet: all of them from
the first one missing. -/
def missingValues (a : Arena) : List (String × String) → Option Nat → List String
  | [], _ => []
  | (v, _) :: rest, parent =>
    match (a.siblings parent).index[v]? with
    | some idx => a.missingValues rest (some idx)
    | none => v :: rest.map (·.1)

/-- Move out the node built at `i`, leaving its place empty. -/
def take (built : Array (Option Node)) (i : Nat) : Option Node × Array (Option Node) :=
  (built[i]?.getD none, built.set! i none)

/-- Move out the nodes built at `order`, in that order, skipping empty places. -/
def takeAll (built : Array (Option Node)) : List Nat → List Node × Array (Option Node)
  | [] => ([], built)
  | i :: rest =>
    let (first, built) := take built i
    let (others, built) := takeAll built rest
    (first.toList ++ others, built)

/-- The nodes of the slots numbered `i` on, each built from its slot and its children's nodes,
which are moved out of their places. The later slots are built first. -/
def buildFrom (selectable : Bool) (size : Nat) : List Slot → Nat → Array (Option Node)
  | [], _ => Array.replicate size none
  | slot :: rest, i =>
    let (children, built) := takeAll (buildFrom selectable size rest (i + 1)) slot.children.order
    built.set! i (some ⟨slot.path, slot.title, children, selectable⟩)

/-- The forest the arena holds, every node marked selectable if asked. -/
def intoRoots (a : Arena) (selectable : Bool) : Forest :=
  (takeAll (buildFrom selectable a.slots.size a.slots.toList 0) a.roots.order).1

end Arena

end PathHierarchy.Forest
