import PathHierarchy.Forest.Delimiter
import PathHierarchy.Forest.Entry
import PathHierarchy.Forest.Node
import PathHierarchy.Forest.Arena
import PathHierarchy.Forest.Sorting

/-!
# Building a forest from entries

Each entry's trimmed path is split into segments `s1, …, sk`, on the builder's delimiter or
else on the one the path itself suggests. The entry then walks the chain of values
`s1`, `s1 d s2`, …, `s1 d … d sk` down from the roots: at each level it reuses the sibling
with that value, or appends a new node titled by the segment. A label titles the last node of
the chain, whether new or not, so the last label wins.

An entry without a usable path is skipped. So is a path with no segments, except that a raw
one may be kept, under `EmptyPathPolicy.degenerateRoot`, as a root whose value and title are
the whole trimmed path.

`Builder.build` folds the entries in order into an `Arena`, reads the nested forest out of it,
marking every node selectable if asked, and under `OrderingPolicy.sorted` sorts the roots and
every list of children by value.
-/

set_option autoImplicit false

namespace PathHierarchy.Forest

/-- How siblings are ordered. -/
inductive OrderingPolicy where
  | insertionOrder
  | sorted
  deriving Repr, DecidableEq, Inhabited

/-- What becomes of a raw path made only of delimiters. -/
inductive EmptyPathPolicy where
  | skip
  | degenerateRoot
  deriving Repr, DecidableEq, Inhabited

/-- The debugging name of an ordering, as logs show it. -/
def OrderingPolicy.debug : OrderingPolicy → String
  | .insertionOrder => "InsertionOrder"
  | .sorted => "Sorted"

/-- How a forest is built from entries. -/
structure Builder where
  /-- One delimiter for every path, or `none` to detect it per path. -/
  delimiter : Option Delimiter := none
  ordering : OrderingPolicy := .insertionOrder
  emptyPaths : EmptyPathPolicy := .skip
  selectable : Bool := false
  deriving Inhabited

/-- The values of the chain of a path's segments, each with its own segment:
`[(s1, s1), (s1 d s2, s2), …]`. -/
def chainOf (d : Char) (segments : List String) : List (String × String) :=
  go "" true segments
where
  /-- The chain below the value `above`; `top` says there is no node above. -/
  go (above : String) (top : Bool) : List String → List (String × String)
    | [] => []
    | s :: rest =>
      let value := if top then s else above ++ d.toString ++ s
      (value, s) :: go value false rest

/-- What an entry does to the forest. -/
inductive Placement where
  /-- No usable path: skipped. -/
  | unusable
  /-- A path without segments: skipped. -/
  | noSegments (path : String)
  /-- A raw path without segments, kept as a root of its own. -/
  | degenerate (path : String)
  /-- A chain of values to walk, and the label of its last node. -/
  | chain (steps : List (String × String)) (label : Option String)

namespace Builder

/-- The delimiter used for a path. -/
def delimiterFor (b : Builder) (path : String) : Delimiter :=
  b.delimiter.getD (Delimiter.detect path)

/-- Where an entry goes. -/
def place (b : Builder) (e : Entry) : Placement :=
  match e.path? with
  | none => .unusable
  | some path =>
    let d := b.delimiterFor path
    match d.segments path with
    | [] =>
      if e.isRaw && b.emptyPaths == .degenerateRoot then .degenerate path else .noSegments path
    | segments => .chain (chainOf d.toChar segments) e.label?

/-- Put one entry into the arena. -/
def insert (b : Builder) (a : Arena) (e : Entry) : Arena :=
  match b.place e with
  | .chain steps label => a.insertChain label steps none
  | .degenerate path => (a.getOrInsert none path path).2
  | _ => a

/-- Whether an entry is used: what putting it into the arena answers. -/
def accepts (b : Builder) (e : Entry) : Bool :=
  match b.place e with
  | .chain _ _ | .degenerate _ => true
  | _ => false

/-- Sort a built forest as the builder asks: under `OrderingPolicy.sorted`, the roots by value,
stably, and then the children below each root, in place, by the sorting loop. -/
def arrange (b : Builder) (forest : Forest) : Forest :=
  if b.ordering = .sorted then (forest.mergeSort Node.valueLE).map Node.sortChildren else forest

/-- The forest of a list of entries. -/
def build (b : Builder) (entries : List Entry) : Forest :=
  b.arrange ((entries.foldl b.insert ∅).intoRoots b.selectable)

end Builder

/-- What the builder reports while it works. -/
inductive BuildNote where
  /-- An entry without a usable path was skipped. -/
  | unusable (e : Entry)
  /-- A node was created. -/
  | created (value : String)
  /-- A path without segments was skipped. -/
  | noSegments (path : String)
  /-- The forest is built. -/
  | built (accepted skipped roots : Nat) (ordering : OrderingPolicy)

/-- What the build loop carries from one entry to the next: the arena, the notes so far, and
how many entries were accepted and how many skipped. -/
structure Tally where
  arena : Arena
  notes : List BuildNote
  accepted : Nat
  skipped : Nat

instance : EmptyCollection Tally := ⟨⟨∅, [], 0, 0⟩⟩

namespace Builder

/-- The notes of one entry put into the arena. -/
def notesOf (b : Builder) (a : Arena) (e : Entry) : List BuildNote :=
  match b.place e with
  | .unusable => [.unusable e]
  | .noSegments path => [.noSegments path]
  | .degenerate path => (a.missingValues [(path, path)] none).map .created
  | .chain steps _ => (a.missingValues steps none).map .created

/-- One turn of the build loop: the entry goes into the arena, its notes are added, and it is
counted as accepted or skipped by what the arena answered. -/
def tally (b : Builder) (t : Tally) (e : Entry) : Tally :=
  let t := { t with arena := b.insert t.arena e, notes := t.notes ++ b.notesOf t.arena e }
  if b.accepts e then { t with accepted := t.accepted + 1 } else { t with skipped := t.skipped + 1 }

/-- The notes of a whole build, in the order they arise, ending with the counts of accepted and
skipped entries and of the roots built. -/
def notes (b : Builder) (entries : List Entry) : List BuildNote :=
  let t := entries.foldl b.tally ∅
  t.notes ++ [.built t.accepted t.skipped (b.arrange (t.arena.intoRoots b.selectable)).length
    b.ordering]

end Builder

end PathHierarchy.Forest
