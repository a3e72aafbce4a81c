import PathHierarchy.Forest.Build

/-!
# The nested fold

The forest a builder makes, described without the arena: each entry walks its chain of values
down a nested list of nodes, looks each value up among the siblings it has reached, appends a
new node at the end of them when the value is missing, and descends. A label retitles the last
node of the chain; a raw path without segments, kept as a degenerate root, is looked up or
appended among the roots. The fold is then marked selectable and sorted as `Builder.build`
does.

`Builder.build` runs the same algorithm on an arena of slots. This is the reference it is
proved equal to, and the form on which the laws about built forests are proved.
-/

set_option autoImplicit false

namespace PathHierarchy.Forest

namespace Nested

/-- Apply `f` to the first node valued `v`, or append `f fresh` when there is none. -/
def reviseOrAdd (v : String) (fresh : Node) (f : Node → Node) : List Node → List Node
  | [] => [f fresh]
  | n :: ns => if n.value = v then f n :: ns else n :: reviseOrAdd v fresh f ns

/-- Walk a chain down a forest, reusing or appending a node at each level; the label, if any,
titles the last node. -/
def insertChain (label : Option String) : List (String × String) → Forest → Forest
  | [], forest => forest
  | (v, segment) :: rest, forest =>
    reviseOrAdd v (Node.leaf v segment)
      (fun n => { n with
        children := insertChain label rest n.children
        title := if rest.isEmpty then label.getD n.title else n.title })
      forest

theorem reviseOrAdd_of_split (v : String) (fresh : Node) (f : Node → Node)
    (pre post : List Node) (x : Node) (hpre : ∀ y ∈ pre, y.value ≠ v) (hx : x.value = v) :
    reviseOrAdd v fresh f (pre ++ x :: post) = pre ++ f x :: post := by
  induction pre with
  | nil => simp [reviseOrAdd, hx]
  | cons y ys ih =>
    have hy : y.value ≠ v := hpre y (by simp)
    simp only [List.cons_append, reviseOrAdd, hy, if_false]
    rw [ih fun z hz => hpre z (by simp [hz])]

theorem reviseOrAdd_of_forall_ne (v : String) (fresh : Node) (f : Node → Node)
    (l : List Node) (hl : ∀ y ∈ l, y.value ≠ v) :
    reviseOrAdd v fresh f l = l ++ [f fresh] := by
  induction l with
  | nil => rfl
  | cons y ys ih =>
    have hy : y.value ≠ v := hl y (by simp)
    simp only [reviseOrAdd, hy, if_false, List.cons_append]
    rw [ih fun z hz => hl z (by simp [hz])]

end Nested

namespace Builder

/-- Put one entry into a nested forest. -/
def insertNested (b : Builder) (forest : Forest) (e : Entry) : Forest :=
  match b.place e with
  | .chain steps label => Nested.insertChain label steps forest
  | .degenerate path => Nested.reviseOrAdd path (Node.leaf path path) id forest
  | _ => forest

/-- The nested forest of a list of entries, folded in order, before marking and sorting. -/
def foldNested (b : Builder) (entries : List Entry) : Forest :=
  entries.foldl b.insertNested []

/-- Mark every node of a forest selectable when the builder asks for it. -/
def mark (b : Builder) (forest : Forest) : Forest :=
  if b.selectable then Node.markSelectableAll forest else forest

/-- The reference build: the nested fold, marked and sorted as the builder asks. -/
def buildNested (b : Builder) (entries : List Entry) : Forest :=
  b.arrange (b.mark (b.foldNested entries))

end Builder

end PathHierarchy.Forest
