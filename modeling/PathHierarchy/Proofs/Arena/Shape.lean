import PathHierarchy.Forest.Arena

/-!
# The shape of an arena

An arena stands for a forest: its roots are the nodes of the slots in `roots.order`, and below
the node of a slot are the nodes of its children's slots, in order. `Arena.tree` reads that
node out of the slots, one level per step down, and `Arena.WF` is what makes the slots a forest
rather than a graph: children come after their parents, no slot is listed twice or under two
parents, and every index finds exactly the children by value.

Under `WF` the subtrees of two siblings share no slot (`Reach.disjoint`), so a change inside
one subtree leaves the node of every other sibling as it was (`tree_congr`).
-/

set_option autoImplicit false

namespace PathHierarchy.Forest.Arena

variable {a a' : Arena}

/-- The slot numbered `i`, or an empty one past the end. -/
def slot (a : Arena) (i : Nat) : Slot := a.slots[i]?.getD ⟨"", "", ∅⟩

/-- The slots of the children of `parent`, or of the roots for `none`, in order. -/
def kids (a : Arena) (parent : Option Nat) : List Nat := (a.siblings parent).order

theorem siblings_some (a : Arena) (p : Nat) : a.siblings (some p) = (a.slot p).children := by
  show (a.slots[p]?.map (·.children)).getD ∅ = (a.slots[p]?.getD _).children
  cases a.slots[p]? <;> rfl

theorem kids_some (a : Arena) (p : Nat) : a.kids (some p) = (a.slot p).children.order := by
  rw [kids, siblings_some]

theorem slot_of_size_le {i : Nat} (h : a.slots.size ≤ i) : a.slot i = ⟨"", "", ∅⟩ := by
  simp [slot, h]

theorem kids_some_of_size_le {i : Nat} (h : a.slots.size ≤ i) : a.kids (some i) = [] := by
  rw [kids_some, slot_of_size_le h]
  rfl

/-- What makes the slots of an arena a forest. -/
structure WF (a : Arena) : Prop where
  kid_lt : ∀ {p c}, c ∈ a.kids p → c < a.slots.size
  parent_lt : ∀ {q c}, c ∈ a.kids (some q) → q < c
  nodup : ∀ p, (a.kids p).Nodup
  parent_unique : ∀ {p p' c}, c ∈ a.kids p → c ∈ a.kids p' → p = p'
  index : ∀ p v c, (a.siblings p).index[v]? = some c ↔ c ∈ a.kids p ∧ (a.slot c).path = v

theorem WF.eq_of_path (hw : a.WF) {p : Option Nat} {c c' : Nat} (hc : c ∈ a.kids p)
    (hc' : c' ∈ a.kids p) (h : (a.slot c).path = (a.slot c').path) : c = c' := by
  have h1 := (hw.index p _ c).2 ⟨hc, rfl⟩
  have h2 := (hw.index p _ c').2 ⟨hc', h.symm⟩
  rw [h1] at h2
  exact Option.some.inj h2

theorem WF.index_none (hw : a.WF) {p : Option Nat} {v : String}
    (h : (a.siblings p).index[v]? = none) : ∀ c ∈ a.kids p, (a.slot c).path ≠ v := by
  intro c hc hv
  have := (hw.index p v c).2 ⟨hc, hv⟩
  rw [h] at this
  cases this

/-- Slot `j` is slot `i` or lies below it. -/
inductive Reach (a : Arena) (i : Nat) : Nat → Prop
  | refl : Reach a i i
  | child {j c : Nat} : Reach a i j → c ∈ a.kids (some j) → Reach a i c

namespace Reach

theorem of_kid {i c : Nat} (hc : c ∈ a.kids (some i)) : a.Reach i c := Reach.refl.child hc

theorem trans {i j k : Nat} (h1 : a.Reach i j) (h2 : a.Reach j k) : a.Reach i k := by
  induction h2 with
  | refl => exact h1
  | child _ hc ih => exact ih.child hc

theorem le (hw : a.WF) {i j : Nat} (h : a.Reach i j) : i ≤ j := by
  induction h with
  | refl => exact Nat.le_refl i
  | child _ hc ih => exact Nat.le_trans ih (Nat.le_of_lt (hw.parent_lt hc))

theorem lt_size (hw : a.WF) {i j : Nat} (hi : i < a.slots.size) (h : a.Reach i j) :
    j < a.slots.size := by
  cases h with
  | refl => exact hi
  | child _ hc => exact hw.kid_lt hc

theorem eq_or_parent {i j : Nat} (h : a.Reach i j) :
    i = j ∨ ∃ m, a.Reach i m ∧ j ∈ a.kids (some m) := by
  cases h with
  | refl => exact .inl rfl
  | child hm hc => exact .inr ⟨_, hm, hc⟩

theorem total (hw : a.WF) {x y j : Nat} (hx : a.Reach x j) (hy : a.Reach y j) :
    a.Reach x y ∨ a.Reach y x := by
  induction hx generalizing y with
  | refl => exact .inr hy
  | child hm hc ih =>
    rcases hy.eq_or_parent with rfl | ⟨m', hym', hc'⟩
    · exact .inl (hm.child hc)
    · have hmm : _ = _ := Option.some.inj (hw.parent_unique hc hc')
      subst hmm
      exact ih hym'

/-- The subtrees of two different siblings share no slot. -/
theorem disjoint (hw : a.WF) {p : Option Nat} {k c j : Nat} (hk : k ∈ a.kids p)
    (hc : c ∈ a.kids p) (hne : k ≠ c) (h1 : a.Reach k j) (h2 : a.Reach c j) : False := by
  have below : ∀ {x y}, x ∈ a.kids p → y ∈ a.kids p → x ≠ y → ¬ a.Reach x y := by
    intro x y hx hy hxy hr
    rcases hr.eq_or_parent with rfl | ⟨m, hxm, hym⟩
    · exact hxy rfl
    · have hp := hw.parent_unique hy hym
      subst hp
      exact absurd (hxm.le hw) (Nat.not_le.2 (hw.parent_lt hx))
  rcases total hw h1 h2 with h | h
  · exact below hk hc hne h
  · exact below hc hk (Ne.symm hne) h

theorem of_kids_eq (hk : ∀ j, a'.kids (some j) = a.kids (some j)) {i j : Nat}
    (h : a.Reach i j) : a'.Reach i j := by
  induction h with
  | refl => exact .refl
  | child _ hc ih => exact ih.child (by rw [hk]; exact hc)

end Reach

/-- The nested node of slot `i`, read at most `fuel` levels down. -/
def treeAt (a : Arena) : Nat → Nat → Node
  | 0, i => ⟨(a.slot i).path, (a.slot i).title, [], false⟩
  | fuel + 1, i => ⟨(a.slot i).path, (a.slot i).title, (a.kids (some i)).map (a.treeAt fuel), false⟩

/-- The nested node of slot `i`. Each level down goes to a higher slot, so reading as many
levels as there are slots reads it all. -/
def tree (a : Arena) (i : Nat) : Node := a.treeAt a.slots.size i

/-- The nested nodes under `parent`, or the roots for `none`. -/
def view (a : Arena) (parent : Option Nat) : Forest := (a.kids parent).map a.tree

theorem treeAt_value (a : Arena) (fuel i : Nat) : (a.treeAt fuel i).value = (a.slot i).path := by
  cases fuel <;> rfl

@[simp] theorem tree_value (a : Arena) (i : Nat) : (a.tree i).value = (a.slot i).path :=
  treeAt_value a _ i

theorem treeAt_fuel (hw : a.WF) :
    ∀ (f g i : Nat), a.slots.size - i ≤ f → a.slots.size - i ≤ g → a.treeAt f i = a.treeAt g i
  | 0, 0, _, _, _ => rfl
  | 0, _ + 1, i, hf, _ => by
    rw [treeAt, treeAt, kids_some_of_size_le (by omega)]
    rfl
  | _ + 1, 0, i, _, hg => by
    rw [treeAt, treeAt, kids_some_of_size_le (by omega)]
    rfl
  | f + 1, g + 1, i, hf, hg => by
    simp only [treeAt, Node.mk.injEq, true_and, and_true]
    apply List.map_congr_left
    intro c hc
    have hic := hw.parent_lt hc
    exact treeAt_fuel hw f g c (by omega) (by omega)

theorem tree_eq (hw : a.WF) (i : Nat) :
    a.tree i = ⟨(a.slot i).path, (a.slot i).title, a.view (some i), false⟩ := by
  unfold tree view
  cases h : a.slots.size with
  | zero =>
    rw [treeAt, kids_some_of_size_le (by omega)]
    rfl
  | succ n =>
    simp only [treeAt, Node.mk.injEq, true_and, and_true]
    apply List.map_congr_left
    intro c hc
    have hic := hw.parent_lt hc
    rw [tree, h]
    exact treeAt_fuel hw n (n + 1) c (by omega) (by omega)

theorem view_some (hw : a.WF) (i : Nat) : a.view (some i) = (a.tree i).children := by
  rw [tree_eq hw i]

/-- Two arenas agree on slot `j` as far as nodes can tell: value, title and children. -/
def Agree (a a' : Arena) (j : Nat) : Prop :=
  (a'.slot j).path = (a.slot j).path ∧ (a'.slot j).title = (a.slot j).title ∧
    a'.kids (some j) = a.kids (some j)

/-- The node of a slot is read from the slots it reaches alone. -/
theorem tree_congr (hw : a.WF) (hw' : a'.WF) {i : Nat} (same : ∀ j, a.Reach i j → Agree a a' j) :
    a'.tree i = a.tree i := by
  obtain ⟨hpath, htitle, hkids⟩ := same i .refl
  rw [tree_eq hw', tree_eq hw, hpath, htitle, view, view, hkids]
  congr 1
  apply List.map_congr_left
  intro c hc
  have hic := hw.parent_lt hc
  have hcn := hw.kid_lt hc
  exact tree_congr hw hw' fun j hj => same j ((Reach.of_kid hc).trans hj)
termination_by a.slots.size - i
decreasing_by omega

end PathHierarchy.Forest.Arena
