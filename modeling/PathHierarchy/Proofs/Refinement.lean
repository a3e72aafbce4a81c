import PathHierarchy.Proofs.Arena.Walk
import PathHierarchy.Proofs.Arena.IntoRoots

/-!
# The arena build is the nested fold

Folding entries into an arena and reading the forest out of it gives what folding them into a
nested list gives. Each entry's walk through the arena does to the roots' nodes what the nested
walk does (`view_insertChain`), the arena stays a forest all along, and the reverse pass reads
that forest out (`intoRoots_eq`). So `Builder.build` is the nested fold, marked and sorted.
-/

set_option autoImplicit false

namespace PathHierarchy.Forest

namespace Arena

theorem siblings_empty (p : Option Nat) : (∅ : Arena).siblings p = ∅ := by
  cases p <;> rfl

theorem kids_empty (p : Option Nat) : (∅ : Arena).kids p = [] := by
  rw [kids, siblings_empty]
  rfl

theorem WF.empty : (∅ : Arena).WF where
  kid_lt h := by simp [kids_empty] at h
  parent_lt h := by simp [kids_empty] at h
  nodup p := by simp [kids_empty]
  parent_unique h := by simp [kids_empty] at h
  index p v c := by
    rw [siblings_empty, kids_empty]
    simp [EmptyCollection.emptyCollection]

theorem view_empty : (∅ : Arena).view none = [] := by
  rw [view, kids_empty]
  rfl

end Arena

namespace Builder

open Arena

variable (b : Builder)

theorem insert_degenerate (a : Arena) (path : String) :
    (a.getOrInsert none path path).2 = a.insertChain none [(path, path)] none := rfl

theorem insertNested_degenerate (forest : Forest) (path : String) :
    Nested.reviseOrAdd path (Node.leaf path path) id forest =
      Nested.insertChain none [(path, path)] forest := by
  rw [Nested.insertChain]
  congr
  funext n
  cases n
  simp [Nested.insertChain]

theorem insert_view {a : Arena} (hw : a.WF) (e : Entry) :
    (b.insert a e).WF ∧ (b.insert a e).view none = b.insertNested (a.view none) e := by
  have hnone : ∀ q ∈ (none : Option Nat), q < a.slots.size := fun _ h => by cases h
  rcases h : b.place e with _ | path | path | ⟨steps, label⟩
  · simp only [insert, insertNested, h, and_true]
    exact hw
  · simp only [insert, insertNested, h, and_true]
    exact hw
  · simp only [insert, insertNested, h]
    rw [insert_degenerate, insertNested_degenerate]
    exact ⟨(insertChain_keeps none _ none a hw hnone).1, view_insertChain none _ none a hw hnone⟩
  · simp only [insert, insertNested, h]
    exact ⟨(insertChain_keeps label steps none a hw hnone).1,
      view_insertChain label steps none a hw hnone⟩

theorem foldl_insert_view (entries : List Entry) :
    ∀ (a : Arena), a.WF → (entries.foldl b.insert a).WF ∧
      (entries.foldl b.insert a).view none = entries.foldl b.insertNested (a.view none) := by
  induction entries with
  | nil => exact fun a hw => ⟨hw, rfl⟩
  | cons e es ih =>
    intro a hw
    obtain ⟨hw', hview⟩ := b.insert_view hw e
    rw [List.foldl_cons, List.foldl_cons, ← hview]
    exact ih _ hw'

theorem intoRoots_foldl_insert (entries : List Entry) :
    (entries.foldl b.insert ∅).intoRoots b.selectable = b.mark (b.foldNested entries) := by
  obtain ⟨hw, hview⟩ := b.foldl_insert_view entries ∅ WF.empty
  rw [intoRoots_eq_mark hw, hview, view_empty, mark, foldNested]

/-- Building a forest through the arena gives the nested fold of the entries in input order,
marked selectable and sorted as the builder asks. -/
theorem build_eq_nested_fold (entries : List Entry) :
    b.build entries = b.arrange (b.mark (entries.foldl b.insertNested [])) := by
  rw [build, intoRoots_foldl_insert, foldNested]

end Builder

end PathHierarchy.Forest
