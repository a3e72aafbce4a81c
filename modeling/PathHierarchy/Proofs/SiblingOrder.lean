import PathHierarchy.Proofs.Titles

/-!
# The order of siblings

`siblingsAt` lists the siblings below an address: the roots below `[]`, and below any other
address the children of the node found there. Walking a chain puts, at each address along it,
the chain's next value at the end of the siblings there, unless one of them has it already
(`values_siblingsAt_insertChain_of_prefix`), and leaves every other list of siblings as it was
(`siblingsAt_insertChain_of_not_prefix`).

So in insertion order a node is made by the first entry whose chain passes through it, at the
end of its siblings, and no later entry moves it: every list of siblings is ordered by the
position of that first entry (`Builder.build_sibling_order`). A sorted build is the
insertion-order build with every list of siblings sorted by value, and each such list strictly
increases.
-/

set_option autoImplicit false

namespace PathHierarchy.Forest

namespace Node

/-- The siblings below an address: the roots below `[]`, else the children of the node the
address finds, and none where it finds nothing. -/
def siblingsAt : List Node → List String → List Node
  | l, [] => l
  | l, v :: α =>
    match l.find? (·.value == v) with
    | some n => siblingsAt n.children α
    | none => []

/-- A value put at the end of a list of values, unless the list has it already. -/
def appendNew (v : String) (vs : List String) : List String :=
  if v ∈ vs then vs else vs ++ [v]

@[simp] theorem siblingsAt_nil (l : List Node) : siblingsAt l [] = l := by
  rw [siblingsAt]

@[simp] theorem siblingsAt_empty (α : List String) : siblingsAt [] α = [] := by
  cases α with
  | nil => rfl
  | cons v α => rfl

theorem siblingsAt_cons_of_find? {l : List Node} {v : String} {n : Node}
    (h : l.find? (·.value == v) = some n) (α : List String) :
    siblingsAt l (v :: α) = siblingsAt n.children α := by
  rw [siblingsAt, h]

theorem siblingsAt_cons_getD (l : List Node) (v : String) (fresh : Node)
    (hfresh : fresh.children = []) (α : List String) :
    siblingsAt l (v :: α) = siblingsAt ((l.find? (·.value == v)).getD fresh).children α := by
  cases h : l.find? (·.value == v) with
  | none => rw [siblingsAt, h, Option.getD_none, hfresh, siblingsAt_empty]
  | some n => rw [siblingsAt_cons_of_find? h, Option.getD_some]

theorem siblingsAt_of_lookup? :
    ∀ {l : List Node} {α : List String} {n : Node}, lookup? l α = some n →
      siblingsAt l α = n.children
  | _, [], _, h => by simp at h
  | l, v :: α, n, h => by
    rw [lookup?_cons] at h
    obtain ⟨m, hm, hn⟩ := Option.bind_eq_some_iff.1 h
    rw [siblingsAt_cons_of_find? hm]
    by_cases hα : α = []
    · rw [if_pos hα] at hn
      rw [hα, siblingsAt_nil, Option.some.inj hn]
    · rw [if_neg hα] at hn
      exact siblingsAt_of_lookup? hn

theorem mem_appendNew {v w : String} {vs : List String} : w ∈ appendNew v vs ↔ w ∈ vs ∨ w = v := by
  unfold appendNew
  split
  · next hv =>
    constructor
    · exact .inl
    · rintro (hw | rfl)
      · exact hw
      · exact hv
  · simp

theorem values_reviseOrAdd {v : String} {fresh : Node} {g : Node → Node} (hfresh : fresh.value = v)
    (hg : ∀ n, (g n).value = n.value) (l : List Node) :
    (Nested.reviseOrAdd v fresh g l).map (·.value) = appendNew v (l.map (·.value)) := by
  rcases Nested.reviseOrAdd_cases v fresh g l with ⟨pre, x, post, rfl, -, hx, h⟩ | ⟨hall, h⟩
  · have hmem : v ∈ (pre ++ x :: post).map (·.value) := List.mem_map.2 ⟨x, by simp, hx⟩
    rw [h, appendNew, if_pos hmem]
    simp [hg]
  · have hmem : v ∉ l.map (·.value) := fun hv => by
      obtain ⟨y, hy, hyv⟩ := List.mem_map.1 hv
      exact hall y hy hyv
    rw [h, appendNew, if_neg hmem, List.map_append, List.map_singleton, hg, hfresh]

theorem siblingsAt_reviseOrAdd {v : String} {fresh : Node} {g : Node → Node}
    (hfresh : fresh.value = v) (hg : ∀ n, (g n).value = n.value) (l : List Node) (u : String)
    (α : List String) :
    siblingsAt (Nested.reviseOrAdd v fresh g l) (u :: α) =
      if v = u then siblingsAt (g ((l.find? (·.value == v)).getD fresh)).children α
      else siblingsAt l (u :: α) := by
  have hfind := Nested.find?_reviseOrAdd hfresh hg l u
  by_cases hvu : v = u
  · rw [if_pos hvu] at hfind
    rw [siblingsAt_cons_of_find? hfind, if_pos hvu]
  · rw [if_neg hvu] at hfind
    rw [if_neg hvu, siblingsAt, hfind, siblingsAt]

end Node

namespace Nested

open Node

/-- Walking a chain puts its next value at the end of the siblings at each address along it,
unless it is there already. -/
theorem values_siblingsAt_insertChain_of_prefix (label : Option String) :
    ∀ (steps : List (String × String)) (forest : Forest) (β : List String) (v : String),
      β ++ [v] <+: steps.map (·.1) →
        (siblingsAt (insertChain label steps forest) β).map (·.value) =
          appendNew v ((siblingsAt forest β).map (·.value))
  | [], _, β, v, h => by simpa using h.length_le
  | (v₀, s₀) :: rest, forest, [], v, h => by
    obtain rfl : v = v₀ := by simpa using (List.cons_prefix_cons.1 h).1
    rw [insertChain_cons, siblingsAt_nil, siblingsAt_nil]
    exact values_reviseOrAdd (show (Node.leaf v s₀).value = v from rfl) (descend_value label rest)
      forest
  | (v₀, s₀) :: rest, forest, u :: β, v, h => by
    rw [List.cons_append, List.map_cons, List.cons_prefix_cons] at h
    obtain ⟨rfl, hrest⟩ := h
    rw [insertChain_cons,
      siblingsAt_reviseOrAdd (show (Node.leaf u s₀).value = u from rfl) (descend_value label rest),
      if_pos rfl, descend_children, values_siblingsAt_insertChain_of_prefix label rest _ β v hrest,
      siblingsAt_cons_getD forest u (Node.leaf u s₀) rfl β]

/-- Walking a chain leaves the siblings alone below an address that the chain does not go on
from. -/
theorem siblingsAt_insertChain_of_not_prefix (label : Option String) :
    ∀ (steps : List (String × String)) (forest : Forest) (β : List String),
      (∀ v, ¬ β ++ [v] <+: steps.map (·.1)) →
        siblingsAt (insertChain label steps forest) β = siblingsAt forest β
  | [], forest, β, _ => by rw [insertChain]
  | (v₀, s₀) :: rest, forest, [], h => absurd (by simp) (h v₀)
  | (v₀, s₀) :: rest, forest, u :: β, h => by
    rw [insertChain_cons,
      siblingsAt_reviseOrAdd (show (Node.leaf v₀ s₀).value = v₀ from rfl) (descend_value label rest)]
    split
    · next hvu =>
      subst hvu
      have hrest : ∀ v, ¬ β ++ [v] <+: rest.map (·.1) := fun v hv =>
        h v (by rw [List.cons_append, List.map_cons, List.cons_prefix_cons]; exact ⟨rfl, hv⟩)
      rw [descend_children, siblingsAt_insertChain_of_not_prefix label rest _ β hrest,
        siblingsAt_cons_getD forest v₀ (Node.leaf v₀ s₀) rfl β]
    · rfl

end Nested

namespace Node

theorem siblingsAt_markSelectableAll :
    ∀ (l : List Node) (α : List String),
      siblingsAt (markSelectableAll l) α = markSelectableAll (siblingsAt l α)
  | l, [] => by rw [siblingsAt_nil, siblingsAt_nil]
  | l, v :: α => by
    have hfind : (markSelectableAll l).find? (·.value == v) =
        (l.find? (·.value == v)).map markSelectable := by
      rw [markSelectableAll_eq_map, find?_map_of_value value_markSelectable]
    cases h : l.find? (·.value == v) with
    | none =>
      rw [h, Option.map_none] at hfind
      rw [siblingsAt, hfind, siblingsAt, h, markSelectableAll]
    | some n =>
      rw [h, Option.map_some] at hfind
      rw [siblingsAt_cons_of_find? hfind, siblingsAt_cons_of_find? h, children_markSelectable,
        siblingsAt_markSelectableAll n.children α]

theorem values_markSelectableAll (l : List Node) :
    (markSelectableAll l).map (·.value) = l.map (·.value) := by
  rw [markSelectableAll_eq_map, List.map_map]
  exact List.map_congr_left fun n _ => value_markSelectable n

theorem pairwise_siblingsAt_of_orderedAll :
    ∀ {l : List Node}, OrderedAll l → ∀ α, ((siblingsAt l α).map (·.value)).Pairwise (· < ·)
  | l, h, [] => by
    rw [siblingsAt_nil]
    exact ((orderedAll_iff l).1 h).1
  | l, h, v :: α => by
    cases hn : l.find? (·.value == v) with
    | none =>
      rw [siblingsAt, hn]
      exact List.Pairwise.nil
    | some n =>
      rw [siblingsAt_cons_of_find? hn]
      have hord := ((orderedAll_iff l).1 h).2 n (List.mem_of_find?_eq_some hn)
      exact pairwise_siblingsAt_of_orderedAll ((ordered_iff n).1 hord) α

end Node

namespace Builder

open Node

variable (b : Builder)

/-- The position of the first entry the builder takes whose chain passes through an address;
the number of entries when there is none. -/
def firstThrough (entries : List Entry) (α : List String) : Nat :=
  entries.findIdx fun e => b.accepts e && decide (α <+: b.chain e)

theorem firstThrough_append_of_exists {hs : List Entry} {α : List String} (hne : α ≠ [])
    (h : ∃ e ∈ hs, α <+: b.chain e) (es : List Entry) :
    b.firstThrough (hs ++ es) α = b.firstThrough hs α := by
  have hlt : b.firstThrough hs α < hs.length := by
    obtain ⟨e, he, hpre⟩ := h
    exact List.findIdx_lt_length_of_exists ⟨e, he, by simp [b.accepts_of_prefix hne hpre, hpre]⟩
  unfold firstThrough at hlt ⊢
  rw [List.findIdx_append, if_pos hlt]

theorem firstThrough_append_singleton_of_new {hs : List Entry} {α : List String} {e : Entry}
    (hne : α ≠ []) (hnew : ∀ e' ∈ hs, ¬ α <+: b.chain e') (he : α <+: b.chain e) :
    b.firstThrough (hs ++ [e]) α = hs.length := by
  have hnone : hs.findIdx (fun e => b.accepts e && decide (α <+: b.chain e)) = hs.length :=
    List.findIdx_eq_length_of_false fun e' he' => by simp [hnew e' he']
  unfold firstThrough
  rw [List.findIdx_append, hnone, if_neg (Nat.lt_irrefl _), List.findIdx_singleton,
    if_pos (by simp [b.accepts_of_prefix hne he, he]), Nat.zero_add]

/-- The values below each address of the forest are the next values of the chains of the
entries through it, ordered by the first entry through each. -/
def SiblingsFirst (hs : List Entry) (forest : Forest) : Prop :=
  ∀ β, (∀ v, v ∈ (siblingsAt forest β).map (·.value) ↔ ∃ e ∈ hs, β ++ [v] <+: b.chain e) ∧
    (((siblingsAt forest β).map (·.value)).map fun v => b.firstThrough hs (β ++ [v])).Pairwise
      (· < ·)

theorem eq_of_prefix_chain {β : List String} {v w : String} {e : Entry}
    (hv : β ++ [v] <+: b.chain e) (hw : β ++ [w] <+: b.chain e) : v = w := by
  have heq : β ++ [v] = β ++ [w] :=
    (List.prefix_of_prefix_length_le hv hw (by simp)).eq_of_length (by simp)
  simpa using heq

theorem siblingsFirst_insertNested {hs : List Entry} {forest : Forest}
    (h : b.SiblingsFirst hs forest) (e : Entry) :
    b.SiblingsFirst (hs ++ [e]) (b.insertNested forest e) := by
  intro β
  obtain ⟨hmem, hord⟩ := h β
  have hpass : ∀ v, (∃ e' ∈ hs ++ [e], β ++ [v] <+: b.chain e') ↔
      (∃ e' ∈ hs, β ++ [v] <+: b.chain e') ∨ β ++ [v] <+: b.chain e := by
    intro v
    simp only [List.mem_append, List.mem_singleton]
    constructor
    · rintro ⟨e', he' | rfl, hpre⟩
      · exact .inl ⟨e', he', hpre⟩
      · exact .inr hpre
    · rintro (⟨e', he', hpre⟩ | hpre)
      · exact ⟨e', .inl he', hpre⟩
      · exact ⟨e, .inr rfl, hpre⟩
  have hkeep : ∀ v ∈ (siblingsAt forest β).map (·.value),
      b.firstThrough (hs ++ [e]) (β ++ [v]) = b.firstThrough hs (β ++ [v]) := fun v hv =>
    b.firstThrough_append_of_exists (by simp) ((hmem v).1 hv) [e]
  rw [insertNested_eq_insertChain]
  by_cases hnext : ∃ w, β ++ [w] <+: b.chain e
  ·
    obtain ⟨w, hw⟩ := hnext
    rw [← walk_values] at hw
    rw [Nested.values_siblingsAt_insertChain_of_prefix _ _ _ _ _ hw]
    rw [walk_values] at hw
    refine ⟨fun v => ?_, ?_⟩
    · rw [mem_appendNew, hmem, hpass]
      constructor
      · rintro (h | rfl)
        · exact .inl h
        · exact .inr hw
      · rintro (h | h)
        · exact .inl h
        · exact .inr (b.eq_of_prefix_chain h hw)
    · unfold appendNew
      split
      · rw [List.map_congr_left hkeep]
        exact hord
      · next hwnew =>
        have hfirst : b.firstThrough (hs ++ [e]) (β ++ [w]) = hs.length :=
          b.firstThrough_append_singleton_of_new (by simp)
            (fun e' he' hpre => hwnew ((hmem w).2 ⟨e', he', hpre⟩)) hw
        rw [List.map_append, List.map_congr_left hkeep, List.map_singleton, hfirst,
          List.pairwise_append]
        refine ⟨hord, List.pairwise_singleton _ _, fun a ha c hc => ?_⟩
        obtain ⟨v, hv, rfl⟩ := List.mem_map.1 ha
        rw [List.mem_singleton.1 hc]
        obtain ⟨e', he', hpre⟩ := (hmem v).1 hv
        exact List.findIdx_lt_length_of_exists
          ⟨e', he', by simp [b.accepts_of_prefix (by simp) hpre, hpre]⟩
  ·
    have hnot : ∀ w, ¬ β ++ [w] <+: (b.walk e).map (·.1) := fun w hw =>
      hnext ⟨w, by rwa [walk_values] at hw⟩
    rw [Nested.siblingsAt_insertChain_of_not_prefix _ _ _ _ hnot]
    refine ⟨fun v => ?_, ?_⟩
    · rw [hmem, hpass]
      exact ⟨.inl, fun h => h.resolve_right fun hv => hnext ⟨v, hv⟩⟩
    · rw [List.map_congr_left hkeep]
      exact hord

theorem siblingsFirst_foldl (entries : List Entry) :
    ∀ (hs : List Entry) (forest : Forest), b.SiblingsFirst hs forest →
      b.SiblingsFirst (hs ++ entries) (entries.foldl b.insertNested forest) := by
  induction entries with
  | nil => exact fun hs forest h => by rwa [List.append_nil]
  | cons e es ih =>
    intro hs forest h
    rw [List.foldl_cons, ← List.singleton_append, ← List.append_assoc]
    exact ih _ _ (b.siblingsFirst_insertNested h e)

theorem siblingsFirst_foldNested (entries : List Entry) :
    b.SiblingsFirst entries (b.foldNested entries) := by
  have := b.siblingsFirst_foldl entries [] [] fun β => by simp
  rwa [List.nil_append] at this

theorem build_insertionOrder (entries : List Entry) :
    ({ b with ordering := .insertionOrder } : Builder).build entries =
      b.mark (b.foldNested entries) := by
  rw [build, intoRoots_foldl_insert, arrange_eq, if_neg (by simp)]
  rfl

theorem values_siblingsAt_build_insertionOrder (entries : List Entry) (β : List String) :
    (siblingsAt (({ b with ordering := .insertionOrder } : Builder).build entries) β).map
      (·.value) = (siblingsAt (b.foldNested entries) β).map (·.value) := by
  rw [build_insertionOrder, mark]
  split
  · rw [siblingsAt_markSelectableAll, values_markSelectableAll]
  · rfl

theorem pairwise_firstThrough_siblingsAt (entries : List Entry) (β : List String) :
    ((siblingsAt (({ b with ordering := .insertionOrder } : Builder).build entries) β).map
      fun n => b.firstThrough entries (β ++ [n.value])).Pairwise (· < ·) := by
  have hord := (b.siblingsFirst_foldNested entries β).2
  rw [List.map_map] at hord
  have hcomp : ((fun n : Node => b.firstThrough entries (β ++ [n.value]))) =
      (fun v => b.firstThrough entries (β ++ [v])) ∘ (·.value) := rfl
  rw [hcomp, ← List.map_map, values_siblingsAt_build_insertionOrder, List.map_map]
  exact hord

theorem firstThrough_lt_length_of_mem_siblingsAt {entries : List Entry} {β : List String}
    {n : Node} (hn : n ∈ siblingsAt (({ b with ordering := .insertionOrder } : Builder).build
      entries) β) :
    b.firstThrough entries (β ++ [n.value]) < entries.length := by
  have hv : n.value ∈ (siblingsAt (b.foldNested entries) β).map (·.value) := by
    rw [← values_siblingsAt_build_insertionOrder]
    exact List.mem_map_of_mem hn
  obtain ⟨e, he, hpre⟩ := ((b.siblingsFirst_foldNested entries β).1 n.value).1 hv
  exact List.findIdx_lt_length_of_exists
    ⟨e, he, by simp [b.accepts_of_prefix (by simp) hpre, hpre]⟩

theorem build_sorted_eq_sortDeepAll (entries : List Entry) :
    ({ b with ordering := .sorted } : Builder).build entries =
      (sortDeepAll (({ b with ordering := .insertionOrder } : Builder).build entries)).mergeSort
        valueLE := by
  simp only [build, arrange_eq]
  rfl

/-- In insertion order every list of siblings, the roots included, is ordered by the first entry
that passes through each sibling, and every sibling has one. A sorted build is the
insertion-order build with the roots and every list of children sorted by value, and there
every list of siblings strictly increases in value. -/
theorem build_sibling_order (entries : List Entry) :
    (∀ β, ((siblingsAt (({ b with ordering := .insertionOrder } : Builder).build entries) β).map
        fun n => b.firstThrough entries (β ++ [n.value])).Pairwise (· < ·) ∧
      ∀ n ∈ siblingsAt (({ b with ordering := .insertionOrder } : Builder).build entries) β,
        b.firstThrough entries (β ++ [n.value]) < entries.length) ∧
    ({ b with ordering := .sorted } : Builder).build entries =
      (sortDeepAll (({ b with ordering := .insertionOrder } : Builder).build entries)).mergeSort
        valueLE ∧
    ∀ β, ((siblingsAt (({ b with ordering := .sorted } : Builder).build entries) β).map
      (·.value)).Pairwise (· < ·) := by
  refine ⟨fun β => ⟨b.pairwise_firstThrough_siblingsAt entries β,
    fun n hn => b.firstThrough_lt_length_of_mem_siblingsAt hn⟩,
    b.build_sorted_eq_sortDeepAll entries, fun β => ?_⟩
  exact pairwise_siblingsAt_of_orderedAll
    (({ b with ordering := .sorted } : Builder).build_sorted_spec rfl entries).1 β

end Builder

end PathHierarchy.Forest
