import PathHierarchy.Proofs.Nested
import Mathlib.Data.List.Nodup

/-!
# Addresses of nodes

The address of a node is the list of values on the way down to it from its root, its own
value last. A forest has one address per node, listed in pre-order (`length_addressesAll`),
each ending with its node's value (`getLast?_addressesAll`). The addresses are all different
exactly when no list of siblings, the roots included, holds one value twice
(`nodup_addressesAll_iff`).

Walking a chain adds to the addresses exactly the chain's non-empty prefixes and keeps them
all different (`mem_addressesAll_insertChain`, `nodup_addressesAll_insertChain`). Marking
nodes selectable changes no address, and sorting siblings only reorders them.
-/

set_option autoImplicit false

namespace PathHierarchy.Forest

namespace Node

mutual

/-- The addresses of a node and of every node below it, in pre-order: the node's own value
alone, then the addresses below each child, under the node's value. -/
def addresses : Node → List (List String)
  | ⟨v, _, cs, _⟩ => [v] :: (addressesAll cs).map (v :: ·)

/-- The addresses of the nodes of a forest, in pre-order. -/
def addressesAll : List Node → List (List String)
  | [] => []
  | n :: ns => addresses n ++ addressesAll ns

end

theorem addresses_eq (n : Node) :
    n.addresses = [n.value] :: (addressesAll n.children).map (n.value :: ·) := by
  cases n
  rw [addresses]

@[simp] theorem addressesAll_nil : addressesAll [] = [] := by
  rw [addressesAll]

@[simp] theorem addressesAll_cons (n : Node) (ns : List Node) :
    addressesAll (n :: ns) = n.addresses ++ addressesAll ns := by
  rw [addressesAll]

theorem addressesAll_eq_flatMap (l : List Node) : addressesAll l = l.flatMap addresses := by
  induction l with
  | nil => rfl
  | cons n ns ih => rw [addressesAll_cons, ih, List.flatMap_cons]

@[simp] theorem addressesAll_append (l₁ l₂ : List Node) :
    addressesAll (l₁ ++ l₂) = addressesAll l₁ ++ addressesAll l₂ := by
  simp only [addressesAll_eq_flatMap, List.flatMap_append]

theorem mem_addresses {n : Node} {α : List String} :
    α ∈ n.addresses ↔ α = [n.value] ∨ ∃ β ∈ addressesAll n.children, α = n.value :: β := by
  rw [addresses_eq, List.mem_cons, List.mem_map]
  simp only [eq_comm]

theorem mem_addressesAll {l : List Node} {α : List String} :
    α ∈ addressesAll l ↔ ∃ n ∈ l, α ∈ n.addresses := by
  rw [addressesAll_eq_flatMap, List.mem_flatMap]

theorem value_mem_addresses (n : Node) : [n.value] ∈ n.addresses :=
  mem_addresses.2 (.inl rfl)

theorem head?_of_mem_addresses {n : Node} {α : List String} (h : α ∈ n.addresses) :
    α.head? = some n.value := by
  rcases mem_addresses.1 h with rfl | ⟨β, -, rfl⟩ <;> rfl

theorem ne_nil_of_mem_addressesAll {l : List Node} {α : List String}
    (h : α ∈ addressesAll l) : α ≠ [] := by
  obtain ⟨n, -, hn⟩ := mem_addressesAll.1 h
  rintro rfl
  cases head?_of_mem_addresses hn

/-! ### One address per node -/

mutual

theorem length_addresses : ∀ n : Node, n.addresses.length = n.preorder.length
  | ⟨v, t, cs, s⟩ => by
    rw [addresses, preorder, List.length_cons, List.length_cons, List.length_map,
      length_addressesAll cs]

theorem length_addressesAll : ∀ l : List Node, (addressesAll l).length = (preorderAll l).length
  | [] => rfl
  | n :: ns => by
    rw [addressesAll, preorderAll, List.length_append, List.length_append, length_addresses n,
      length_addressesAll ns]

end

mutual

theorem getLast?_addresses :
    ∀ n : Node, n.addresses.map List.getLast? = n.preorder.map (some ·.value)
  | ⟨v, t, cs, s⟩ => by
    have hlast : (addressesAll cs).map (List.getLast? ∘ (v :: ·)) =
        (addressesAll cs).map List.getLast? := List.map_congr_left fun β hβ => by
      obtain ⟨b, β', rfl⟩ := List.exists_cons_of_ne_nil (ne_nil_of_mem_addressesAll hβ)
      exact List.getLast?_cons_cons
    rw [addresses, preorder, List.map_cons, List.map_cons, List.map_map, hlast,
      getLast?_addressesAll cs]
    rfl

theorem getLast?_addressesAll :
    ∀ l : List Node, (addressesAll l).map List.getLast? = (preorderAll l).map (some ·.value)
  | [] => rfl
  | n :: ns => by
    rw [addressesAll, preorderAll, List.map_append, List.map_append, getLast?_addresses n,
      getLast?_addressesAll ns]

end

/-! ### Different addresses, different siblings -/

theorem disjoint_addresses_iff (n : Node) (ns : List Node) :
    (∀ α ∈ n.addresses, α ∉ addressesAll ns) ↔ n.value ∉ ns.map (·.value) := by
  constructor
  · intro h hv
    obtain ⟨m, hm, hmv⟩ := List.mem_map.1 hv
    exact h [n.value] n.value_mem_addresses
      (mem_addressesAll.2 ⟨m, hm, hmv ▸ m.value_mem_addresses⟩)
  · intro hv α hα hα'
    obtain ⟨m, hm, hαm⟩ := mem_addressesAll.1 hα'
    have heq : some n.value = some m.value := by
      rw [← head?_of_mem_addresses hα, head?_of_mem_addresses hαm]
    exact hv (List.mem_map.2 ⟨m, hm, (Option.some.inj heq).symm⟩)

theorem nodup_addresses_iff (n : Node) :
    n.addresses.Nodup ↔ (addressesAll n.children).Nodup := by
  rw [addresses_eq, List.nodup_cons, List.nodup_map_iff List.cons_injective]
  have hsingle : [n.value] ∉ (addressesAll n.children).map (n.value :: ·) := by
    intro h
    obtain ⟨β, hβ, he⟩ := List.mem_map.1 h
    exact ne_nil_of_mem_addressesAll hβ (List.cons.inj he).2
  exact ⟨fun h => h.2, fun h => ⟨hsingle, h⟩⟩

/-- A forest's addresses are all different exactly when its roots have different values and
the addresses below each root are all different. -/
theorem nodup_addressesAll_iff (l : List Node) :
    (addressesAll l).Nodup ↔
      (l.map (·.value)).Nodup ∧ ∀ n ∈ l, (addressesAll n.children).Nodup := by
  induction l with
  | nil => simp
  | cons n ns ih =>
    rw [addressesAll_cons, List.nodup_append, ih, nodup_addresses_iff, List.map_cons,
      List.nodup_cons, ← disjoint_addresses_iff, List.forall_mem_cons]
    constructor
    · rintro ⟨hn, ⟨hns, hall⟩, hdis⟩
      exact ⟨⟨fun α hα hα' => hdis α hα α hα' rfl, hns⟩, hn, hall⟩
    · rintro ⟨⟨hdis, hns⟩, hn, hall⟩
      exact ⟨hn, ⟨hns, hall⟩, fun α hα β hβ he => hdis α hα (he ▸ hβ)⟩

mutual

theorem nodup_children_of_nodup_addresses :
    ∀ {n : Node}, n.addresses.Nodup → ∀ m ∈ n.preorder, (m.children.map (·.value)).Nodup
  | ⟨v, t, cs, s⟩, h, m, hm => by
    rw [nodup_addresses_iff] at h
    rw [preorder, List.mem_cons] at hm
    rcases hm with rfl | hm
    · exact ((nodup_addressesAll_iff cs).1 h).1
    · exact nodup_children_of_nodup_addressesAll h m hm

theorem nodup_children_of_nodup_addressesAll :
    ∀ {l : List Node}, (addressesAll l).Nodup → ∀ m ∈ preorderAll l, (m.children.map (·.value)).Nodup
  | [], _, m, hm => by simp [preorderAll] at hm
  | n :: ns, h, m, hm => by
    rw [addressesAll, List.nodup_append] at h
    rw [preorderAll, List.mem_append] at hm
    rcases hm with hm | hm
    · exact nodup_children_of_nodup_addresses h.1 m hm
    · exact nodup_children_of_nodup_addressesAll h.2.1 m hm

end

mutual

theorem exists_address_of_child :
    ∀ {n m c : Node}, m ∈ n.preorder → c ∈ m.children → ∃ α, α ++ [m.value, c.value] ∈ n.addresses
  | ⟨v, t, cs, s⟩, m, c, hm, hc => by
    rw [preorder, List.mem_cons] at hm
    rcases hm with rfl | hm
    · refine ⟨[], mem_addresses.2 (.inr ⟨[c.value], ?_, rfl⟩)⟩
      exact mem_addressesAll.2 ⟨c, hc, c.value_mem_addresses⟩
    · obtain ⟨α, hα⟩ := exists_address_of_childAll hm hc
      exact ⟨v :: α, mem_addresses.2 (.inr ⟨_, hα, rfl⟩)⟩

theorem exists_address_of_childAll :
    ∀ {l : List Node} {m c : Node}, m ∈ preorderAll l → c ∈ m.children →
      ∃ α, α ++ [m.value, c.value] ∈ addressesAll l
  | [], m, c, hm, _ => by simp [preorderAll] at hm
  | n :: ns, m, c, hm, hc => by
    rw [preorderAll, List.mem_append] at hm
    rw [addressesAll_cons]
    rcases hm with hm | hm
    · obtain ⟨α, hα⟩ := exists_address_of_child hm hc
      exact ⟨α, List.mem_append_left _ hα⟩
    · obtain ⟨α, hα⟩ := exists_address_of_childAll hm hc
      exact ⟨α, List.mem_append_right _ hα⟩

end

/-! ### Marking and sorting -/

mutual

theorem addresses_markSelectable : ∀ n : Node, n.markSelectable.addresses = n.addresses
  | ⟨v, t, cs, s⟩ => by rw [markSelectable, addresses, addresses, addressesAll_markSelectableAll cs]

theorem addressesAll_markSelectableAll :
    ∀ l : List Node, addressesAll (markSelectableAll l) = addressesAll l
  | [] => rfl
  | n :: ns => by
    rw [markSelectableAll, addressesAll, addressesAll, addresses_markSelectable n,
      addressesAll_markSelectableAll ns]

end

theorem addressesAll_perm {l₁ l₂ : List Node} (h : l₁.Perm l₂) :
    (addressesAll l₁).Perm (addressesAll l₂) := by
  rw [addressesAll_eq_flatMap, addressesAll_eq_flatMap]
  exact h.flatMap_right _

mutual

theorem addresses_sortDeep : ∀ n : Node, n.sortDeep.addresses.Perm n.addresses
  | ⟨v, t, cs, s⟩ => by
    rw [sortDeep, addresses, addresses]
    exact (((addressesAll_perm (List.mergeSort_perm _ _)).trans
      (addressesAll_sortDeepAll cs)).map _).cons _

theorem addressesAll_sortDeepAll : ∀ l : List Node, (addressesAll (sortDeepAll l)).Perm (addressesAll l)
  | [] => .refl _
  | n :: ns => by
    rw [sortDeepAll, addressesAll, addressesAll]
    exact (addresses_sortDeep n).append (addressesAll_sortDeepAll ns)

end

end Node

namespace Nested

open Node

theorem reviseOrAdd_cases (v : String) (fresh : Node) (f : Node → Node) (l : List Node) :
    (∃ pre x post, l = pre ++ x :: post ∧ (∀ y ∈ pre, y.value ≠ v) ∧ x.value = v ∧
      reviseOrAdd v fresh f l = pre ++ f x :: post) ∨
    ((∀ y ∈ l, y.value ≠ v) ∧ reviseOrAdd v fresh f l = l ++ [f fresh]) := by
  induction l with
  | nil => exact .inr ⟨by simp, rfl⟩
  | cons y ys ih =>
    by_cases hy : y.value = v
    · refine .inl ⟨[], y, ys, rfl, by simp, hy, ?_⟩
      simp [reviseOrAdd, hy]
    · have hcons : reviseOrAdd v fresh f (y :: ys) = y :: reviseOrAdd v fresh f ys := by
        simp [reviseOrAdd, hy]
      rcases ih with ⟨pre, x, post, rfl, hpre, hx, h⟩ | ⟨hall, h⟩
      · refine .inl ⟨y :: pre, x, post, rfl, ?_, hx, by rw [hcons, h, List.cons_append]⟩
        simpa [hy] using hpre
      · exact .inr ⟨by simpa [hy] using hall, by rw [hcons, h, List.cons_append]⟩

/-- What the walk does to the node it reaches: walks the rest of the chain below it, and titles
it with the label when it is the chain's last. -/
def descend (label : Option String) (rest : List (String × String)) (n : Node) : Node :=
  { n with
    children := insertChain label rest n.children
    title := if rest.isEmpty then label.getD n.title else n.title }

theorem insertChain_cons (label : Option String) (v s : String) (rest : List (String × String))
    (forest : Forest) :
    insertChain label ((v, s) :: rest) forest =
      reviseOrAdd v (Node.leaf v s) (descend label rest) forest := rfl

@[simp] theorem descend_value (label : Option String) (rest : List (String × String)) (n : Node) :
    (descend label rest n).value = n.value := rfl

@[simp] theorem descend_children (label : Option String) (rest : List (String × String))
    (n : Node) : (descend label rest n).children = insertChain label rest n.children := rfl

theorem ne_nil_prefix_cons_iff {v : String} {l α : List String} :
    (α ≠ [] ∧ α <+: v :: l) ↔ α = [v] ∨ ∃ β, (β ≠ [] ∧ β <+: l) ∧ α = v :: β := by
  rw [List.prefix_cons_iff]
  constructor
  · rintro ⟨hne, rfl | ⟨t, rfl, ht⟩⟩
    · exact absurd rfl hne
    · by_cases htn : t = []
      · subst htn
        exact .inl rfl
      · exact .inr ⟨t, ⟨htn, ht⟩, rfl⟩
  · rintro (rfl | ⟨β, ⟨-, hβ⟩, rfl⟩)
    · exact ⟨List.cons_ne_nil _ _, .inr ⟨[], rfl, List.nil_prefix⟩⟩
    · exact ⟨List.cons_ne_nil _ _, .inr ⟨β, rfl, hβ⟩⟩

theorem mem_addresses_descend {label : Option String} {rest : List (String × String)} {x : Node}
    (ih : ∀ α, α ∈ addressesAll (insertChain label rest x.children) ↔
      α ∈ addressesAll x.children ∨ (α ≠ [] ∧ α <+: rest.map (·.1))) (α : List String) :
    α ∈ (descend label rest x).addresses ↔
      α ∈ x.addresses ∨ (α ≠ [] ∧ α <+: x.value :: rest.map (·.1)) := by
  rw [mem_addresses, mem_addresses, descend_value, descend_children, ne_nil_prefix_cons_iff]
  simp only [ih]
  constructor
  · rintro (h | ⟨β, hβ | hβ, rfl⟩)
    · exact .inl (.inl h)
    · exact .inl (.inr ⟨β, hβ, rfl⟩)
    · exact .inr (.inr ⟨β, hβ, rfl⟩)
  · rintro ((h | ⟨β, hβ, rfl⟩) | (h | ⟨β, hβ, rfl⟩))
    · exact .inl h
    · exact .inr ⟨β, .inl hβ, rfl⟩
    · exact .inl h
    · exact .inr ⟨β, .inr hβ, rfl⟩

/-- Walking a chain adds to a forest's addresses exactly the chain's non-empty prefixes. -/
theorem mem_addressesAll_insertChain (label : Option String) :
    ∀ (steps : List (String × String)) (forest : Forest) (α : List String),
      α ∈ addressesAll (insertChain label steps forest) ↔
        α ∈ addressesAll forest ∨ (α ≠ [] ∧ α <+: steps.map (·.1))
  | [], forest, α => by
    rw [insertChain, List.map_nil, List.prefix_nil]
    simp
  | (v, s) :: rest, forest, α => by
    have ih := mem_addressesAll_insertChain label rest
    rw [insertChain_cons, List.map_cons]
    rcases reviseOrAdd_cases v (Node.leaf v s) (descend label rest) forest with
      ⟨pre, x, post, rfl, -, hx, h⟩ | ⟨-, h⟩
    ·
      rw [h, addressesAll_append, addressesAll_append, addressesAll_cons, addressesAll_cons]
      simp only [List.mem_append, mem_addresses_descend (ih x.children), hx]
      tauto
    ·
      have hleaf : α ∈ (Node.leaf v s).addresses → α ≠ [] ∧ α <+: v :: rest.map (·.1) := by
        intro hα
        rw [ne_nil_prefix_cons_iff]
        exact .inl (by simpa [Node.leaf, addresses] using hα)
      rw [h, addressesAll_append, addressesAll_cons, addressesAll_nil, List.append_nil,
        List.mem_append, mem_addresses_descend (ih [])]
      constructor
      · rintro (hα | hα | hα)
        · exact .inl hα
        · exact .inr (hleaf hα)
        · exact .inr hα
      · rintro (hα | hα)
        · exact .inl hα
        · exact .inr (.inr hα)

theorem nodup_addressesAll_insertChain (label : Option String) :
    ∀ (steps : List (String × String)) (forest : Forest),
      (addressesAll forest).Nodup → (addressesAll (insertChain label steps forest)).Nodup
  | [], forest, h => by rwa [insertChain]
  | (v, s) :: rest, forest, h => by
    have ih := nodup_addressesAll_insertChain label rest
    rw [nodup_addressesAll_iff] at h
    obtain ⟨hvals, hbelow⟩ := h
    rw [insertChain_cons, nodup_addressesAll_iff]
    rcases reviseOrAdd_cases v (Node.leaf v s) (descend label rest) forest with
      ⟨pre, x, post, rfl, -, hx, h⟩ | ⟨hnone, h⟩
    · rw [h]
      refine ⟨by simpa using hvals, fun n hn => ?_⟩
      rcases List.mem_append.1 hn with hn | hn
      · exact hbelow n (List.mem_append_left _ hn)
      · rcases List.mem_cons.1 hn with rfl | hn
        · exact ih _ (hbelow x (by simp))
        · exact hbelow n (by simp [hn])
    · rw [h, List.map_append, List.nodup_append]
      refine ⟨⟨hvals, List.nodup_singleton _, ?_⟩, fun n hn => ?_⟩
      · intro a ha b hb hab
        obtain ⟨y, hy, rfl⟩ := List.mem_map.1 ha
        simp only [List.map_cons, List.map_nil, descend_value, List.mem_singleton] at hb
        exact hnone y hy (hab.trans (by rw [hb]; rfl))
      · rcases List.mem_append.1 hn with hn | hn
        · exact hbelow n hn
        · rw [List.mem_singleton.1 hn, descend_children]
          exact ih [] (by simp)

end Nested

end PathHierarchy.Forest
