import PathHierarchy.Proofs.SortingLoop
import PathHierarchy.Proofs.Arena.IntoRoots
import Mathlib.Data.String.Basic

/-!
# Sorted forests are determined by their titles

`lookup?` finds the node at an address: the first root with the address's first value, then
down that node's children. A forest whose siblings strictly increase in value at every level
(`OrderedAll`) and whose nodes all carry one flag (`FlaggedAll`) is determined by the title it
has at each address (`eq_of_lookup?`): the least root value is the least value with a title,
and below and after it the same argument repeats.

Sorting a forest whose sibling lists hold no value twice gives such an ordered forest
(`orderedAll_sort`) and finds the same node at each address, sorted below
(`lookup?_sort`); marking nodes selectable finds the same nodes, marked.
-/

set_option autoImplicit false

namespace PathHierarchy.Forest.Node

/-- The node at an address: the first root with its first value, then down that node's
children. -/
def lookup? (l : List Node) : List String → Option Node
  | [] => none
  | [v] => l.find? (·.value == v)
  | v :: w :: α => (l.find? (·.value == v)).bind fun n => lookup? n.children (w :: α)

mutual

/-- Siblings strictly increase in value, at every level below the node. -/
def Ordered : Node → Prop
  | ⟨_, _, cs, _⟩ => OrderedAll cs

/-- Siblings strictly increase in value, among the roots and at every level below. -/
def OrderedAll : List Node → Prop
  | [] => True
  | n :: ns => (∀ m ∈ ns, n.value < m.value) ∧ Ordered n ∧ OrderedAll ns

end

mutual

/-- The node and every node below it carry the flag `sel`. -/
def Flagged (sel : Bool) : Node → Prop
  | ⟨_, _, cs, s⟩ => s = sel ∧ FlaggedAll sel cs

/-- Every node of the forest carries the flag `sel`. -/
def FlaggedAll (sel : Bool) : List Node → Prop
  | [] => True
  | n :: ns => Flagged sel n ∧ FlaggedAll sel ns

end

theorem ordered_iff (n : Node) : n.Ordered ↔ OrderedAll n.children := by
  cases n
  rw [Ordered]

theorem orderedAll_cons (n : Node) (ns : List Node) :
    OrderedAll (n :: ns) ↔ (∀ m ∈ ns, n.value < m.value) ∧ n.Ordered ∧ OrderedAll ns := by
  rw [OrderedAll]

theorem orderedAll_iff (l : List Node) :
    OrderedAll l ↔ (l.map (·.value)).Pairwise (· < ·) ∧ ∀ n ∈ l, n.Ordered := by
  induction l with
  | nil => simp [OrderedAll]
  | cons n ns ih =>
    rw [orderedAll_cons, ih, List.map_cons, List.pairwise_cons, List.forall_mem_cons]
    simp only [List.mem_map, forall_exists_index, and_imp, forall_apply_eq_imp_iff₂]
    tauto

theorem flagged_iff (sel : Bool) (n : Node) :
    n.Flagged sel ↔ n.selectable = sel ∧ FlaggedAll sel n.children := by
  cases n
  rw [Flagged]

theorem flaggedAll_iff (sel : Bool) (l : List Node) :
    FlaggedAll sel l ↔ ∀ n ∈ l, n.Flagged sel := by
  induction l with
  | nil => simp [FlaggedAll]
  | cons n ns ih => rw [FlaggedAll, ih, List.forall_mem_cons]

/-! ### Finding nodes by address -/

@[simp] theorem lookup?_nil (l : List Node) : lookup? l [] = none := by
  rw [lookup?]

@[simp] theorem lookup?_singleton (l : List Node) (v : String) :
    lookup? l [v] = l.find? (·.value == v) := by
  rw [lookup?]

@[simp] theorem lookup?_empty (α : List String) : lookup? [] α = none := by
  match α with
  | [] => rfl
  | [v] => rfl
  | v :: w :: α => rfl

theorem lookup?_cons_cons (l : List Node) (v w : String) (α : List String) :
    lookup? l (v :: w :: α) = (l.find? (·.value == v)).bind fun n => lookup? n.children (w :: α) := by
  rw [lookup?]

theorem lookup?_of_find? {l : List Node} {v : String} {n : Node}
    (h : l.find? (·.value == v) = some n) (α : List String) :
    lookup? l (v :: α) = if α = [] then some n else lookup? n.children α := by
  cases α with
  | nil => simp [h]
  | cons w α => simp [lookup?_cons_cons, h]

theorem lookup?_of_forall_ne {l : List Node} {v : String} (h : ∀ n ∈ l, n.value ≠ v)
    (α : List String) : lookup? l (v :: α) = none := by
  have hnone : l.find? (·.value == v) = none := List.find?_eq_none.2 fun n hn => by simpa using h n hn
  cases α with
  | nil => simp [hnone]
  | cons w α => simp [lookup?_cons_cons, hnone]

theorem lookup?_cons_of_ne {n : Node} {ns : List Node} {v : String} (h : n.value ≠ v)
    (α : List String) : lookup? (n :: ns) (v :: α) = lookup? ns (v :: α) := by
  have hfind : (n :: ns).find? (·.value == v) = ns.find? (·.value == v) := by simp [h]
  cases α with
  | nil => simp [hfind]
  | cons w α => simp [lookup?_cons_cons, hfind]

theorem lookup?_cons_self (n : Node) (ns : List Node) (α : List String) :
    lookup? (n :: ns) (n.value :: α) = if α = [] then some n else lookup? n.children α :=
  lookup?_of_find? (by simp) α

/-! ### Ordered forests with one flag are determined by their titles -/

theorem lookup?_of_lt_head {m : Node} {ms : List Node} (ho : OrderedAll (m :: ms)) {v : String}
    (hv : v < m.value) (α : List String) : lookup? (m :: ms) (v :: α) = none := by
  refine lookup?_of_forall_ne (fun x hx hxv => ?_) α
  rw [orderedAll_cons] at ho
  rcases List.mem_cons.1 hx with rfl | hx
  · exact (ne_of_lt hv) hxv.symm
  · exact (lt_asymm hv (hxv ▸ ho.1 x hx)).elim

mutual

theorem eq_of_lookup?_node {sel : Bool} :
    ∀ {n m : Node}, n.value = m.value → n.title = m.title → n.Ordered → m.Ordered →
      n.Flagged sel → m.Flagged sel →
      (∀ α, (lookup? n.children α).map (·.title) = (lookup? m.children α).map (·.title)) → n = m
  | ⟨v, t, cs, s⟩, ⟨v', t', cs', s'⟩, hv, ht, ho, ho', hf, hf', hl => by
    obtain ⟨rfl, hcs⟩ := hf
    obtain ⟨rfl, hcs'⟩ := hf'
    have hchildren : cs = cs' := eq_of_lookup? ho ho' hcs hcs' hl
    cases hv
    cases ht
    cases hchildren
    rfl

/-- Two ordered forests whose nodes all carry one flag, with the same title at every address,
are equal. -/
theorem eq_of_lookup? {sel : Bool} :
    ∀ {f g : List Node}, OrderedAll f → OrderedAll g → FlaggedAll sel f → FlaggedAll sel g →
      (∀ α, (lookup? f α).map (·.title) = (lookup? g α).map (·.title)) → f = g
  | [], [], _, _, _, _, _ => rfl
  | [], m :: ms, _, _, _, _, hl => by
    have := hl [m.value]
    simp at this
  | n :: ns, [], _, _, _, _, hl => by
    have := hl [n.value]
    simp at this
  | n :: ns, m :: ms, ho, ho', hf, hf', hl => by
    have hv : n.value = m.value := by
      rcases lt_trichotomy n.value m.value with h | h | h
      · have := hl [n.value]
        rw [lookup?_cons_self, lookup?_of_lt_head ho' h] at this
        simp at this
      · exact h
      · have := hl [m.value]
        rw [lookup?_cons_self, lookup?_of_lt_head ho h] at this
        simp at this
    rw [orderedAll_cons] at ho ho'
    rw [FlaggedAll] at hf hf'
    have hhead : n = m := by
      refine eq_of_lookup?_node hv ?_ ho.2.1 ho'.2.1 hf.1 hf'.1 fun α => ?_
      · have := hl [n.value]
        rw [lookup?_cons_self, hv, lookup?_cons_self] at this
        simpa using this
      · cases α with
        | nil => simp
        | cons w α =>
          have := hl (n.value :: w :: α)
          rwa [lookup?_cons_self, hv, lookup?_cons_self, if_neg (List.cons_ne_nil w α),
            if_neg (List.cons_ne_nil w α)] at this
    have htail : ns = ms := by
      refine eq_of_lookup? ho.2.2 ho'.2.2 hf.2 hf'.2 fun α => ?_
      cases α with
      | nil => simp
      | cons u α =>
        by_cases hu : n.value = u
        · subst hu
          rw [lookup?_of_forall_ne (fun x hx => ne_of_gt (ho.1 x hx)),
            lookup?_of_forall_ne (fun x hx => hv ▸ ne_of_gt (ho'.1 x hx))]
        · have := hl (u :: α)
          rwa [lookup?_cons_of_ne hu, lookup?_cons_of_ne (hv ▸ hu)] at this
    rw [hhead, htail]

end

/-! ### Sorting and marking -/

theorem map_value_sortDeepAll (l : List Node) : (sortDeepAll l).map (·.value) = l.map (·.value) := by
  rw [sortDeepAll_eq_map, List.map_map]
  exact List.map_congr_left fun n _ => value_sortDeep n

theorem find?_value_perm {l l' : List Node} (hp : l.Perm l') (hnd : (l.map (·.value)).Nodup)
    (v : String) : l'.find? (·.value == v) = l.find? (·.value == v) := by
  cases h : l.find? (·.value == v) with
  | none => exact List.find?_eq_none.2 fun x hx => List.find?_eq_none.1 h x (hp.mem_iff.2 hx)
  | some x =>
    have hx := List.mem_of_find?_eq_some h
    obtain ⟨y, hy⟩ := Option.isSome_iff_exists.1
      (List.find?_isSome.2 ⟨x, hp.mem_iff.1 hx, List.find?_some h⟩)
    have hyl : y ∈ l := hp.mem_iff.2 (List.mem_of_find?_eq_some hy)
    have hxy : x.value = y.value := by
      have h1 := List.find?_some h
      have h2 := List.find?_some hy
      simp only [beq_iff_eq] at h1 h2
      rw [h1, h2]
    rw [hy, List.inj_on_of_nodup_map hnd hx hyl hxy]

theorem find?_map_of_value {f : Node → Node} (hf : ∀ n, (f n).value = n.value) (l : List Node)
    (v : String) : (l.map f).find? (·.value == v) = (l.find? (·.value == v)).map f := by
  have hcomp : ((·.value == v) ∘ f : Node → Bool) = (·.value == v) :=
    funext fun n => by rw [Function.comp_apply, hf]
  rw [List.find?_map, hcomp]

theorem lookup?_rebuild (F : List Node → List Node) (f : Node → Node) (P : List Node → Prop)
    (hfind : ∀ l v, P l → (F l).find? (·.value == v) = (l.find? (·.value == v)).map f)
    (hchildren : ∀ n, (f n).children = F n.children)
    (hP : ∀ l n, P l → n ∈ l → P n.children) :
    ∀ (α : List String) (l : List Node), P l → lookup? (F l) α = (lookup? l α).map f
  | [], l, _ => by simp
  | [v], l, h => by rw [lookup?_singleton, lookup?_singleton, hfind l v h]
  | v :: w :: α, l, h => by
    rw [lookup?_cons_cons, lookup?_cons_cons, hfind l v h]
    cases hn : l.find? (·.value == v) with
    | none => rfl
    | some n =>
      show lookup? (f n).children (w :: α) = (lookup? n.children (w :: α)).map f
      rw [hchildren, lookup?_rebuild F f P hfind hchildren hP (w :: α) n.children
        (hP l n h (List.mem_of_find?_eq_some hn))]

theorem find?_sort {l : List Node} (h : (addressesAll l).Nodup) (v : String) :
    ((sortDeepAll l).mergeSort valueLE).find? (·.value == v) =
      (l.find? (·.value == v)).map sortDeep := by
  have hvals : ((sortDeepAll l).map (·.value)).Nodup := by
    rw [map_value_sortDeepAll]
    exact ((nodup_addressesAll_iff l).1 h).1
  rw [find?_value_perm (List.mergeSort_perm _ _).symm hvals, sortDeepAll_eq_map,
    find?_map_of_value value_sortDeep]

/-- Sorting a forest whose sibling lists hold no value twice finds, at every address, the
node found before, sorted below. -/
theorem lookup?_sort (α : List String) {l : List Node} (h : (addressesAll l).Nodup) :
    lookup? ((sortDeepAll l).mergeSort valueLE) α = (lookup? l α).map sortDeep :=
  lookup?_rebuild (fun l => (sortDeepAll l).mergeSort valueLE) sortDeep
    (fun l => (addressesAll l).Nodup) (fun _ v hl => find?_sort hl v) children_sortDeep
    (fun l n hl hn => ((nodup_addressesAll_iff l).1 hl).2 n hn) α l h

mutual

theorem ordered_sortDeep : ∀ (n : Node), (addressesAll n.children).Nodup → n.sortDeep.Ordered
  | ⟨v, t, cs, s⟩, h => by
    rw [ordered_iff, children_sortDeep, orderedAll_iff]
    refine ⟨?_, fun m hm => ordered_of_mem_sortDeepAll cs h m (List.mem_mergeSort.1 hm)⟩
    have hle := @List.pairwise_mergeSort _ valueLE
      (fun a b c hab hbc => by simp only [valueLE, decide_eq_true_eq] at *; exact le_trans hab hbc)
      (fun a b => by simpa [valueLE] using le_total a.value b.value) (sortDeepAll cs)
    have hnd : ((sortDeepAll cs).mergeSort valueLE |>.map (·.value)).Nodup := by
      rw [((List.mergeSort_perm _ _).map _).nodup_iff, map_value_sortDeepAll]
      exact ((nodup_addressesAll_iff cs).1 h).1
    rw [List.pairwise_map]
    rw [List.Nodup, List.pairwise_map] at hnd
    exact (hle.and hnd).imp fun ⟨hab, hne⟩ => lt_of_le_of_ne (by simpa [valueLE] using hab) hne

theorem ordered_of_mem_sortDeepAll :
    ∀ (l : List Node), (addressesAll l).Nodup → ∀ n ∈ sortDeepAll l, n.Ordered
  | [], _, n, hn => by simp [sortDeepAll] at hn
  | m :: ms, h, n, hn => by
    rw [sortDeepAll, List.mem_cons] at hn
    rw [addressesAll_cons, List.nodup_append] at h
    rcases hn with rfl | hn
    · exact ordered_sortDeep m ((nodup_addresses_iff m).1 h.1)
    · exact ordered_of_mem_sortDeepAll ms h.2.1 n hn

end

theorem orderedAll_sort {l : List Node} (h : (addressesAll l).Nodup) :
    OrderedAll ((sortDeepAll l).mergeSort valueLE) := by
  have hroot := ordered_sortDeep ⟨"", "", l, false⟩ h
  rwa [ordered_iff, children_sortDeep] at hroot

mutual

theorem flagged_sortDeep {sel : Bool} : ∀ (n : Node), n.Flagged sel → n.sortDeep.Flagged sel
  | ⟨v, t, cs, s⟩, h => by
    rw [flagged_iff] at h ⊢
    refine ⟨h.1, ?_⟩
    rw [children_sortDeep, flaggedAll_iff]
    exact fun m hm => flagged_of_mem_sortDeepAll cs h.2 m (List.mem_mergeSort.1 hm)

theorem flagged_of_mem_sortDeepAll {sel : Bool} :
    ∀ (l : List Node), FlaggedAll sel l → ∀ n ∈ sortDeepAll l, n.Flagged sel
  | [], _, n, hn => by simp [sortDeepAll] at hn
  | m :: ms, h, n, hn => by
    rw [sortDeepAll, List.mem_cons] at hn
    rw [FlaggedAll] at h
    rcases hn with rfl | hn
    · exact flagged_sortDeep m h.1
    · exact flagged_of_mem_sortDeepAll ms h.2 n hn

end

theorem flaggedAll_sort {sel : Bool} {l : List Node} (h : FlaggedAll sel l) :
    FlaggedAll sel ((sortDeepAll l).mergeSort valueLE) := by
  rw [flaggedAll_iff]
  exact fun n hn => flagged_of_mem_sortDeepAll l h n (List.mem_mergeSort.1 hn)

mutual

theorem flagged_markSelectable : ∀ (n : Node), n.markSelectable.Flagged true
  | ⟨v, t, cs, s⟩ => by
    rw [markSelectable, Flagged]
    exact ⟨rfl, flaggedAll_markSelectableAll cs⟩

theorem flaggedAll_markSelectableAll : ∀ (l : List Node), FlaggedAll true (markSelectableAll l)
  | [] => by rw [markSelectableAll, FlaggedAll]; trivial
  | n :: ns => by
    rw [markSelectableAll, FlaggedAll]
    exact ⟨flagged_markSelectable n, flaggedAll_markSelectableAll ns⟩

end

@[simp] theorem value_markSelectable (n : Node) : n.markSelectable.value = n.value := by
  cases n
  rfl

@[simp] theorem title_markSelectable (n : Node) : n.markSelectable.title = n.title := by
  cases n
  rfl

theorem children_markSelectable (n : Node) :
    n.markSelectable.children = markSelectableAll n.children := by
  cases n
  rfl

theorem lookup?_markSelectableAll (α : List String) (l : List Node) :
    lookup? (markSelectableAll l) α = (lookup? l α).map markSelectable :=
  lookup?_rebuild markSelectableAll markSelectable (fun _ => True)
    (fun l v _ => by rw [markSelectableAll_eq_map, find?_map_of_value value_markSelectable])
    children_markSelectable (fun _ _ _ _ => trivial) α l trivial

end PathHierarchy.Forest.Node
