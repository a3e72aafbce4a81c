import PathHierarchy.Proofs.Addresses
import Mathlib.Tactic.Set

/-!
# The sorting loop sorts every level

The loop behind `Node.sortChildren` sorts the children of one node a round and pushes the
addresses of those children. What it still has to do is to sort fully below every address on
its stack (`SortStack.finish`), and a round does not change that (`finish_next`): sorting a
node's own children and then fully below each child is sorting fully below the node, because
sorting below a child changes neither its value nor so the order its siblings were put in.

The addresses on the stack are apart, none above another, and each names a node, so a change
through one leaves the others as they were. Each round takes one node off what is left to sort
(`next_sound`), so the loop ends after exactly one round per node, having sorted every level
as the recursive `Node.sortDeep` does (`sortChildren_eq`). The rounds visit the addresses of
the result, each once (`visits_perm`): a round visits the top address, and what is below it in
the result is below the children it pushes.

The builder sorts the roots by value and then runs the loop below each root; by
`sortChildren_eq` that is the recursive sort of the whole forest (`arrange_eq`), the form the
proofs about sorted builds work with.
-/

set_option autoImplicit false

namespace PathHierarchy.Forest

namespace Node

/-! ### Addresses -/

/-- Two addresses are apart when neither leads through the other. -/
def Apart (α β : List Nat) : Prop := ¬ α <+: β ∧ ¬ β <+: α

theorem Apart.symm {α β : List Nat} (h : Apart α β) : Apart β α := ⟨h.2, h.1⟩

@[simp] theorem get?_nil (n : Node) : n.get? [] = some n := by
  rw [get?]

@[simp] theorem get?_cons (n : Node) (i : Nat) (α : List Nat) :
    n.get? (i :: α) = n.children[i]?.bind fun c => c.get? α := by
  rw [get?]

@[simp] theorem modifyAt_nil (n : Node) (f : Node → Node) : n.modifyAt f [] = f n := by
  rw [modifyAt]

@[simp] theorem modifyAt_cons (n : Node) (f : Node → Node) (i : Nat) (α : List Nat) :
    n.modifyAt f (i :: α) =
      { n with children := n.children.modify i fun c => c.modifyAt f α } := by
  rw [modifyAt]

theorem get?_append (n : Node) (α β : List Nat) :
    n.get? (α ++ β) = (n.get? α).bind fun m => m.get? β := by
  induction α generalizing n with
  | nil => simp
  | cons i α ih =>
    rw [List.cons_append, get?_cons, get?_cons, Option.bind_assoc]
    simp only [ih]

theorem mk_fields (n : Node) : (⟨n.value, n.title, n.children, n.selectable⟩ : Node) = n := by
  cases n
  rfl

theorem modifyAt_of_get?_eq_none (f : Node → Node) :
    ∀ (α : List Nat) (n : Node), n.get? α = none → n.modifyAt f α = n
  | [], n, h => by simp at h
  | i :: α, n, h => by
    rw [modifyAt_cons]
    cases hi : n.children[i]? with
    | none =>
      rw [List.modify_eq_self (by simpa using hi), mk_fields]
    | some c =>
      rw [get?_cons, hi, Option.bind_some] at h
      have hc := modifyAt_of_get?_eq_none f α c h
      have hlist : n.children.modify i (fun c => c.modifyAt f α) = n.children := by
        apply List.ext_getElem?
        intro j
        rw [List.getElem?_modify]
        by_cases hij : i = j
        · subst hij
          simp [hi, hc]
        · simp [hij]
      rw [hlist, mk_fields]

theorem modifyAt_id : ∀ (α : List Nat) (n : Node), n.modifyAt (fun m => m) α = n
  | [], n => by simp
  | i :: α, n => by
    have hkids : n.children.modify i (fun c => c.modifyAt (fun m => m) α) = n.children := by
      apply List.ext_getElem?
      intro j
      simp [List.getElem?_modify, modifyAt_id α]
    rw [modifyAt_cons, hkids, mk_fields]

theorem get?_modifyAt_self (f : Node → Node) :
    ∀ (α : List Nat) (n : Node), (n.modifyAt f α).get? α = (n.get? α).map f
  | [], n => by simp
  | i :: α, n => by
    rw [modifyAt_cons, get?_cons, get?_cons, List.getElem?_modify]
    cases n.children[i]? with
    | none => rfl
    | some c => simp [get?_modifyAt_self f α c]

theorem get?_modifyAt_of_apart (f : Node → Node) :
    ∀ (α β : List Nat) (n : Node), Apart α β → (n.modifyAt f α).get? β = n.get? β
  | [], _, _, h => absurd (List.nil_prefix) h.1
  | _ :: _, [], _, h => absurd (List.nil_prefix) h.2
  | i :: α, j :: β, n, h => by
    rw [modifyAt_cons, get?_cons, get?_cons, List.getElem?_modify]
    by_cases hij : i = j
    ·
      subst hij
      have hbelow : Apart α β := ⟨fun hp => h.1 (List.prefix_cons_inj i |>.2 hp),
        fun hp => h.2 (List.prefix_cons_inj i |>.2 hp)⟩
      cases n.children[i]? with
      | none => rfl
      | some c => simp [get?_modifyAt_of_apart f α β c hbelow]
    · simp [hij]

theorem modifyAt_modifyAt (f g : Node → Node) :
    ∀ (α : List Nat) (n : Node), (n.modifyAt f α).modifyAt g α = n.modifyAt (g ∘ f) α
  | [], n => by simp
  | i :: α, n => by
    simp only [modifyAt_cons, List.modify_modify_eq]
    congr 2
    funext c
    exact modifyAt_modifyAt f g α c

theorem modifyAt_append_singleton (f : Node → Node) :
    ∀ (α : List Nat) (i : Nat) (n : Node),
      n.modifyAt f (α ++ [i]) =
        n.modifyAt (fun m => { m with children := m.children.modify i f }) α
  | [], i, n => by simp
  | j :: α, i, n => by
    simp only [List.cons_append, modifyAt_cons]
    congr 2
    funext c
    exact modifyAt_append_singleton f α i c

theorem modifyAt_congr {f g : Node → Node} :
    ∀ (α : List Nat) (n : Node) {m : Node}, n.get? α = some m → f m = g m →
      n.modifyAt f α = n.modifyAt g α
  | [], n, m, h, hfg => by
    rw [get?_nil, Option.some.injEq] at h
    subst h
    simp [hfg]
  | i :: α, n, m, h, hfg => by
    rw [get?_cons] at h
    obtain ⟨c, hc, hcm⟩ := Option.bind_eq_some_iff.1 h
    simp only [modifyAt_cons]
    congr 1
    apply List.ext_getElem?
    intro j
    rw [List.getElem?_modify, List.getElem?_modify]
    by_cases hij : i = j
    · subst hij
      simp [hc, modifyAt_congr α c hcm hfg]
    · simp [hij]

theorem apart_append_singleton (α : List Nat) {i j : Nat} (h : i ≠ j) :
    Apart (α ++ [i]) (α ++ [j]) := by
  refine ⟨fun hp => h ?_, fun hp => h ?_⟩
  · simpa using (List.prefix_append_right_inj α).1 hp
  · exact (by simpa using (List.prefix_append_right_inj α).1 hp : j = i).symm

theorem Apart.append_singleton {α β : List Nat} (h : Apart α β) (i : Nat) :
    Apart (α ++ [i]) β := by
  refine ⟨fun hp => h.1 ((List.prefix_append α [i]).trans hp), fun hp => ?_⟩
  rcases List.prefix_concat_iff.1 hp with rfl | hp
  · exact h.1 (List.prefix_append α [i])
  · exact h.2 hp

/-! ### Sorting one level, then the levels below -/

theorem sortDeepAll_eq_map (l : List Node) : sortDeepAll l = l.map sortDeep := by
  induction l with
  | nil => rfl
  | cons n ns ih => rw [sortDeepAll, ih, List.map_cons]

@[simp] theorem value_sortDeep (n : Node) : n.sortDeep.value = n.value := by
  cases n
  rfl

@[simp] theorem title_sortDeep (n : Node) : n.sortDeep.title = n.title := by
  cases n
  rfl

@[simp] theorem selectable_sortDeep (n : Node) : n.sortDeep.selectable = n.selectable := by
  cases n
  rfl

theorem children_sortDeep (n : Node) :
    n.sortDeep.children = (sortDeepAll n.children).mergeSort valueLE := by
  cases n
  rfl

theorem sortDeep_eq_map_sortOwnChildren (n : Node) :
    n.sortDeep =
      { n.sortOwnChildren with children := n.sortOwnChildren.children.map sortDeep } := by
  cases n with
  | mk v t cs s =>
    rw [sortDeep, sortOwnChildren, sortDeepAll_eq_map,
      List.map_mergeSort (s := valueLE) fun a _ b _ => by simp only [valueLE, value_sortDeep]]

theorem children_sortDeep_perm (n : Node) :
    n.sortDeep.children.Perm (n.children.map sortDeep) := by
  rw [children_sortDeep, sortDeepAll_eq_map]
  exact List.mergeSort_perm _ _

theorem getElem?_foldl_modify (f : Node → Node) :
    ∀ (l : List Nat) (cs : List Node) (j : Nat), l.Nodup →
      (l.foldl (fun cs i => cs.modify i f) cs)[j]? = if j ∈ l then cs[j]?.map f else cs[j]?
  | [], cs, j, _ => by simp
  | i :: l, cs, j, hnd => by
    obtain ⟨hi, hnd⟩ := List.nodup_cons.1 hnd
    rw [List.foldl_cons, getElem?_foldl_modify f l _ j hnd, List.getElem?_modify]
    by_cases hj : j ∈ l
    · have hij : i ≠ j := fun e => hi (e ▸ hj)
      simp [hj, hij]
    · by_cases hij : i = j
      · subst hij
        simp [hj]
      · simp [hj, hij, Ne.symm hij]

theorem foldl_modify_range (f : Node → Node) (cs : List Node) :
    (List.range cs.length).reverse.foldl (fun cs i => cs.modify i f) cs = cs.map f := by
  apply List.ext_getElem?
  intro j
  rw [getElem?_foldl_modify f _ cs j (List.nodup_reverse.2 List.nodup_range), List.getElem?_map]
  by_cases hj : j < cs.length
  · simp [hj]
  · simp [hj]

theorem foldl_modifyAt_children (g : Node → Node) (α : List Nat) :
    ∀ (l : List Nat) (r : Node),
      (l.map (α ++ [·])).foldl (fun r β => r.modifyAt g β) r =
        r.modifyAt
          (fun m => { m with children := l.foldl (fun cs i => cs.modify i g) m.children }) α
  | [], r => by
    simp only [List.map_nil, List.foldl_nil, mk_fields]
    exact (modifyAt_id α r).symm
  | i :: l, r => by
    rw [List.map_cons, List.foldl_cons, foldl_modifyAt_children g α l, modifyAt_append_singleton,
      modifyAt_modifyAt]
    rfl

/-! ### The addresses of all nodes -/

mutual

/-- The addresses of a node and of every node below it, in pre-order. -/
def positions : Node → List (List Nat)
  | ⟨_, _, cs, _⟩ => [] :: positionsFrom 0 cs

/-- The addresses of a list of children, the first at position `i`, and of every node below
them. -/
def positionsFrom : Nat → List Node → List (List Nat)
  | _, [] => []
  | i, c :: cs => (positions c).map (i :: ·) ++ positionsFrom (i + 1) cs

end

theorem positions_eq (n : Node) : n.positions = [] :: positionsFrom 0 n.children := by
  cases n
  rw [positions]

theorem positionsFrom_eq_flatMap :
    ∀ (cs : List Node) (j : Nat), positionsFrom j cs =
      (List.range cs.length).flatMap fun i =>
        (cs[i]?.map fun c => c.positions.map ((j + i) :: ·)).getD []
  | [], _ => by simp [positionsFrom]
  | c :: cs, j => by
    rw [positionsFrom, positionsFrom_eq_flatMap cs (j + 1), List.length_cons,
      List.range_succ_eq_map, List.flatMap_cons, List.flatMap_map]
    simp [Nat.add_assoc, Nat.add_comm 1]

theorem head_of_mem_positionsFrom :
    ∀ {cs : List Node} {j : Nat} {β : List Nat}, β ∈ positionsFrom j cs →
      ∃ i γ, j ≤ i ∧ β = i :: γ
  | [], _, _, h => by simp [positionsFrom] at h
  | c :: cs, j, β, h => by
    rw [positionsFrom, List.mem_append, List.mem_map] at h
    rcases h with ⟨γ, -, rfl⟩ | h
    · exact ⟨j, γ, Nat.le_refl j, rfl⟩
    · obtain ⟨i, γ, hi, rfl⟩ := head_of_mem_positionsFrom h
      exact ⟨i, γ, by omega, rfl⟩

mutual

theorem nodup_positions : ∀ n : Node, n.positions.Nodup
  | ⟨_, _, cs, _⟩ => by
    rw [positions, List.nodup_cons]
    refine ⟨fun h => ?_, nodup_positionsFrom 0 cs⟩
    obtain ⟨i, γ, -, hγ⟩ := head_of_mem_positionsFrom h
    cases hγ

theorem nodup_positionsFrom : ∀ (j : Nat) (cs : List Node), (positionsFrom j cs).Nodup
  | _, [] => List.nodup_nil
  | j, c :: cs => by
    rw [positionsFrom, List.nodup_append]
    refine ⟨(nodup_positions c).map fun _ _ h => List.cons_injective h,
      nodup_positionsFrom (j + 1) cs, ?_⟩
    intro β hβ β' hβ' he
    obtain ⟨γ, -, rfl⟩ := List.mem_map.1 hβ
    obtain ⟨i, γ', hi, rfl⟩ := head_of_mem_positionsFrom hβ'
    cases he
    omega

end

mutual

theorem length_positions : ∀ n : Node, n.positions.length = n.preorder.length
  | ⟨v, t, cs, s⟩ => by
    rw [positions, preorder, List.length_cons, List.length_cons, length_positionsFrom 0 cs]

theorem length_positionsFrom : ∀ (j : Nat) (cs : List Node),
    (positionsFrom j cs).length = (preorderAll cs).length
  | _, [] => rfl
  | j, c :: cs => by
    rw [positionsFrom, preorderAll, List.length_append, List.length_append, List.length_map,
      length_positions c, length_positionsFrom (j + 1) cs]

end

theorem filterMap_getElem?_range {β : Type} :
    ∀ l : List β, (List.range l.length).filterMap (l[·]?) = l
  | [] => rfl
  | x :: l => by
    rw [List.length_cons, List.range_succ_eq_map, List.filterMap_cons, List.filterMap_map]
    simpa using filterMap_getElem?_range l

end Node

namespace SortStack

open Node

/-- What the loop still has to do: sort fully below every address on the stack. -/
def finish (s : SortStack) : Node := s.pending.foldl (fun r α => r.modifyAt sortDeep α) s.root

/-- The addresses a round pushes: those of the children of the node it sorted, the last on
top. -/
def pushed (α : List Nat) (count : Nat) : List (List Nat) :=
  (List.range count).reverse.map (α ++ [·])

theorem next_cons (root : Node) (α : List Nat) (rest : List (List Nat)) :
    next ⟨root, α :: rest⟩ = some (α, ⟨root.modifyAt sortOwnChildren α,
      pushed α (((root.get? α).map (·.children.length)).getD 0) ++ rest⟩) := by
  rw [next, get?_modifyAt_self]
  cases root.get? α with
  | none => rfl
  | some n => simp [pushed, sortOwnChildren]

theorem next_eq_none_iff (s : SortStack) : s.next = none ↔ s.pending = [] := by
  rcases s with ⟨root, _ | ⟨α, rest⟩⟩
  · exact iff_of_true rfl rfl
  · rw [next_cons]
    exact iff_of_false (fun h => by cases h) (fun h => by cases h)

theorem next_eq_some {root : Node} {pending : List (List Nat)} {α : List Nat} {s' : SortStack}
    (h : next ⟨root, pending⟩ = some (α, s')) : ∃ rest, pending = α :: rest ∧
      s' = ⟨root.modifyAt sortOwnChildren α,
        pushed α (((root.get? α).map (·.children.length)).getD 0) ++ rest⟩ := by
  cases pending with
  | nil => cases h
  | cons β rest =>
    rw [next_cons, Option.some.injEq, Prod.mk.injEq] at h
    obtain ⟨rfl, rfl⟩ := h
    exact ⟨rest, rfl, rfl⟩

theorem get?_child_sortOwnChildren {root n : Node} {α : List Nat} (hn : root.get? α = some n)
    (i : Nat) :
    (root.modifyAt sortOwnChildren α).get? (α ++ [i]) = n.sortOwnChildren.children[i]? := by
  rw [get?_append, get?_modifyAt_self, hn, Option.map_some, Option.bind_some, get?_cons]
  cases n.sortOwnChildren.children[i]? <;> rfl

/-- A round leaves what is still to do as it was: the node it sorts gets its own children
sorted, and the addresses it pushes are the ones below which the rest is sorted. -/
theorem finish_next {s s' : SortStack} {α : List Nat} (h : s.next = some (α, s')) :
    s'.finish = s.finish := by
  rcases s with ⟨root, pending⟩
  obtain ⟨rest, rfl, rfl⟩ := next_eq_some h
  simp only [finish, List.foldl_append, List.foldl_cons]
  congr 1
  cases hα : root.get? α with
  | none =>
    simp [pushed, modifyAt_of_get?_eq_none _ α root hα]
  | some n =>
    rw [Option.map_some, Option.getD_some, pushed, foldl_modifyAt_children, modifyAt_modifyAt]
    refine modifyAt_congr α root hα ?_
    rw [sortDeep_eq_map_sortOwnChildren n, Function.comp_apply]
    have hlen : n.children.length = n.sortOwnChildren.children.length := by
      simp [sortOwnChildren]
    rw [hlen, foldl_modify_range]

/-! ### What is left to sort -/

/-- How many nodes the loop has still to sort: those at the addresses on the stack and all
below them. -/
def work (s : SortStack) : Nat := (preorderAll (s.pending.filterMap s.root.get?)).length

/-- What the loop keeps of its stack: the addresses on it are apart, and each names a node. -/
structure Sound (s : SortStack) : Prop where
  apart : s.pending.Pairwise Apart
  valid : ∀ α ∈ s.pending, (s.root.get? α).isSome

theorem sound_start (n : Node) :
    (⟨n, [[]]⟩ : SortStack).Sound ∧ work ⟨n, [[]]⟩ = n.preorder.length :=
  ⟨⟨List.pairwise_singleton _ _, by simp⟩, by simp [work]⟩

/-- A round keeps the stack sound and takes one node off what is left to sort. -/
theorem next_sound {s s' : SortStack} {α : List Nat} (hs : s.Sound)
    (h : s.next = some (α, s')) : s'.Sound ∧ s'.work + 1 = s.work := by
  rcases s with ⟨root, pending⟩
  obtain ⟨rest, rfl, rfl⟩ := next_eq_some h
  obtain ⟨n, hn⟩ := Option.isSome_iff_exists.1 (hs.valid α (List.mem_cons_self))
  obtain ⟨hαrest, hrest⟩ := List.pairwise_cons.1 hs.apart
  set root' := root.modifyAt sortOwnChildren α
  have hkid : ∀ i, root'.get? (α ++ [i]) = n.sortOwnChildren.children[i]? :=
    get?_child_sortOwnChildren hn
  have hsame : ∀ γ ∈ rest, root'.get? γ = root.get? γ :=
    fun γ hγ => get?_modifyAt_of_apart _ α γ root (hαrest γ hγ)
  have hcount : ((root.get? α).map (·.children.length)).getD 0 =
      n.sortOwnChildren.children.length := by
    simp [hn, sortOwnChildren]
  rw [hcount]
  refine ⟨⟨?_, ?_⟩, ?_⟩
  · refine List.pairwise_append.2 ⟨?_, hrest, ?_⟩
    · rw [pushed, List.pairwise_map, List.pairwise_reverse]
      exact List.nodup_range.imp fun hij => apart_append_singleton α (Ne.symm hij)
    · intro κ hκ γ hγ
      obtain ⟨i, -, rfl⟩ := List.mem_map.1 hκ
      exact (hαrest γ hγ).append_singleton i
  · intro γ hγ
    rcases List.mem_append.1 hγ with hγ | hγ
    · obtain ⟨i, hi, rfl⟩ := List.mem_map.1 hγ
      rw [List.mem_reverse, List.mem_range] at hi
      simp [hkid, hi]
    · rw [hsame γ hγ]
      exact hs.valid γ (List.mem_cons_of_mem _ hγ)
  ·
    have hpushed : (pushed α n.sortOwnChildren.children.length).filterMap root'.get? =
        n.sortOwnChildren.children.reverse := by
      rw [pushed, List.filterMap_map, List.filterMap_reverse]
      simp only [Function.comp_def, hkid]
      rw [filterMap_getElem?_range]
    have hperm : (addressesAll n.sortOwnChildren.children).Perm (addressesAll n.children) :=
      addressesAll_perm (List.mergeSort_perm _ _)
    have hrest' : rest.filterMap root'.get? = rest.filterMap root.get? := List.filterMap_congr hsame
    have hbefore : work ⟨root, α :: rest⟩ =
        n.preorder.length + (preorderAll (rest.filterMap root.get?)).length := by
      simp [work, hn]
    have hafter : work ⟨root', pushed α n.sortOwnChildren.children.length ++ rest⟩ =
        (preorderAll n.sortOwnChildren.children).length +
          (preorderAll (rest.filterMap root.get?)).length := by
      simp only [work, List.filterMap_append, hpushed, hrest', preorderAll_append,
        List.length_append, length_preorderAll_reverse]
    rw [hbefore, hafter, preorder_eq, List.length_cons, ← length_addressesAll, hperm.length_eq,
      length_addressesAll]
    omega

theorem work_eq_zero_iff {s : SortStack} (hs : s.Sound) : s.work = 0 ↔ s.pending = [] := by
  rcases s with ⟨root, _ | ⟨α, rest⟩⟩
  · exact iff_of_true rfl rfl
  · obtain ⟨n, hn⟩ := Option.isSome_iff_exists.1 (hs.valid α (List.mem_cons_self))
    refine iff_of_false ?_ (fun h => by cases h)
    simp [work, hn, preorder_eq]

theorem run_sound : ∀ (rounds : Nat) (s : SortStack), s.Sound →
    (s.run rounds).Sound ∧ (s.run rounds).finish = s.finish ∧
      (s.run rounds).work = s.work - rounds
  | 0, s, hs => ⟨hs, rfl, rfl⟩
  | rounds + 1, s, hs => by
    cases h : s.next with
    | none =>
      have hw : s.work = 0 := (work_eq_zero_iff hs).2 ((next_eq_none_iff s).1 h)
      rw [run, h]
      exact ⟨hs, rfl, by dsimp only; omega⟩
    | some step =>
      obtain ⟨α, s'⟩ := step
      rw [run, h]
      obtain ⟨hs', hw⟩ := next_sound hs h
      obtain ⟨hs'', hfin, hwork⟩ := run_sound rounds s' hs'
      exact ⟨hs'', hfin.trans (finish_next h), by dsimp only; omega⟩

/-! ### The nodes the loop visits -/

/-- The addresses the loop pops in at most `rounds` rounds, in order. -/
def visits : Nat → SortStack → List (List Nat)
  | 0, _ => []
  | rounds + 1, s =>
    match s.next with
    | none => []
    | some (α, s') => α :: visits rounds s'

/-- The addresses the loop has still to visit: every address at or below one on the stack, in
the node as it will be sorted there. -/
def toVisit (s : SortStack) : List (List Nat) :=
  s.pending.flatMap fun α =>
    ((s.root.get? α).map fun m => m.sortDeep.positions.map (α ++ ·)).getD []

theorem toVisit_next {s s' : SortStack} {α : List Nat} (hs : s.Sound)
    (h : s.next = some (α, s')) : (α :: s'.toVisit).Perm s.toVisit := by
  rcases s with ⟨root, pending⟩
  obtain ⟨rest, rfl, rfl⟩ := next_eq_some h
  obtain ⟨n, hn⟩ := Option.isSome_iff_exists.1 (hs.valid α (List.mem_cons_self))
  obtain ⟨hαrest, -⟩ := List.pairwise_cons.1 hs.apart
  set root' := root.modifyAt sortOwnChildren α
  set cs := n.sortOwnChildren.children
  have hkid : ∀ i, root'.get? (α ++ [i]) = cs[i]? := get?_child_sortOwnChildren hn
  have hlen : n.children.length = cs.length := by simp [cs, sortOwnChildren]
  have hrest : ∀ γ ∈ rest, root'.get? γ = root.get? γ :=
    fun γ hγ => get?_modifyAt_of_apart _ α γ root (hαrest γ hγ)
  have hbelow : n.sortDeep.positions.map (α ++ ·) =
      α :: (List.range cs.length).flatMap fun i =>
        (cs[i]?.map fun c => c.sortDeep.positions.map ((α ++ [i]) ++ ·)).getD [] := by
    rw [sortDeep_eq_map_sortOwnChildren, positions_eq, positionsFrom_eq_flatMap, List.map_cons,
      List.append_nil, List.map_flatMap, List.length_map]
    congr 1
    apply List.flatMap_congr
    intro i _
    rw [List.getElem?_map]
    cases cs[i]? <;> simp [Function.comp_def]
  simp only [toVisit, List.flatMap_cons, List.flatMap_append, hn, Option.map_some,
    Option.getD_some, hlen, hbelow, List.cons_append]
  refine List.Perm.cons _ (List.Perm.append ?_ (List.Perm.of_eq (List.flatMap_congr fun γ hγ => by
    rw [hrest γ hγ])))
  rw [pushed, List.flatMap_map]
  simp only [hkid]
  exact List.Perm.flatMap_right _ (List.reverse_perm _)

/-- Given rounds enough, the loop visits exactly what it has still to visit, each address once. -/
theorem visits_perm : ∀ (rounds : Nat) (s : SortStack), s.Sound → s.work ≤ rounds →
    (visits rounds s).Perm s.toVisit
  | 0, s, hs, hw => by
    have hnil : s.pending = [] := (work_eq_zero_iff hs).1 (by omega)
    simp [visits, toVisit, hnil]
  | rounds + 1, s, hs, hw => by
    cases h : s.next with
    | none =>
      have hnil : s.pending = [] := (next_eq_none_iff s).1 h
      rw [visits, h]
      simp [toVisit, hnil]
    | some step =>
      obtain ⟨α, s'⟩ := step
      obtain ⟨hs', hw'⟩ := next_sound hs h
      rw [visits, h]
      exact ((visits_perm rounds s' hs' (by omega)).cons α).trans (toVisit_next hs h)

theorem pending_run_start_eq_nil_iff (n : Node) (rounds : Nat) :
    (run rounds ⟨n, [[]]⟩).pending = [] ↔ n.preorder.length ≤ rounds := by
  obtain ⟨hs, hw⟩ := sound_start n
  obtain ⟨hs', -, hwork⟩ := run_sound rounds _ hs
  rw [← work_eq_zero_iff hs', hwork, hw]
  omega

theorem finish_of_pending_eq_nil {s : SortStack} (h : s.pending = []) : s.finish = s.root := by
  rw [finish, h, List.foldl_nil]

end SortStack

namespace Node

open SortStack

/-- The loop, given one round per node, sorts as the recursion does. -/
theorem sortChildren_eq (n : Node) : n.sortChildren = n.sortDeep := by
  obtain ⟨hs, -⟩ := sound_start n
  have hdone := (pending_run_start_eq_nil_iff n n.preorder.length).2 (Nat.le_refl _)
  have hfinish := (run_sound n.preorder.length _ hs).2.1
  rw [finish_of_pending_eq_nil hdone] at hfinish
  rw [sortChildren, hfinish]
  simp [finish]

/-- Sorting a node in place with a stack of references sorts its children by value at every
level: the result is the node sorted recursively, which sorts the node's children stably by
value and then sorts below each of them. The loop sorts one node a round and empties its stack
after exactly as many rounds as there are nodes, not one fewer; each round visits a node, and
the addresses it visits are those of all the nodes of the result, each once. Sorting only
reorders: every node keeps its value, which is also its key, its title and its flag, and its
children are its old children, each sorted below, in another order. -/
theorem sortChildren_eq_sortDeep (n : Node) :
    n.sortChildren = n.sortDeep ∧
      n.sortDeep = { n with children := (n.children.mergeSort valueLE).map sortDeep } ∧
      (∀ rounds, (run rounds ⟨n, [[]]⟩).pending = [] ↔ n.preorder.length ≤ rounds) ∧
      (visits n.preorder.length ⟨n, [[]]⟩).Perm n.sortChildren.positions ∧
      (visits n.preorder.length ⟨n, [[]]⟩).Nodup ∧
      (visits n.preorder.length ⟨n, [[]]⟩).length = n.preorder.length ∧
      n.sortDeep.value = n.value ∧ n.sortDeep.title = n.title ∧
      n.sortDeep.selectable = n.selectable ∧
      n.sortDeep.children.Perm (n.children.map sortDeep) := by
  obtain ⟨hs, hw⟩ := sound_start n
  have hsorted := sortChildren_eq n
  have hvisits : (visits n.preorder.length ⟨n, [[]]⟩).Perm n.sortChildren.positions := by
    have hperm := visits_perm n.preorder.length _ hs (Nat.le_of_eq hw)
    rw [hsorted]
    simpa [toVisit] using hperm
  have hcount : (visits n.preorder.length ⟨n, [[]]⟩).length = n.preorder.length :=
    calc (visits n.preorder.length ⟨n, [[]]⟩).length
        = n.sortDeep.positions.length := by rw [hvisits.length_eq, hsorted]
      _ = n.sortDeep.addresses.length := by rw [length_positions, length_addresses]
      _ = n.preorder.length := by rw [(addresses_sortDeep n).length_eq, length_addresses]
  exact ⟨hsorted, sortDeep_eq_map_sortOwnChildren n, pending_run_start_eq_nil_iff n, hvisits,
    hvisits.nodup_iff.2 (nodup_positions _), hcount, value_sortDeep n, title_sortDeep n,
    selectable_sortDeep n, children_sortDeep_perm n⟩

example :
    (Node.sortChildren ⟨"a", "a", [⟨"c", "c", [⟨"z", "z", [], true⟩, ⟨"y", "y", [], true⟩], false⟩,
      ⟨"b", "b", [], true⟩], false⟩).preorder.map (·.title) = ["a", "b", "c", "y", "z"] := by
  cbv

end Node

namespace Builder

/-- The builder sorts the roots by value and then runs the loop below each root: this is the
recursive sort of every root, with the roots sorted by value. -/
theorem arrange_eq (b : Builder) (forest : Forest) :
    b.arrange forest =
      if b.ordering = .sorted then (Node.sortDeepAll forest).mergeSort Node.valueLE
      else forest := by
  rw [arrange]
  split
  · rw [Node.sortDeepAll_eq_map, ← List.map_mergeSort (r := Node.valueLE)
      fun _ _ _ _ => by simp only [Node.valueLE, Node.value_sortDeep]]
    exact List.map_congr_left fun n _ => Node.sortChildren_eq n
  · rfl

end Builder

end PathHierarchy.Forest
