import PathHierarchy.Proofs.Arena.Steps
import PathHierarchy.Proofs.Nested
import Mathlib.Tactic.Set

/-!
# Walking a chain through an arena

`Arena.insertChain` walks a chain from a parent slot: it finds or makes the child with the
first value, retitles it if the chain ends there, and walks on from it. The walk keeps the
arena a forest and touches nothing outside the parent's subtree (`Keeps`), and on the nodes
under the parent it does what `Nested.insertChain` does on a nested list (`view_insertChain`).

The proof follows the walk. The step into the child changes only the child's subtree; the
child's siblings reach none of it (`Reach.disjoint`), so their nodes stay as they were.
-/

set_option autoImplicit false

namespace PathHierarchy.Forest.Arena

variable {a : Arena} {p : Option Nat} {v s : String}

theorem Agree.refl (a : Arena) (j : Nat) : Agree a a j := ⟨rfl, rfl, rfl⟩

theorem Agree.trans {a₁ a₂ a₃ : Arena} {j : Nat} (h₁ : Agree a₁ a₂ j) (h₂ : Agree a₂ a₃ j) :
    Agree a₁ a₃ j :=
  ⟨h₂.1.trans h₁.1, h₂.2.1.trans h₁.2.1, h₂.2.2.trans h₁.2.2⟩

theorem getOrInsert_found_or_new (hw : a.WF) :
    (a.getOrInsert p v s).1 ∈ a.kids p ∧ (a.getOrInsert p v s).2 = a ∨
      (a.siblings p).index[v]? = none ∧ (a.getOrInsert p v s).1 = a.slots.size := by
  cases h : (a.siblings p).index[v]? with
  | some c =>
    rw [getOrInsert_of_index h]
    exact .inl ⟨((hw.index p v c).1 h).1, rfl⟩
  | none =>
    refine .inr ⟨rfl, ?_⟩
    rw [getOrInsert_of_index_none h]

theorem getOrInsert_mem (hw : a.WF) (hp : ∀ q ∈ p, q < a.slots.size) :
    (a.getOrInsert p v s).1 ∈ (a.getOrInsert p v s).2.kids p ∧
      ((a.getOrInsert p v s).2.slot (a.getOrInsert p v s).1).path = v := by
  cases h : (a.siblings p).index[v]? with
  | some c =>
    rw [getOrInsert_of_index h]
    exact (hw.index p v c).1 h
  | none =>
    rw [getOrInsert_fst_of_index_none h, kids_getOrInsert_of_index_none h hp,
      slot_getOrInsert_of_index_none h hp]
    simp

theorem size_le_getOrInsert (a : Arena) (p : Option Nat) (v s : String) :
    a.slots.size ≤ (a.getOrInsert p v s).2.slots.size := by
  cases h : (a.siblings p).index[v]? with
  | some c => exact Nat.le_of_eq (by rw [getOrInsert_of_index h])
  | none => rw [size_getOrInsert_of_index_none h]; omega

theorem agree_getOrInsert (hp : ∀ q ∈ p, q < a.slots.size) {j : Nat} (hj : j < a.slots.size)
    (hpj : p ≠ some j) : Agree a (a.getOrInsert p v s).2 j := by
  cases h : (a.siblings p).index[v]? with
  | some c => rw [getOrInsert_of_index h]; exact Agree.refl a j
  | none =>
    have hslot := slot_getOrInsert_of_index_none (s := s) h hp j
    rw [if_neg (Nat.ne_of_lt hj), if_neg hpj] at hslot
    refine ⟨by rw [hslot], by rw [hslot], ?_⟩
    rw [kids_getOrInsert_of_index_none h hp, if_neg (Ne.symm hpj)]

/-- Retitle slot `idx` when the chain ends there and has a label. -/
def relabel (label : Option String) (rest : List (String × String)) (a : Arena) (idx : Nat) :
    Arena :=
  match rest, label with
  | [], some l => a.setTitle idx l
  | _, _ => a

theorem insertChain_cons (label : Option String) (v s : String) (rest : List (String × String))
    (p : Option Nat) (a : Arena) :
    a.insertChain label ((v, s) :: rest) p =
      (relabel label rest (a.getOrInsert p v s).2 (a.getOrInsert p v s).1).insertChain label
        rest (some (a.getOrInsert p v s).1) := rfl

section Relabel

variable (label : Option String) (rest : List (String × String)) (a : Arena) (idx : Nat)

theorem WF.relabel {a : Arena} (hw : a.WF) : (relabel label rest a idx).WF := by
  unfold Arena.relabel
  split
  · exact hw.setTitle _ _
  · exact hw

theorem size_relabel : (relabel label rest a idx).slots.size = a.slots.size := by
  unfold relabel
  split
  · exact size_setTitle _ _ _
  · rfl

theorem kids_relabel (p' : Option Nat) : (relabel label rest a idx).kids p' = a.kids p' := by
  unfold relabel
  split
  · exact kids_setTitle _ _ _ _
  · rfl

theorem path_relabel (j : Nat) : ((relabel label rest a idx).slot j).path = (a.slot j).path := by
  unfold relabel
  split
  · exact path_setTitle _ _ _ _
  · rfl

theorem agree_relabel {j : Nat} (hj : j ≠ idx) : Agree a (relabel label rest a idx) j := by
  unfold relabel
  split
  · refine ⟨path_setTitle _ _ _ _, ?_, kids_setTitle _ _ _ _⟩
    rw [slot_setTitle, if_neg fun h => hj h.1]
  · exact Agree.refl a j

theorem title_relabel (h : idx < a.slots.size) :
    ((relabel label rest a idx).slot idx).title =
      if rest.isEmpty then label.getD (a.slot idx).title else (a.slot idx).title := by
  unfold relabel
  split
  · rw [slot_setTitle, if_pos ⟨rfl, h⟩]
    rfl
  · next hne =>
    cases rest with
    | nil => cases label with
      | none => rfl
      | some l => exact (hne l rfl rfl).elim
    | cons => rfl

end Relabel

/-- What a walk from `parent` keeps: the values of the slots there were, the title of `parent`
itself, everything about the slots outside `parent`'s subtree, and the roots when `parent` is
a slot. -/
structure Keeps (a a' : Arena) (parent : Option Nat) : Prop where
  size_le : a.slots.size ≤ a'.slots.size
  path : ∀ {j}, j < a.slots.size → (a'.slot j).path = (a.slot j).path
  title : ∀ q ∈ parent, (a'.slot q).title = (a.slot q).title
  outside : ∀ q ∈ parent, ∀ {j}, j < a.slots.size → ¬ a.Reach q j → Agree a a' j
  roots : ∀ q ∈ parent, a'.kids none = a.kids none

theorem Keeps.refl (a : Arena) (parent : Option Nat) : Keeps a a parent :=
  ⟨Nat.le_refl _, fun _ => rfl, fun _ _ => rfl, fun _ _ _ _ _ => Agree.refl a _, fun _ _ => rfl⟩

theorem insertChain_keeps (label : Option String) :
    ∀ (steps : List (String × String)) (p : Option Nat) (a : Arena), a.WF →
      (∀ q ∈ p, q < a.slots.size) →
      (a.insertChain label steps p).WF ∧ Keeps a (a.insertChain label steps p) p
  | [], p, a, hw, _ => ⟨hw, Keeps.refl a p⟩
  | (v, s) :: rest, p, a, hw, hp => by
    rw [insertChain_cons]
    have hw₁ := hw.getOrInsert (v := v) (s := s) hp
    obtain ⟨hc₁, -⟩ := getOrInsert_mem (v := v) (s := s) hw hp
    set c := (a.getOrInsert p v s).1
    set a₁ := (a.getOrInsert p v s).2
    set a₂ := relabel label rest a₁ c
    have hsize₁ : a.slots.size ≤ a₂.slots.size := by
      rw [size_relabel]; exact size_le_getOrInsert a p v s
    have hcn : c < a₂.slots.size := by
      rw [size_relabel]; exact hw₁.kid_lt hc₁
    obtain ⟨hw₃, hk⟩ := insertChain_keeps label rest (some c) a₂ (hw₁.relabel label rest c)
      fun q hq => by cases hq; exact hcn
    have hpc : ∀ q ∈ p, ¬ a₂.Reach c q := fun q hq hr => by
      have := (hr.le (hw₁.relabel label rest c))
      have := hw₁.parent_lt (hq ▸ hc₁ : c ∈ a₁.kids (some q))
      omega
    refine ⟨hw₃, ⟨Nat.le_trans hsize₁ hk.size_le, ?_, ?_, ?_, ?_⟩⟩
    · intro j hj
      rw [hk.path (Nat.lt_of_lt_of_le hj hsize₁), path_relabel]
      exact path_getOrInsert hp hj
    · intro q hq
      have hqn : q < a.slots.size := hp q hq
      rw [(hk.outside c rfl (Nat.lt_of_lt_of_le hqn hsize₁) (hpc q hq)).2.1]
      have hqc : q ≠ c := Nat.ne_of_lt (hw₁.parent_lt (hq ▸ hc₁ : c ∈ a₁.kids (some q)))
      rw [(agree_relabel label rest a₁ c hqc).2.1]
      exact title_getOrInsert hp hqn
    · intro q hq j hj hqj
      have hjq : p ≠ some j := fun e => hqj (by rw [hq] at e; cases e; exact .refl)
      obtain ⟨hjc, hreach⟩ : j ≠ c ∧ ¬ a₂.Reach c j := by
        rcases getOrInsert_found_or_new (v := v) (s := s) (p := p) hw with ⟨hc, ha⟩ | ⟨-, hc⟩
        · refine ⟨?_, fun hr => ?_⟩
          · rintro rfl
            exact hqj (Reach.of_kid (hq ▸ hc))
          · have hr' : a.Reach c j := hr.of_kids_eq fun i => by
              rw [kids_relabel]; exact (congrArg (kids · (some i)) ha).symm
            exact hqj ((Reach.of_kid (hq ▸ hc)).trans hr')
        · have hca : c = a.slots.size := hc
          refine ⟨fun e => by omega, fun hr => ?_⟩
          have := hr.le (hw₁.relabel label rest c)
          omega
      exact ((agree_getOrInsert hp hj hjq).trans (agree_relabel label rest a₁ c hjc)).trans
        (hk.outside c rfl (Nat.lt_of_lt_of_le hj hsize₁) hreach)
    · intro q hq
      rw [hk.roots c rfl, kids_relabel]
      cases h : (a.siblings p).index[v]? with
      | some i => exact congrArg (fun r => r.2.kids none) (getOrInsert_of_index (s := s) h)
      | none => rw [kids_getOrInsert_of_index_none h hp, if_neg fun e => by subst e; cases hq]

theorem reviseOrAdd_view (hw : a.WF) (hp : ∀ q ∈ p, q < a.slots.size) (g : Node → Node) :
    ∃ pre post, (a.getOrInsert p v s).2.kids p = pre ++ (a.getOrInsert p v s).1 :: post ∧
      (∀ k ∈ pre ++ post, k ∈ a.kids p) ∧
      Nested.reviseOrAdd v (Node.leaf v s) g (a.view p) =
        pre.map a.tree ++ g ((a.getOrInsert p v s).2.tree (a.getOrInsert p v s).1) ::
          post.map a.tree := by
  cases h : (a.siblings p).index[v]? with
  | some c =>
    rw [getOrInsert_of_index h]
    obtain ⟨hc, hcv⟩ := (hw.index p v c).1 h
    obtain ⟨pre, post, hkids⟩ := List.append_of_mem hc
    have hnd := hw.nodup p
    rw [hkids] at hnd
    refine ⟨pre, post, hkids, fun k hk => ?_, ?_⟩
    · rw [hkids]
      rcases List.mem_append.1 hk with hk | hk <;> simp [hk]
    · rw [view, hkids, List.map_append, List.map_cons]
      apply Nested.reviseOrAdd_of_split
      · intro y hy
        obtain ⟨k, hk, rfl⟩ := List.mem_map.1 hy
        have hkc : k ≠ c := fun e => (List.nodup_append.1 hnd).2.2 k hk c (by simp) e
        have hkp : k ∈ a.kids p := by rw [hkids]; simp [hk]
        rw [tree_value]
        exact fun hkv => hkc (hw.eq_of_path hkp hc (hkv.trans hcv.symm))
      · rw [tree_value, hcv]
  | none =>
    rw [getOrInsert_fst_of_index_none h, kids_getOrInsert_of_index_none h hp, if_pos rfl]
    refine ⟨a.kids p, [], rfl, by simp, ?_⟩
    have hleaf : (a.getOrInsert p v s).2.tree a.slots.size = Node.leaf v s := by
      rw [tree_eq (hw.getOrInsert hp), slot_getOrInsert_of_index_none h hp, if_pos rfl, view,
        kids_getOrInsert_of_index_none h hp,
        if_neg fun e => Nat.lt_irrefl _ (hp _ e.symm), kids_some_of_size_le (Nat.le_refl _)]
      rfl
    rw [hleaf, Nested.reviseOrAdd_of_forall_ne, view, List.map_nil]
    intro y hy
    obtain ⟨k, hk, rfl⟩ := List.mem_map.1 hy
    rw [tree_value]
    exact hw.index_none h k hk

/-- On the nodes under `parent`, walking a chain through the arena is walking it through the
nested list of those nodes. -/
theorem view_insertChain (label : Option String) :
    ∀ (steps : List (String × String)) (p : Option Nat) (a : Arena), a.WF →
      (∀ q ∈ p, q < a.slots.size) →
      (a.insertChain label steps p).view p = Nested.insertChain label steps (a.view p)
  | [], _, _, _, _ => rfl
  | (v, s) :: rest, p, a, hw, hp => by
    rw [insertChain_cons, Nested.insertChain]
    obtain ⟨pre, post, hsplit, hold, hrev⟩ := reviseOrAdd_view (v := v) (s := s) hw hp
      (fun n => { n with
        children := Nested.insertChain label rest n.children
        title := if rest.isEmpty then label.getD n.title else n.title })
    rw [hrev]
    have hw₁ := hw.getOrInsert (v := v) (s := s) hp
    set c := (a.getOrInsert p v s).1
    set a₁ := (a.getOrInsert p v s).2
    set a₂ := relabel label rest a₁ c
    have hw₂ : a₂.WF := hw₁.relabel label rest c
    have hc₁ : c ∈ a₁.kids p := by rw [hsplit]; simp
    have hc₂ : c ∈ a₂.kids p := by rw [kids_relabel]; exact hc₁
    have hcn : c < a₁.slots.size := hw₁.kid_lt hc₁
    have hcp : ∀ q ∈ p, q < c := fun q hq => hw₁.parent_lt (hq ▸ hc₁ : c ∈ a₁.kids (some q))
    have hc₂n : ∀ q ∈ some c, q < a₂.slots.size := fun q hq => by
      cases hq; rw [size_relabel]; exact hcn
    obtain ⟨hw₃, hkeep⟩ := insertChain_keeps label rest (some c) a₂ hw₂ hc₂n
    have ih := view_insertChain label rest (some c) a₂ hw₂ hc₂n
    set a₃ := a₂.insertChain label rest (some c)
    have hnd : (pre ++ c :: post).Nodup := hsplit ▸ hw₁.nodup p
    have hkids : a₃.kids p = a₁.kids p := by
      rw [← kids_relabel label rest a₁ c]
      cases p with
      | none => exact hkeep.roots c rfl
      | some q =>
        have hq : q < c := hcp q rfl
        refine (hkeep.outside c rfl (by rw [size_relabel]; omega) fun hr => ?_).2.2
        have := hr.le hw₂
        omega
    have hsib : ∀ k ∈ pre ++ post, a₃.tree k = a.tree k := by
      intro k hk
      have hkc : k ≠ c := by
        rintro rfl
        rcases List.mem_append.1 hk with hk | hk
        · exact (List.nodup_append.1 hnd).2.2 _ hk _ (by simp) rfl
        · exact (List.nodup_cons.1 (List.nodup_append.1 hnd).2.1).1 hk
      have hk₁ : k ∈ a₁.kids p := by
        rw [hsplit]; rcases List.mem_append.1 hk with hk | hk <;> simp [hk]
      have hk₀ := hold k hk
      have hkn : k < a.slots.size := hw.kid_lt hk₀
      have h₃ : a₃.tree k = a₂.tree k := tree_congr hw₂ hw₃ fun j hj =>
        hkeep.outside c rfl (hj.lt_size hw₂ (by rw [size_relabel]; exact hw₁.kid_lt hk₁))
          fun hcj => Reach.disjoint hw₂ (by rw [kids_relabel]; exact hk₁) hc₂ hkc hj hcj
      have h₂ : a₂.tree k = a₁.tree k := tree_congr hw₁ hw₂ fun j hj =>
        agree_relabel label rest a₁ c fun hjc =>
          Reach.disjoint hw₁ hk₁ hc₁ hkc hj (hjc ▸ Reach.refl)
      have h₁ : a₁.tree k = a.tree k := tree_congr hw hw₁ fun j hj =>
        agree_getOrInsert hp (hj.lt_size hw hkn) fun hpj => by
          have := hj.le hw
          have := hw.parent_lt (hpj ▸ hk₀ : k ∈ a.kids (some j))
          omega
      rw [h₃, h₂, h₁]
    have hview₂ : a₂.view (some c) = a₁.view (some c) := by
      rw [view, view, kids_relabel]
      apply List.map_congr_left
      intro k hk
      exact tree_congr hw₁ hw₂ fun j hj => agree_relabel label rest a₁ c fun hjc => by
        have := hj.le hw₁
        have := hw₁.parent_lt hk
        omega
    have hchild : a₃.tree c = { a₁.tree c with
        children := Nested.insertChain label rest (a₁.tree c).children
        title := if rest.isEmpty then label.getD (a₁.tree c).title else (a₁.tree c).title } := by
      rw [tree_eq hw₃, tree_eq hw₁, hkeep.path (by rw [size_relabel]; exact hcn), path_relabel,
        hkeep.title c rfl, title_relabel label rest a₁ c hcn, ih, hview₂]
    rw [view, hkids, hsplit, List.map_append, List.map_cons, hchild,
      List.map_congr_left fun k hk => hsib k (List.mem_append_left _ hk),
      List.map_congr_left fun k hk => hsib k (List.mem_append_right _ hk)]

end PathHierarchy.Forest.Arena
