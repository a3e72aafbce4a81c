import PathHierarchy.Proofs.Arena.Shape

/-!
# One step in an arena

`getOrInsert` either finds the child by its index and changes nothing, or pushes a new empty
slot and lists it last under its parent; `setTitle` changes one title. Both keep `WF`, and
what they leave alone is said slot by slot, so the walk of a whole chain can be followed
through them.
-/

set_option autoImplicit false

namespace PathHierarchy.Forest

/-- The children with one more slot listed last, under the value `v`. -/
def Children.withKid (c : Children) (v : String) (idx : Nat) : Children :=
  ⟨c.order ++ [idx], c.index.insert v idx⟩

namespace Arena

variable {a : Arena} {p : Option Nat} {v s : String}

theorem getOrInsert_of_index {c : Nat} (h : (a.siblings p).index[v]? = some c) :
    a.getOrInsert p v s = (c, a) := by
  simp [getOrInsert, h]

theorem getOrInsert_of_index_none (h : (a.siblings p).index[v]? = none) :
    a.getOrInsert p v s = (a.slots.size,
      ({ a with slots := a.slots.push ⟨v, s, ∅⟩ } : Arena).modifySiblings
        (·.withKid v a.slots.size) p) := by
  unfold getOrInsert
  rw [h]
  rfl

theorem getOrInsert_fst_of_index_none (h : (a.siblings p).index[v]? = none) :
    (a.getOrInsert p v s).1 = a.slots.size := by
  rw [getOrInsert_of_index_none h]

theorem size_getOrInsert_of_index_none (h : (a.siblings p).index[v]? = none) :
    (a.getOrInsert p v s).2.slots.size = a.slots.size + 1 := by
  rw [getOrInsert_of_index_none h]
  cases p <;> simp [modifySiblings]

theorem slot_getOrInsert_of_index_none (h : (a.siblings p).index[v]? = none)
    (hp : ∀ q ∈ p, q < a.slots.size) (j : Nat) :
    (a.getOrInsert p v s).2.slot j =
      if j = a.slots.size then ⟨v, s, ∅⟩
      else if p = some j then
        { a.slot j with children := (a.slot j).children.withKid v a.slots.size }
      else a.slot j := by
  rw [getOrInsert_of_index_none h]
  cases p with
  | none =>
    simp only [modifySiblings, slot, Array.getElem?_push, reduceCtorEq, if_false]
    split <;> simp_all [eq_comm]
  | some q =>
    have hq : q < a.slots.size := hp q rfl
    simp only [modifySiblings, slot, Array.getElem?_modify, Array.getElem?_push, Option.some.injEq]
    by_cases hjn : j = a.slots.size
    · subst hjn
      simp [Nat.ne_of_lt hq]
    · by_cases hqj : q = j
      · subst hqj
        simp [hjn, Array.getElem?_eq_getElem hq]
      · simp [hjn, hqj]

theorem siblings_getOrInsert_of_index_none (h : (a.siblings p).index[v]? = none)
    (hp : ∀ q ∈ p, q < a.slots.size) (p' : Option Nat) :
    (a.getOrInsert p v s).2.siblings p' =
      if p' = p then (a.siblings p).withKid v a.slots.size else a.siblings p' := by
  cases p' with
  | none =>
    rw [getOrInsert_of_index_none h]
    cases p <;> rfl
  | some j =>
    rw [siblings_some, siblings_some, slot_getOrInsert_of_index_none h hp]
    by_cases hj : j = a.slots.size
    · subst hj
      have hpj : p ≠ some a.slots.size := fun e => Nat.lt_irrefl _ (hp _ e)
      simp [slot_of_size_le (Nat.le_refl _), Ne.symm hpj]
    · by_cases hpj : p = some j
      · subst hpj
        simp [hj, siblings_some]
      · simp [hj, hpj, Ne.symm hpj]

theorem kids_getOrInsert_of_index_none (h : (a.siblings p).index[v]? = none)
    (hp : ∀ q ∈ p, q < a.slots.size) (p' : Option Nat) :
    (a.getOrInsert p v s).2.kids p' =
      if p' = p then a.kids p ++ [a.slots.size] else a.kids p' := by
  rw [kids, siblings_getOrInsert_of_index_none h hp]
  split <;> rfl

theorem slot_getOrInsert_of_lt (hp : ∀ q ∈ p, q < a.slots.size) {j : Nat} (hj : j < a.slots.size) :
    ∃ ch, (a.getOrInsert p v s).2.slot j = { a.slot j with children := ch } := by
  cases h : (a.siblings p).index[v]? with
  | some c => exact ⟨(a.slot j).children, by rw [getOrInsert_of_index h]⟩
  | none =>
    rw [slot_getOrInsert_of_index_none h hp, if_neg (Nat.ne_of_lt hj)]
    split
    · exact ⟨_, rfl⟩
    · exact ⟨(a.slot j).children, rfl⟩

theorem path_getOrInsert (hp : ∀ q ∈ p, q < a.slots.size) {j : Nat} (hj : j < a.slots.size) :
    ((a.getOrInsert p v s).2.slot j).path = (a.slot j).path := by
  obtain ⟨ch, h⟩ := slot_getOrInsert_of_lt (v := v) (s := s) hp hj
  rw [h]

theorem title_getOrInsert (hp : ∀ q ∈ p, q < a.slots.size) {j : Nat} (hj : j < a.slots.size) :
    ((a.getOrInsert p v s).2.slot j).title = (a.slot j).title := by
  obtain ⟨ch, h⟩ := slot_getOrInsert_of_lt (v := v) (s := s) hp hj
  rw [h]

theorem mem_kids_getOrInsert (h : (a.siblings p).index[v]? = none)
    (hp : ∀ q ∈ p, q < a.slots.size) {p' : Option Nat} {c : Nat}
    (hc : c ∈ (a.getOrInsert p v s).2.kids p') :
    c ∈ a.kids p' ∨ c = a.slots.size ∧ p' = p := by
  rw [kids_getOrInsert_of_index_none h hp] at hc
  split at hc
  · next hq =>
    rcases List.mem_append.1 hc with hc | hc
    · exact .inl (hq ▸ hc)
    · exact .inr ⟨List.mem_singleton.1 hc, hq⟩
  · exact .inl hc

/-- A new slot goes under its parent and keeps the arena a forest. -/
theorem WF.getOrInsert (hw : a.WF) (hp : ∀ q ∈ p, q < a.slots.size) :
    (a.getOrInsert p v s).2.WF := by
  cases h : (a.siblings p).index[v]? with
  | some c => rw [getOrInsert_of_index h]; exact hw
  | none =>
    have hmem : ∀ {p' c}, c ∈ (a.getOrInsert p v s).2.kids p' → c ∈ a.kids p' ∨ c = a.slots.size ∧ p' = p :=
      fun hc => mem_kids_getOrInsert h hp hc
    have fresh : ∀ p', a.slots.size ∉ a.kids p' := fun p' hn => Nat.lt_irrefl _ (hw.kid_lt hn)
    have hpath : ∀ {c}, c < a.slots.size → ((a.getOrInsert p v s).2.slot c).path = (a.slot c).path :=
      path_getOrInsert hp
    have hnew : ((a.getOrInsert p v s).2.slot a.slots.size).path = v := by
      rw [slot_getOrInsert_of_index_none h hp, if_pos rfl]
    constructor
    · intro p' c hc
      rw [size_getOrInsert_of_index_none h]
      rcases hmem hc with hc | ⟨rfl, -⟩
      · exact Nat.lt_succ_of_lt (hw.kid_lt hc)
      · exact Nat.lt_succ_self _
    · intro q c hc
      rcases hmem hc with hc | ⟨rfl, hq⟩
      · exact hw.parent_lt hc
      · exact hp q hq.symm
    · intro p'
      rw [kids_getOrInsert_of_index_none h hp]
      split
      · next hq =>
        subst hq
        refine List.nodup_append.2 ⟨hw.nodup p', by simp, ?_⟩
        intro x hx y hy
        rw [List.mem_singleton.1 hy]
        exact fun e => fresh p' (e ▸ hx)
      · exact hw.nodup p'
    · intro p₁ p₂ c h₁ h₂
      rcases hmem h₁ with h₁ | ⟨hc₁, hp₁⟩ <;> rcases hmem h₂ with h₂ | ⟨hc₂, hp₂⟩
      · exact hw.parent_unique h₁ h₂
      · exact absurd (hc₂ ▸ h₁) (fresh p₁)
      · exact absurd (hc₁ ▸ h₂) (fresh p₂)
      · rw [hp₁, hp₂]
    · intro p' w c
      rw [siblings_getOrInsert_of_index_none h hp, kids_getOrInsert_of_index_none h hp]
      split
      · next hq =>
        subst hq
        simp only [Children.withKid, Std.HashMap.getElem?_insert, List.mem_append,
          List.mem_singleton]
        by_cases hv : v = w
        · subst hv
          simp only [beq_self_eq_true, if_true, Option.some.injEq]
          constructor
          · rintro rfl
            exact ⟨.inr rfl, hnew⟩
          · rintro ⟨hc | rfl, hcv⟩
            · exact absurd (hpath (hw.kid_lt hc) ▸ hcv) (hw.index_none h c hc)
            · rfl
        · have hvw : (v == w) = false := by simpa using hv
          simp only [hvw, Bool.false_eq_true, if_false, hw.index]
          constructor
          · rintro ⟨hc, hcw⟩
            exact ⟨.inl hc, hpath (hw.kid_lt hc) ▸ hcw⟩
          · rintro ⟨hc | rfl, hcw⟩
            · exact ⟨hc, hpath (hw.kid_lt hc) ▸ hcw⟩
            · exact absurd (hnew ▸ hcw) hv
      · rw [hw.index]
        constructor
        · rintro ⟨hc, hcw⟩
          exact ⟨hc, hpath (hw.kid_lt hc) ▸ hcw⟩
        · rintro ⟨hc, hcw⟩
          exact ⟨hc, (hpath (hw.kid_lt hc)).symm ▸ hcw⟩

theorem size_setTitle (a : Arena) (c : Nat) (l : String) :
    (a.setTitle c l).slots.size = a.slots.size := by
  simp [setTitle]

theorem slot_setTitle (a : Arena) (c : Nat) (l : String) (j : Nat) :
    (a.setTitle c l).slot j =
      if j = c ∧ c < a.slots.size then { a.slot j with title := l } else a.slot j := by
  by_cases hj : j = c
  · subst hj
    by_cases hc : j < a.slots.size
    · simp [setTitle, slot, Array.getElem_modify, hc]
    · simp [setTitle, slot, hc]
  · simp [setTitle, slot, Array.getElem?_modify, hj, Ne.symm hj]

theorem siblings_setTitle (a : Arena) (c : Nat) (l : String) (p' : Option Nat) :
    (a.setTitle c l).siblings p' = a.siblings p' := by
  cases p' with
  | none => rfl
  | some j =>
    rw [siblings_some, siblings_some, slot_setTitle]
    split <;> rfl

theorem kids_setTitle (a : Arena) (c : Nat) (l : String) (p' : Option Nat) :
    (a.setTitle c l).kids p' = a.kids p' := by
  rw [kids, siblings_setTitle]
  rfl

theorem path_setTitle (a : Arena) (c : Nat) (l : String) (j : Nat) :
    ((a.setTitle c l).slot j).path = (a.slot j).path := by
  rw [slot_setTitle]
  split <;> rfl

/-- A title changes nothing the shape depends on. -/
theorem WF.setTitle (hw : a.WF) (c : Nat) (l : String) : (a.setTitle c l).WF where
  kid_lt hc := by
    rw [kids_setTitle] at hc
    rw [size_setTitle]
    exact hw.kid_lt hc
  parent_lt hc := by
    rw [kids_setTitle] at hc
    exact hw.parent_lt hc
  nodup p' := by
    rw [kids_setTitle]
    exact hw.nodup p'
  parent_unique h₁ h₂ := by
    rw [kids_setTitle] at h₁ h₂
    exact hw.parent_unique h₁ h₂
  index p' w c := by
    rw [siblings_setTitle, kids_setTitle, path_setTitle]
    exact hw.index p' w c

end Arena

end PathHierarchy.Forest
