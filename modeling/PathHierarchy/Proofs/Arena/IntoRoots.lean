import PathHierarchy.Proofs.Arena.Shape

/-!
# Reading the forest out of an arena

`Arena.intoRoots` builds the nested nodes in one pass from the last slot down, moving each
slot's children out of their places as it builds the slot, and finally moves out the roots.
It reads exactly the forest the arena stands for (`intoRoots_eq`).

The pass is followed by what it has left in its places after the slots from `k` on are built
(`buildFrom_getElem?`): the node of every such slot not yet moved out, and nothing elsewhere.
A slot is moved out once the slot it is listed under is built, and since every slot has one
parent at most and comes after it, each place is filled once and emptied once.
-/

set_option autoImplicit false

namespace PathHierarchy.Forest

namespace Node

theorem markSelectableAll_eq_map (l : List Node) :
    markSelectableAll l = l.map markSelectable := by
  induction l with
  | nil => rfl
  | cons n ns ih => rw [markSelectableAll, ih, List.map_cons]

/-- A node, marked selectable with all below it when `sel` is set. -/
def markIf (sel : Bool) (n : Node) : Node := if sel then n.markSelectable else n

theorem markIf_false : markIf false = id := by
  funext n
  rfl

theorem markIf_mk (sel : Bool) (v t : String) (cs : List Node) :
    markIf sel ⟨v, t, cs, false⟩ = ⟨v, t, cs.map (markIf sel), sel⟩ := by
  cases sel with
  | false => simp [markIf_false]
  | true => simp [markIf, markSelectable, markSelectableAll_eq_map]

end Node

namespace Arena

variable {a : Arena}

/-- Slot `j` is listed under a slot numbered `k` or higher. -/
def Taken (a : Arena) (k j : Nat) : Prop := ∃ i, k ≤ i ∧ j ∈ a.kids (some i)

theorem takeAll_cons (built : Array (Option Node)) (i : Nat) (rest : List Nat) :
    takeAll built (i :: rest) =
      ((take built i).1.toList ++ (takeAll (take built i).2 rest).1,
        (takeAll (take built i).2 rest).2) := rfl

theorem takeAll_spec (t : Nat → Node) :
    ∀ (cs : List Nat) (built : Array (Option Node)), cs.Nodup →
      (∀ c ∈ cs, built[c]? = some (some (t c))) →
      (takeAll built cs).1 = cs.map t ∧
        ∀ j, (takeAll built cs).2[j]? = if j ∈ cs then some none else built[j]?
  | [], built, _, _ => ⟨rfl, fun j => by simp [takeAll]⟩
  | c :: cs, built, hnd, hall => by
    obtain ⟨hc, hnd⟩ := List.nodup_cons.1 hnd
    have hcb : built[c]? = some (some (t c)) := hall c (by simp)
    have hlt : c < built.size := (Array.getElem?_eq_some_iff.1 hcb).1
    have hset : ∀ j, (built.set! c none)[j]? = if j = c then some none else built[j]? := by
      intro j
      rw [Array.set!_eq_setIfInBounds, Array.getElem?_setIfInBounds]
      by_cases hj : j = c
      · subst hj; simp [hlt]
      · simp [hj, Ne.symm hj]
    obtain ⟨h₁, h₂⟩ := takeAll_spec t cs (built.set! c none) hnd fun c' hc' => by
      rw [hset, if_neg fun (e : c' = c) => hc (e ▸ hc')]
      exact hall c' (by simp [hc'])
    have htake : take built c = (some (t c), built.set! c none) := by
      rw [take, hcb]
      rfl
    refine ⟨?_, fun j => ?_⟩
    · rw [takeAll_cons, htake, h₁]
      rfl
    · rw [takeAll_cons, htake, h₂, hset]
      by_cases hj : j = c
      · simp [hj]
      · by_cases hjs : j ∈ cs <;> simp [hj, hjs]

theorem not_taken_self (hw : a.WF) (k : Nat) : ¬ a.Taken k k := by
  rintro ⟨i, hki, hk⟩
  have := hw.parent_lt hk
  omega

theorem buildFrom_cons (sel : Bool) (size : Nat) (slot : Slot) (rest : List Slot) (i : Nat) :
    buildFrom sel size (slot :: rest) i =
      (takeAll (buildFrom sel size rest (i + 1)) slot.children.order).2.set! i
        (some ⟨slot.path, slot.title,
          (takeAll (buildFrom sel size rest (i + 1)) slot.children.order).1, sel⟩) := rfl

open Classical in
theorem kid_ready (hw : a.WF) (sel : Bool) {k : Nat} {built : Array (Option Node)}
    (hbuilt : ∀ j, built[j]? = if j < a.slots.size then
        some (if k + 1 ≤ j ∧ ¬ a.Taken (k + 1) j then some ((a.tree j).markIf sel) else none)
      else none)
    {c : Nat} (hc : c ∈ a.kids (some k)) : built[c]? = some (some ((a.tree c).markIf sel)) := by
  have hfree : ¬ a.Taken (k + 1) c := by
    rintro ⟨i, hi, hci⟩
    have := Option.some.inj (hw.parent_unique hc hci)
    omega
  rw [hbuilt, if_pos (hw.kid_lt hc), if_pos ⟨hw.parent_lt hc, hfree⟩]

open Classical in
/-- What the pass has left after building the slots from `k` on: the node of every such slot
whose parent is not built yet, and nothing elsewhere. -/
theorem buildFrom_getElem? (hw : a.WF) (sel : Bool) (k : Nat) (hk : k ≤ a.slots.size) (j : Nat) :
    (buildFrom sel a.slots.size (a.slots.toList.drop k) k)[j]? =
      if j < a.slots.size then
        some (if k ≤ j ∧ ¬ a.Taken k j then some ((a.tree j).markIf sel) else none)
      else none := by
  by_cases hkn : k = a.slots.size
  · subst hkn
    rw [List.drop_of_length_le (by simp), buildFrom, Array.getElem?_replicate]
    by_cases hj : j < a.slots.size <;> simp [hj, Nat.not_le_of_lt]
  · have hkn : k < a.slots.size := by omega
    have hdrop : a.slots.toList.drop k = a.slots[k] :: a.slots.toList.drop (k + 1) := by
      rw [List.drop_eq_getElem_cons (by simpa using hkn)]
      simp
    have hslot : a.slot k = a.slots[k] := by simp [slot, hkn]
    have ih := buildFrom_getElem? hw sel (k + 1) hkn
    have hready : ∀ c ∈ a.kids (some k),
        (buildFrom sel a.slots.size (a.slots.toList.drop (k + 1)) (k + 1))[c]? =
          some (some ((a.tree c).markIf sel)) :=
      fun _ hc => kid_ready hw sel ih hc
    rw [kids_some, hslot] at hready
    obtain ⟨htaken, hleft⟩ := takeAll_spec (fun c => (a.tree c).markIf sel) _ _
      (by rw [← hslot, ← kids_some]; exact hw.nodup _) hready
    rw [hdrop, buildFrom_cons, Array.set!_eq_setIfInBounds, Array.getElem?_setIfInBounds,
      htaken, hleft]
    have hkk : k ∉ a.slots[k].children.order := fun h =>
      Nat.lt_irrefl k (hw.parent_lt (by rw [kids_some, hslot]; exact h))
    have hkT : k < (takeAll (buildFrom sel a.slots.size (a.slots.toList.drop (k + 1)) (k + 1))
        a.slots[k].children.order).2.size := by
      have hk' := hleft k
      rw [if_neg hkk, ih, if_pos hkn, if_neg (by omega)] at hk'
      exact (Array.getElem?_eq_some_iff.1 hk').1
    by_cases hjk : k = j
    · subst hjk
      rw [if_pos rfl, if_pos hkT, if_pos hkn, if_pos ⟨Nat.le_refl k, not_taken_self hw k⟩,
        tree_eq hw k, Node.markIf_mk, view, kids_some, hslot, List.map_map]
      rfl
    · rw [if_neg hjk]
      by_cases hjc : j ∈ a.slots[k].children.order
      · have hjkids : j ∈ a.kids (some k) := by rw [kids_some, hslot]; exact hjc
        rw [if_pos hjc, if_pos (hw.kid_lt hjkids), if_neg fun h => h.2 ⟨k, Nat.le_refl k, hjkids⟩]
      · rw [if_neg hjc, ih]
        have hiff : (k + 1 ≤ j ∧ ¬ a.Taken (k + 1) j) ↔ (k ≤ j ∧ ¬ a.Taken k j) := by
          constructor
          · rintro ⟨hj, hnt⟩
            refine ⟨by omega, ?_⟩
            rintro ⟨i, hi, hji⟩
            refine hnt ⟨i, ?_, hji⟩
            rcases Nat.lt_or_eq_of_le hi with hi | rfl
            · omega
            · exact absurd (by rw [kids_some, hslot] at hji; exact hji) hjc
          · rintro ⟨hj, hnt⟩
            refine ⟨by omega, ?_⟩
            rintro ⟨i, hi, hji⟩
            exact hnt ⟨i, by omega, hji⟩
        by_cases hjn : j < a.slots.size
        · rw [if_pos hjn, if_pos hjn]
          by_cases hc : k ≤ j ∧ ¬ a.Taken k j
          · rw [if_pos (hiff.2 hc), if_pos hc]
          · rw [if_neg (fun h => hc (hiff.1 h)), if_neg hc]
        · rw [if_neg hjn, if_neg hjn]
termination_by a.slots.size - k

theorem buildFrom_root_ready (hw : a.WF) (sel : Bool) {r : Nat} (hr : r ∈ a.roots.order) :
    (buildFrom sel a.slots.size a.slots.toList 0)[r]? = some (some ((a.tree r).markIf sel)) := by
  have hr' : r ∈ a.kids none := hr
  have hfree : ¬ a.Taken 0 r := by
    rintro ⟨i, -, hri⟩
    cases hw.parent_unique hr' hri
  have hbuilt := buildFrom_getElem? hw sel 0 (Nat.zero_le _) r
  rw [List.drop_zero] at hbuilt
  rw [hbuilt, if_pos (hw.kid_lt hr'), if_pos ⟨Nat.zero_le r, hfree⟩]

/-- The pass reads out the forest the arena stands for, each node marked if asked. -/
theorem intoRoots_eq (hw : a.WF) (sel : Bool) :
    a.intoRoots sel = (a.view none).map (Node.markIf sel) := by
  rw [intoRoots, (takeAll_spec (fun r => (a.tree r).markIf sel) a.roots.order _
    (hw.nodup none) fun _ hr => buildFrom_root_ready hw sel hr).1,
    view, List.map_map]
  rfl

theorem intoRoots_eq_mark (hw : a.WF) (sel : Bool) :
    a.intoRoots sel = if sel then Node.markSelectableAll (a.view none) else a.view none := by
  rw [intoRoots_eq hw, Node.markSelectableAll_eq_map]
  cases sel <;> simp [Node.markIf, Node.markIf_false]

end Arena

end PathHierarchy.Forest
