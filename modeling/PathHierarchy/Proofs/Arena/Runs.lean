import PathHierarchy.Proofs.Refinement
import PathHierarchy.Proofs.Addresses
import PathHierarchy.Proofs.Traversal

/-!
# The arena over whole runs

Every run of insertions from the empty arena keeps it `Sound`: a forest (`WF`: children after
their parents, no slot listed twice or under two parents, each index exactly the map from its
children's values to their slots) in which every slot is listed under some parent or among the
roots. `getOrInsert` keeps this, and either finds the child already listed, changing nothing, or
appends exactly one slot, listed last under its parent (`getOrInsert_sound`).

The slots are made in the order the builder reports them: the notes of a build name, one
"creating node" note per slot, the values of the slots in order (`filterMap_created_notes`).

In a sound arena every slot is reached from exactly one root, so the forest it stands for has
one node per slot (`length_preorderAll_view`). Reading it out in one pass from the last slot
down finds, whenever a slot is built, each of its children's nodes still in its place, and
takes them all in the order they are listed (`takeAll_buildFrom_kids`).
-/

set_option autoImplicit false

namespace PathHierarchy.Forest

namespace Arena

variable {a : Arena} {p : Option Nat} {v s : String}

/-- A sound arena is a forest in which every slot is listed under a parent or among the roots. -/
structure Sound (a : Arena) : Prop extends a.WF where
  listed : ∀ i < a.slots.size, ∃ p, i ∈ a.kids p

theorem Sound.listed_once (hs : a.Sound) {i : Nat} (hi : i < a.slots.size) :
    ∃ p, (a.kids p).count i = 1 ∧ ∀ p', i ∈ a.kids p' → p' = p := by
  obtain ⟨p, hp⟩ := hs.listed i hi
  exact ⟨p, List.count_eq_one_of_mem (hs.nodup p) hp, fun p' hp' => hs.parent_unique hp' hp⟩

theorem WF.nodup_paths (hw : a.WF) (p : Option Nat) :
    ((a.kids p).map fun c => (a.slot c).path).Nodup := by
  rw [List.nodup_map_iff_inj_on (hw.nodup p)]
  exact fun c hc c' hc' h => hw.eq_of_path hc hc' h

/-! ### One step -/

theorem Sound.empty : (∅ : Arena).Sound where
  toWF := WF.empty
  listed i hi := absurd hi (Nat.not_lt_zero i)

/-- A new slot is listed under its parent, and every old one stays where it was. -/
theorem Sound.getOrInsert (hs : a.Sound) (hp : ∀ q ∈ p, q < a.slots.size) :
    (a.getOrInsert p v s).2.Sound where
  toWF := hs.toWF.getOrInsert hp
  listed i hi := by
    cases h : (a.siblings p).index[v]? with
    | some c =>
      rw [getOrInsert_of_index h] at hi ⊢
      exact hs.listed i hi
    | none =>
      rw [size_getOrInsert_of_index_none h] at hi
      rcases Nat.lt_succ_iff_lt_or_eq.1 hi with hi | rfl
      · obtain ⟨p', hp'⟩ := hs.listed i hi
        refine ⟨p', ?_⟩
        rw [kids_getOrInsert_of_index_none h hp]
        split
        · next he => exact List.mem_append_left _ (he ▸ hp')
        · exact hp'
      · exact ⟨p, by rw [kids_getOrInsert_of_index_none h hp, if_pos rfl]; simp⟩

theorem Sound.setTitle (hs : a.Sound) (c : Nat) (l : String) : (a.setTitle c l).Sound where
  toWF := hs.toWF.setTitle c l
  listed i hi := by
    rw [size_setTitle] at hi
    obtain ⟨p, hp⟩ := hs.listed i hi
    exact ⟨p, by rw [kids_setTitle]; exact hp⟩

theorem Sound.relabel (hs : a.Sound) (label : Option String) (rest : List (String × String))
    (idx : Nat) : (relabel label rest a idx).Sound := by
  unfold Arena.relabel
  split
  · exact hs.setTitle _ _
  · exact hs

/-- Looking a value up among the siblings finds the child listed with it, or finds nothing and
then appends one new slot, listed last under the parent. -/
theorem getOrInsert_sound (hs : a.Sound) (hp : ∀ q ∈ p, q < a.slots.size) :
    (a.getOrInsert p v s).2.Sound ∧
      (∀ c ∈ a.kids p, (a.slot c).path = v → a.getOrInsert p v s = (c, a)) ∧
      ((∀ c ∈ a.kids p, (a.slot c).path ≠ v) →
        (a.getOrInsert p v s).1 = a.slots.size ∧
        (a.getOrInsert p v s).2.slots.size = a.slots.size + 1 ∧
        (a.getOrInsert p v s).2.slot a.slots.size = ⟨v, s, ∅⟩ ∧
        (∀ p', (a.getOrInsert p v s).2.kids p' =
          if p' = p then a.kids p ++ [a.slots.size] else a.kids p') ∧
        ∀ j < a.slots.size, ((a.getOrInsert p v s).2.slot j).path = (a.slot j).path ∧
          ((a.getOrInsert p v s).2.slot j).title = (a.slot j).title) := by
  refine ⟨hs.getOrInsert hp, fun c hc hcv => getOrInsert_of_index ((hs.index p v c).2 ⟨hc, hcv⟩),
    fun hnone => ?_⟩
  have h : (a.siblings p).index[v]? = none := by
    cases h : (a.siblings p).index[v]? with
    | none => rfl
    | some c => exact absurd ((hs.index p v c).1 h).2 (hnone c ((hs.index p v c).1 h).1)
  refine ⟨getOrInsert_fst_of_index_none h, size_getOrInsert_of_index_none h, ?_,
    kids_getOrInsert_of_index_none h hp,
    fun j hj => ⟨path_getOrInsert hp hj, title_getOrInsert hp hj⟩⟩
  rw [slot_getOrInsert_of_index_none h hp, if_pos rfl]

/-! ### Walks and runs -/

theorem Sound.insertChain (label : Option String) :
    ∀ (steps : List (String × String)) (p : Option Nat) (a : Arena), a.Sound →
      (∀ q ∈ p, q < a.slots.size) → (a.insertChain label steps p).Sound
  | [], _, _, hs, _ => hs
  | (v, s) :: rest, p, a, hs, hp => by
    rw [insertChain_cons]
    have hc := (getOrInsert_mem (v := v) (s := s) hs.toWF hp).1
    have hs₁ := (hs.getOrInsert (v := v) (s := s) hp).relabel label rest (a.getOrInsert p v s).1
    refine Sound.insertChain label rest _ _ hs₁ fun q hq => ?_
    cases hq
    rw [size_relabel]
    exact (hs.toWF.getOrInsert hp).kid_lt hc

/-! ### The values of the slots -/

/-- The values of the slots, in the order the slots were made. -/
def paths (a : Arena) : List String := a.slots.toList.map (·.path)

theorem paths_modify (a : Arena) (i : Nat) (f : Slot → Slot) (hf : ∀ x, (f x).path = x.path) :
    ({ a with slots := a.slots.modify i f } : Arena).paths = a.paths := by
  apply List.ext_getElem
  · simp [paths]
  · intro j h₁ h₂
    simp only [paths, Array.toList_modify, List.getElem_map, List.getElem_modify]
    split <;> simp [hf]

theorem paths_setTitle (a : Arena) (c : Nat) (l : String) : (a.setTitle c l).paths = a.paths :=
  paths_modify a c _ fun _ => rfl

theorem paths_relabel (label : Option String) (rest : List (String × String)) (a : Arena)
    (idx : Nat) : (relabel label rest a idx).paths = a.paths := by
  unfold relabel
  split
  · exact paths_setTitle _ _ _
  · rfl

theorem siblings_relabel (label : Option String) (rest : List (String × String)) (a : Arena)
    (idx : Nat) : (relabel label rest a idx).siblings = a.siblings := by
  funext p'
  unfold relabel
  split
  · exact siblings_setTitle _ _ _ _
  · rfl

theorem paths_getOrInsert_of_index_none (h : (a.siblings p).index[v]? = none) :
    (a.getOrInsert p v s).2.paths = a.paths ++ [v] := by
  have hpush : ({ a with slots := a.slots.push ⟨v, s, ∅⟩ } : Arena).paths = a.paths ++ [v] := by
    simp [paths]
  rw [getOrInsert_of_index_none h]
  cases p with
  | none => exact hpush
  | some q =>
    exact (paths_modify _ q (fun sl => { sl with children := sl.children.withKid v a.slots.size })
      fun _ => rfl).trans hpush

theorem index_getOrInsert_new (h : (a.siblings p).index[v]? = none)
    (hp : ∀ q ∈ p, q < a.slots.size) (w : String) :
    ((a.getOrInsert p v s).2.siblings (some a.slots.size)).index[w]? = none := by
  rw [siblings_some, slot_getOrInsert_of_index_none h hp, if_pos rfl]
  exact Std.HashMap.getElem?_empty

/-! ### The values a walk adds -/

theorem missingValues_cons_of_index {c : Nat} (h : (a.siblings p).index[v]? = some c)
    (rest : List (String × String)) :
    a.missingValues ((v, s) :: rest) p = a.missingValues rest (some c) := by
  rw [missingValues, h]

theorem missingValues_cons_of_index_none (h : (a.siblings p).index[v]? = none)
    (rest : List (String × String)) :
    a.missingValues ((v, s) :: rest) p = v :: rest.map (·.1) := by
  rw [missingValues, h]

theorem missingValues_congr {a' : Arena} (h : a'.siblings = a.siblings) :
    ∀ (steps : List (String × String)) (p : Option Nat),
      a'.missingValues steps p = a.missingValues steps p
  | [], _ => rfl
  | (v, _) :: rest, p => by
    rw [missingValues, missingValues, h]
    split
    · exact missingValues_congr h rest _
    · rfl

theorem paths_insertChain_fresh (label : Option String) :
    ∀ (steps : List (String × String)) (p : Option Nat) (a : Arena),
      (∀ q ∈ p, q < a.slots.size) → (∀ w : String, (a.siblings p).index[w]? = none) →
      (a.insertChain label steps p).paths = a.paths ++ steps.map (·.1)
  | [], _, _, _, _ => by simp [insertChain]
  | (v, s) :: rest, p, a, hp, hfresh => by
    rw [insertChain_cons, getOrInsert_fst_of_index_none (hfresh v)]
    have hnext := paths_insertChain_fresh label rest (some a.slots.size)
      (relabel label rest (a.getOrInsert p v s).2 a.slots.size)
      (fun q hq => by cases hq; rw [size_relabel, size_getOrInsert_of_index_none (hfresh v)]; omega)
      (fun w => by rw [siblings_relabel]; exact index_getOrInsert_new (hfresh v) hp w)
    rw [hnext, paths_relabel, paths_getOrInsert_of_index_none (hfresh v)]
    simp

theorem paths_insertChain (label : Option String) :
    ∀ (steps : List (String × String)) (p : Option Nat) (a : Arena), a.WF →
      (∀ q ∈ p, q < a.slots.size) →
      (a.insertChain label steps p).paths = a.paths ++ a.missingValues steps p
  | [], _, _, _, _ => by simp [insertChain, missingValues]
  | (v, s) :: rest, p, a, hw, hp => by
    rw [insertChain_cons]
    cases h : (a.siblings p).index[v]? with
    | some c =>
      have hc := ((hw.index p v c).1 h).1
      rw [getOrInsert_of_index h, missingValues_cons_of_index h,
        ← missingValues_congr (siblings_relabel label rest a c),
        paths_insertChain label rest (some c) _ (hw.relabel label rest c)
          fun q hq => by cases hq; rw [size_relabel]; exact hw.kid_lt hc,
        paths_relabel]
    | none =>
      rw [getOrInsert_fst_of_index_none h, missingValues_cons_of_index_none h,
        paths_insertChain_fresh label rest (some a.slots.size) _
          (fun q hq => by cases hq; rw [size_relabel, size_getOrInsert_of_index_none h]; omega)
          (fun w => by rw [siblings_relabel]; exact index_getOrInsert_new h hp w),
        paths_relabel, paths_getOrInsert_of_index_none h]
      simp

/-! ### One node per slot -/

/-- The slots at and below `i`, in pre-order, read at most `fuel` levels down. -/
def belowAt (a : Arena) : Nat → Nat → List Nat
  | 0, i => [i]
  | fuel + 1, i => i :: (a.kids (some i)).flatMap (a.belowAt fuel)

theorem length_preorder_treeAt (a : Arena) :
    ∀ (fuel i : Nat), (a.treeAt fuel i).preorder.length = (a.belowAt fuel i).length
  | 0, i => by simp [treeAt, belowAt, Node.preorder_eq]
  | fuel + 1, i => by
    rw [treeAt, belowAt, Node.preorder_eq, List.length_cons, List.length_cons,
      Node.preorderAll_eq_flatMap]
    simp only [List.flatMap_map, List.length_flatMap, length_preorder_treeAt a fuel]

theorem Reach.head {i j : Nat} (h : a.Reach i j) : i = j ∨ ∃ c ∈ a.kids (some i), a.Reach c j := by
  induction h with
  | refl => exact .inl rfl
  | child _ hc ih =>
    rcases ih with rfl | ⟨c', hc', hr⟩
    · exact .inr ⟨_, hc, .refl⟩
    · exact .inr ⟨c', hc', hr.child hc⟩

theorem mem_belowAt (hw : a.WF) :
    ∀ (fuel i : Nat), a.slots.size - i ≤ fuel → ∀ j, j ∈ a.belowAt fuel i ↔ a.Reach i j
  | 0, i, hf, j => by
    have hnone : a.kids (some i) = [] := kids_some_of_size_le (by omega)
    rw [belowAt, List.mem_singleton]
    refine ⟨fun h => h ▸ .refl, fun h => ?_⟩
    rcases h.head with rfl | ⟨c, hc, -⟩
    · rfl
    · simp [hnone] at hc
  | fuel + 1, i, hf, j => by
    rw [belowAt, List.mem_cons, List.mem_flatMap]
    constructor
    · rintro (rfl | ⟨c, hc, hj⟩)
      · exact .refl
      · have := hw.parent_lt hc
        have := hw.kid_lt hc
        exact (Reach.of_kid hc).trans ((mem_belowAt hw fuel c (by omega) j).1 hj)
    · intro h
      rcases h.head with rfl | ⟨c, hc, hr⟩
      · exact .inl rfl
      · have := hw.parent_lt hc
        have := hw.kid_lt hc
        exact .inr ⟨c, hc, (mem_belowAt hw fuel c (by omega) j).2 hr⟩

theorem nodup_belowAt (hw : a.WF) :
    ∀ (fuel i : Nat), a.slots.size - i ≤ fuel → (a.belowAt fuel i).Nodup
  | 0, _, _ => List.nodup_singleton _
  | fuel + 1, i, hf => by
    have hfuel : ∀ c ∈ a.kids (some i), a.slots.size - c ≤ fuel := fun c hc => by
      have := hw.parent_lt hc
      have := hw.kid_lt hc
      omega
    rw [belowAt, List.nodup_cons, List.mem_flatMap]
    refine ⟨?_, List.nodup_flatMap.2 ⟨fun c hc => nodup_belowAt hw fuel c (hfuel c hc), ?_⟩⟩
    ·
      rintro ⟨c, hc, hi⟩
      have := ((mem_belowAt hw fuel c (hfuel c hc) i).1 hi).le hw
      have := hw.parent_lt hc
      omega
    · refine (hw.nodup (some i)).imp_of_mem fun {c c'} hc hc' hne => ?_
      intro j hj hj'
      exact Reach.disjoint hw hc hc' hne ((mem_belowAt hw fuel c (hfuel c hc) j).1 hj)
        ((mem_belowAt hw fuel c' (hfuel c' hc') j).1 hj')

theorem Sound.reach_root (hs : a.Sound) : ∀ j < a.slots.size, ∃ r ∈ a.kids none, a.Reach r j := by
  intro j
  induction j using Nat.strongRecOn with
  | ind j ih =>
    intro hj
    obtain ⟨p, hp⟩ := hs.listed j hj
    cases p with
    | none => exact ⟨j, hp, .refl⟩
    | some q =>
      have hqj := hs.parent_lt hp
      obtain ⟨r, hr, hrq⟩ := ih q hqj (by omega)
      exact ⟨r, hr, hrq.child hp⟩

/-- A sound arena stands for a forest of exactly one node per slot. -/
theorem length_preorderAll_view (hs : a.Sound) :
    (Node.preorderAll (a.view none)).length = a.slots.size := by
  have hfuel : ∀ r ∈ a.kids none, a.slots.size - r ≤ a.slots.size := fun _ _ => Nat.sub_le _ _
  have hperm : ((a.kids none).flatMap (a.belowAt a.slots.size)).Perm (List.range a.slots.size) := by
    refine (List.perm_ext_iff_of_nodup ?_ List.nodup_range).2 fun j => ?_
    · refine List.nodup_flatMap.2 ⟨fun r hr => nodup_belowAt hs.toWF _ r (hfuel r hr), ?_⟩
      refine (hs.nodup none).imp_of_mem fun {r r'} hr hr' hne => ?_
      intro j hj hj'
      exact Reach.disjoint hs.toWF hr hr' hne ((mem_belowAt hs.toWF _ r (hfuel r hr) j).1 hj)
        ((mem_belowAt hs.toWF _ r' (hfuel r' hr') j).1 hj')
    · rw [List.mem_flatMap, List.mem_range]
      constructor
      · rintro ⟨r, hr, hj⟩
        exact ((mem_belowAt hs.toWF _ r (hfuel r hr) j).1 hj).lt_size hs.toWF (hs.kid_lt hr)
      · intro hj
        obtain ⟨r, hr, hrj⟩ := hs.reach_root j hj
        exact ⟨r, hr, (mem_belowAt hs.toWF _ r (hfuel r hr) j).2 hrj⟩
  rw [view, Node.preorderAll_eq_flatMap, List.length_flatMap, List.map_map,
    ← List.length_range (n := a.slots.size), ← hperm.length_eq, List.length_flatMap]
  simp only [Function.comp_def, tree, length_preorder_treeAt]

/-! ### Reading the forest out -/

theorem buildFrom_kid_ready (hw : a.WF) (sel : Bool) {k c : Nat} (hk : k < a.slots.size)
    (hc : c ∈ (a.slot k).children.order) :
    (buildFrom sel a.slots.size (a.slots.toList.drop (k + 1)) (k + 1))[c]? =
      some (some ((a.tree c).markIf sel)) := by
  have hc' : c ∈ a.kids (some k) := by rw [kids_some]; exact hc
  exact kid_ready hw sel (buildFrom_getElem? hw sel (k + 1) hk) hc'

/-- Building a slot takes the node of every one of its children, in the order they are
listed. -/
theorem takeAll_buildFrom_kids (hw : a.WF) (sel : Bool) {k : Nat} (hk : k < a.slots.size) :
    (takeAll (buildFrom sel a.slots.size (a.slots.toList.drop (k + 1)) (k + 1))
        (a.slot k).children.order).1 =
      (a.slot k).children.order.map fun c => (a.tree c).markIf sel := by
  have hnodup : (a.slot k).children.order.Nodup := by
    rw [← kids_some]
    exact hw.nodup _
  exact (takeAll_spec _ _ _ hnodup fun c hc => buildFrom_kid_ready hw sel hk hc).1

theorem length_preorderAll_intoRoots (hs : a.Sound) (sel : Bool) :
    (Node.preorderAll (a.intoRoots sel)).length = a.slots.size := by
  rw [intoRoots_eq_mark hs.toWF, ← length_preorderAll_view hs]
  split
  · rw [← Node.length_addressesAll, Node.addressesAll_markSelectableAll, Node.length_addressesAll]
  · rfl

end Arena

/-- The value a "creating node" note names. -/
def BuildNote.created? : BuildNote → Option String
  | .created v => some v
  | _ => none

namespace Builder

open Arena

variable (b : Builder)

theorem sound_insert {a : Arena} (hs : a.Sound) (e : Entry) : (b.insert a e).Sound := by
  have hnone : ∀ q ∈ (none : Option Nat), q < a.slots.size := fun _ h => by cases h
  unfold insert
  split
  · exact Sound.insertChain _ _ none a hs hnone
  · exact hs.getOrInsert hnone
  · exact hs

theorem sound_foldl_insert (entries : List Entry) : (entries.foldl b.insert ∅).Sound := by
  suffices ∀ (a : Arena), a.Sound → (entries.foldl b.insert a).Sound from this ∅ Sound.empty
  induction entries with
  | nil => exact fun a hs => hs
  | cons e es ih => exact fun a hs => ih _ (b.sound_insert hs e)

theorem paths_insert {a : Arena} (hw : a.WF) (e : Entry) :
    (b.insert a e).paths = a.paths ++ (b.notesOf a e).filterMap BuildNote.created? := by
  have hnone : ∀ q ∈ (none : Option Nat), q < a.slots.size := fun _ h => by cases h
  have hcreated :
      ∀ vs : List String, (vs.map BuildNote.created).filterMap BuildNote.created? = vs :=
    fun vs => by simp [List.filterMap_map, Function.comp_def, BuildNote.created?]
  unfold insert notesOf
  cases b.place e with
  | unusable => simp [BuildNote.created?]
  | noSegments path => simp [BuildNote.created?]
  | degenerate path =>
    simp only
    rw [insert_degenerate, paths_insertChain none _ none a hw hnone, hcreated]
  | chain steps label =>
    simp only
    rw [paths_insertChain label steps none a hw hnone, hcreated]

theorem created_tally_foldl (entries : List Entry) (t : Tally) (hw : t.arena.WF)
    (ht : t.notes.filterMap BuildNote.created? = t.arena.paths) :
    (entries.foldl b.tally t).notes.filterMap BuildNote.created? =
      (entries.foldl b.insert t.arena).paths := by
  induction entries generalizing t with
  | nil => exact ht
  | cons e es ih =>
    rw [List.foldl_cons, List.foldl_cons]
    have harena : (b.tally t e).arena = b.insert t.arena e := by
      unfold tally; split <;> rfl
    have hnotes : (b.tally t e).notes = t.notes ++ b.notesOf t.arena e := by
      unfold tally; split <;> rfl
    rw [← harena]
    refine ih _ (harena ▸ (b.insert_view hw e).1) ?_
    rw [hnotes, harena, List.filterMap_append, ht, b.paths_insert hw]

/-- The notes of a build name, one "creating node" note per slot, the values of the slots in
the order they were made. -/
theorem filterMap_created_notes (entries : List Entry) :
    (b.notes entries).filterMap BuildNote.created? = (entries.foldl b.insert ∅).paths := by
  rw [notes, List.filterMap_append,
    b.created_tally_foldl entries ∅ WF.empty (by simp [paths, EmptyCollection.emptyCollection])]
  rw [List.filterMap_cons_none rfl, List.filterMap_nil, List.append_nil]
  rfl

/-- Every run of insertions from the empty arena keeps it sound: every slot is listed exactly
once, under one parent or among the roots, after its parent, and each index is exactly the map
from its children's values to their slots, so no two siblings share a value. `getOrInsert`
keeps a sound arena sound: it returns the child listed with the value when there is one, and
otherwise appends exactly one slot, listed last under the parent. A build's notes name one
created node per slot, in the order of the slots. Reading the forest out of a sound arena finds,
whenever a slot is built, the node of each of its children still in its place, and at the end
the node of each root, so nothing is dropped: every node gets the nodes of its listed children
in their order, the roots come in theirs, and the forest has one node per slot. -/
theorem arena_sound_runs :
    (∀ (a : Arena) (p : Option Nat) (v s : String), a.Sound → (∀ q ∈ p, q < a.slots.size) →
      (a.getOrInsert p v s).2.Sound ∧
      (∀ c ∈ a.kids p, (a.slot c).path = v → a.getOrInsert p v s = (c, a)) ∧
      ((∀ c ∈ a.kids p, (a.slot c).path ≠ v) →
        (a.getOrInsert p v s).1 = a.slots.size ∧
        (a.getOrInsert p v s).2.slots.size = a.slots.size + 1 ∧
        (a.getOrInsert p v s).2.slot a.slots.size = ⟨v, s, ∅⟩ ∧
        (∀ p', (a.getOrInsert p v s).2.kids p' =
          if p' = p then a.kids p ++ [a.slots.size] else a.kids p') ∧
        ∀ j < a.slots.size, ((a.getOrInsert p v s).2.slot j).path = (a.slot j).path ∧
          ((a.getOrInsert p v s).2.slot j).title = (a.slot j).title)) ∧
    (∀ entries : List Entry, (entries.foldl b.insert ∅).Sound ∧
      (b.notes entries).filterMap BuildNote.created? = (entries.foldl b.insert ∅).paths) ∧
    ∀ (a : Arena) (sel : Bool), a.Sound →
      (∀ i < a.slots.size, ∃ p, (a.kids p).count i = 1 ∧ ∀ p', i ∈ a.kids p' → p' = p) ∧
      (∀ p, ((a.kids p).map fun c => (a.slot c).path).Nodup) ∧
      (∀ k < a.slots.size, ∀ c ∈ (a.slot k).children.order,
        (buildFrom sel a.slots.size (a.slots.toList.drop (k + 1)) (k + 1))[c]? =
          some (some ((a.tree c).markIf sel))) ∧
      (∀ r ∈ a.roots.order,
        (buildFrom sel a.slots.size a.slots.toList 0)[r]? = some (some ((a.tree r).markIf sel))) ∧
      (∀ k < a.slots.size,
        (takeAll (buildFrom sel a.slots.size (a.slots.toList.drop (k + 1)) (k + 1))
            (a.slot k).children.order).1 =
          (a.slot k).children.order.map fun c => (a.tree c).markIf sel) ∧
      a.intoRoots sel = a.roots.order.map (fun r => (a.tree r).markIf sel) ∧
      (∀ i, a.tree i =
        ⟨(a.slot i).path, (a.slot i).title, (a.slot i).children.order.map a.tree, false⟩) ∧
      (Node.preorderAll (a.intoRoots sel)).length = a.slots.size := by
  refine ⟨fun a p v s hs hp => getOrInsert_sound hs hp,
    fun entries => ⟨b.sound_foldl_insert entries, b.filterMap_created_notes entries⟩,
    fun a sel hs => ⟨fun i hi => hs.listed_once hi, hs.toWF.nodup_paths,
      fun k hk c hc => buildFrom_kid_ready hs.toWF sel hk hc,
      fun r hr => buildFrom_root_ready hs.toWF sel hr,
      fun k hk => takeAll_buildFrom_kids hs.toWF sel hk, ?_, fun i => ?_,
      length_preorderAll_intoRoots hs sel⟩⟩
  · rw [intoRoots_eq hs.toWF, view, List.map_map]
    rfl
  · rw [tree_eq hs.toWF i, view, kids_some]

end Builder

end PathHierarchy.Forest
