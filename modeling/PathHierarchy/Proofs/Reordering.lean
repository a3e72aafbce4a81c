import PathHierarchy.Proofs.Canonical
import PathHierarchy.Proofs.Prefixes

/-!
# Sorted builds do not depend on the order of the entries

At each address of a built forest stands the title of the last label among the entries whose
chain ends there, or else the title the node was created with, which the address alone gives
(`Builder.titleAt`, `titlesAgree_foldNested`). Sorting makes the forest ordered, with every
node carrying the builder's flag, and such a forest is determined by its titles. So reordering
the entries, while the labeled ones keep their order, changes no sorted build
(`build_eq_of_perm_of_labels`).
-/

set_option autoImplicit false

namespace PathHierarchy.Forest

open Node

/-- The title a node takes when it is created at an address: a root's own value, else what its
value adds to its parent's past one delimiter. -/
def createdTitle (α : List String) : String :=
  match α.reverse with
  | w :: u :: _ => String.ofList (w.toList.drop (u.length + 1))
  | [v] => v
  | [] => ""

theorem createdTitle_singleton (v : String) : createdTitle [v] = v := rfl

theorem createdTitle_step (pre : List String) (u w : String) (c : Char) :
    createdTitle (pre ++ [u, u ++ c.toString ++ w]) = w := by
  have hrev : (pre ++ [u, u ++ c.toString ++ w]).reverse =
      (u ++ c.toString ++ w) :: u :: pre.reverse := by
    simp
  have hdrop : (u ++ c.toString ++ w).toList.drop (u.length + 1) = w.toList := by
    have hsplit : (u ++ c.toString ++ w).toList = (u.toList ++ [c]) ++ w.toList := by simp
    have hlen : u.length + 1 = (u.toList ++ [c]).length := by simp [String.length_toList]
    rw [hsplit, hlen, List.drop_left]
  rw [createdTitle, hrev]
  dsimp only
  rw [hdrop, String.ofList_toList]

namespace Nested

/-- Each step's title is what `τ` gives the values up to it. -/
def Titled (τ : List String → String) (steps : List (String × String)) : Prop :=
  ∀ β v s γ, steps = β ++ (v, s) :: γ → s = τ (β.map (·.1) ++ [v])

theorem titled_nil (τ : List String → String) : Titled τ [] := fun β _ _ _ h => by
  cases β <;> cases h

theorem titled_cons {τ : List String → String} {v s : String} {rest : List (String × String)} :
    Titled τ ((v, s) :: rest) ↔ s = τ [v] ∧ Titled (fun β => τ (v :: β)) rest := by
  constructor
  · intro h
    refine ⟨h [] v s rest rfl, fun β v' s' γ hr => ?_⟩
    rw [h ((v, s) :: β) v' s' γ (by rw [hr, List.cons_append])]
    rfl
  · rintro ⟨hs, hrest⟩ β v' s' γ h
    cases β with
    | nil =>
      obtain ⟨⟨rfl, rfl⟩, rfl⟩ := by simpa using h
      exact hs
    | cons b β =>
      obtain ⟨rfl, hr⟩ := List.cons.inj h
      exact hrest β v' s' γ hr

@[simp] theorem descend_title (label : Option String) (rest : List (String × String)) (n : Node) :
    (descend label rest n).title = if rest.isEmpty then label.getD n.title else n.title := rfl

@[simp] theorem descend_selectable (label : Option String) (rest : List (String × String))
    (n : Node) : (descend label rest n).selectable = n.selectable := rfl

theorem find?_reviseOrAdd {v : String} {fresh : Node} {g : Node → Node} (hfresh : fresh.value = v)
    (hg : ∀ n, (g n).value = n.value) (l : List Node) (u : String) :
    (reviseOrAdd v fresh g l).find? (·.value == u) =
      if v = u then some (g ((l.find? (·.value == v)).getD fresh)) else l.find? (·.value == u) := by
  rcases reviseOrAdd_cases v fresh g l with ⟨pre, x, post, rfl, hpre, hx, h⟩ | ⟨hall, h⟩
  · have hpre' : pre.find? (·.value == v) = none :=
      List.find?_eq_none.2 fun y hy => by simpa using hpre y hy
    rw [h]
    by_cases hvu : v = u
    · subst hvu
      simp [List.find?_append, hpre', hg, hx]
    · have hxu : x.value ≠ u := hx ▸ hvu
      simp [List.find?_append, hg, hxu, hvu]
  · have hnone : l.find? (·.value == v) = none := List.find?_eq_none.2 fun y hy => by simpa using hall y hy
    rw [h]
    by_cases hvu : v = u
    · subst hvu
      simp [List.find?_append, hnone, hg, hfresh]
    · simp [List.find?_append, hg, hfresh, hvu]

theorem lookup?_children_getD {l : List Node} {v : String} {fresh : Node} (hfresh : fresh.children = [])
    {α : List String} (hα : α ≠ []) :
    lookup? ((l.find? (·.value == v)).getD fresh).children α = lookup? l (v :: α) := by
  cases h : l.find? (·.value == v) with
  | none =>
    rw [Option.getD_none, hfresh, lookup?_of_forall_ne fun n hn => by simpa using List.find?_eq_none.1 h n hn]
    cases α with
    | nil => exact absurd rfl hα
    | cons w α => exact lookup?_of_forall_ne (by simp) α
  | some x => rw [Option.getD_some, lookup?_of_find? h, if_neg hα]

theorem lookup?_congr_find? {l l' : List Node} {u : String}
    (h : l'.find? (·.value == u) = l.find? (·.value == u)) (α : List String) :
    lookup? l' (u :: α) = lookup? l (u :: α) := by
  cases α with
  | nil => simp [h]
  | cons w α => simp [lookup?_cons_cons, h]

theorem lookup?_insertChain (label : Option String) :
    ∀ (steps : List (String × String)) (τ : List String → String), Titled τ steps →
      ∀ (forest : Forest) (α : List String),
        (lookup? (insertChain label steps forest) α).map (·.title) =
          if α ≠ [] ∧ α <+: steps.map (·.1) then
            some (if α = steps.map (·.1)
              then label.getD (((lookup? forest α).map (·.title)).getD (τ α))
              else ((lookup? forest α).map (·.title)).getD (τ α))
          else (lookup? forest α).map (·.title)
  | [], τ, _, forest, α => by
    rw [insertChain]
    simp
  | (v, s) :: rest, τ, hτ, forest, α => by
    obtain ⟨hs, hrest⟩ := titled_cons.1 hτ
    rw [insertChain_cons, List.map_cons]
    cases α with
    | nil => simp
    | cons u α =>
      have hfind := find?_reviseOrAdd (show (Node.leaf v s).value = v from rfl)
        (descend_value label rest) forest u
      by_cases hvu : v = u
      · subst hvu
        rw [if_pos rfl] at hfind
        rw [lookup?_of_find? hfind]
        by_cases hα : α = []
        · subst hα
          subst hs
          rw [if_pos rfl, if_pos ⟨List.cons_ne_nil _ _, by simp⟩, Option.map_some, descend_title,
            lookup?_singleton]
          cases List.find? (fun n : Node => n.value == v) forest <;> cases rest <;> simp [Node.leaf]
        · rw [if_neg hα, descend_children, lookup?_insertChain label rest _ hrest _ α,
            lookup?_children_getD rfl hα]
          simp [hα]
      · have hother : List.find? (fun n : Node => n.value == u)
            (reviseOrAdd v (Node.leaf v s) (descend label rest) forest) =
            List.find? (fun n : Node => n.value == u) forest := by
          rw [hfind, if_neg hvu]
        rw [lookup?_congr_find? hother α, if_neg]
        rintro ⟨-, hpre⟩
        exact hvu (List.cons_prefix_cons.1 hpre).1.symm

theorem flaggedAll_insertChain (label : Option String) :
    ∀ (steps : List (String × String)) {forest : Forest}, FlaggedAll false forest →
      FlaggedAll false (insertChain label steps forest)
  | [], forest, h => by rwa [insertChain]
  | (v, s) :: rest, forest, h => by
    rw [insertChain_cons, flaggedAll_iff]
    rw [flaggedAll_iff] at h
    have hdescend : ∀ n, n.Flagged false → (descend label rest n).Flagged false := fun n hn => by
      rw [flagged_iff] at hn ⊢
      exact ⟨hn.1, flaggedAll_insertChain label rest hn.2⟩
    rcases reviseOrAdd_cases v (Node.leaf v s) (descend label rest) forest with
      ⟨pre, x, post, rfl, -, -, hr⟩ | ⟨-, hr⟩
    · rw [hr]
      intro n hn
      simp only [List.mem_append, List.mem_cons] at hn
      rcases hn with hn | rfl | hn
      · exact h n (by simp [hn])
      · exact hdescend x (h x (by simp))
      · exact h n (by simp [hn])
    · rw [hr]
      intro n hn
      rcases List.mem_append.1 hn with hn | hn
      · exact h n hn
      · rw [List.mem_singleton.1 hn]
        exact hdescend _ (by rw [flagged_iff]; exact ⟨rfl, trivial⟩)

theorem titled_chainOf_go (c : Char) :
    ∀ (segments : List String) (above : String) (top : Bool) (pre : List String),
      (top = true → pre = []) → (top = false → pre.getLast? = some above) →
      Titled (fun β => createdTitle (pre ++ β)) (chainOf.go c above top segments)
  | [], _, _, _, _, _ => by
    rw [chainOf.go]
    exact titled_nil _
  | s :: rest, above, top, pre, htop, hpre => by
    rw [chainOf.go, titled_cons]
    refine ⟨?_, ?_⟩
    · cases top with
      | true => rw [htop rfl, if_pos rfl, List.nil_append, createdTitle_singleton]
      | false =>
        obtain ⟨pre', rfl⟩ := List.getLast?_eq_some_iff.1 (hpre rfl)
        rw [if_neg Bool.false_ne_true, List.append_assoc, List.singleton_append,
          createdTitle_step]
    · have := titled_chainOf_go c rest (if top = true then s else above ++ c.toString ++ s) false
        (pre ++ [if top = true then s else above ++ c.toString ++ s]) (fun h => by cases h)
        (fun _ => by simp)
      simpa [List.append_assoc] using this

end Nested

theorem titled_chainOf (c : Char) (segments : List String) :
    Nested.Titled createdTitle (chainOf c segments) := by
  have h := Nested.titled_chainOf_go c segments "" true [] (fun _ => rfl) (fun h => by cases h)
  simp only [List.nil_append] at h
  exact h

namespace Builder

variable (b : Builder)

theorem titled_walk (e : Entry) : Nested.Titled createdTitle (b.walk e) := by
  unfold walk
  split
  · next steps label h =>
    cases hp : e.path? with
    | none => rw [place_of_path_none b hp] at h; cases h
    | some path =>
      rw [place_of_path b hp] at h
      split at h
      · split at h <;> cases h
      · cases h
        exact titled_chainOf _ _
  · exact Nested.titled_cons.2 ⟨rfl, Nested.titled_nil _⟩
  · exact Nested.titled_nil _

/-- The title of the node at an address after the entries: the last label among the entries
whose chain ends there, or else the title the node was created with. -/
def titleAt (entries : List Entry) (α : List String) : String :=
  ((entries.filterMap fun e => if b.chain e = α then e.label? else none).getLast?).getD
    (createdTitle α)

theorem titleAt_append_singleton (hs : List Entry) (e : Entry) (α : List String) :
    b.titleAt (hs ++ [e]) α =
      if b.chain e = α then e.label?.getD (b.titleAt hs α) else b.titleAt hs α := by
  unfold titleAt
  by_cases he : b.chain e = α
  · cases hl : e.label? <;> simp [he, hl, List.filterMap_append]
  · simp [he, List.filterMap_append]

theorem titleAt_of_not_mem {hs : List Entry} {α : List String} (hne : α ≠ [])
    (hα : α ∉ b.chainPrefixes hs) : b.titleAt hs α = createdTitle α := by
  have hnil : (hs.filterMap fun e => if b.chain e = α then e.label? else none) = [] := by
    rw [List.filterMap_eq_nil_iff]
    intro e he
    rw [if_neg]
    intro hchain
    have hpre : α <+: b.chain e := hchain ▸ List.prefix_refl _
    exact hα ((b.mem_chainPrefixes).2 ⟨hne, e, he, b.accepts_of_prefix hne hpre, hpre⟩)
  rw [titleAt, hnil]
  rfl

theorem mem_chainPrefixes_append_singleton (hs : List Entry) (e : Entry) (α : List String) :
    α ∈ b.chainPrefixes (hs ++ [e]) ↔ α ∈ b.chainPrefixes hs ∨ (α ≠ [] ∧ α <+: b.chain e) := by
  rw [mem_chainPrefixes, mem_chainPrefixes]
  simp only [List.mem_append, List.mem_singleton]
  constructor
  · rintro ⟨hne, e', he' | rfl, hacc, hpre⟩
    · exact .inl ⟨hne, e', he', hacc, hpre⟩
    · exact .inr ⟨hne, hpre⟩
  · rintro (⟨hne, e', he', hacc, hpre⟩ | ⟨hne, hpre⟩)
    · exact ⟨hne, e', .inl he', hacc, hpre⟩
    · exact ⟨hne, e, .inr rfl, b.accepts_of_prefix hne hpre, hpre⟩

/-- The nested fold holds, at each prefix of the entries' chains, the title `titleAt` gives, and
nothing elsewhere. -/
def TitlesAgree (hs : List Entry) (forest : Forest) : Prop :=
  ∀ α, (lookup? forest α).map (·.title) =
    if α ∈ b.chainPrefixes hs then some (b.titleAt hs α) else none

theorem titlesAgree_insertNested {hs : List Entry} {forest : Forest} (h : b.TitlesAgree hs forest)
    (e : Entry) : b.TitlesAgree (hs ++ [e]) (b.insertNested forest e) := by
  intro α
  rw [insertNested_eq_insertChain, Nested.lookup?_insertChain _ _ _ (b.titled_walk e), walk_values,
    h α, titleAt_append_singleton]
  have hmem := b.mem_chainPrefixes_append_singleton hs e α
  by_cases hp : α ≠ [] ∧ α <+: b.chain e
  ·
    have hold : (if α ∈ b.chainPrefixes hs then some (b.titleAt hs α) else none).getD
        (createdTitle α) = b.titleAt hs α := by
      split
      · rfl
      · next hα => exact (b.titleAt_of_not_mem hp.1 hα).symm
    rw [if_pos hp, if_pos (hmem.2 (.inr hp)), hold]
    by_cases hc : α = b.chain e
    · rw [if_pos hc, if_pos hc.symm]
    · rw [if_neg hc, if_neg (Ne.symm hc)]
  · rw [if_neg hp]
    by_cases hα : α ∈ b.chainPrefixes hs
    ·
      have hne : b.chain e ≠ α := fun hc =>
        hp ⟨((b.mem_chainPrefixes).1 hα).1, hc ▸ List.prefix_refl _⟩
      rw [if_pos hα, if_pos (hmem.2 (.inl hα)), if_neg hne]
    · rw [if_neg hα, if_neg fun h' => (hmem.1 h').elim hα hp]

theorem titlesAgree_foldl (entries : List Entry) :
    ∀ (hs : List Entry) (forest : Forest), b.TitlesAgree hs forest →
      b.TitlesAgree (hs ++ entries) (entries.foldl b.insertNested forest) := by
  induction entries with
  | nil => exact fun hs forest h => by rwa [List.append_nil]
  | cons e es ih =>
    intro hs forest h
    rw [List.foldl_cons, ← List.singleton_append, ← List.append_assoc]
    exact ih _ _ (b.titlesAgree_insertNested h e)

theorem titlesAgree_foldNested (entries : List Entry) :
    b.TitlesAgree entries (b.foldNested entries) := by
  have := b.titlesAgree_foldl entries [] [] fun α => by simp [chainPrefixes]
  rwa [List.nil_append] at this

theorem flaggedAll_foldNested (entries : List Entry) :
    FlaggedAll false (b.foldNested entries) := by
  unfold foldNested
  suffices ∀ forest : Forest, FlaggedAll false forest →
      FlaggedAll false (entries.foldl b.insertNested forest) from this [] trivial
  induction entries with
  | nil => exact fun _ h => h
  | cons e es ih =>
    intro forest h
    rw [List.foldl_cons, insertNested_eq_insertChain]
    exact ih _ (Nested.flaggedAll_insertChain _ _ h)

theorem flaggedAll_mark {forest : Forest} (h : FlaggedAll false forest) :
    FlaggedAll b.selectable (b.mark forest) := by
  unfold mark
  cases b.selectable with
  | true => exact flaggedAll_markSelectableAll forest
  | false => exact h

theorem lookup?_mark (forest : Forest) (α : List String) :
    (lookup? (b.mark forest) α).map (·.title) = (lookup? forest α).map (·.title) := by
  unfold mark
  split
  · have htitle : ((·.title) ∘ markSelectable : Node → String) = (·.title) :=
      funext title_markSelectable
    rw [lookup?_markSelectableAll, Option.map_map, htitle]
  · rfl

theorem build_sorted_spec (hsorted : b.ordering = .sorted) (entries : List Entry) :
    OrderedAll (b.build entries) ∧ FlaggedAll b.selectable (b.build entries) ∧
      b.TitlesAgree entries (b.build entries) := by
  have hnd : (addressesAll (b.mark (b.foldNested entries))).Nodup := by
    rw [addressesAll_mark]
    exact (b.foldl_insertNested_addresses entries [] (by simp)).1
  have hbuild : b.build entries = (sortDeepAll (b.mark (b.foldNested entries))).mergeSort valueLE := by
    rw [build, intoRoots_foldl_insert, arrange_eq, if_pos hsorted]
  rw [hbuild]
  refine ⟨orderedAll_sort hnd, flaggedAll_sort (b.flaggedAll_mark (b.flaggedAll_foldNested entries)),
    fun α => ?_⟩
  rw [lookup?_sort α hnd, Option.map_map]
  have : ((·.title) ∘ sortDeep : Node → String) = (·.title) := funext title_sortDeep
  rw [this, lookup?_mark]
  exact b.titlesAgree_foldNested entries α

theorem titleAt_perm {entries entries' : List Entry}
    (hlabels : entries.filter (·.label?.isSome) = entries'.filter (·.label?.isSome))
    (α : List String) : b.titleAt entries α = b.titleAt entries' α := by
  have hkeep : ∀ es : List Entry,
      (es.filterMap fun e => if b.chain e = α then e.label? else none) =
        ((es.filter (·.label?.isSome)).filterMap fun e => if b.chain e = α then e.label? else none) := by
    intro es
    rw [List.filterMap_filter]
    congr 1
    funext e
    cases e.label? <;> simp
  unfold titleAt
  rw [hkeep entries, hkeep entries', hlabels]

/-- Under sorting, the forest built from a list of entries does not depend on their order, as
long as the entries with a label keep theirs. -/
theorem build_eq_of_perm_of_labels (hsorted : b.ordering = .sorted) {entries entries' : List Entry}
    (hperm : entries.Perm entries')
    (hlabels : entries.filter (·.label?.isSome) = entries'.filter (·.label?.isSome)) :
    b.build entries = b.build entries' := by
  obtain ⟨ho, hf, ht⟩ := b.build_sorted_spec hsorted entries
  obtain ⟨ho', hf', ht'⟩ := b.build_sorted_spec hsorted entries'
  refine eq_of_lookup? ho ho' hf hf' fun α => ?_
  have hmem : α ∈ b.chainPrefixes entries ↔ α ∈ b.chainPrefixes entries' := by
    rw [mem_chainPrefixes, mem_chainPrefixes]
    simp only [hperm.mem_iff]
  rw [ht α, ht' α, b.titleAt_perm hlabels α]
  simp only [hmem]

/-- Two raw paths and a labeled value, moved around while the one label keeps its place among the
labels: the sorted builds agree. -/
theorem build_sorted_reordered :
    ({ ordering := .sorted } : Builder).ordering = .sorted ∧
    [Entry.raw "b/c", .labeledText "A" "a", .raw "a/x"].Perm
      [.raw "a/x", .raw "b/c", .labeledText "A" "a"] ∧
    [Entry.raw "b/c", .labeledText "A" "a", .raw "a/x"].filter (·.label?.isSome) =
      [Entry.raw "a/x", .raw "b/c", .labeledText "A" "a"].filter (·.label?.isSome) ∧
    ({ ordering := .sorted } : Builder).build [.raw "b/c", .labeledText "A" "a", .raw "a/x"] =
      ({ ordering := .sorted } : Builder).build [.raw "a/x", .raw "b/c", .labeledText "A" "a"] :=
  have hperm : [Entry.raw "b/c", .labeledText "A" "a", .raw "a/x"].Perm
      [.raw "a/x", .raw "b/c", .labeledText "A" "a"] :=
    (List.Perm.cons _ (List.Perm.swap _ _ [])).trans (List.Perm.swap _ _ _)
  ⟨rfl, hperm, rfl, build_eq_of_perm_of_labels _ rfl hperm rfl⟩

end Builder

end PathHierarchy.Forest
