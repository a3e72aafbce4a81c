import PathHierarchy.Proofs.SiblingOrder
import Mathlib.Data.List.Sort

/-!
# Entries fed a second time

A forest whose sibling lists hold no value twice is determined by three things: the values of
the siblings below each address, in order; the title at each address; and one flag carried by
all its nodes (`Node.eq_of_siblingsAt`). The nested fold keeps all three in step with its entries:
below each address stand the values the entries' chains go on with, in the order of the first
entry through each, and at each address the last label (`SiblingsFirst`, `TitlesAgree`). More
entries that reach no new address and leave every title as it was therefore leave the fold as it
was (`foldNested_append_of_covered`).

Feeding the entries a second time is such a case: their chains reach only addresses the first
pass made, and at each address the last label of the two passes is the last label of the first.
So building `e ++ e` builds what `e` builds, in either ordering and with or without marking
(`build_append_self`). So does adding an entry without a label along a chain already there, such
as a path repeated or written with a trailing delimiter.
-/

set_option autoImplicit false

namespace PathHierarchy.Forest

namespace Node

theorem siblingsAt_cons_self (n : Node) (ns : List Node) (β : List String) :
    siblingsAt (n :: ns) (n.value :: β) = siblingsAt n.children β :=
  siblingsAt_cons_of_find? (by simp) β

theorem siblingsAt_cons_of_ne {n : Node} {ns : List Node} {u : String} (h : n.value ≠ u)
    (β : List String) : siblingsAt (n :: ns) (u :: β) = siblingsAt ns (u :: β) := by
  have hfind : (n :: ns).find? (·.value == u) = ns.find? (·.value == u) := by simp [h]
  rw [siblingsAt, hfind, siblingsAt]

theorem siblingsAt_of_forall_ne {l : List Node} {u : String} (h : ∀ n ∈ l, n.value ≠ u)
    (β : List String) : siblingsAt l (u :: β) = [] := by
  rw [siblingsAt, List.find?_eq_none.2 fun n hn => by simpa using h n hn]

mutual

theorem eq_of_siblingsAt_node {sel : Bool} :
    ∀ {n m : Node}, n.value = m.value → n.title = m.title →
      (addressesAll n.children).Nodup → (addressesAll m.children).Nodup →
      n.Flagged sel → m.Flagged sel →
      (∀ β, (siblingsAt n.children β).map (·.value) = (siblingsAt m.children β).map (·.value)) →
      (∀ α, (lookup? n.children α).map (·.title) = (lookup? m.children α).map (·.title)) → n = m
  | ⟨v, t, cs, s⟩, ⟨v', t', cs', s'⟩, hv, ht, hnd, hnd', hf, hf', hs, hl => by
    obtain ⟨rfl, hcs⟩ := hf
    obtain ⟨rfl, hcs'⟩ := hf'
    have hchildren : cs = cs' := eq_of_siblingsAt hnd hnd' hcs hcs' hs hl
    cases hv
    cases ht
    cases hchildren
    rfl

/-- Two forests whose sibling lists hold no value twice and whose nodes all carry one flag are
equal when they have the same values below every address and the same title at every address. -/
theorem eq_of_siblingsAt {sel : Bool} :
    ∀ {f g : List Node}, (addressesAll f).Nodup → (addressesAll g).Nodup →
      FlaggedAll sel f → FlaggedAll sel g →
      (∀ β, (siblingsAt f β).map (·.value) = (siblingsAt g β).map (·.value)) →
      (∀ α, (lookup? f α).map (·.title) = (lookup? g α).map (·.title)) → f = g
  | [], [], _, _, _, _, _, _ => rfl
  | [], m :: ms, _, _, _, _, hs, _ => by simpa using hs []
  | n :: ns, [], _, _, _, _, hs, _ => by simpa using hs []
  | n :: ns, m :: ms, hnd, hnd', hf, hf', hs, hl => by
    obtain ⟨hv, hvs⟩ : n.value = m.value ∧ ns.map (·.value) = ms.map (·.value) := by
      simpa using hs []
    rw [addressesAll_cons, List.nodup_append] at hnd hnd'
    have hfresh : ∀ x ∈ ns, x.value ≠ n.value := fun x hx hxv =>
      (disjoint_addresses_iff n ns).1 (fun α hα hα' => hnd.2.2 α hα α hα' rfl)
        (List.mem_map.2 ⟨x, hx, hxv⟩)
    have hfresh' : ∀ x ∈ ms, x.value ≠ m.value := fun x hx hxv =>
      (disjoint_addresses_iff m ms).1 (fun α hα hα' => hnd'.2.2 α hα α hα' rfl)
        (List.mem_map.2 ⟨x, hx, hxv⟩)
    rw [FlaggedAll] at hf hf'
    have hhead : n = m := by
      refine eq_of_siblingsAt_node hv ?_ ((nodup_addresses_iff n).1 hnd.1)
        ((nodup_addresses_iff m).1 hnd'.1) hf.1 hf'.1 (fun β => ?_) (fun α => ?_)
      · have := hl [n.value]
        rw [lookup?_cons_self, hv, lookup?_cons_self] at this
        simpa using this
      · have := hs (n.value :: β)
        rwa [siblingsAt_cons_self, hv, siblingsAt_cons_self] at this
      · cases α with
        | nil => simp
        | cons w α =>
          have := hl (n.value :: w :: α)
          rwa [lookup?_cons_self, hv, lookup?_cons_self, if_neg (List.cons_ne_nil w α),
            if_neg (List.cons_ne_nil w α)] at this
    have htail : ns = ms := by
      refine eq_of_siblingsAt hnd.2.1 hnd'.2.1 hf.2 hf'.2 (fun β => ?_) (fun α => ?_)
      · cases β with
        | nil => simpa using hvs
        | cons u β =>
          by_cases hu : n.value = u
          · subst hu
            rw [siblingsAt_of_forall_ne hfresh, hv, siblingsAt_of_forall_ne hfresh']
          · have := hs (u :: β)
            rwa [siblingsAt_cons_of_ne hu, siblingsAt_cons_of_ne (hv ▸ hu)] at this
      · cases α with
        | nil => simp
        | cons u α =>
          by_cases hu : n.value = u
          · subst hu
            rw [lookup?_of_forall_ne hfresh, hv, lookup?_of_forall_ne hfresh']
          · have := hl (u :: α)
            rwa [lookup?_cons_of_ne hu, lookup?_cons_of_ne (hv ▸ hu)] at this
    rw [hhead, htail]

end

end Node

theorem eq_of_pairwise_key {α : Type} {k : α → Nat} {l₁ l₂ : List α}
    (h₁ : l₁.Pairwise (k · < k ·)) (h₂ : l₂.Pairwise (k · < k ·)) (hmem : ∀ a, a ∈ l₁ ↔ a ∈ l₂) :
    l₁ = l₂ :=
  haveI : Std.Antisymm (fun a b : α => k a < k b) :=
    ⟨fun _ _ hab hba => absurd (Nat.lt_trans hab hba) (Nat.lt_irrefl _)⟩
  haveI : Std.Irrefl (fun a b : α => k a < k b) := ⟨fun _ => Nat.lt_irrefl _⟩
  h₁.eq_of_mem_iff h₂ hmem

namespace Builder

open Node

variable (b : Builder)

theorem values_siblingsAt_foldNested_append {hs es : List Entry}
    (hcov : ∀ α ∈ b.chainPrefixes (hs ++ es), α ∈ b.chainPrefixes hs) (β : List String) :
    (siblingsAt (b.foldNested (hs ++ es)) β).map (·.value) =
      (siblingsAt (b.foldNested hs) β).map (·.value) := by
  obtain ⟨hmem, hord⟩ := b.siblingsFirst_foldNested (hs ++ es) β
  obtain ⟨hmem', hord'⟩ := b.siblingsFirst_foldNested hs β
  have hsame : ∀ v, v ∈ (siblingsAt (b.foldNested (hs ++ es)) β).map (·.value) ↔
      v ∈ (siblingsAt (b.foldNested hs) β).map (·.value) := by
    intro v
    rw [hmem, hmem']
    constructor
    · rintro ⟨e, he, hpre⟩
      have hα : β ++ [v] ∈ b.chainPrefixes (hs ++ es) :=
        (b.mem_chainPrefixes).2 ⟨by simp, e, he, b.accepts_of_prefix (by simp) hpre, hpre⟩
      obtain ⟨-, e', he', -, hpre'⟩ := (b.mem_chainPrefixes).1 (hcov _ hα)
      exact ⟨e', he', hpre'⟩
    · rintro ⟨e, he, hpre⟩
      exact ⟨e, List.mem_append_left _ he, hpre⟩
  have hkey : ∀ v ∈ (siblingsAt (b.foldNested (hs ++ es)) β).map (·.value),
      b.firstThrough (hs ++ es) (β ++ [v]) = b.firstThrough hs (β ++ [v]) := fun v hv =>
    b.firstThrough_append_of_exists (by simp) ((hmem' v).1 ((hsame v).1 hv)) es
  rw [List.pairwise_map] at hord hord'
  refine eq_of_pairwise_key (hord.imp_of_mem fun ha hb hab => ?_) hord' hsame
  rwa [hkey _ ha, hkey _ hb] at hab

/-- Entries that reach no new address and keep the title at every address there is leave the
nested fold as it was. -/
theorem foldNested_append_of_covered {hs es : List Entry}
    (hcov : ∀ α ∈ b.chainPrefixes (hs ++ es), α ∈ b.chainPrefixes hs)
    (htitle : ∀ α ∈ b.chainPrefixes hs, b.titleAt (hs ++ es) α = b.titleAt hs α) :
    b.foldNested (hs ++ es) = b.foldNested hs := by
  have hnodup : ∀ entries, (addressesAll (b.foldNested entries)).Nodup := fun entries =>
    (b.foldl_insertNested_addresses entries [] (by simp)).1
  refine eq_of_siblingsAt (hnodup _) (hnodup _) (b.flaggedAll_foldNested _)
    (b.flaggedAll_foldNested _) (b.values_siblingsAt_foldNested_append hcov) fun α => ?_
  rw [b.titlesAgree_foldNested (hs ++ es) α, b.titlesAgree_foldNested hs α]
  by_cases hα : α ∈ b.chainPrefixes hs
  · have hα' : α ∈ b.chainPrefixes (hs ++ es) := by
      obtain ⟨hne, e, he, hacc, hpre⟩ := (b.mem_chainPrefixes).1 hα
      exact (b.mem_chainPrefixes).2 ⟨hne, e, List.mem_append_left _ he, hacc, hpre⟩
    rw [if_pos hα', if_pos hα, htitle α hα]
  · rw [if_neg fun h => hα (hcov α h), if_neg hα]

theorem build_append_of_covered {hs es : List Entry}
    (hcov : ∀ α ∈ b.chainPrefixes (hs ++ es), α ∈ b.chainPrefixes hs)
    (htitle : ∀ α ∈ b.chainPrefixes hs, b.titleAt (hs ++ es) α = b.titleAt hs α) :
    b.build (hs ++ es) = b.build hs := by
  rw [build, build, intoRoots_foldl_insert, intoRoots_foldl_insert,
    b.foldNested_append_of_covered hcov htitle]

theorem titleAt_append_self (entries : List Entry) (α : List String) :
    b.titleAt (entries ++ entries) α = b.titleAt entries α := by
  unfold titleAt
  rw [List.filterMap_append, List.getLast?_append, Option.or_self]

/-- Feeding the entries a second time, labels and all, changes nothing of the build: values,
titles, the order of siblings and the flags. Nor does adding an entry without a label whose
chain is already there, such as a repeated path or one with a trailing delimiter. -/
theorem build_append_self (entries : List Entry) :
    b.build (entries ++ entries) = b.build entries ∧
    ∀ e, e.label? = none → (b.chain e = [] ∨ b.chain e ∈ b.chainPrefixes entries) →
      b.build (entries ++ [e]) = b.build entries := by
  refine ⟨b.build_append_of_covered (fun α hα => ?_) fun α _ => b.titleAt_append_self entries α,
    fun e hlabel hchain => b.build_append_of_covered (fun α hα => ?_) fun α _ => ?_⟩
  · obtain ⟨hne, e, he, hacc, hpre⟩ := (b.mem_chainPrefixes).1 hα
    exact (b.mem_chainPrefixes).2 ⟨hne, e, (List.mem_append.1 he).elim id id, hacc, hpre⟩
  ·
    rcases (b.mem_chainPrefixes_append_singleton entries e α).1 hα with hα | ⟨hne, hpre⟩
    · exact hα
    · rcases hchain with hnil | hmem
      · rw [hnil] at hpre
        exact absurd (List.prefix_nil.1 hpre) hne
      · obtain ⟨-, e', he', hacc', hpre'⟩ := (b.mem_chainPrefixes).1 hmem
        exact (b.mem_chainPrefixes).2 ⟨hne, e', he', hacc', hpre.trans hpre'⟩
  · rw [titleAt_append_singleton, hlabel, Option.getD_none, ite_self]

end Builder

end PathHierarchy.Forest
