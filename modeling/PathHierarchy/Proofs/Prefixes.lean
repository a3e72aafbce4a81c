import PathHierarchy.Proofs.SortingLoop
import PathHierarchy.Proofs.Chains
import PathHierarchy.Proofs.Traversal
import Mathlib.Data.Finset.Card

/-!
# One node per chain prefix

Every entry the builder takes walks a chain of values (`Builder.chain`). In a built forest the
addresses of the nodes, the values on the way down to each, are all different and are exactly
the non-empty prefixes of those chains (`build_addresses_biject_chainPrefixes`). So no two
siblings share a value, a child's value is its parent's, a delimiter and a segment, and there
are as many nodes as different prefixes.

The nested fold carries the invariant entry by entry (`foldl_insertNested_addresses`); marking
keeps the addresses and sorting permutes them.
-/

set_option autoImplicit false

namespace PathHierarchy.Forest

open Node

theorem Node.toJson_key_value (n : Node) :
    n.toJson.field? "key" = some (.string n.value) ∧
      n.toJson.field? "value" = some (.string n.value) := by
  cases n
  simp [toJson, Json.Value.field?, Json.Fields.get?]

namespace Builder

variable (b : Builder)

/-- The non-empty prefixes of the chains of the entries the builder takes. -/
def chainPrefixes (entries : List Entry) : List (List String) :=
  (entries.filter b.accepts).flatMap fun e => (b.chain e).inits.filter (· ≠ [])

theorem mem_chainPrefixes {entries : List Entry} {α : List String} :
    α ∈ b.chainPrefixes entries ↔ α ≠ [] ∧ ∃ e ∈ entries, b.accepts e ∧ α <+: b.chain e := by
  simp only [chainPrefixes, List.mem_flatMap, List.mem_filter, List.mem_inits, ne_eq,
    decide_not, Bool.not_eq_eq_eq_not, Bool.not_true, decide_eq_false_iff_not]
  constructor
  · rintro ⟨e, ⟨he, hacc⟩, hpre, hne⟩
    exact ⟨hne, e, he, hacc, hpre⟩
  · rintro ⟨hne, e, he, hacc, hpre⟩
    exact ⟨e, ⟨he, hacc⟩, hpre, hne⟩

/-- Folding entries into a nested forest keeps its addresses all different, and adds to them
exactly the non-empty prefixes of the entries' chains. -/
theorem foldl_insertNested_addresses (entries : List Entry) :
    ∀ forest : Forest, (addressesAll forest).Nodup →
      (addressesAll (entries.foldl b.insertNested forest)).Nodup ∧
        ∀ α, α ∈ addressesAll (entries.foldl b.insertNested forest) ↔
          α ∈ addressesAll forest ∨ α ∈ b.chainPrefixes entries := by
  induction entries with
  | nil => exact fun forest h => ⟨h, fun α => by simp [chainPrefixes]⟩
  | cons e es ih =>
    intro forest h
    rw [List.foldl_cons, insertNested_eq_insertChain]
    obtain ⟨hnd, hmem⟩ := ih _ (Nested.nodup_addressesAll_insertChain _ _ _ h)
    refine ⟨hnd, fun α => ?_⟩
    rw [hmem, Nested.mem_addressesAll_insertChain, walk_values, mem_chainPrefixes,
      mem_chainPrefixes]
    simp only [List.mem_cons, exists_eq_or_imp]
    constructor
    · rintro ((h | ⟨hne, hpre⟩) | ⟨hne, hrest⟩)
      · exact .inl h
      · exact .inr ⟨hne, .inl ⟨b.accepts_of_prefix hne hpre, hpre⟩⟩
      · exact .inr ⟨hne, .inr hrest⟩
    · rintro (h | ⟨hne, ⟨-, hpre⟩ | hrest⟩)
      · exact .inl (.inl h)
      · exact .inl (.inr ⟨hne, hpre⟩)
      · exact .inr ⟨hne, hrest⟩

theorem addressesAll_mark (forest : Forest) : addressesAll (b.mark forest) = addressesAll forest := by
  unfold mark
  split
  · exact addressesAll_markSelectableAll forest
  · rfl

theorem addressesAll_arrange_perm (forest : Forest) :
    (addressesAll (b.arrange forest)).Perm (addressesAll forest) := by
  rw [arrange_eq]
  split
  · exact (addressesAll_perm (List.mergeSort_perm _ _)).trans (addressesAll_sortDeepAll forest)
  · exact .refl _

theorem addressesAll_build_perm (entries : List Entry) :
    (addressesAll (b.build entries)).Perm (addressesAll (b.foldNested entries)) := by
  rw [build, intoRoots_foldl_insert]
  exact (b.addressesAll_arrange_perm _).trans (by rw [addressesAll_mark])

theorem nodup_addressesAll_build (entries : List Entry) :
    (addressesAll (b.build entries)).Nodup :=
  (b.addressesAll_build_perm entries).nodup_iff.2
    (b.foldl_insertNested_addresses entries [] (by simp)).1

theorem mem_addressesAll_build (entries : List Entry) (α : List String) :
    α ∈ addressesAll (b.build entries) ↔ α ∈ b.chainPrefixes entries := by
  rw [(b.addressesAll_build_perm entries).mem_iff, foldNested,
    (b.foldl_insertNested_addresses entries [] (by simp)).2 α]
  simp

theorem build_child_value (entries : List Entry) {n c : Node} (hn : n ∈ (b.build entries).nodes)
    (hc : c ∈ n.children) :
    ∃ s, s ≠ "" ∧ (b.delimiterFor c.value).toChar ∉ s.toList ∧
      c.value = n.value ++ (b.delimiterFor c.value).toChar.toString ++ s := by
  obtain ⟨α, hα⟩ := exists_address_of_childAll hn hc
  obtain ⟨-, e, -, -, hpre⟩ := (b.mem_chainPrefixes).1 ((b.mem_addressesAll_build entries _).1 hα)
  exact b.chain_step hpre

theorem nodeCount_build (entries : List Entry) :
    (b.build entries).nodeCount = (b.chainPrefixes entries).toFinset.card := by
  have hset : (addressesAll (b.build entries)).toFinset = (b.chainPrefixes entries).toFinset := by
    ext α
    simp only [List.mem_toFinset, b.mem_addressesAll_build]
  rw [← hset, List.toFinset_card_of_nodup (b.nodup_addressesAll_build entries),
    length_addressesAll, nodeCount, toList_iter]
  rfl

/-- The nodes of a built forest stand one to one for the non-empty prefixes of the chains of the
entries the builder takes, through their addresses. Hence the roots, and the children of every
node, have different values; every node is keyed by its value; a child's value extends its
parent's by the delimiter and one segment; and the nodes are as many as the prefixes. -/
theorem build_addresses_biject_chainPrefixes (entries : List Entry) :
    (addressesAll (b.build entries)).Nodup ∧
    (∀ α, α ∈ addressesAll (b.build entries) ↔ α ∈ b.chainPrefixes entries) ∧
    ((b.build entries).map (·.value)).Nodup ∧
    (∀ n ∈ (b.build entries).nodes, (n.children.map (·.value)).Nodup) ∧
    (∀ n ∈ (b.build entries).nodes,
      n.toJson.field? "key" = some (.string n.value) ∧
        n.toJson.field? "value" = some (.string n.value)) ∧
    (∀ n ∈ (b.build entries).nodes, ∀ c ∈ n.children, ∃ s, s ≠ "" ∧
      (b.delimiterFor c.value).toChar ∉ s.toList ∧
      c.value = n.value ++ (b.delimiterFor c.value).toChar.toString ++ s) ∧
    (b.build entries).nodeCount = (b.chainPrefixes entries).toFinset.card := by
  have hnd := b.nodup_addressesAll_build entries
  exact ⟨hnd, b.mem_addressesAll_build entries, ((nodup_addressesAll_iff _).1 hnd).1,
    nodup_children_of_nodup_addressesAll hnd, fun n _ => n.toJson_key_value,
    fun _ hn _ hc => b.build_child_value entries hn hc, b.nodeCount_build entries⟩

end Builder

end PathHierarchy.Forest
