import PathHierarchy.Proofs.Reordering

/-!
# The title of every built node

Every node of a built forest stands at an address, the values on the way down to it
(`exists_lookup?_of_mem_nodes`). Its title is the label of the last entry, in input order,
whose chain ends at that address and which has a label (`Builder.labelsAt`); entries without a
label, entries the builder skips, and entries whose chain only passes through the address count
for nothing. Without such a label a root keeps its value as title, and a child the segment its
value adds to its parent's past one delimiter (`title_build`). The ordering changes nothing
here: sorting moves nodes, never titles (`titlesAgree_build`).
-/

set_option autoImplicit false

namespace PathHierarchy.Forest

namespace Node

theorem lookup?_cons (l : List Node) (v : String) (α : List String) :
    lookup? l (v :: α) =
      (l.find? (·.value == v)).bind fun m => if α = [] then some m else lookup? m.children α := by
  cases h : l.find? (·.value == v) with
  | none => exact lookup?_of_forall_ne (fun n hn => by simpa using List.find?_eq_none.1 h n hn) α
  | some m => exact lookup?_of_find? h α

theorem getLast?_of_lookup? :
    ∀ {l : List Node} {α : List String} {n : Node}, lookup? l α = some n → α.getLast? = some n.value
  | _, [], _, h => by simp at h
  | l, v :: α, n, h => by
    rw [lookup?_cons] at h
    obtain ⟨m, hm, hn⟩ := Option.bind_eq_some_iff.1 h
    by_cases hα : α = []
    · subst hα
      rw [if_pos rfl] at hn
      have hv : m.value = v := by simpa using List.find?_some hm
      rw [← Option.some.inj hn, hv]
      rfl
    · rw [if_neg hα] at hn
      rw [List.getLast?_cons, getLast?_of_lookup? hn, Option.getD_some]

theorem mem_addressesAll_of_lookup? :
    ∀ {l : List Node} {α : List String} {n : Node}, lookup? l α = some n → α ∈ addressesAll l
  | _, [], _, h => by simp at h
  | l, v :: α, n, h => by
    rw [lookup?_cons] at h
    obtain ⟨m, hm, hn⟩ := Option.bind_eq_some_iff.1 h
    have hv : m.value = v := by simpa using List.find?_some hm
    refine mem_addressesAll.2 ⟨m, List.mem_of_find?_eq_some hm, mem_addresses.2 ?_⟩
    by_cases hα : α = []
    · exact .inl (by rw [hα, hv])
    · rw [if_neg hα] at hn
      exact .inr ⟨α, mem_addressesAll_of_lookup? hn, by rw [hv]⟩

theorem lookup?_parent :
    ∀ {l : List Node} (β : List String) {u w : String} {n : Node},
      lookup? l (β ++ [u, w]) = some n →
        ∃ q, lookup? l (β ++ [u]) = some q ∧ q.value = u ∧ n ∈ q.children
  | l, [], u, w, n, h => by
    rw [List.nil_append, lookup?_cons_cons] at h
    obtain ⟨m, hm, hn⟩ := Option.bind_eq_some_iff.1 h
    rw [lookup?_singleton] at hn
    exact ⟨m, by rw [List.nil_append, lookup?_singleton, hm], by simpa using List.find?_some hm,
      List.mem_of_find?_eq_some hn⟩
  | l, v :: β, u, w, n, h => by
    have hne : β ++ [u, w] ≠ [] := by simp
    rw [List.cons_append, lookup?_cons] at h
    obtain ⟨m, hm, hn⟩ := Option.bind_eq_some_iff.1 h
    rw [if_neg hne] at hn
    obtain ⟨q, hq, hqv, hnq⟩ := lookup?_parent β hn
    refine ⟨q, ?_, hqv, hnq⟩
    rw [List.cons_append, lookup?_cons, hm, Option.bind_some, if_neg (by simp), hq]

theorem find?_of_nodup {l : List Node} (hnd : (l.map (·.value)).Nodup) {m : Node} (hm : m ∈ l) :
    l.find? (·.value == m.value) = some m := by
  cases hx : l.find? (·.value == m.value) with
  | none => exact absurd (List.find?_eq_none.1 hx m hm) (by simp)
  | some x =>
    have hxv : x.value = m.value := by simpa using List.find?_some hx
    rw [List.inj_on_of_nodup_map hnd (List.mem_of_find?_eq_some hx) hm hxv]

mutual

theorem exists_lookup?_of_mem_preorder :
    ∀ {m : Node}, (addressesAll m.children).Nodup → ∀ {n : Node}, n ∈ m.preorder →
      n = m ∨ ∃ β, lookup? m.children β = some n
  | ⟨v, t, cs, s⟩, hnd, n, hn => by
    rw [preorder, List.mem_cons] at hn
    rcases hn with rfl | hn
    · exact .inl rfl
    · exact .inr (exists_lookup?_of_mem_preorderAll hnd hn)

theorem exists_lookup?_of_mem_preorderAll :
    ∀ {l : List Node}, (addressesAll l).Nodup → ∀ {n : Node}, n ∈ preorderAll l →
      ∃ α, lookup? l α = some n
  | [], _, n, hn => by simp [preorderAll] at hn
  | m :: ms, hnd, n, hn => by
    obtain ⟨hroots, hbelow⟩ := (nodup_addressesAll_iff (m :: ms)).1 hnd
    rw [preorderAll, List.mem_append] at hn
    rcases hn with hn | hn
    · have hfind := find?_of_nodup hroots List.mem_cons_self
      rcases exists_lookup?_of_mem_preorder (hbelow m List.mem_cons_self) hn with rfl | ⟨β, hβ⟩
      · exact ⟨[n.value], by rw [lookup?_singleton, hfind]⟩
      ·
        have hne : β ≠ [] := by rintro rfl; simp at hβ
        exact ⟨m.value :: β, by rw [lookup?_cons, hfind, Option.bind_some, if_neg hne, hβ]⟩
    · rw [addressesAll_cons, List.nodup_append] at hnd
      obtain ⟨α, hα⟩ := exists_lookup?_of_mem_preorderAll hnd.2.1 hn
      have hne : α ≠ [] := by rintro rfl; simp at hα
      obtain ⟨v, α', rfl⟩ := List.exists_cons_of_ne_nil hne
      have hmv : m.value ≠ v := by
        rintro rfl
        have hα' := hα
        rw [lookup?_cons] at hα'
        obtain ⟨x, hx, -⟩ := Option.bind_eq_some_iff.1 hα'
        have hroot : m.value ∉ ms.map (·.value) := (List.nodup_cons.1 (by simpa using hroots)).1
        exact hroot (List.mem_map.2 ⟨x, List.mem_of_find?_eq_some hx,
          by simpa using List.find?_some hx⟩)
      exact ⟨v :: α', by rw [lookup?_cons_of_ne hmv, hα]⟩

end

end Node

namespace Builder

open Node

variable (b : Builder)

/-- The labels of the entries whose chain ends at an address, in input order. -/
def labelsAt (entries : List Entry) (α : List String) : List String :=
  entries.filterMap fun e => if b.chain e = α then e.label? else none

theorem titleAt_eq_labelsAt (entries : List Entry) (α : List String) :
    b.titleAt entries α = ((b.labelsAt entries α).getLast?).getD (createdTitle α) := rfl

theorem lookup?_arrange {forest : Forest} (h : (addressesAll forest).Nodup) (α : List String) :
    (lookup? (b.arrange forest) α).map (·.title) = (lookup? forest α).map (·.title) := by
  rw [arrange_eq]
  split
  · have htitle : ((·.title) ∘ sortDeep : Node → String) = (·.title) := funext title_sortDeep
    rw [lookup?_sort α h, Option.map_map, htitle]
  · rfl

/-- Whatever the ordering, a built forest holds at each prefix of the entries' chains the title
`titleAt` gives, and nothing elsewhere. -/
theorem titlesAgree_build (entries : List Entry) : b.TitlesAgree entries (b.build entries) := by
  have hnd : (addressesAll (b.mark (b.foldNested entries))).Nodup := by
    rw [addressesAll_mark]
    exact (b.foldl_insertNested_addresses entries [] (by simp)).1
  intro α
  rw [build, intoRoots_foldl_insert, b.lookup?_arrange hnd, lookup?_mark]
  exact b.titlesAgree_foldNested entries α

theorem title_of_lookup?_build {entries : List Entry} {α : List String} {n : Node}
    (h : lookup? (b.build entries) α = some n) :
    n.title = b.titleAt entries α ∧ α ∈ b.chainPrefixes entries := by
  have hagree := b.titlesAgree_build entries α
  rw [h, Option.map_some] at hagree
  split at hagree
  · next hα => exact ⟨Option.some.inj hagree, hα⟩
  · cases hagree

theorem value_eq_createdTitle_step {entries : List Entry} {β : List String} {u v : String}
    (hα : β ++ [u, v] ∈ b.chainPrefixes entries) :
    v = u ++ (b.delimiterFor v).toChar.toString ++ createdTitle (β ++ [u, v]) := by
  obtain ⟨-, e, -, -, hpre⟩ := (b.mem_chainPrefixes).1 hα
  obtain ⟨t, -, -, hvalue⟩ := b.chain_step hpre
  have hcreated : createdTitle (β ++ [u, v]) = t := by
    rw [hvalue]
    exact createdTitle_step β u t _
  rw [hcreated]
  exact hvalue

/-- Every node of a built forest stands at an address. Its title is the last label among the
entries whose chain ends there; without one, a root's title is its value, and a child's title
is what its value adds to its parent's past the delimiter. -/
theorem title_build (entries : List Entry) :
    (∀ n ∈ (b.build entries).nodes, ∃ α, lookup? (b.build entries) α = some n) ∧
    ∀ α n, lookup? (b.build entries) α = some n →
      (∀ l, (b.labelsAt entries α).getLast? = some l → n.title = l) ∧
      (b.labelsAt entries α = [] →
        (α = [n.value] ∧ n.title = n.value) ∨
        ∃ β q, lookup? (b.build entries) (β ++ [q.value]) = some q ∧ n ∈ q.children ∧
          α = β ++ [q.value, n.value] ∧
          n.value = q.value ++ (b.delimiterFor n.value).toChar.toString ++ n.title) := by
  refine ⟨fun n hn => exists_lookup?_of_mem_preorderAll (b.nodup_addressesAll_build entries) hn,
    fun α n h => ⟨fun l hl => ?_, fun hnil => ?_⟩⟩
  · rw [(b.title_of_lookup?_build h).1, titleAt_eq_labelsAt, hl]
    rfl
  · obtain ⟨htitle, hα⟩ := b.title_of_lookup?_build h
    rw [titleAt_eq_labelsAt, hnil, List.getLast?_nil, Option.getD_none] at htitle
    obtain ⟨γ, rfl⟩ := List.getLast?_eq_some_iff.1 (getLast?_of_lookup? h)
    rcases List.eq_nil_or_concat γ with rfl | ⟨β, u, rfl⟩
    ·
      exact .inl ⟨rfl, by rw [htitle, List.nil_append, createdTitle_singleton]⟩
    ·
      have hαeq : β.concat u ++ [n.value] = β ++ [u, n.value] := by simp
      rw [hαeq] at h htitle hα ⊢
      obtain ⟨q, hq, rfl, hnq⟩ := lookup?_parent β h
      refine .inr ⟨β, q, hq, hnq, rfl, ?_⟩
      rw [htitle]
      exact b.value_eq_createdTitle_step hα

end Builder

end PathHierarchy.Forest
