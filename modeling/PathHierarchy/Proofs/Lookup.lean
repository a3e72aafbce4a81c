import PathHierarchy.Proofs.Prefixes
import Mathlib.Data.List.Perm.Subperm

/-!
# Looking nodes up by value

A value names few nodes of a built forest. Nodes stand one to one for their addresses
(`length_findAll`), and an address below the roots is the chain of its last value's own
segments (`Builder.addressOf`), while a root's address is its value alone. So at most two
addresses end with a value: the root one and the one its segments give.

With one delimiter for every path both cannot be there, since a root value has one segment at
most; a value names one node at most, and `find?` gives it (`findAll_build_le_one_or_two`).
Under detection both can, but only for a value with dots and no slash that is a root, from a
path split on slashes, and also a value deeper down a chain of paths split on dots.
-/

set_option autoImplicit false

namespace PathHierarchy.Forest

open Node

theorem Node.singleton_mem_addressesAll {l : List Node} {v : String} :
    [v] ∈ addressesAll l ↔ ∃ n ∈ l, n.value = v := by
  rw [mem_addressesAll]
  constructor
  · rintro ⟨n, hn, hv⟩
    rcases mem_addresses.1 hv with h | ⟨β, hβ, h⟩
    · exact ⟨n, hn, (List.cons.inj h).1.symm⟩
    · exact absurd (List.cons.inj h).2.symm (ne_nil_of_mem_addressesAll hβ)
  · rintro ⟨n, hn, rfl⟩
    exact ⟨n, hn, n.value_mem_addresses⟩

/-- The nodes with a value are as many as the addresses ending with it. -/
theorem length_findAll (f : Forest) (v : String) :
    (f.findAll v).length = ((addressesAll f).filter (·.getLast? == some v)).length := by
  have hcount := congrArg (List.countP (· == some v)) (getLast?_addressesAll f)
  rw [List.countP_map, List.countP_map] at hcount
  rw [findAll, toList_iter, nodes, ← List.countP_eq_length_filter, ← List.countP_eq_length_filter]
  simpa [Function.comp_def] using hcount.symm

theorem find?_eq_of_length_findAll_le_one {f : Forest} {v : String} {n : Node}
    (h : (f.findAll v).length ≤ 1) (hn : n ∈ f.nodes) (hv : n.value = v) : f.find? v = some n := by
  have hmem : n ∈ f.findAll v := List.mem_filter.2 ⟨toList_iter f ▸ hn, by simp [hv]⟩
  have hsingle : f.findAll v = [n] := by
    match hl : f.findAll v, h, hmem with
    | [m], _, hm => rw [List.mem_singleton.1 hm]
    | _ :: _ :: _, h, _ => simp at h
  rw [find?, ← List.head?_filter]
  exact congrArg List.head? hsingle

namespace Builder

variable (b : Builder)

/-- Where a value's own segments put it: the chain of its segments, on the delimiter it is
split on. -/
def addressOf (v : String) : List String :=
  (b.delimiterFor v).joins ((b.delimiterFor v).segments v)

theorem address_build_of_ne_nil {entries : List Entry} {β : List String} {v : String}
    (h : β ++ [v] ∈ addressesAll (b.build entries)) (hβ : β ≠ []) :
    β ++ [v] = b.addressOf v ∧ ∃ e ∈ entries, b.accepts e ∧ β ++ [v] <+: b.chain e ∧
      ∃ path, e.path? = some path ∧ b.delimiterFor path = b.delimiterFor v := by
  obtain ⟨-, e, he, hacc, hpre⟩ := (b.mem_chainPrefixes).1 ((b.mem_addressesAll_build entries _).1 h)
  obtain ⟨haddr, hpath⟩ := b.chain_prefix_of_ne_nil hpre hβ
  exact ⟨haddr, e, he, hacc, hpre, hpath⟩

theorem root_build {entries : List Entry} {v : String}
    (h : [v] ∈ addressesAll (b.build entries)) :
    ((b.delimiterFor v).segments v).length ≤ 1 ∨ (b.delimiter = none ∧ '/' ∉ v.toList) := by
  obtain ⟨-, e, -, -, hpre⟩ := (b.mem_chainPrefixes).1 ((b.mem_addressesAll_build entries _).1 h)
  exact b.chain_head hpre

theorem address_build_ending {entries : List Entry} {v : String} {α : List String}
    (h : α ∈ (addressesAll (b.build entries)).filter (·.getLast? == some v)) :
    α = [v] ∨ (2 ≤ α.length ∧ α = b.addressOf v) := by
  obtain ⟨hα, hlast⟩ := List.mem_filter.1 h
  obtain ⟨β, rfl⟩ := List.getLast?_eq_some_iff.1 (by simpa using hlast)
  by_cases hβ : β = []
  · exact .inl (by rw [hβ, List.nil_append])
  · refine .inr ⟨?_, (b.address_build_of_ne_nil hα hβ).1⟩
    obtain ⟨x, xs, rfl⟩ := List.exists_cons_of_ne_nil hβ
    simp

theorem nodup_addresses_ending (entries : List Entry) (v : String) :
    ((addressesAll (b.build entries)).filter (·.getLast? == some v)).Nodup :=
  (b.nodup_addressesAll_build entries).filter _

theorem length_findAll_build_le_two (entries : List Entry) (v : String) :
    ((b.build entries).findAll v).length ≤ 2 := by
  rw [length_findAll]
  show _ ≤ [[v], b.addressOf v].length
  refine ((b.nodup_addresses_ending entries v).subperm fun α hα => ?_).length_le
  rcases b.address_build_ending hα with rfl | ⟨-, rfl⟩ <;> simp

theorem length_findAll_build_le_one {d : Delimiter} (hd : b.delimiter = some d)
    (entries : List Entry) (v : String) : ((b.build entries).findAll v).length ≤ 1 := by
  rw [length_findAll]
  have hnd := b.nodup_addresses_ending entries v
  by_cases hroot : [v] ∈ addressesAll (b.build entries)
  · have hseg : ((b.delimiterFor v).segments v).length ≤ 1 := by
      rcases b.root_build hroot with h | ⟨h, -⟩
      · exact h
      · rw [hd] at h
        cases h
    show _ ≤ [[v]].length
    refine (hnd.subperm fun α hα => ?_).length_le
    rcases b.address_build_ending hα with rfl | ⟨hlen, rfl⟩
    · simp
    · rw [addressOf, Delimiter.length_joins] at hlen
      omega
  · show _ ≤ [b.addressOf v].length
    refine (hnd.subperm fun α hα => ?_).length_le
    rcases b.address_build_ending hα with rfl | ⟨-, rfl⟩
    · exact absurd (List.mem_filter.1 hα).1 hroot
    · simp

theorem findAll_build_two {entries : List Entry} {v : String}
    (h : ((b.build entries).findAll v).length = 2) :
    [v] ∈ addressesAll (b.build entries) ∧ b.delimiter = none ∧
      '.' ∈ v.toList ∧ '/' ∉ v.toList ∧
      ∃ β, β ≠ [] ∧ β ++ [v] ∈ addressesAll (b.build entries) ∧
        ∃ e ∈ entries, b.accepts e ∧ β ++ [v] <+: b.chain e ∧
          ∃ path, e.path? = some path ∧ Delimiter.detect path = .dot := by
  rw [length_findAll] at h
  have hnd := b.nodup_addresses_ending entries v
  have hroot : [v] ∈ (addressesAll (b.build entries)).filter (·.getLast? == some v) := by
    by_contra hno
    have : _ ≤ [b.addressOf v].length := (hnd.subperm fun α hα => by
      rcases b.address_build_ending hα with rfl | ⟨-, rfl⟩
      · exact absurd hα hno
      · simp).length_le
    simp at this
    omega
  obtain ⟨α, hα, hαv⟩ : ∃ α ∈ (addressesAll (b.build entries)).filter (·.getLast? == some v),
      α ≠ [v] := by
    by_contra hno
    have hall : ∀ α ∈ (addressesAll (b.build entries)).filter (·.getLast? == some v), α = [v] :=
      fun α hα => by_contra fun hne => hno ⟨α, hα, hne⟩
    have : _ ≤ [[v]].length := (hnd.subperm fun α hα => by simp [hall α hα]).length_le
    simp at this
    omega
  obtain ⟨hlen, hαaddr⟩ := (b.address_build_ending hα).resolve_left hαv
  have hroot' := (List.mem_filter.1 hroot).1
  obtain ⟨hnone, hslash⟩ : b.delimiter = none ∧ '/' ∉ v.toList := by
    refine (b.root_build hroot').resolve_left fun hseg => ?_
    rw [hαaddr, addressOf, Delimiter.length_joins] at hlen
    omega
  have hdot : b.delimiterFor v = .dot := by
    simp [delimiterFor, hnone, Delimiter.detect, hslash]
  have hdots : '.' ∈ v.toList := by
    by_contra hno
    have := Delimiter.length_segments_le_one (show Delimiter.dot.toChar ∉ v.toList from hno)
    rw [hαaddr, addressOf, Delimiter.length_joins, hdot] at hlen
    omega
  obtain ⟨β, rfl⟩ := List.getLast?_eq_some_iff.1 (by simpa using (List.mem_filter.1 hα).2)
  have hβ : β ≠ [] := by
    rintro rfl
    simp at hlen
  obtain ⟨-, e, he, hacc, hpre, path, hp, hpd⟩ :=
    b.address_build_of_ne_nil (List.mem_filter.1 hα).1 hβ
  refine ⟨hroot', hnone, hdots, hslash, β, hβ, (List.mem_filter.1 hα).1, e, he, hacc, hpre, path,
    hp, ?_⟩
  rw [hdot] at hpd
  simpa [delimiterFor, hnone] using hpd

/-- With one delimiter for every path, a value names one node of a built forest at most, and
`find?` returns it; under detection a value names two nodes at most, and when it names two, one
of them is the only root with the value, the value has dots and no slash, and the other lies
below the roots, on the chain of an entry split on dots. -/
theorem findAll_build_le_one_or_two (entries : List Entry) (v : String) :
    (∀ d, b.delimiter = some d →
      ((b.build entries).findAll v).length ≤ 1 ∧
        ∀ n ∈ (b.build entries).nodes, n.value = v → (b.build entries).find? v = some n) ∧
    (b.delimiter = none →
      ((b.build entries).findAll v).length ≤ 2 ∧
        (((b.build entries).findAll v).length = 2 →
          ((b.build entries).filter (·.value == v)).length = 1 ∧
            '.' ∈ v.toList ∧ '/' ∉ v.toList ∧
            ∃ β, β ≠ [] ∧ β ++ [v] ∈ addressesAll (b.build entries) ∧
              ∃ e ∈ entries, b.accepts e ∧ β ++ [v] <+: b.chain e ∧
                ∃ path, e.path? = some path ∧ Delimiter.detect path = .dot)) := by
  refine ⟨fun d hd => ⟨b.length_findAll_build_le_one hd entries v, fun n hn hv =>
    find?_eq_of_length_findAll_le_one (b.length_findAll_build_le_one hd entries v) hn hv⟩,
    fun _ => ⟨b.length_findAll_build_le_two entries v, fun h2 => ?_⟩⟩
  obtain ⟨hroot, -, hdots, hslash, rest⟩ := b.findAll_build_two h2
  refine ⟨?_, hdots, hslash, rest⟩
  obtain ⟨n, hn, hnv⟩ := singleton_mem_addressesAll.1 hroot
  have hroots := ((nodup_addressesAll_iff _).1 (b.nodup_addressesAll_build entries)).1
  rw [← List.countP_eq_length_filter, ← hnv]
  have := List.count_eq_one_of_mem hroots (List.mem_map_of_mem hn)
  rwa [List.count, List.countP_map] at this

end Builder

end PathHierarchy.Forest
