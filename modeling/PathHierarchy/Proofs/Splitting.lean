import PathHierarchy.Proofs.Chains

/-!
# Splitting undoes joining

Joining segments with the delimiter and splitting the result again gives the segments back, as
long as none of them is empty or holds the delimiter (`segments_join`), and the segments of any
path are such. Each value a chain assembles joins the first segments of its path, so its own
segments are those first segments, and their number is its depth (`segments_chainOf`): a value
alone tells how deep it stands and what it is made of.

A non-empty string made only of the delimiter has no segments, while every assembled value has
at least one, so no assembled value is a degenerate root's path.
-/

set_option autoImplicit false

namespace PathHierarchy.Forest

namespace Delimiter

variable (d : Delimiter)

@[simp] theorem segments_empty : d.segments "" = [] := rfl

/-- Non-empty segments free of the delimiter, joined and split again, are themselves. -/
theorem segments_join {ss : List String} (h : ∀ s ∈ ss, s ≠ "" ∧ d.toChar ∉ s.toList) :
    d.segments (String.intercalate d.toChar.toString ss) = ss := by
  cases ss with
  | nil => rfl
  | cons s rest => exact segments_intercalate (List.cons_ne_nil s rest) h

theorem segments_wellFormed (p : String) : ∀ s ∈ d.segments p, s ≠ "" ∧ d.toChar ∉ s.toList :=
  fun _ hs => ⟨(mem_segments hs).1, (mem_segments hs).2.1⟩

theorem segments_of_forall_eq {w : String} (h : ∀ x ∈ w.toList, x = d.toChar) :
    d.segments w = [] := by
  rw [List.eq_nil_iff_forall_not_mem]
  intro s hs
  obtain ⟨hne, hfree, hin⟩ := mem_segments hs
  obtain ⟨x, hx⟩ := List.exists_mem_of_ne_nil s.toList (by simpa using hne)
  exact hfree (h x (hin x hx) ▸ hx)

theorem getElem_joins (ss : List String) (i : Nat) (hi : i < (d.joins ss).length) :
    (d.joins ss)[i] = String.intercalate d.toChar.toString (ss.take (i + 1)) := by
  simp only [joins, List.getElem_map, List.getElem_tail, List.getElem_inits]

end Delimiter

theorem length_chainOf (d : Delimiter) (ss : List String) :
    (chainOf d.toChar ss).length = ss.length := by
  rw [← List.length_map (f := (·.1)), chainOf_values, Delimiter.length_joins]

/-- The segments of the `i`-th value a chain assembles from a path are the path's first `i + 1`
segments. -/
theorem segments_chainOf (d : Delimiter) (p : String) (i : Nat)
    (hi : i < (chainOf d.toChar (d.segments p)).length) :
    d.segments (chainOf d.toChar (d.segments p))[i].1 = (d.segments p).take (i + 1) := by
  have hvalues := chainOf_values d (d.segments p)
  have hj : i < (d.joins (d.segments p)).length := by
    rw [← hvalues, List.length_map]
    exact hi
  have hvalue : (chainOf d.toChar (d.segments p))[i].1 = (d.joins (d.segments p))[i] := by
    simp only [← hvalues, List.getElem_map]
  rw [hvalue, Delimiter.getElem_joins, Delimiter.segments_join]
  exact fun s hs => d.segments_wellFormed p s (List.mem_of_mem_take hs)

theorem depth_eq_of_chainOf_eq (d : Delimiter) {p q : String} {i j : Nat}
    (hi : i < (chainOf d.toChar (d.segments p)).length)
    (hj : j < (chainOf d.toChar (d.segments q)).length)
    (h : (chainOf d.toChar (d.segments p))[i].1 = (chainOf d.toChar (d.segments q))[j].1) :
    i = j ∧ (d.segments p).take (i + 1) = (d.segments q).take (j + 1) := by
  have hsame : (d.segments p).take (i + 1) = (d.segments q).take (j + 1) := by
    rw [← segments_chainOf d p i hi, ← segments_chainOf d q j hj, h]
  rw [length_chainOf] at hi hj
  have hlen := congrArg List.length hsame
  rw [List.length_take, List.length_take, Nat.min_eq_left hi, Nat.min_eq_left hj] at hlen
  exact ⟨Nat.succ.inj hlen, hsame⟩

theorem chainOf_ne_of_forall_eq (d : Delimiter) {w : String} (h : ∀ x ∈ w.toList, x = d.toChar)
    (p : String) : ∀ step ∈ chainOf d.toChar (d.segments p), step.1 ≠ w := by
  intro step hstep hw
  obtain ⟨i, hi, rfl⟩ := List.mem_iff_getElem.1 hstep
  have hseg := segments_chainOf d p i hi
  rw [hw, d.segments_of_forall_eq h] at hseg
  rw [length_chainOf] at hi
  rcases List.take_eq_nil_iff.1 hseg.symm with hzero | hnil
  · exact Nat.succ_ne_zero i hzero
  · simp [hnil] at hi

/-- Splitting undoes joining: non-empty segments free of the delimiter, joined with it, split
back into themselves, so a path's segments joined and split again are its segments. The value
a chain assembles from a path at depth `i` has the path's first `i + 1` segments as its own, so
two equal assembled values stand at one depth and are made of the same segments. A string of
delimiters alone, such as a degenerate root's path, has no segments and is no value a chain
assembles. -/
theorem segments_join_chainOf (d : Delimiter) :
    (∀ ss : List String, (∀ s ∈ ss, s ≠ "" ∧ d.toChar ∉ s.toList) →
      d.segments (String.intercalate d.toChar.toString ss) = ss) ∧
    (∀ p, d.segments (String.intercalate d.toChar.toString (d.segments p)) = d.segments p) ∧
    (∀ p i (hi : i < (chainOf d.toChar (d.segments p)).length),
      d.segments (chainOf d.toChar (d.segments p))[i].1 = (d.segments p).take (i + 1)) ∧
    (∀ p q i j (hi : i < (chainOf d.toChar (d.segments p)).length)
        (hj : j < (chainOf d.toChar (d.segments q)).length),
      (chainOf d.toChar (d.segments p))[i].1 = (chainOf d.toChar (d.segments q))[j].1 →
        i = j ∧ (d.segments p).take (i + 1) = (d.segments q).take (j + 1)) ∧
    (∀ w : String, (∀ x ∈ w.toList, x = d.toChar) →
      d.segments w = [] ∧ ∀ p, ∀ step ∈ chainOf d.toChar (d.segments p), step.1 ≠ w) :=
  ⟨fun _ h => d.segments_join h, fun p => d.segments_join (d.segments_wellFormed p),
    segments_chainOf d, fun _ _ _ _ hi hj h => depth_eq_of_chainOf_eq d hi hj h,
    fun _ h => ⟨d.segments_of_forall_eq h, chainOf_ne_of_forall_eq d h⟩⟩

end PathHierarchy.Forest
