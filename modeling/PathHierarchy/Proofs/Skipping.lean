import PathHierarchy.Proofs.Chains

/-!
# Entries the builder skips

The builder takes an entry whose text, once trimmed, is not blank, when that path has segments on
its delimiter, or when it is a raw path without segments that the builder keeps as a degenerate
root (`Builder.Takes`). Putting an entry into the arena answers exactly whether the builder takes
it (`accepts_iff_takes`). An entry it does not take leaves the arena as it was, slots, titles,
orders and indexes alike, whatever the arena holds and wherever the entry stands in the input
(`insert_of_accepts_eq_false`). So the skipped entries can be dropped from any input without
changing the build, and the build loop, which counts each entry as accepted or skipped by what
the arena answered, ends with counts that add up to the number of entries (`tally_foldl`).
-/

set_option autoImplicit false

namespace PathHierarchy.Forest

namespace Entry

/-- The text an entry offers as its path before trimming: a raw path, or a labeled text value. -/
def text? : Entry → Option String
  | .raw s => some s
  | .labeled _ (.text s) => some s
  | .labeled _ _ => none

theorem path?_eq_none_iff (e : Entry) :
    e.path? = none ↔ e.text? = none ∨ ∃ s, e.text? = some s ∧ Text.trimBlank s = "" := by
  have hpath : e.path? = e.text?.bind fun s =>
      if (Text.trimBlank s).isEmpty then none else some (Text.trimBlank s) := by
    cases e with
    | raw s => simp only [path?, text?, Option.bind_some]
    | labeled label value =>
      cases value <;> simp only [path?, text?, Option.bind_some, Option.bind_none]
  rw [hpath]
  cases e.text? with
  | none => simp
  | some s =>
    by_cases hblank : Text.trimBlank s = ""
    · simp [hblank]
    · simp [hblank, String.isEmpty_iff]

end Entry

namespace Builder

variable (b : Builder)

/-- The entries the builder takes: a usable path with segments on its delimiter, or a raw path
without segments when the builder keeps such paths as degenerate roots. -/
def Takes (e : Entry) : Prop :=
  ∃ path, e.path? = some path ∧
    ((b.delimiterFor path).segments path ≠ [] ∨ (e.isRaw = true ∧ b.emptyPaths = .degenerateRoot))

theorem accepts_iff_takes (e : Entry) : b.accepts e = true ↔ b.Takes e := by
  cases hp : e.path? with
  | none => simp [accepts, place_of_path_none b hp, Takes, hp]
  | some path =>
    rw [accepts, place_of_path b hp]
    by_cases hs : (b.delimiterFor path).segments path = []
    ·
      by_cases hraw : (e.isRaw && b.emptyPaths == .degenerateRoot) = true
      · have hkeep : e.isRaw = true ∧ b.emptyPaths = .degenerateRoot := by simpa using hraw
        simp [hs, Takes, hp, hkeep]
      · have hkeep : ¬ (e.isRaw = true ∧ b.emptyPaths = .degenerateRoot) := by simpa using hraw
        simp [hs, Takes, hp, hkeep]
    · simp [hs, Takes, hp]

/-- An entry the builder does not take leaves the arena as it was. -/
theorem insert_of_accepts_eq_false {e : Entry} (h : b.accepts e = false) (a : Arena) :
    b.insert a e = a := by
  unfold accepts at h
  unfold insert
  split
  · next steps label hplace => rw [hplace] at h; cases h
  · next path hplace => rw [hplace] at h; cases h
  · rfl

theorem foldl_insert_filter_accepts (entries : List Entry) (a : Arena) :
    (entries.filter b.accepts).foldl b.insert a = entries.foldl b.insert a := by
  induction entries generalizing a with
  | nil => rfl
  | cons e es ih =>
    by_cases he : b.accepts e = true
    · rw [List.filter_cons_of_pos he, List.foldl_cons, List.foldl_cons, ih]
    · have hskip : b.accepts e = false := by simpa using he
      rw [List.filter_cons_of_neg he, List.foldl_cons, b.insert_of_accepts_eq_false hskip, ih]

/-- The build loop folds the entries into the arena and counts those the arena took and those it
skipped. -/
theorem tally_foldl (entries : List Entry) (t : Tally) :
    (entries.foldl b.tally t).arena = entries.foldl b.insert t.arena ∧
      (entries.foldl b.tally t).accepted = t.accepted + entries.countP b.accepts ∧
      (entries.foldl b.tally t).skipped = t.skipped + entries.countP fun e => !b.accepts e := by
  induction entries generalizing t with
  | nil => simp
  | cons e es ih =>
    obtain ⟨harena, haccepted, hskipped⟩ := ih (b.tally t e)
    rw [List.foldl_cons, List.foldl_cons, harena, haccepted, hskipped, List.countP_cons,
      List.countP_cons]
    cases hacc : b.accepts e with
    | true => simp [tally, hacc, Nat.add_assoc, Nat.add_comm 1]
    | false => simp [tally, hacc, Nat.add_assoc, Nat.add_comm 1]

theorem getLast?_notes (entries : List Entry) :
    (b.notes entries).getLast? = some (.built (entries.countP b.accepts)
      (entries.countP fun e => !b.accepts e) (b.build entries).length b.ordering) := by
  obtain ⟨harena, haccepted, hskipped⟩ := b.tally_foldl entries ∅
  have hstart : (∅ : Tally).arena = ∅ ∧ (∅ : Tally).accepted = 0 ∧ (∅ : Tally).skipped = 0 :=
    ⟨rfl, rfl, rfl⟩
  rw [notes, List.getLast?_concat, harena, haccepted, hskipped, hstart.1, hstart.2.1, hstart.2.2,
    Nat.zero_add, Nat.zero_add]
  rfl

/-- Putting an entry into the arena answers false exactly for the entries the builder does not
take: those whose value is no text or only blanks once trimmed, and those whose path has no
segments, unless the entry is raw and kept as a degenerate root, so that a labeled entry without
segments is skipped under either policy. On such an entry the arena, whatever it holds, stays as
it was, so dropping the skipped entries changes no build; the build's last note counts the
entries taken, and with the skipped ones they are all the entries. -/
theorem insert_skipped_keeps_arena :
    (∀ e, b.accepts e = false ↔ ¬ b.Takes e) ∧
    (∀ e : Entry, e.path? = none ↔ e.text? = none ∨ ∃ s, e.text? = some s ∧ Text.trimBlank s = "") ∧
    (∀ label value path, (Entry.labeled label value).path? = some path →
      (b.delimiterFor path).segments path = [] → b.accepts (.labeled label value) = false) ∧
    (∀ e (a : Arena), b.accepts e = false → b.insert a e = a) ∧
    (∀ entries, b.build (entries.filter b.accepts) = b.build entries) ∧
    (∀ entries, (b.notes entries).getLast? = some (.built (entries.countP b.accepts)
        (entries.countP fun e => !b.accepts e) (b.build entries).length b.ordering) ∧
      entries.countP b.accepts + (entries.countP fun e => !b.accepts e) = entries.length) := by
  have hfalse : ∀ e, b.accepts e = false ↔ ¬ b.Takes e := fun e => by
    rw [← b.accepts_iff_takes e, Bool.not_eq_true]
  refine ⟨hfalse, Entry.path?_eq_none_iff, fun label value path hp hs => ?_,
    fun e a h => b.insert_of_accepts_eq_false h a, fun entries => ?_,
    fun entries => ⟨b.getLast?_notes entries, ?_⟩⟩
  ·
    rw [hfalse]
    rintro ⟨path', hp', hseg | ⟨hraw, -⟩⟩
    · rw [hp, Option.some.injEq] at hp'
      exact hseg (hp' ▸ hs)
    · cases hraw
  · rw [build, build, b.foldl_insert_filter_accepts]
  · simpa using (List.length_eq_countP_add_countP b.accepts (l := entries)).symm

end Builder

end PathHierarchy.Forest
