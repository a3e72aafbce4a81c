import PathHierarchy.Proofs.Refinement
import Mathlib.Data.List.Infix
import Mathlib.Tactic.Set

/-!
# Segments and chains

Splitting drops the empty pieces, so a segment is never empty, never holds the delimiter, and
holds only characters of its path (`mem_segments`). The chain of a path joins, for each `i`,
its first `i` segments with the delimiter (`Delimiter.joins`); consecutive values of a chain
differ by the delimiter and one segment (`joins_step`), and every value past the first is
split on the delimiter its path was split on (`chain_step`).

`Builder.chain` is the chain an entry walks, read off its path as the builder's rules say, and
`Builder.walk` is the list of steps the nested fold takes for it: its values are the entry's
chain (`walk_values`).
-/

set_option autoImplicit false

namespace PathHierarchy.Forest

namespace Delimiter

theorem mem_splitOn {c : Char} :
    ∀ {xs piece : List Char}, piece ∈ xs.splitOn c → c ∉ piece ∧ ∀ y ∈ piece, y ∈ xs
  | [], piece, h => by
    rw [List.splitOn_nil, List.mem_singleton] at h
    subst h
    simp
  | x :: xs, piece, h => by
    rw [List.splitOn_cons_eq_if_modifyHead] at h
    obtain ⟨hd, tl, heq⟩ := List.exists_cons_of_ne_nil (List.splitOn_ne_nil c xs)
    have hpieces : ∀ p ∈ xs.splitOn c, c ∉ p ∧ ∀ y ∈ p, y ∈ x :: xs := fun p hp =>
      ⟨(mem_splitOn hp).1, fun y hy => List.mem_cons_of_mem _ ((mem_splitOn hp).2 y hy)⟩
    split at h
    ·
      rcases List.mem_cons.1 h with rfl | h
      · simp
      · exact hpieces piece h
    ·
      next hx =>
      rw [heq, List.modifyHead_cons] at h
      rcases List.mem_cons.1 h with rfl | h
      · obtain ⟨hc, hy⟩ := hpieces hd (heq ▸ List.mem_cons_self)
        refine ⟨?_, ?_⟩
        · rintro (_ | ⟨_, hc'⟩)
          · exact hx (by simp)
          · exact hc hc'
        · rintro y (_ | ⟨_, hy'⟩)
          · exact List.mem_cons_self
          · exact hy y hy'
      · exact hpieces piece (heq ▸ List.mem_cons_of_mem _ h)

/-- A segment is not empty, holds no delimiter, and holds only characters of its path. -/
theorem mem_segments {d : Delimiter} {path s : String} (h : s ∈ d.segments path) :
    s ≠ "" ∧ d.toChar ∉ s.toList ∧ ∀ c ∈ s.toList, c ∈ path.toList := by
  obtain ⟨piece, hpiece, rfl⟩ := List.mem_map.1 h
  obtain ⟨hsplit, hne⟩ := List.mem_filter.1 hpiece
  obtain ⟨hc, hy⟩ := mem_splitOn hsplit
  refine ⟨?_, by simpa using hc, by simpa using hy⟩
  intro he
  have : piece = [] := by simpa using congrArg String.toList he
  exact (of_decide_eq_true hne) this

/-- The values of the chain of segments `s1, …, sk`: `s1`, `s1 d s2`, …, `s1 d … d sk`, the
segments of each non-empty prefix joined by the delimiter. -/
def joins (d : Delimiter) (segments : List String) : List String :=
  segments.inits.tail.map (String.intercalate d.toChar.toString)

@[simp] theorem joins_nil (d : Delimiter) : d.joins [] = [] := rfl

theorem joins_cons (d : Delimiter) (s : String) (rest : List String) :
    d.joins (s :: rest) = s :: (d.joins rest).map (s ++ d.toChar.toString ++ ·) := by
  have hinits : rest.inits = [] :: rest.inits.tail := by cases rest <;> rfl
  have hne : ∀ p ∈ rest.inits.tail, p ≠ [] := by
    cases rest with
    | nil => simp
    | cons r rs => simp
  unfold joins
  rw [List.inits, List.tail_cons, hinits, List.map_cons, List.map_cons, List.map_map,
    List.map_map, String.intercalate_singleton]
  congr 1
  exact List.map_congr_left fun p hp => String.intercalate_cons_of_ne_nil (hne p hp)

theorem joins_eq_nil_iff (d : Delimiter) (segments : List String) :
    d.joins segments = [] ↔ segments = [] := by
  cases segments with
  | nil => simp
  | cons s rest => simp [joins_cons]

/-- Each value of a chain past the first is the one before it, the delimiter and a segment. -/
theorem joins_step (d : Delimiter) :
    ∀ {segments : List String} {α : List String} {u w : String},
      α ++ [u, w] <+: d.joins segments → ∃ t ∈ segments, w = u ++ d.toChar.toString ++ t
  | [], α, u, w, h => by
    have := h.length_le
    simp at this
  | s :: rest, [], u, w, h => by
    rw [joins_cons] at h
    cases rest with
    | nil => simpa using h.length_le
    | cons t rest =>
      rw [joins_cons, List.map_cons] at h
      obtain ⟨rfl, rfl⟩ : u = s ∧ w = s ++ d.toChar.toString ++ t := by simpa using h
      exact ⟨t, by simp, rfl⟩
  | s :: rest, a :: α, u, w, h => by
    rw [joins_cons, List.cons_append, List.cons_prefix_cons] at h
    obtain ⟨γ, hγ, hmap⟩ := List.prefix_map_iff.1 h.2
    obtain ⟨γ', u', w', rfl, rfl, rfl⟩ : ∃ γ' u' w', γ = γ' ++ [u', w'] ∧
        u = s ++ d.toChar.toString ++ u' ∧ w = s ++ d.toChar.toString ++ w' := by
      rw [eq_comm, List.map_eq_append_iff] at hmap
      obtain ⟨γ', p, rfl, -, hp⟩ := hmap
      rw [List.map_eq_cons_iff] at hp
      obtain ⟨u', q, rfl, rfl, hq⟩ := hp
      rw [List.map_eq_cons_iff] at hq
      obtain ⟨w', r, rfl, rfl, hr⟩ := hq
      rw [List.map_eq_nil_iff] at hr
      subst hr
      exact ⟨γ', u', w', rfl, rfl, rfl⟩
    obtain ⟨t, ht, rfl⟩ := joins_step d hγ
    exact ⟨t, List.mem_cons_of_mem _ ht, by simp only [String.append_assoc]⟩

theorem mem_of_mem_joins (d : Delimiter) :
    ∀ {segments : List String} {w : String}, w ∈ d.joins segments →
      ∀ c ∈ w.toList, c = d.toChar ∨ ∃ s ∈ segments, c ∈ s.toList
  | [], w, h => by simp at h
  | s :: rest, w, h => by
    rw [joins_cons, List.mem_cons, List.mem_map] at h
    intro c hc
    rcases h with rfl | ⟨w', hw', rfl⟩
    · exact .inr ⟨w, List.mem_cons_self, hc⟩
    · simp only [String.toList_append, List.mem_append] at hc
      rcases hc with (hc | hc) | hc
      · exact .inr ⟨s, List.mem_cons_self, hc⟩
      · exact .inl (by simpa using hc)
      · rcases mem_of_mem_joins d hw' c hc with hc | ⟨t, ht, hct⟩
        · exact .inl hc
        · exact .inr ⟨t, List.mem_cons_of_mem _ ht, hct⟩

theorem length_joins (d : Delimiter) (segments : List String) :
    (d.joins segments).length = segments.length := by
  induction segments with
  | nil => rfl
  | cons s rest ih => rw [joins_cons, List.length_cons, List.length_map, ih, List.length_cons]

theorem joins_take (d : Delimiter) :
    ∀ (segments : List String) (k : Nat), d.joins (segments.take k) = (d.joins segments).take k
  | [], k => by simp
  | s :: rest, 0 => by simp
  | s :: rest, k + 1 => by
    rw [List.take_succ_cons, joins_cons, joins_cons, List.take_succ_cons, joins_take d rest k,
      List.map_take]

theorem getLast?_joins (d : Delimiter) :
    ∀ {segments : List String}, segments ≠ [] →
      (d.joins segments).getLast? = some (String.intercalate d.toChar.toString segments)
  | [s], _ => by simp [joins_cons]
  | s :: t :: rest, _ => by
    rw [joins_cons, List.getLast?_cons, List.getLast?_map,
      getLast?_joins d (List.cons_ne_nil t rest),
      Option.map_some, Option.getD_some, String.intercalate_cons_cons]

theorem segments_intercalate {d : Delimiter} {segments : List String} (hne : segments ≠ [])
    (hseg : ∀ s ∈ segments, s ≠ "" ∧ d.toChar ∉ s.toList) :
    d.segments (String.intercalate d.toChar.toString segments) = segments := by
  have hsplit : List.splitOn d.toChar ([d.toChar].intercalate (segments.map String.toList)) =
      segments.map String.toList :=
    List.splitOn_intercalate _ (by simpa using fun s hs => (hseg s hs).2) (by simpa using hne)
  have hkeep : (segments.map String.toList).filter (· ≠ []) = segments.map String.toList := by
    rw [List.filter_eq_self]
    simp only [List.mem_map, ne_eq, decide_not, Bool.not_eq_eq_eq_not, Bool.not_true,
      decide_eq_false_iff_not, forall_exists_index, and_imp, forall_apply_eq_imp_iff₂]
    exact fun s hs => by simpa using (hseg s hs).1
  unfold Delimiter.segments
  rw [String.toList_intercalate, Char.toString_eq_singleton, String.toList_singleton, hsplit,
    hkeep, List.map_map]
  simp

theorem segments_of_not_mem {d : Delimiter} {s : String} (hne : s ≠ "") (hd : d.toChar ∉ s.toList) :
    d.segments s = [s] := by
  simpa using segments_intercalate (d := d) (List.cons_ne_nil s []) (by simpa using ⟨hne, hd⟩)

theorem length_segments_le_one {d : Delimiter} {s : String} (hd : d.toChar ∉ s.toList) :
    (d.segments s).length ≤ 1 := by
  unfold segments
  rw [List.splitOn_eq_singleton hd, List.length_map]
  exact (List.length_filter_le _ _).trans (by simp)

end Delimiter

theorem chainOf_values (d : Delimiter) (segments : List String) :
    (chainOf d.toChar segments).map (·.1) = d.joins segments := by
  have hgo : ∀ (above : String) (segments : List String),
      (chainOf.go d.toChar above false segments).map (·.1) =
        (d.joins segments).map (above ++ d.toChar.toString ++ ·) := by
    intro above segments
    induction segments generalizing above with
    | nil => rfl
    | cons s rest ih =>
      rw [chainOf.go, List.map_cons, ih, Delimiter.joins_cons, List.map_cons, List.map_map]
      simp only [if_neg Bool.false_ne_true]
      congr 1
      apply List.map_congr_left
      intro w _
      simp only [Function.comp_apply, String.append_assoc]
  cases segments with
  | nil => rfl
  | cons s rest =>
    rw [chainOf, chainOf.go, List.map_cons, hgo, Delimiter.joins_cons]
    rfl

namespace Builder

variable (b : Builder)

/-- The chain an entry walks, as the builder's rules give it: the joins of its path's segments
on its delimiter; for a raw path without segments kept as a degenerate root, the whole path;
for an entry the builder skips, nothing. -/
def chain (e : Entry) : List String :=
  match e.path? with
  | none => []
  | some path =>
    if (b.delimiterFor path).segments path = [] then
      if e.isRaw && b.emptyPaths == .degenerateRoot then [path] else []
    else (b.delimiterFor path).joins ((b.delimiterFor path).segments path)

/-- The steps the nested fold walks for an entry: its chain's values, each with the title a new
node takes; a degenerate root is one step titled by itself. -/
def walk (e : Entry) : List (String × String) :=
  match b.place e with
  | .chain steps _ => steps
  | .degenerate path => [(path, path)]
  | _ => []

theorem place_of_path_none {e : Entry} (hp : e.path? = none) : b.place e = .unusable := by
  rw [place, hp]

theorem place_of_path {e : Entry} {path : String} (hp : e.path? = some path) :
    b.place e =
      if (b.delimiterFor path).segments path = [] then
        if e.isRaw && b.emptyPaths == .degenerateRoot then .degenerate path else .noSegments path
      else .chain (chainOf (b.delimiterFor path).toChar ((b.delimiterFor path).segments path))
        e.label? := by
  rw [place, hp]
  dsimp only
  split
  · next hs => rw [hs, if_pos rfl]
  · next hs => rw [if_neg hs]

theorem walk_values (e : Entry) : (b.walk e).map (·.1) = b.chain e := by
  cases hp : e.path? with
  | none => simp [walk, chain, place_of_path_none b hp, hp]
  | some path =>
    rw [walk, place_of_path b hp, chain, hp]
    dsimp only
    by_cases hs : (b.delimiterFor path).segments path = []
    · by_cases hraw : (e.isRaw && b.emptyPaths == .degenerateRoot) = true
      · simp only [if_pos hs, if_pos hraw]
        rfl
      · simp only [if_pos hs, if_neg hraw]
        rfl
    · simp only [if_neg hs]
      exact chainOf_values _ _

theorem accepts_iff_chain_ne_nil (e : Entry) : b.accepts e = true ↔ b.chain e ≠ [] := by
  rw [← walk_values, ne_eq, List.map_eq_nil_iff]
  cases hp : e.path? with
  | none => simp [accepts, walk, place_of_path_none b hp]
  | some path =>
    rw [accepts, walk, place_of_path b hp]
    by_cases hs : (b.delimiterFor path).segments path = []
    · rw [if_pos hs]
      by_cases hraw : (e.isRaw && b.emptyPaths == .degenerateRoot) = true
      · rw [if_pos hraw]
        simp
      · rw [if_neg hraw]
        simp
    · simp only [if_neg hs]
      have := (Delimiter.joins_eq_nil_iff (b.delimiterFor path) _).not.2 hs
      rw [← chainOf_values] at this
      simpa using this

theorem accepts_of_prefix {e : Entry} {α : List String} (hne : α ≠ []) (hpre : α <+: b.chain e) :
    b.accepts e = true :=
  (b.accepts_iff_chain_ne_nil e).2 fun hc => hne (List.prefix_nil.1 (hc ▸ hpre))

theorem insertNested_eq_insertChain (forest : Forest) (e : Entry) :
    b.insertNested forest e = Nested.insertChain e.label? (b.walk e) forest := by
  cases hp : e.path? with
  | none => simp [insertNested, walk, place_of_path_none b hp, Nested.insertChain]
  | some path =>
    rw [insertNested, walk, place_of_path b hp]
    by_cases hs : (b.delimiterFor path).segments path = []
    · rw [if_pos hs]
      by_cases hraw : (e.isRaw && b.emptyPaths == .degenerateRoot) = true
      · rw [if_pos hraw]
        cases e with
        | raw s => exact insertNested_degenerate forest path
        | labeled l v => simp [Entry.isRaw] at hraw
      · rw [if_neg hraw]
        rfl
    · rw [if_neg hs]

theorem delimiterFor_eq_of_chars {path w : String} (hin : (b.delimiterFor path).toChar ∈ w.toList)
    (hchars : ∀ c ∈ w.toList, c = (b.delimiterFor path).toChar ∨ c ∈ path.toList) :
    b.delimiterFor w = b.delimiterFor path := by
  unfold delimiterFor at *
  cases hb : b.delimiter with
  | some d => rfl
  | none =>
    rw [hb, Option.getD_none] at hin hchars
    rw [Option.getD_none, Option.getD_none]
    unfold Delimiter.detect at *
    by_cases hp : '/' ∈ path.toList
    · have hw : '/' ∈ w.toList := by simpa [hp, Delimiter.toChar] using hin
      simp [hp, hw]
    · have hw : '/' ∉ w.toList := fun hw => by
        rcases hchars '/' hw with h | h
        · simp [hp, Delimiter.toChar] at h
        · exact hp h
      simp [hp, hw]

theorem chain_cases (e : Entry) :
    b.chain e = [] ∨
      (∃ path, (b.delimiterFor path).segments path = [] ∧ b.chain e = [path]) ∨
      ∃ path, e.path? = some path ∧ (b.delimiterFor path).segments path ≠ [] ∧
        b.chain e = (b.delimiterFor path).joins ((b.delimiterFor path).segments path) := by
  unfold chain
  cases e.path? with
  | none => exact .inl rfl
  | some path =>
    dsimp only
    by_cases hs : (b.delimiterFor path).segments path = []
    · rw [if_pos hs]
      by_cases hraw : (e.isRaw && b.emptyPaths == .degenerateRoot) = true
      · exact .inr (.inl ⟨path, hs, by rw [if_pos hraw]⟩)
      · exact .inl (by rw [if_neg hraw])
    · rw [if_neg hs]
      exact .inr (.inr ⟨path, rfl, hs, rfl⟩)

theorem delimiterFor_of_mem_joins {path w : String}
    (hw : w ∈ (b.delimiterFor path).joins ((b.delimiterFor path).segments path))
    (hin : (b.delimiterFor path).toChar ∈ w.toList) :
    b.delimiterFor w = b.delimiterFor path :=
  b.delimiterFor_eq_of_chars hin fun c hc =>
    (Delimiter.mem_of_mem_joins _ hw c hc).imp_right fun ⟨_, hs, hcs⟩ =>
      (Delimiter.mem_segments hs).2.2 c hcs

/-- Consecutive values of an entry's chain: the second is the first, the delimiter it is split
on, and a non-empty segment free of that delimiter. -/
theorem chain_step {e : Entry} {α : List String} {u w : String} (h : α ++ [u, w] <+: b.chain e) :
    ∃ t, t ≠ "" ∧ (b.delimiterFor w).toChar ∉ t.toList ∧
      w = u ++ (b.delimiterFor w).toChar.toString ++ t := by
  rcases b.chain_cases e with hc | ⟨path, -, hc⟩ | ⟨path, -, -, hc⟩
  · rw [hc] at h
    simpa using h.length_le
  ·
    rw [hc] at h
    simpa using h.length_le
  · rw [hc] at h
    obtain ⟨t, ht, rfl⟩ := Delimiter.joins_step _ h
    obtain ⟨htne, htd, -⟩ := Delimiter.mem_segments ht
    rw [b.delimiterFor_of_mem_joins (h.subset (by simp)) (by simp)]
    exact ⟨t, htne, htd, rfl⟩

theorem chain_prefix_of_ne_nil {e : Entry} {β : List String} {v : String}
    (h : β ++ [v] <+: b.chain e) (hβ : β ≠ []) :
    β ++ [v] = (b.delimiterFor v).joins ((b.delimiterFor v).segments v) ∧
      ∃ path, e.path? = some path ∧ b.delimiterFor path = b.delimiterFor v := by
  have hlen : 2 ≤ (β ++ [v]).length := by
    obtain ⟨x, xs, rfl⟩ := List.exists_cons_of_ne_nil hβ
    simp
  rcases b.chain_cases e with hc | ⟨path, -, hc⟩ | ⟨path, hp, hs, hc⟩
  · rw [hc] at h
    simpa using h.length_le
  · rw [hc] at h
    have hle := h.length_le
    rw [List.length_singleton] at hle
    omega
  · rw [hc] at h
    set d := b.delimiterFor path
    set segs := d.segments path
    set k := (β ++ [v]).length
    have hpre : β ++ [v] = d.joins (segs.take k) := by
      rw [Delimiter.joins_take]
      exact List.prefix_iff_eq_take.1 h
    have hk : k ≤ segs.length := by
      have := h.length_le
      rwa [Delimiter.length_joins] at this
    have htake : segs.take k ≠ [] := by
      rw [ne_eq, List.take_eq_nil_iff, not_or]
      exact ⟨by omega, hs⟩
    have hv : v = String.intercalate d.toChar.toString (segs.take k) := by
      have := congrArg List.getLast? hpre
      rw [Delimiter.getLast?_joins _ htake] at this
      simpa using this
    have hpieces : ∀ s ∈ segs.take k, s ≠ "" ∧ d.toChar ∉ s.toList := fun s hs =>
      have := Delimiter.mem_segments (List.mem_of_mem_take hs)
      ⟨this.1, this.2.1⟩
    have hdv : b.delimiterFor v = d := by
      obtain ⟨β', u, rfl⟩ := List.eq_nil_or_concat β |>.resolve_left hβ
      have hstep : β' ++ [u, v] <+: d.joins segs := by simpa using h
      obtain ⟨t, -, hvt⟩ := Delimiter.joins_step d hstep
      have hin : d.toChar ∈ v.toList := by
        rw [hvt]
        simp
      exact b.delimiterFor_of_mem_joins (hstep.subset (by simp)) hin
    refine ⟨?_, path, hp, hdv.symm⟩
    rw [hdv, hpre, hv, Delimiter.segments_intercalate htake hpieces]

theorem chain_head {e : Entry} {v : String} (h : [v] <+: b.chain e) :
    ((b.delimiterFor v).segments v).length ≤ 1 ∨ (b.delimiter = none ∧ '/' ∉ v.toList) := by
  rcases b.chain_cases e with hc | ⟨path, hs, hc⟩ | ⟨path, -, hs, hc⟩
  · rw [hc] at h
    simpa using h.length_le
  ·
    rw [hc] at h
    obtain rfl : v = path := by simpa using h
    left
    simp [hs]
  · rw [hc] at h
    obtain ⟨s, rest, hsegs⟩ := List.exists_cons_of_ne_nil hs
    rw [hsegs, Delimiter.joins_cons] at h
    obtain rfl : v = s := by simpa using h
    obtain ⟨hne, hd, hchars⟩ := Delimiter.mem_segments (hsegs ▸ List.mem_cons_self)
    cases hb : b.delimiter with
    | some d =>
      left
      have hdel : b.delimiterFor v = b.delimiterFor path := by simp [delimiterFor, hb]
      rw [hdel, Delimiter.segments_of_not_mem hne hd]
      simp
    | none =>
      refine .inr ⟨rfl, fun hslash => hd ?_⟩
      have hpath : '/' ∈ path.toList := hchars '/' hslash
      have : b.delimiterFor path = .slash := by
        simp [delimiterFor, hb, Delimiter.detect, hpath]
      rw [this]
      exact hslash

end Builder

end PathHierarchy.Forest
