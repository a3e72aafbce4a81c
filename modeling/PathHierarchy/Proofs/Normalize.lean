import PathHierarchy.Selection

/-!
# Normalizing a selection is a projection

The JSON form of a selection reads back as the same selection (`normalize_toJson?`): its
values are strings and numbers, which an array keeps, in order. So a payload normalized,
written out and normalized again gives what it gave the first time, and only a payload that
was never given has no JSON form (`normalize_round_trip`).
-/

set_option autoImplicit false

namespace PathHierarchy

@[simp] theorem SelectionValue.ofJson?_toJson (v : SelectionValue) : ofJson? v.toJson = some v := by
  cases v <;> rfl

namespace Selection

theorem filterMap_ofJson?_map_toJson (vs : List SelectionValue) :
    (vs.map SelectionValue.toJson).filterMap SelectionValue.ofJson? = vs := by
  have hsome : (SelectionValue.ofJson? ∘ SelectionValue.toJson) = some :=
    funext SelectionValue.ofJson?_toJson
  rw [List.filterMap_map, hsome, List.filterMap_some]

theorem normalize_toJson? (s : Selection) : normalize s.toJson? = s := by
  cases s with
  | untouched => rfl
  | cleared => rfl
  | values vs => rw [toJson?, normalize, filterMap_ofJson?_map_toJson]

theorem toJson?_eq_none_iff (s : Selection) : s.toJson? = none ↔ s = .untouched := by
  cases s <;> simp [toJson?]

theorem normalize_eq_untouched_iff (x : Option Json.Value) : normalize x = .untouched ↔ x = none := by
  cases x with
  | none => simp [normalize]
  | some v => cases v <;> simp [normalize]

/-- Every selection survives its JSON form; hence normalizing is idempotent through JSON, and a
normalized payload has no JSON form exactly when it was never given. -/
theorem normalize_round_trip (s : Selection) (x : Option Json.Value) :
    normalize s.toJson? = s ∧ normalize (normalize x).toJson? = normalize x ∧
      ((normalize x).toJson? = none ↔ x = none) :=
  ⟨normalize_toJson? s, normalize_toJson? (normalize x),
    (toJson?_eq_none_iff _).trans (normalize_eq_untouched_iff x)⟩

end Selection

end PathHierarchy
