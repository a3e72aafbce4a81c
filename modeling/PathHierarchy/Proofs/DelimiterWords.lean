import PathHierarchy.Proofs.SettingsFile

/-!
# Delimiters written on the command line

A delimiter is written `auto`, `slash` or `/`, `dot` or `.`, or as any single character. A
character is one code point, so the empty word, `::` and a letter followed by a combining mark
are all refused, each with a validation fault that quotes the word (`parse_cases`).

A word other than `auto` resolves to the delimiter of one character: `/` for `slash`, `.` for
`dot`, and the word's own character otherwise, so `slash` and `/` give one delimiter, as do
`dot` and `.`. Settings holding the choice a word gives fail their check exactly when the word
is one blank character (`parse_resolve_validate`): the keywords, slash and dot are not blank.
-/

set_option autoImplicit false

namespace PathHierarchy.Settings.DelimiterChoice

open Forest

/-- The fault for a word that names no delimiter. -/
def wordFault (s : String) : SettingsError :=
  .validation ("delimiter must be auto, slash, dot or a single character, got " ++ Text.quote s)

theorem parse_eq_error_of_not_word {s : String} (hauto : s ≠ "auto")
    (hslash : ¬ (s = "slash" ∨ s = "/")) (hdot : ¬ (s = "dot" ∨ s = "."))
    (hne : ∀ c, s.toList ≠ [c]) : parse s = .error (wordFault s) := by
  rw [parse, if_neg hauto, if_neg hslash, if_neg hdot]
  split
  · next c hc => exact absurd hc (hne c)
  · rfl

/-- Reading a word gives the choice of a keyword, a custom character for any other word of one
character, or the fault. -/
theorem parse_cases (s : String) :
    (s = "auto" ∧ parse s = .ok .auto) ∨
      ((s = "slash" ∨ s = "/") ∧ parse s = .ok .slash) ∨
      ((s = "dot" ∨ s = ".") ∧ parse s = .ok .dot) ∨
      (∃ c, s.toList = [c] ∧ c ≠ '/' ∧ c ≠ '.' ∧ parse s = .ok (.custom c)) ∨
      (s ≠ "auto" ∧ s ≠ "slash" ∧ s ≠ "dot" ∧ (∀ c, s.toList ≠ [c]) ∧
        parse s = .error (wordFault s)) := by
  by_cases hauto : s = "auto"
  · exact .inl ⟨hauto, by simp [parse, hauto]⟩
  by_cases hslash : s = "slash" ∨ s = "/"
  · exact .inr (.inl ⟨hslash, by simp [parse, hauto, hslash]⟩)
  by_cases hdot : s = "dot" ∨ s = "."
  · exact .inr (.inr (.inl ⟨hdot, by simp [parse, hauto, hslash, hdot]⟩))
  by_cases hone : ∃ c, s.toList = [c]
  · obtain ⟨c, hc⟩ := hone
    have hword : s = String.singleton c := String.toList_inj.1 (by simpa using hc)
    refine .inr (.inr (.inr (.inl ⟨c, hc, ?_, ?_, by simp [parse, hauto, hslash, hdot, hc]⟩)))
    · rintro rfl
      exact hslash (.inr hword)
    · rintro rfl
      exact hdot (.inr hword)
  · have hne : ∀ c, s.toList ≠ [c] := fun c hc => hone ⟨c, hc⟩
    exact .inr (.inr (.inr (.inr ⟨hauto, fun h => hslash (.inl h), fun h => hdot (.inl h), hne,
      parse_eq_error_of_not_word hauto hslash hdot hne⟩)))

theorem parse_ok_iff (s : String) :
    (∃ d, parse s = .ok d) ↔ s = "auto" ∨ s = "slash" ∨ s = "dot" ∨ ∃ c, s.toList = [c] := by
  rcases parse_cases s with ⟨h, hp⟩ | ⟨h, hp⟩ | ⟨h, hp⟩ | ⟨c, hc, -, -, hp⟩ | ⟨h₁, h₂, h₃, hne, hp⟩
  · exact iff_of_true ⟨_, hp⟩ (.inl h)
  · refine iff_of_true ⟨_, hp⟩ ?_
    rcases h with h | h
    · exact .inr (.inl h)
    · exact .inr (.inr (.inr ⟨'/', by simp [h]⟩))
  · refine iff_of_true ⟨_, hp⟩ ?_
    rcases h with h | h
    · exact .inr (.inr (.inl h))
    · exact .inr (.inr (.inr ⟨'.', by simp [h]⟩))
  · exact iff_of_true ⟨_, hp⟩ (.inr (.inr (.inr ⟨c, hc⟩)))
  · refine iff_of_false (fun ⟨d, hd⟩ => by rw [hp] at hd; cases hd) ?_
    rintro (h | h | h | ⟨c, hc⟩)
    · exact h₁ h
    · exact h₂ h
    · exact h₃ h
    · exact hne c hc

theorem resolve_parse {s : String} {d : DelimiterChoice} (h : parse s = .ok d) :
    (d.resolve = none ↔ s = "auto") ∧
      (s ≠ "auto" → ∃ c, d.resolve = some (Delimiter.ofChar c) ∧ (Delimiter.ofChar c).toChar = c ∧
        (s = "slash" ∧ c = '/' ∨ s = "dot" ∧ c = '.' ∨ s.toList = [c])) := by
  rcases parse_cases s with
    ⟨hs, hp⟩ | ⟨hs, hp⟩ | ⟨hs, hp⟩ | ⟨c, hc, -, -, hp⟩ | ⟨-, -, -, -, hp⟩ <;>
    rw [hp] at h <;> cases h
  · exact ⟨iff_of_true rfl hs, fun hne => absurd hs hne⟩
  · have hauto : s ≠ "auto" := by rcases hs with rfl | rfl <;> decide
    refine ⟨iff_of_false (by simp [resolve]) hauto, fun _ => ⟨'/', rfl, rfl, ?_⟩⟩
    rcases hs with rfl | rfl
    · exact .inl ⟨rfl, rfl⟩
    · exact .inr (.inr (by simp))
  · have hauto : s ≠ "auto" := by rcases hs with rfl | rfl <;> decide
    refine ⟨iff_of_false (by simp [resolve]) hauto, fun _ => ⟨'.', rfl, rfl, ?_⟩⟩
    rcases hs with rfl | rfl
    · exact .inr (.inl ⟨rfl, rfl⟩)
    · exact .inr (.inr (by simp))
  · have hauto : s ≠ "auto" := fun e => by simp [e] at hc
    exact ⟨iff_of_false (by simp [resolve]) hauto,
      fun _ => ⟨c, rfl, Delimiter.toChar_ofChar c, .inr (.inr hc)⟩⟩

theorem custom_blank_parse_iff {s : String} {d : DelimiterChoice} (h : parse s = .ok d) :
    (∃ ch, d = .custom ch ∧ Text.isBlank ch = true) ↔
      ∃ c, s.toList = [c] ∧ Text.isBlank c = true := by
  rcases parse_cases s with
    ⟨hs, hp⟩ | ⟨hs, hp⟩ | ⟨hs, hp⟩ | ⟨c, hc, -, -, hp⟩ | ⟨-, -, -, -, hp⟩ <;>
    rw [hp] at h <;> cases h
  · subst hs
    simp
  · refine iff_of_false (by simp) ?_
    rcases hs with rfl | rfl <;> simp [show Text.isBlank '/' = false by decide]
  · refine iff_of_false (by simp) ?_
    rcases hs with rfl | rfl <;> simp [show Text.isBlank '.' = false by decide]
  · simp [hc]

/-- Reading a delimiter from the command line accepts exactly `auto`, `slash`, `dot` and the
words of one character, and refuses every other word with a validation fault. A word read
resolves to no delimiter exactly when it is `auto`, and otherwise to the delimiter of its
character, which is slash for `slash`, dot for `dot` and the word's own character otherwise; and
settings holding the choice fail their check exactly when the word is one blank character. -/
theorem parse_resolve_validate (s : String) :
    ((∃ d, parse s = .ok d) ↔ s = "auto" ∨ s = "slash" ∨ s = "dot" ∨ ∃ c, s.toList = [c]) ∧
      ((∀ d, parse s ≠ .ok d) → parse s = .error (wordFault s)) ∧
      ∀ d, parse s = .ok d →
        (d.resolve = none ↔ s = "auto") ∧
        (s ≠ "auto" → ∃ c, d.resolve = some (Delimiter.ofChar c) ∧ (Delimiter.ofChar c).toChar = c ∧
          (s = "slash" ∧ c = '/' ∨ s = "dot" ∧ c = '.' ∨ s.toList = [c])) ∧
        ∀ cfg : Settings, cfg.delimiter = d →
          (cfg.validate = .error (.validation "custom delimiter cannot be whitespace") ↔
            ∃ c, s.toList = [c] ∧ Text.isBlank c = true) ∧
          (cfg.validate = .ok () ↔ ¬ ∃ c, s.toList = [c] ∧ Text.isBlank c = true) := by
  refine ⟨parse_ok_iff s, fun hno => ?_, fun d hd => ⟨(resolve_parse hd).1, (resolve_parse hd).2,
    fun cfg hcfg => ?_⟩⟩
  · rcases parse_cases s with ⟨-, hp⟩ | ⟨-, hp⟩ | ⟨-, hp⟩ | ⟨c, -, -, -, hp⟩ | ⟨-, -, -, -, hp⟩
    · exact absurd hp (hno _)
    · exact absurd hp (hno _)
    · exact absurd hp (hno _)
    · exact absurd hp (hno _)
    · exact hp
  ·
    have hfail : cfg.validate = .error (.validation "custom delimiter cannot be whitespace") ↔
        ∃ c, s.toList = [c] ∧ Text.isBlank c = true := by
      rw [validate_eq_error_iff, hcfg]
      exact custom_blank_parse_iff hd
    refine ⟨hfail, ?_⟩
    rw [← hfail]
    rcases validate_eq_ok_or cfg with hv | hv <;> rw [hv]
    · exact iff_of_true rfl fun h => by cases h
    · exact iff_of_false (fun h => by cases h) fun h => h rfl

end PathHierarchy.Settings.DelimiterChoice
