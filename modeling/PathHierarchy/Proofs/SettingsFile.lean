import PathHierarchy.Proofs.Reading
import PathHierarchy.Settings.OfText

/-!
# Saved settings load back

`save` writes settings as an indented JSON object with the four fields in order, and `load`
reads that text back, followed by any blanks, as the same settings: every delimiter choice,
a custom character of any code point included (`ofText_save`). What `load` then adds is the
check alone, so the text of valid settings loads as they were, and the only fault it can give
is the one for a blank custom delimiter (`load_save`). The text `dump-config` prints is the
saved text and a newline.

The reading is followed byte by byte with `ReadsTo`: each reader of a field value takes its
value's indented text off the front of what is left (`readsTo_readChoice_delimiter`,
`readsTo_readChoice_unit`, `readsTo_readBool`), and `readsTo_readSettingsFields_step` carries
the field loop over one key, colon and value.
-/

set_option autoImplicit false

namespace PathHierarchy.Settings

open Json

section Values

variable {bs : ByteArray}

theorem readsTo_readVariant {α : Type} {variants : List (Variant α)} (ws : List UInt8)
    {name : String} {v : Variant α} {i : Nat} {r : List UInt8}
    (hws : ∀ w ∈ ws, isJsonBlank w = true) (h : bytesFrom bs i = ws ++ (utf8 (quoteString name) ++ r))
    (hv : findVariant variants name = .ok v) : ReadsTo (readVariant variants) bs i v r := by
  rw [utf8_quoteString_append] at h
  unfold readVariant
  refine ReadsTo.placed ((readsTo_skipBlanks_cons ws hws (by decide) h).bind fun j hj => ?_)
  dsimp only
  simp +decide only [ite_true]
  refine ReadsTo.quoted hj fun l hl => ?_
  rw [hv]
  exact readsTo_pure v hl

/-- A plain choice written as its quoted name. -/
theorem readsTo_readChoice_unit {α : Type} {variants : List (Variant α)} {depth : Nat}
    (ws : List UInt8) {name name' : String} {a : α} {i : Nat} {r : List UInt8}
    (hws : ∀ w ∈ ws, isJsonBlank w = true) (h : bytesFrom bs i = ws ++ (utf8 (quoteString name) ++ r))
    (hv : findVariant variants name = .ok (.unit name' a)) :
    ReadsTo (readChoice variants depth) bs i a r := by
  have hq := h
  rw [utf8_quoteString_append] at hq
  unfold readChoice
  refine (readsTo_skipBlanks_cons ws hws (by decide) hq).bind fun j hj => ?_
  dsimp only
  simp +decide only [ite_true, ite_false]
  rw [← utf8_quoteString_append] at hj
  exact (readsTo_readVariant [] (by simp) hj hv).bind fun l hl => readsTo_pure a hl

theorem readsTo_readChar (ws : List UInt8) {c : Char} {i : Nat} {r : List UInt8}
    (hws : ∀ w ∈ ws, isJsonBlank w = true)
    (h : bytesFrom bs i = ws ++ (utf8 (quoteString c.toString) ++ r)) :
    ReadsTo readChar bs i c r := by
  have hc : c.toString.toList = [c] := by simp
  rw [utf8_quoteString_append] at h
  unfold readChar
  refine ReadsTo.placed ((readsTo_skipBlanks_cons ws hws (by decide) h).bind fun j hj => ?_)
  dsimp only
  simp +decide only [ite_true]
  refine ReadsTo.quoted hj fun l hl => ?_
  simp only [hc]
  exact readsTo_pure c hl

theorem readsTo_readChoice_char {α : Type} {variants : List (Variant α)} {depth : Nat}
    (hdepth : 1 < depth) (ws ws₁ ws₂ ws₃ ws₄ : List UInt8) {name name' : String}
    {make : Char → α} {c : Char} {i : Nat} {r : List UInt8}
    (hws : ∀ w ∈ ws, isJsonBlank w = true) (hws₁ : ∀ w ∈ ws₁, isJsonBlank w = true)
    (hws₂ : ∀ w ∈ ws₂, isJsonBlank w = true) (hws₃ : ∀ w ∈ ws₃, isJsonBlank w = true)
    (hws₄ : ∀ w ∈ ws₄, isJsonBlank w = true)
    (h : bytesFrom bs i = ws ++ 123 :: (ws₁ ++ (utf8 (quoteString name) ++ (ws₂ ++ 58 ::
      (ws₃ ++ (utf8 (quoteString c.toString) ++ (ws₄ ++ 125 :: r)))))))
    (hv : findVariant variants name = .ok (.char name' make)) :
    ReadsTo (readChoice variants depth) bs i (make c) r := by
  unfold readChoice
  refine (readsTo_skipBlanks_cons ws hws (by decide) h).bind fun j hj => ?_
  dsimp only
  simp +decide only [ite_true]
  refine (readsTo_enterContainer hdepth j).bind fun l hl => ?_
  rw [hj] at hl
  refine (readsTo_eatByte hl).bind fun m hm => ?_
  have hm' := hm
  rw [utf8_quoteString_append] at hm'
  refine (readsTo_skipBlanks_cons ws₁ hws₁ (by decide) hm').bind fun p hp => ?_
  dsimp only
  simp +decide only [ite_false]
  rw [← utf8_quoteString_append] at hp
  refine (readsTo_readVariant [] (by simp) hp hv).bind fun q hq => ?_
  refine (readsTo_expectColon ws₂ hws₂ hq).bind fun t ht => ?_
  refine (readsTo_readChar ws₃ hws₃ ht).map.bind fun u hu => ?_
  refine (readsTo_skipBlanks_cons ws₄ hws₄ (by decide) hu).bind fun x hx => ?_
  dsimp only
  simp +decide only [ite_true]
  exact (readsTo_eatByte hx).bind fun y hy => readsTo_pure _ hy

/-- Blanks, then `true` or `false`. -/
theorem readsTo_readBool (ws : List UInt8) (b : Bool) {i : Nat} {r : List UInt8}
    (hws : ∀ w ∈ ws, isJsonBlank w = true)
    (h : bytesFrom bs i = ws ++ (utf8 (if b then "true" else "false") ++ r)) :
    ReadsTo readBool bs i b r := by
  unfold readBool
  cases b with
  | false =>
    have hw : utf8 "false" = 102 :: wordFalse := by decide
    rw [if_neg Bool.false_ne_true, hw, List.cons_append] at h
    refine ReadsTo.placed ((readsTo_skipBlanks_cons ws hws (by decide) h).bind fun j hj => ?_)
    dsimp only
    simp +decide only [ite_true, ite_false]
    exact (readsTo_eatByte hj).bind fun l hl =>
      (readsTo_expectWord wordFalse hl).bind fun m hm => readsTo_pure false hm
  | true =>
    have hw : utf8 "true" = 116 :: wordTrue := by decide
    rw [if_pos rfl, hw, List.cons_append] at h
    refine ReadsTo.placed ((readsTo_skipBlanks_cons ws hws (by decide) h).bind fun j hj => ?_)
    dsimp only
    simp +decide only [ite_true]
    exact (readsTo_eatByte hj).bind fun l hl =>
      (readsTo_expectWord wordTrue hl).bind fun m hm => readsTo_pure true hm

end Values

section Fields

variable {bs : ByteArray} {depth : Nat} {s : Settings} {ws : List UInt8} {i : Nat}
  {r : List UInt8}

theorem utf8_indent (n : Nat) : utf8 (indent n) = List.replicate (2 * n) 32 := by
  rw [indent, utf8_ofList]
  induction 2 * n with
  | zero => rfl
  | succ m ih => rw [List.replicate_succ, List.flatMap_cons, ih]; rfl

theorem blank_newline_indent (n : Nat) :
    ∀ w ∈ 10 :: List.replicate n (32 : UInt8), isJsonBlank w = true := by
  intro w hw
  rcases List.mem_cons.1 hw with rfl | hw
  · rfl
  · rw [List.eq_of_mem_replicate hw]
    rfl

/-- Every delimiter choice reads back from its indented text, at any indentation. -/
theorem readsTo_readChoice_delimiter (d : DelimiterChoice) {k : Nat} (hdepth : 1 < depth)
    (hws : ∀ w ∈ ws, isJsonBlank w = true)
    (h : bytesFrom bs i = ws ++ (utf8 (d.toJson.pretty k) ++ r)) :
    ReadsTo (readChoice delimiterVariants depth) bs i d r := by
  cases d with
  | auto => exact readsTo_readChoice_unit ws hws h rfl
  | slash => exact readsTo_readChoice_unit ws hws h rfl
  | dot => exact readsTo_readChoice_unit ws hws h rfl
  | custom c =>
    have hopen : utf8 "\x7b\n" = [123, 10] := by decide
    have hsep : utf8 ": " = [58, 32] := by decide
    have hclose : utf8 "\x7d" = [125] := by decide
    have hnl : utf8 "\n" = [10] := by decide
    simp only [DelimiterChoice.toJson, Value.pretty, prettyFields, utf8_append, hopen, hsep,
      hclose, hnl, utf8_indent, List.append_assoc, List.cons_append, List.nil_append] at h
    exact readsTo_readChoice_char hdepth ws (10 :: List.replicate (2 * (k + 1)) 32) [] [32]
      (10 :: List.replicate (2 * k) 32) hws (blank_newline_indent _) (by simp)
      (by simp [isJsonBlank]) (blank_newline_indent _) h rfl

theorem readsTo_delimiterField (d : DelimiterChoice) {k : Nat} (hdepth : 1 < depth)
    (hws : ∀ w ∈ ws, isJsonBlank w = true)
    (h : bytesFrom bs i = ws ++ (utf8 (d.toJson.pretty k) ++ r)) :
    ReadsTo (readFieldValue s "delimiter" depth) bs i { s with delimiter := d } r := by
  rw [readFieldValue, if_pos rfl]
  exact (readsTo_readChoice_delimiter d hdepth hws h).bind fun j hj => readsTo_pure _ hj

theorem readsTo_orderingField (o : Forest.OrderingPolicy) (hws : ∀ w ∈ ws, isJsonBlank w = true)
    (h : bytesFrom bs i = ws ++ (utf8 (quoteString (orderingName o)) ++ r)) :
    ReadsTo (readFieldValue s "ordering" depth) bs i { s with ordering := o } r := by
  rw [readFieldValue, if_neg (by decide), if_pos rfl]
  cases o <;> exact (readsTo_readChoice_unit ws hws h rfl).bind fun j hj => readsTo_pure _ hj

theorem readsTo_emptyPathsField (e : Forest.EmptyPathPolicy) (hws : ∀ w ∈ ws, isJsonBlank w = true)
    (h : bytesFrom bs i = ws ++ (utf8 (quoteString (emptyPathsName e)) ++ r)) :
    ReadsTo (readFieldValue s "empty_paths" depth) bs i { s with emptyPaths := e } r := by
  rw [readFieldValue, if_neg (by decide), if_neg (by decide), if_pos rfl]
  cases e <;> exact (readsTo_readChoice_unit ws hws h rfl).bind fun j hj => readsTo_pure _ hj

theorem readsTo_selectableField (b : Bool) (hws : ∀ w ∈ ws, isJsonBlank w = true)
    (h : bytesFrom bs i = ws ++ (utf8 (if b then "true" else "false") ++ r)) :
    ReadsTo (readFieldValue s "selectable" depth) bs i { s with selectable := b } r := by
  rw [readFieldValue, if_neg (by decide), if_neg (by decide), if_neg (by decide), if_pos rfl]
  exact (readsTo_readBool ws b hws h).bind fun j hj => readsTo_pure _ hj

/-- One turn of the field loop: a key not read before, a colon and the key's value. -/
theorem readsTo_readSettingsFields_step {s' t : Settings} {seen : List String} {first : Bool}
    {n : Nat} {name : String} {r₁ r₂ r₃ : List UInt8}
    (hkey : ReadsTo (nextKey first) bs i (some name) r₁) (hknown : name ∈ fieldNames)
    (hnew : name ∉ seen) (hcolon : ∀ j, bytesFrom bs j = r₁ → ReadsTo expectColon bs j () r₂)
    (hvalue : ∀ j, bytesFrom bs j = r₂ → ReadsTo (readFieldValue s name depth) bs j s' r₃)
    (hrest : ∀ j, bytesFrom bs j = r₃ →
      ReadsTo (readSettingsFields depth s' (name :: seen) false n) bs j t r) :
    ReadsTo (readSettingsFields depth s seen first (n + 1)) bs i t r := by
  have hcontains : fieldNames.contains name = true := List.elem_iff.2 hknown
  have hfresh : seen.contains name = false := by simpa using hnew
  rw [readSettingsFields]
  refine hkey.bind fun j hj => ?_
  dsimp only
  rw [hcontains, hfresh, if_neg (by decide), if_pos rfl]
  exact (hcolon j hj).bind fun l hl => (hvalue l hl).bind fun m hm => hrest m hm

theorem readsTo_readSettingsFields_close {seen : List String} {first : Bool} {n : Nat}
    (hkey : ReadsTo (nextKey first) bs i none r) :
    ReadsTo (readSettingsFields depth s seen first (n + 1)) bs i s r := by
  rw [readSettingsFields]
  exact hkey.bind fun j hj => readsTo_pure s hj

end Fields

section File

variable {bs : ByteArray}

theorem readsTo_closedAfter {α : Type} {contents : ReadM α} {close attempt : ReadM Unit} {i : Nat}
    {a : α} {r₁ r : List UInt8} (hc : ReadsTo contents bs i a r₁)
    (hclose : ∀ j, bytesFrom bs j = r₁ → ReadsTo close bs j () r) :
    ReadsTo (closedAfter contents close attempt) bs i a r := by
  unfold closedAfter
  refine hc.map.tryCatch.bind fun j hj => ?_
  exact (hclose j hj).bind fun l hl => readsTo_pure a hl

theorem utf8_save (c : Settings) :
    utf8 (save c) = 123 :: 10 :: 32 :: 32 :: (utf8 (quoteString "delimiter") ++ 58 :: 32 ::
      (utf8 (c.delimiter.toJson.pretty 1) ++ 44 :: 10 :: 32 :: 32 ::
      (utf8 (quoteString "ordering") ++ 58 :: 32 :: (utf8 (quoteString (orderingName c.ordering)) ++
      44 :: 10 :: 32 :: 32 :: (utf8 (quoteString "empty_paths") ++ 58 :: 32 ::
      (utf8 (quoteString (emptyPathsName c.emptyPaths)) ++ 44 :: 10 :: 32 :: 32 ::
      (utf8 (quoteString "selectable") ++ 58 :: 32 ::
      (utf8 (if c.selectable then "true" else "false") ++ [10, 125])))))))) := by
  have hopen : utf8 "\x7b\n" = [123, 10] := by decide
  have hsep : utf8 ": " = [58, 32] := by decide
  have hcomma : utf8 ",\n" = [44, 10] := by decide
  have hnl : utf8 "\n" = [10] := by decide
  have hclose : utf8 "\x7d" = [125] := by decide
  have hindent₀ : utf8 (indent 0) = [] := by decide
  have hindent₁ : utf8 (indent 1) = [32, 32] := by decide
  simp only [save, toJson, Value.writePretty, Value.pretty, prettyFields, utf8_append, hopen, hsep,
    hcomma, hnl, hclose, hindent₀, hindent₁, List.append_assoc, List.cons_append, List.nil_append]

theorem readsTo_readSettings_save (c : Settings) {i : Nat} {r : List UInt8}
    (h : bytesFrom bs i = utf8 (save c) ++ r) : ReadsTo readSettings bs i c r := by
  rw [utf8_save] at h
  simp only [List.cons_append, List.append_assoc] at h
  have hsize : 2 ≤ bs.size := length_le_size (show bytesFrom bs i = [123, 10] ++ _ from h)
  have hindent : ∀ w ∈ [(10 : UInt8), 32, 32], isJsonBlank w = true := by simp [isJsonBlank]
  have hspace : ∀ w ∈ [(32 : UInt8)], isJsonBlank w = true := by simp [isJsonBlank]
  have hnl : ∀ w ∈ [(10 : UInt8)], isJsonBlank w = true := by simp [isJsonBlank]
  unfold readSettings
  refine ReadsTo.placed ((readsTo_skipBlanks_cons [] (by simp) (by decide) h).bind fun j hj => ?_)
  dsimp only
  simp +decide only [ite_true, ite_false]
  refine (readsTo_enterContainer (by decide : 1 < nestingLimit) j).bind fun l hl => ?_
  rw [hj] at hl
  refine (readsTo_eatByte hl).bind fun m hm => ?_
  refine readsTo_closedAfter ((readsTo_nestedBudget m).bind fun p hp => ?_)
    fun p hp => readsTo_closeObject [] (by simp) hp
  rw [hm] at hp
  obtain ⟨n, hn⟩ : ∃ n, 2 * bs.size + 2 = n + 1 + 1 + 1 + 1 + 1 := ⟨2 * bs.size - 3, by omega⟩
  rw [hn]
  refine readsTo_readSettingsFields_step (readsTo_nextKey_first [10, 32, 32] hindent hp)
    (by decide) (by simp) (fun j hj => readsTo_expectColon [] (by simp) hj)
    (fun j hj => readsTo_delimiterField c.delimiter (by decide) hspace hj) fun j hj => ?_
  refine readsTo_readSettingsFields_step (readsTo_nextKey_later [] [10, 32, 32] (by simp)
    hindent hj) (by decide) (by decide) (fun j hj => readsTo_expectColon [] (by simp) hj)
    (fun j hj => readsTo_orderingField c.ordering hspace hj) fun j hj => ?_
  refine readsTo_readSettingsFields_step (readsTo_nextKey_later [] [10, 32, 32] (by simp)
    hindent hj) (by decide) (by decide) (fun j hj => readsTo_expectColon [] (by simp) hj)
    (fun j hj => readsTo_emptyPathsField c.emptyPaths hspace hj) fun j hj => ?_
  refine readsTo_readSettingsFields_step (readsTo_nextKey_later [] [10, 32, 32] (by simp)
    hindent hj) (by decide) (by decide) (fun j hj => readsTo_expectColon [] (by simp) hj)
    (fun j hj => readsTo_selectableField c.selectable hspace hj) fun j hj => ?_
  exact readsTo_readSettingsFields_close (readsTo_nextKey_close [10] false hnl hj)

/-- Saved settings, followed by blanks, read back as themselves. -/
theorem ofText_save (c : Settings) {tail : String} (htail : ∀ b ∈ utf8 tail, isJsonBlank b = true) :
    ofText (save c ++ tail) = .ok c := by
  have h : bytesFrom (save c ++ tail).toUTF8 0 = utf8 (save c) ++ utf8 tail := by
    rw [bytesFrom_toUTF8, utf8_append]
  unfold ofText
  exact runText_of_readsTo ((readsTo_readSettings_save c h).bind fun j hj =>
    (readsTo_expectEnd (utf8 tail) htail hj).bind fun l hl => readsTo_pure c hl)

theorem blank_utf8 {tail : String}
    (htail : ∀ ch ∈ tail.toList, ch = ' ' ∨ ch = '\n' ∨ ch = '\t' ∨ ch = '\r') :
    ∀ b ∈ utf8 tail, isJsonBlank b = true := by
  intro b hb
  rw [utf8_eq_flatMap, List.mem_flatMap] at hb
  obtain ⟨ch, hch, hb⟩ := hb
  have hblank : ∀ w ∈ String.utf8EncodeChar ch, isJsonBlank w = true := by
    rcases htail ch hch with rfl | rfl | rfl | rfl <;> simp [isJsonBlank, String.utf8EncodeChar]
  exact hblank b hb

theorem validate_eq_error_iff (c : Settings) :
    c.validate = .error (.validation "custom delimiter cannot be whitespace") ↔
      ∃ ch, c.delimiter = .custom ch ∧ Text.isBlank ch = true := by
  rcases c with ⟨d, o, e, b⟩
  cases d with
  | custom ch => cases h : Text.isBlank ch <;> simp [validate, h]
  | _ => simp [validate]

theorem validate_eq_ok_or (c : Settings) :
    c.validate = .ok () ∨ c.validate = .error (.validation "custom delimiter cannot be whitespace") := by
  unfold validate
  split
  · split
    · exact .inr rfl
    · exact .inl rfl
  · exact .inl rfl

/-- Saved settings, and the same text followed by blanks such as the newline `dump-config`
prints, load back as they were when they are valid; loading fails with the blank-delimiter
fault exactly when the custom delimiter is blank. -/
theorem load_save (c : Settings) (tail : String)
    (htail : ∀ ch ∈ tail.toList, ch = ' ' ∨ ch = '\n' ∨ ch = '\t' ∨ ch = '\r') :
    (c.validate = .ok () → load (save c ++ tail) = .ok c) ∧
      (load (save c ++ tail) = .error (.validation "custom delimiter cannot be whitespace") ↔
        ∃ ch, c.delimiter = .custom ch ∧ Text.isBlank ch = true) := by
  have hload : load (save c ++ tail) = (do c.validate; pure c) := by
    rw [load, ofText_save c (blank_utf8 htail)]
  rw [hload, ← validate_eq_error_iff]
  refine ⟨fun hv => by rw [hv]; rfl, ?_⟩
  rcases validate_eq_ok_or c with hv | hv <;> rw [hv]
  · exact iff_of_false (by intro h; cases h) (by intro h; cases h)
  · exact iff_of_true rfl rfl

/-- A blank custom delimiter, saved and printed with a newline, loads back as its fault. -/
theorem load_save_blank_delimiter :
    (∀ ch ∈ "\n".toList, ch = ' ' ∨ ch = '\n' ∨ ch = '\t' ∨ ch = '\r') ∧
      ((({ delimiter := .custom '\t' } : Settings).validate = .ok () →
          load (save { delimiter := .custom '\t' } ++ "\n") = .ok { delimiter := .custom '\t' }) ∧
        (load (save { delimiter := .custom '\t' } ++ "\n") =
            .error (.validation "custom delimiter cannot be whitespace") ↔
          ∃ ch, ({ delimiter := .custom '\t' } : Settings).delimiter = .custom ch ∧
            Text.isBlank ch = true)) :=
  ⟨by simp, load_save { delimiter := .custom '\t' } "\n" (by simp)⟩

end File

end PathHierarchy.Settings
