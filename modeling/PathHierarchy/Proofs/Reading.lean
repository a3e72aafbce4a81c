import PathHierarchy.Json.Read
import PathHierarchy.Json.Write

/-!
# What the reader does to known text

`bytesFrom bs i` is what is left of the text at offset `i`, and `ReadsTo x bs i a r` says that
the reader `x`, run from there, gives `a` and leaves `r` unread. Each step of the reader takes
bytes off the front of what is left, so readers compose through `ReadsTo.bind` and nothing
below speaks of offsets.

The leaves come first: blanks, literal words, and a string written by `quoteString`, which
reads back as itself whatever its characters (`readsTo_readString`, `ReadsTo.quoted`): a
character below U+0020 or a quote or a backslash comes back from its escape, and any other
character from its own UTF-8 bytes, none of which the string reader stops at. Then the pieces
of an object: its keys, the colon, the closing brace and the end of the text.
-/

set_option autoImplicit false

namespace PathHierarchy.Json

/-! ## Bytes of a text -/

/-- The UTF-8 bytes of a text. -/
def utf8 (s : String) : List UInt8 := s.toUTF8.data.toList

@[simp] theorem utf8_append (s t : String) : utf8 (s ++ t) = utf8 s ++ utf8 t := by
  simp [utf8, String.toByteArray_append]

theorem utf8_ofList (cs : List Char) : utf8 (String.ofList cs) = cs.flatMap String.utf8EncodeChar := by
  simp [utf8, List.utf8Encode]

theorem utf8_eq_flatMap (s : String) : utf8 s = s.toList.flatMap String.utf8EncodeChar := by
  obtain ⟨cs, rfl⟩ := String.exists_eq_ofList s
  rw [utf8_ofList, String.toList_ofList]

theorem utf8_toString (c : Char) : utf8 c.toString = String.utf8EncodeChar c := by
  rw [utf8_eq_flatMap]
  simp

/-- What is left of the bytes at an offset. -/
def bytesFrom (bs : ByteArray) (i : Nat) : List UInt8 := bs.data.toList.drop i

theorem getElem?_eq_head?_bytesFrom (bs : ByteArray) (i : Nat) :
    bs[i]? = (bytesFrom bs i).head? := by
  rw [bytesFrom, List.head?_drop, Array.getElem?_toList]
  by_cases h : i < bs.size
  · rw [getElem?_pos bs i h, Array.getElem?_eq_getElem (by simpa using h)]
    rfl
  · rw [getElem?_neg bs i h, Array.getElem?_eq_none (by simpa using h)]

theorem bytesFrom_succ {bs : ByteArray} {i : Nat} {b : UInt8} {r : List UInt8}
    (h : bytesFrom bs i = b :: r) : bytesFrom bs (i + 1) = r := by
  rw [bytesFrom, ← List.tail_drop, ← bytesFrom, h, List.tail_cons]

theorem bytesFrom_add {bs : ByteArray} {i : Nat} {w r : List UInt8}
    (h : bytesFrom bs i = w ++ r) : bytesFrom bs (i + w.length) = r := by
  rw [bytesFrom, ← List.drop_drop, ← bytesFrom, h, List.drop_left]

theorem getElem!_of_bytesFrom {bs : ByteArray} {i : Nat} {b : UInt8} {r : List UInt8}
    (h : bytesFrom bs i = b :: r) : bs[i]! = b := by
  have hsome : bs[i]? = some b := by rw [getElem?_eq_head?_bytesFrom, h, List.head?_cons]
  rw [getElem!_def, hsome]

theorem length_le_size {bs : ByteArray} {i : Nat} {w r : List UInt8}
    (h : bytesFrom bs i = w ++ r) : w.length ≤ bs.size := by
  have hlen := congrArg List.length h
  rw [bytesFrom, List.length_drop, List.length_append, Array.length_toList] at hlen
  have : bs.data.size = bs.size := rfl
  omega

theorem add_length_le_size {bs : ByteArray} {i : Nat} {w r : List UInt8}
    (h : bytesFrom bs i = w ++ r) (hw : w ≠ []) : i + w.length ≤ bs.size := by
  have hlen := congrArg List.length h
  rw [bytesFrom, List.length_drop, List.length_append, Array.length_toList] at hlen
  have : bs.data.size = bs.size := rfl
  have : w.length ≠ 0 := by simpa using hw
  omega

/-! ## Runs -/

section Runs

variable {α β : Type} {bs : ByteArray}

theorem run_bind_of_ok {x : ReadM α} {f : α → ReadM β} {i j : Nat} {a : α}
    (h : (x.run bs).run i = .ok (a, j)) : ((x >>= f).run bs).run i = ((f a).run bs).run j := by
  simp only [ReaderT.run_bind, StateT.run_bind, h]
  rfl

/-- Run from the offset `i`, the reader `x` gives `a` and leaves the bytes `r` unread. -/
def ReadsTo (x : ReadM α) (bs : ByteArray) (i : Nat) (a : α) (r : List UInt8) : Prop :=
  ∃ j, (x.run bs).run i = .ok (a, j) ∧ bytesFrom bs j = r

theorem ReadsTo.bind {x : ReadM α} {f : α → ReadM β} {i : Nat} {a : α} {b : β}
    {r r' : List UInt8} (hx : ReadsTo x bs i a r)
    (hf : ∀ j, bytesFrom bs j = r → ReadsTo (f a) bs j b r') : ReadsTo (x >>= f) bs i b r' := by
  obtain ⟨j, hrun, hj⟩ := hx
  obtain ⟨k, hrun', hk⟩ := hf j hj
  exact ⟨k, by rw [run_bind_of_ok hrun, hrun'], hk⟩

theorem ReadsTo.seq {x : ReadM Unit} {y : ReadM β} {i : Nat} {b : β} {r r' : List UInt8}
    (hx : ReadsTo x bs i () r) (hy : ∀ j, bytesFrom bs j = r → ReadsTo y bs j b r') :
    ReadsTo (x *> y) bs i b r' := by
  rw [seqRight_eq_bind]
  exact hx.bind hy

theorem readsTo_pure {i : Nat} (a : α) {r : List UInt8} (h : bytesFrom bs i = r) :
    ReadsTo (pure a : ReadM α) bs i a r :=
  ⟨i, rfl, h⟩

theorem ReadsTo.map {x : ReadM α} {f : α → β} {i : Nat} {a : α} {r : List UInt8}
    (hx : ReadsTo x bs i a r) : ReadsTo (f <$> x) bs i (f a) r := by
  rw [map_eq_pure_bind]
  exact hx.bind fun j hj => readsTo_pure (f a) hj

theorem ReadsTo.congr {x y : ReadM α} {i : Nat} {a : α} {r : List UInt8}
    (h : (x.run bs).run i = (y.run bs).run i) (hy : ReadsTo y bs i a r) : ReadsTo x bs i a r := by
  obtain ⟨j, hrun, hj⟩ := hy
  exact ⟨j, h.trans hrun, hj⟩

theorem ReadsTo.tryCatch {x : ReadM α} {handler : ReadError → ReadM α} {i : Nat} {a : α}
    {r : List UInt8} (hx : ReadsTo x bs i a r) : ReadsTo (MonadExcept.tryCatch x handler) bs i a r := by
  obtain ⟨j, hrun, hj⟩ := hx
  refine ⟨j, ?_, hj⟩
  have hrun' : x.run bs i = .ok (a, j) := hrun
  show (MonadExcept.tryCatch (x.run bs i) fun e => (handler e).run bs i) = _
  rw [hrun']
  rfl

theorem ReadsTo.placed {x : ReadM α} {i : Nat} {a : α} {r : List UInt8}
    (hx : ReadsTo x bs i a r) : ReadsTo (placed x) bs i a r :=
  hx.tryCatch

theorem bytesFrom_toUTF8 (text : String) : bytesFrom text.toUTF8 0 = utf8 text := rfl

theorem runText_of_readsTo {x : ReadM α} {text : String} {a : α} {r : List UInt8}
    (h : ReadsTo x text.toUTF8 0 a r) : x.runText text = .ok a := by
  obtain ⟨j, hrun, -⟩ := h
  unfold ReadM.runText
  rw [hrun]

end Runs

/-! ## Blanks and words -/

section Leaves

variable {bs : ByteArray}

theorem run_peekByte (i : Nat) : (peekByte.run bs).run i = .ok ((bytesFrom bs i).head?, i) := by
  rw [← getElem?_eq_head?_bytesFrom]
  rfl

theorem run_eatByte (i : Nat) : (eatByte.run bs).run i = .ok ((), i + 1) := rfl

theorem run_nextByte {i : Nat} {b : UInt8} {r : List UInt8} (h : bytesFrom bs i = b :: r) :
    (nextByte.run bs).run i = .ok (some b, i + 1) := by
  unfold nextByte
  rw [run_bind_of_ok (run_peekByte i), h]
  rfl

theorem readsTo_peekByte (i : Nat) :
    ReadsTo peekByte bs i (bytesFrom bs i).head? (bytesFrom bs i) :=
  ⟨i, run_peekByte i, rfl⟩

theorem readsTo_eatByte {i : Nat} {b : UInt8} {r : List UInt8} (h : bytesFrom bs i = b :: r) :
    ReadsTo eatByte bs i () r :=
  ⟨i + 1, rfl, bytesFrom_succ h⟩

theorem readsTo_nextByte {i : Nat} {b : UInt8} {r : List UInt8} (h : bytesFrom bs i = b :: r) :
    ReadsTo nextByte bs i (some b) r :=
  ⟨i + 1, run_nextByte h, bytesFrom_succ h⟩

theorem readsTo_skipBlanksFor :
    ∀ (ws : List UInt8) (n i : Nat) {r : List UInt8}, (∀ w ∈ ws, isJsonBlank w = true) →
      (∀ b ∈ r.head?, isJsonBlank b = false) → ws.length ≤ n → bytesFrom bs i = ws ++ r →
        ReadsTo (skipBlanksFor n) bs i r.head? r
  | [], 0, i, r, _, _, _, h => by
    rw [skipBlanksFor]
    rw [List.nil_append] at h
    exact h ▸ readsTo_peekByte i
  | [], n + 1, i, r, _, hr, _, h => by
    rw [List.nil_append] at h
    rw [skipBlanksFor]
    refine (readsTo_peekByte i).bind fun j hj => ?_
    rw [h] at hj ⊢
    cases hb : r.head? with
    | none => exact readsTo_pure none hj
    | some b =>
      dsimp only
      rw [if_neg (by simp [hr b (by simp [hb])])]
      exact readsTo_pure (some b) hj
  | w :: ws, 0, i, r, _, _, hn, _ => by simp at hn
  | w :: ws, n + 1, i, r, hws, hr, hn, h => by
    rw [List.cons_append] at h
    rw [skipBlanksFor]
    refine (readsTo_peekByte i).bind fun j hj => ?_
    rw [h] at hj ⊢
    simp only [List.head?_cons]
    rw [if_pos (hws w (by simp))]
    refine (readsTo_eatByte hj).bind fun k hk => ?_
    exact readsTo_skipBlanksFor ws n k (fun x hx => hws x (by simp [hx])) hr
      (by simpa using hn) hk

theorem readsTo_skipBlanks {ws r : List UInt8} {i : Nat} (hws : ∀ w ∈ ws, isJsonBlank w = true)
    (hr : ∀ b ∈ r.head?, isJsonBlank b = false) (h : bytesFrom bs i = ws ++ r) :
    ReadsTo skipBlanks bs i r.head? r := by
  have hle : ws.length ≤ bs.size := length_le_size h
  exact ⟨_, (readsTo_skipBlanksFor ws (bs.size + 1) i hws hr (by omega) h).choose_spec.1,
    (readsTo_skipBlanksFor ws (bs.size + 1) i hws hr (by omega) h).choose_spec.2⟩

theorem readsTo_expectWord :
    ∀ (w : List UInt8) {i : Nat} {r : List UInt8}, bytesFrom bs i = w ++ r →
      ReadsTo (expectWord w) bs i () r
  | [], i, r, h => by
    rw [expectWord]
    exact readsTo_pure () h
  | b :: w, i, r, h => by
    rw [expectWord]
    refine (readsTo_nextByte h).bind fun j hj => ?_
    dsimp only
    rw [if_pos (beq_self_eq_true b)]
    exact readsTo_expectWord w hj

end Leaves

/-! ## Strings -/

section Strings

variable {bs : ByteArray}

/-- A byte the string reader keeps as it is: no quote, no backslash, no control character. -/
def IsPlain (b : UInt8) : Prop := 32 ≤ b.toNat ∧ b.toNat ≠ 34 ∧ b.toNat ≠ 92

theorem push_append_toByteArray (acc : ByteArray) (b : UInt8) (w : List UInt8) :
    acc.push b ++ w.toByteArray = acc ++ (b :: w).toByteArray := by
  rw [← ByteArray.append_toByteArray_singleton, ByteArray.append_assoc, ← List.toByteArray_append,
    List.singleton_append]

theorem run_readStringBytes_plain :
    ∀ (w : List UInt8) (acc : ByteArray) (n : Nat) {i : Nat} {r : List UInt8},
      (∀ b ∈ w, IsPlain b) → bytesFrom bs i = w ++ r →
        ((readStringBytes acc (w.length + n)).run bs).run i =
          ((readStringBytes (acc ++ w.toByteArray) n).run bs).run (i + w.length)
  | [], acc, n, i, r, _, _ => by
    rw [List.length_nil, Nat.zero_add, List.toByteArray_nil, ByteArray.append_empty, Nat.add_zero]
  | b :: w, acc, n, i, r, hw, h => by
    obtain ⟨h32, h34, h92⟩ := hw b List.mem_cons_self
    have hquote : (b == byte '"') = false := by
      rw [beq_eq_false_iff_ne]
      exact fun hb => h34 (by rw [hb]; rfl)
    have hback : (b == byte '\\') = false := by
      rw [beq_eq_false_iff_ne]
      exact fun hb => h92 (by rw [hb]; rfl)
    have hctl : ¬ b < 32 := by
      rw [UInt8.lt_iff_toNat_lt]
      simpa using h32
    rw [List.cons_append] at h
    rw [List.length_cons, show w.length + 1 + n = (w.length + n) + 1 by omega, readStringBytes,
      run_bind_of_ok (run_peekByte i), h, List.head?_cons]
    dsimp only
    rw [hquote, hback, if_neg Bool.false_ne_true, if_neg Bool.false_ne_true, if_neg hctl,
      run_bind_of_ok (run_eatByte i),
      run_readStringBytes_plain w (acc.push b) n (fun x hx => hw x (List.mem_cons_of_mem _ hx))
        (bytesFrom_succ h), push_append_toByteArray, Nat.add_assoc, Nat.add_comm 1]

theorem run_readStringBytes_escape {w : List UInt8} {acc acc' : ByteArray}
    (hesc : ∀ (j : Nat) (r : List UInt8), bytesFrom bs j = w ++ r →
      ((readEscape acc).run bs).run j = .ok (acc', j + w.length))
    (n : Nat) {i : Nat} {r : List UInt8} (h : bytesFrom bs i = 92 :: (w ++ r)) :
    ((readStringBytes acc (1 + n)).run bs).run i =
      ((readStringBytes acc' n).run bs).run (i + (1 + w.length)) := by
  rw [Nat.add_comm 1 n, readStringBytes, run_bind_of_ok (run_peekByte i), h, List.head?_cons]
  dsimp only
  rw [if_neg (by decide), if_pos (by decide), run_bind_of_ok (run_eatByte i),
    run_bind_of_ok (hesc (i + 1) r (bytesFrom_succ h)), Nat.add_assoc]

/-- The byte a one-letter escape stands for. -/
def escapedByte (x : UInt8) : UInt8 :=
  if x = 98 then 8 else if x = 102 then 12 else if x = 110 then 10 else if x = 114 then 13
  else if x = 116 then 9 else x

/-- The letters of the one-letter escapes the writer uses. -/
def escapeLetters : List UInt8 := [34, 92, 98, 102, 110, 114, 116]

theorem run_readEscape_letter (acc : ByteArray) {x : UInt8} (hx : x ∈ escapeLetters) {j : Nat}
    {r : List UInt8} (h : bytesFrom bs j = x :: r) :
    ((readEscape acc).run bs).run j = .ok (acc.push (escapedByte x), j + 1) := by
  unfold readEscape
  rw [run_bind_of_ok (run_nextByte h)]
  obtain rfl | rfl | rfl | rfl | rfl | rfl | rfl : x = 34 ∨ x = 92 ∨ x = 98 ∨ x = 102 ∨ x = 110 ∨
      x = 114 ∨ x = 116 := by simpa [escapeLetters] using hx
  all_goals
    simp +decide only [escapedByte, ite_true, ite_false]
    rfl

theorem hexDigit_bytes {k : Nat} (hk : k < 16) :
    ∃ d, String.utf8EncodeChar (if k < 10 then Char.ofNat (48 + k) else Char.ofNat (87 + k)) = [d] ∧
      hexValue d = some k := by
  have hall : ∀ k : Fin 16, (String.utf8EncodeChar
      (if k.val < 10 then Char.ofNat (48 + k.val) else Char.ofNat (87 + k.val))).map hexValue =
        [some k.val] := by decide
  have hmap := hall ⟨k, hk⟩
  obtain ⟨d, hd, hv⟩ := List.map_eq_singleton_iff.1 hmap
  exact ⟨d, hd, hv⟩

theorem utf8_hexByte (n : Nat) :
    ∃ d₁ d₂, utf8 (hexByte n) = [d₁, d₂] ∧ hexValue d₁ = some (n / 16 % 16) ∧
      hexValue d₂ = some (n % 16) := by
  obtain ⟨d₁, h₁, hv₁⟩ := hexDigit_bytes (Nat.mod_lt (n / 16) (by decide : 16 > 0))
  obtain ⟨d₂, h₂, hv₂⟩ := hexDigit_bytes (Nat.mod_lt n (by decide : 16 > 0))
  refine ⟨d₁, d₂, ?_, hv₁, hv₂⟩
  rw [hexByte, utf8_ofList, List.flatMap_cons, List.flatMap_cons, List.flatMap_nil, h₁, h₂]
  rfl

theorem run_readHexEscape {j : Nat} {d₀ d₁ d₂ d₃ : UInt8} {a b c d : Nat} {r : List UInt8}
    (h : bytesFrom bs j = [d₀, d₁, d₂, d₃] ++ r) (h₀ : hexValue d₀ = some a)
    (h₁ : hexValue d₁ = some b) (h₂ : hexValue d₂ = some c) (h₃ : hexValue d₃ = some d) :
    (readHexEscape.run bs).run j = .ok (((a * 16 + b) * 16 + c) * 16 + d, j + 4) := by
  have hsize : j + 4 ≤ bs.size := add_length_le_size h (by simp)
  have h' : bytesFrom bs j = d₀ :: d₁ :: d₂ :: d₃ :: r := h
  have e₀ : bs[j]! = d₀ := getElem!_of_bytesFrom h'
  have e₁ : bs[j + 1]! = d₁ := getElem!_of_bytesFrom (bytesFrom_succ h')
  have e₂ : bs[j + 2]! = d₂ := getElem!_of_bytesFrom (bytesFrom_succ (bytesFrom_succ h'))
  have e₃ : bs[j + 3]! = d₃ :=
    getElem!_of_bytesFrom (bytesFrom_succ (bytesFrom_succ (bytesFrom_succ h')))
  unfold readHexEscape
  rw [run_bind_of_ok (rfl : ((read : ReadM ByteArray).run bs).run j = .ok (bs, j)),
    run_bind_of_ok (rfl : ((get : ReadM Nat).run bs).run j = .ok (j, j))]
  rw [if_pos hsize,
    run_bind_of_ok (rfl : ((set (j + 4) : ReadM PUnit).run bs).run j = .ok (⟨⟩, j + 4)),
    e₀, e₁, e₂, e₃, h₀, h₁, h₂, h₃]
  rfl

theorem utf8EncodeChar_of_lt {c : Char} (hc : c.toNat < 128) :
    String.utf8EncodeChar c = [c.toNat.toUInt8] := by
  have hv : c.val.toNat = c.toNat := rfl
  rw [String.utf8EncodeChar, if_pos (by omega)]
  rfl

theorem run_readEscape_control (acc : ByteArray) {c : Char} (hc : c.toNat < 32) {j : Nat}
    {r : List UInt8} (h : bytesFrom bs j = (117 :: 48 :: 48 :: utf8 (hexByte c.toNat)) ++ r) :
    ((readEscape acc).run bs).run j = .ok (acc.push c.toNat.toUInt8, j + 5) := by
  obtain ⟨d₁, d₂, hd, hv₁, hv₂⟩ := utf8_hexByte c.toNat
  rw [hd] at h
  have h' : bytesFrom bs j = 117 :: ([48, 48, d₁, d₂] ++ r) := h
  have hhex := run_readHexEscape (bytesFrom_succ h') (by rfl : hexValue 48 = some 0)
    (by rfl : hexValue 48 = some 0) hv₁ hv₂
  have hval : ((0 * 16 + 0) * 16 + c.toNat / 16 % 16) * 16 + c.toNat % 16 = c.toNat := by omega
  rw [hval] at hhex
  unfold readEscape
  rw [run_bind_of_ok (run_nextByte h')]
  simp +decide only [ite_true, ite_false]
  unfold readUnicodeEscape
  rw [run_bind_of_ok hhex, if_neg (by omega), if_pos (by omega), pushCodePoint, if_pos (by omega)]
  rfl

theorem escapeChar_cases (c : Char) :
    (∃ x ∈ escapeLetters, utf8 (escapeChar c) = [92, x] ∧
      String.utf8EncodeChar c = [escapedByte x]) ∨
    (c.toNat < 32 ∧ utf8 (escapeChar c) = (92 :: 117 :: 48 :: 48 :: utf8 (hexByte c.toNat))) ∨
    (32 ≤ c.toNat ∧ c ≠ '"' ∧ c ≠ '\\' ∧ utf8 (escapeChar c) = String.utf8EncodeChar c) := by
  by_cases h₁ : c = '"'
  · exact .inl ⟨34, by decide, by rw [h₁]; decide, by rw [h₁]; decide⟩
  by_cases h₂ : c = '\\'
  · exact .inl ⟨92, by decide, by rw [h₂]; decide, by rw [h₂]; decide⟩
  by_cases h₃ : c = '\x08'
  · exact .inl ⟨98, by decide, by rw [h₃]; decide, by rw [h₃]; decide⟩
  by_cases h₄ : c = '\x0c'
  · exact .inl ⟨102, by decide, by rw [h₄]; decide, by rw [h₄]; decide⟩
  by_cases h₅ : c = '\n'
  · exact .inl ⟨110, by decide, by rw [h₅]; decide, by rw [h₅]; decide⟩
  by_cases h₆ : c = '\r'
  · exact .inl ⟨114, by decide, by rw [h₆]; decide, by rw [h₆]; decide⟩
  by_cases h₇ : c = '\t'
  · exact .inl ⟨116, by decide, by rw [h₇]; decide, by rw [h₇]; decide⟩
  rw [escapeChar.eq_8 c h₁ h₂ h₃ h₄ h₅ h₆ h₇]
  split
  · next hlt =>
    refine .inr (.inl ⟨hlt, ?_⟩)
    rw [utf8_append]
    rfl
  · next hge => exact .inr (.inr ⟨by omega, h₁, h₂, utf8_toString c⟩)

theorem isPlain_ofNat {n : Nat} (h32 : 32 ≤ n % 256) (h34 : n % 256 ≠ 34) (h92 : n % 256 ≠ 92) :
    IsPlain (UInt8.ofNat n) := by
  simp only [IsPlain, UInt8.toNat_ofNat', Nat.reducePow]
  exact ⟨h32, h34, h92⟩

theorem isPlain_utf8EncodeChar {c : Char} (h32 : 32 ≤ c.toNat) (hq : c ≠ '"') (hb : c ≠ '\\') :
    ∀ b ∈ String.utf8EncodeChar c, IsPlain b := by
  have hv : c.val.toNat = c.toNat := rfl
  have hq' : c.toNat ≠ 34 := fun h => hq (Char.toNat_inj.1 (by rw [h]; rfl))
  have hb' : c.toNat ≠ 92 := fun h => hb (Char.toNat_inj.1 (by rw [h]; rfl))
  intro b hmem
  unfold String.utf8EncodeChar at hmem
  simp only [hv] at hmem
  split at hmem
  · rw [List.mem_singleton] at hmem
    subst hmem
    exact isPlain_ofNat (by omega) (by omega) (by omega)
  · split at hmem
    · simp only [List.mem_cons, List.not_mem_nil, or_false] at hmem
      rcases hmem with rfl | rfl <;> exact isPlain_ofNat (by omega) (by omega) (by omega)
    · split at hmem
      · simp only [List.mem_cons, List.not_mem_nil, or_false] at hmem
        rcases hmem with rfl | rfl | rfl <;> exact isPlain_ofNat (by omega) (by omega) (by omega)
      · simp only [List.mem_cons, List.not_mem_nil, or_false] at hmem
        rcases hmem with rfl | rfl | rfl | rfl <;>
          exact isPlain_ofNat (by omega) (by omega) (by omega)

theorem run_readStringBytes_char (c : Char) :
    ∃ k ≤ (utf8 (escapeChar c)).length, ∀ (acc : ByteArray) (n : Nat) {i : Nat} {r : List UInt8},
      bytesFrom bs i = utf8 (escapeChar c) ++ r →
        ((readStringBytes acc (k + n)).run bs).run i =
          ((readStringBytes (acc ++ (String.utf8EncodeChar c).toByteArray) n).run bs).run
            (i + (utf8 (escapeChar c)).length) := by
  rcases escapeChar_cases c with ⟨x, hx, hesc, henc⟩ | ⟨hlt, hesc⟩ | ⟨h32, hq, hb, hesc⟩
  ·
    refine ⟨1, by simp [hesc], fun acc n i r h => ?_⟩
    rw [hesc] at h ⊢
    rw [henc, ByteArray.append_toByteArray_singleton]
    exact run_readStringBytes_escape (fun j r' hj => run_readEscape_letter acc hx hj) n h
  ·
    obtain ⟨d₁, d₂, hd, -, -⟩ := utf8_hexByte c.toNat
    refine ⟨1, by simp [hesc, hd], fun acc n i r h => ?_⟩
    rw [hesc, hd] at h ⊢
    rw [utf8EncodeChar_of_lt (by omega), ByteArray.append_toByteArray_singleton]
    exact run_readStringBytes_escape
      (fun j r' hj => run_readEscape_control acc hlt (by rw [hd]; exact hj)) n h
  ·
    refine ⟨(utf8 (escapeChar c)).length, Nat.le_refl _, fun acc n i r h => ?_⟩
    rw [hesc] at h ⊢
    exact run_readStringBytes_plain _ acc n (isPlain_utf8EncodeChar h32 hq hb) h

@[simp] theorem utf8_empty : utf8 "" = [] := rfl

theorem run_readStringBytes_escaped :
    ∀ (cs : List Char) (acc : ByteArray) (fuel : Nat) {i : Nat} {r : List UInt8},
      (utf8 (String.join (cs.map escapeChar))).length < fuel →
      bytesFrom bs i = utf8 (String.join (cs.map escapeChar)) ++ 34 :: r →
        ((readStringBytes acc fuel).run bs).run i =
          .ok (acc ++ (cs.flatMap String.utf8EncodeChar).toByteArray,
            i + (utf8 (String.join (cs.map escapeChar))).length + 1)
  | [], acc, fuel, i, r, hfuel, h => by
    obtain ⟨n, rfl⟩ := Nat.exists_eq_add_one_of_ne_zero (by omega : fuel ≠ 0)
    rw [List.map_nil, String.join_nil, utf8_empty, List.nil_append] at h
    rw [readStringBytes, run_bind_of_ok (run_peekByte i), h, List.head?_cons]
    dsimp only
    rw [if_pos (by decide), run_bind_of_ok (run_eatByte i), List.flatMap_nil, List.toByteArray_nil,
      ByteArray.append_empty, List.map_nil, String.join_nil, utf8_empty, List.length_nil,
      Nat.add_zero]
    rfl
  | c :: cs, acc, fuel, i, r, hfuel, h => by
    obtain ⟨k, hk, hstep⟩ := run_readStringBytes_char c
    rw [List.map_cons, String.join_cons, utf8_append, List.length_append] at hfuel ⊢
    rw [List.map_cons, String.join_cons, utf8_append, List.append_assoc] at h
    obtain ⟨n, rfl⟩ : ∃ n, fuel = k + n := ⟨fuel - k, by omega⟩
    rw [hstep acc n h, run_readStringBytes_escaped cs _ n (by omega) (bytesFrom_add h),
      List.flatMap_cons, List.toByteArray_append, ByteArray.append_assoc, Nat.add_assoc i]

theorem fromUTF8?_utf8Encode (cs : List Char) :
    String.fromUTF8? cs.utf8Encode = some (String.ofList cs) := by
  rw [← String.toByteArray_ofList, String.fromUTF8?, dif_pos (String.ofList cs).isValidUTF8]
  rfl

/-- The bytes between the quotes of a quoted string. -/
def quotedBytes (s : String) : List UInt8 := utf8 (String.join (s.toList.map escapeChar))

/-- A string's escaped form and a closing quote are read back as the string. -/
theorem readsTo_readString (s : String) {i : Nat} {r : List UInt8}
    (h : bytesFrom bs i = quotedBytes s ++ 34 :: r) : ReadsTo readString bs i s r := by
  have hlen : (utf8 (String.join (s.toList.map escapeChar))).length ≤ bs.size := length_le_size h
  have h' : bytesFrom bs i = (quotedBytes s ++ [34]) ++ r := by
    rw [h, List.append_assoc]
    rfl
  refine ⟨i + (quotedBytes s).length + 1, ?_, ?_⟩
  · unfold readString
    rw [run_bind_of_ok (rfl : (budget.run bs).run i = .ok (bs.size + 1, i)),
      run_bind_of_ok (run_readStringBytes_escaped s.toList ByteArray.empty (bs.size + 1)
        (by omega) h), ByteArray.empty_append]
    show Except.ok ((String.fromUTF8? s.toList.utf8Encode).getD "", _) = _
    rw [fromUTF8?_utf8Encode, Option.getD_some, String.ofList_toList]
    rfl
  · have hr := bytesFrom_add h'
    rwa [List.length_append, List.length_singleton, ← Nat.add_assoc] at hr

theorem utf8_quoteString (s : String) : utf8 (quoteString s) = 34 :: (quotedBytes s ++ [34]) := by
  rw [quoteString, utf8_append, utf8_append]
  rfl

theorem utf8_quoteString_append (s : String) (r : List UInt8) :
    utf8 (quoteString s) ++ r = 34 :: (quotedBytes s ++ 34 :: r) := by
  rw [utf8_quoteString, List.cons_append, List.append_assoc]
  rfl

/-- A quoted string, its opening quote next, reads back as itself. -/
theorem ReadsTo.quoted {β : Type} {s : String} {f : String → ReadM β} {i : Nat} {b : β}
    {r r' : List UInt8} (h : bytesFrom bs i = 34 :: (quotedBytes s ++ 34 :: r))
    (hf : ∀ j, bytesFrom bs j = r → ReadsTo (f s) bs j b r') :
    ReadsTo (eatByte >>= fun _ => readString >>= f) bs i b r' :=
  (readsTo_eatByte h).bind fun _ hj => (readsTo_readString s hj).bind hf

end Strings


/-! ## Objects -/

section Objects

variable {bs : ByteArray}

theorem readsTo_skipBlanks_cons (ws : List UInt8) {b : UInt8} {i : Nat} {r : List UInt8}
    (hws : ∀ w ∈ ws, isJsonBlank w = true) (hb : isJsonBlank b = false)
    (h : bytesFrom bs i = ws ++ b :: r) : ReadsTo skipBlanks bs i (some b) (b :: r) :=
  readsTo_skipBlanks hws (by simpa using hb) h

theorem readsTo_nextKey_first (ws : List UInt8) {k : String} {i : Nat} {r : List UInt8}
    (hws : ∀ w ∈ ws, isJsonBlank w = true)
    (h : bytesFrom bs i = ws ++ (utf8 (quoteString k) ++ r)) :
    ReadsTo (nextKey true) bs i (some k) r := by
  rw [utf8_quoteString_append] at h
  unfold nextKey
  refine (readsTo_skipBlanks_cons ws hws (by decide) h).bind fun j hj => ?_
  dsimp only
  simp +decide only [ite_true, ite_false, pure_bind]
  exact ReadsTo.quoted hj fun l hl => readsTo_pure _ hl

theorem readsTo_nextKey_later (ws ws' : List UInt8) {k : String} {i : Nat} {r : List UInt8}
    (hws : ∀ w ∈ ws, isJsonBlank w = true) (hws' : ∀ w ∈ ws', isJsonBlank w = true)
    (h : bytesFrom bs i = ws ++ 44 :: (ws' ++ (utf8 (quoteString k) ++ r))) :
    ReadsTo (nextKey false) bs i (some k) r := by
  unfold nextKey
  refine (readsTo_skipBlanks_cons ws hws (by decide) h).bind fun j hj => ?_
  dsimp only
  simp +decide only [ite_true, ite_false]
  refine (readsTo_eatByte hj).bind fun l hl => ?_
  rw [utf8_quoteString_append] at hl
  refine (readsTo_skipBlanks_cons ws' hws' (by decide) hl).bind fun m hm => ?_
  dsimp only
  simp +decide only [ite_true, ite_false]
  exact ReadsTo.quoted hm fun l hl => readsTo_pure _ hl

theorem readsTo_nextKey_close (ws : List UInt8) (first : Bool) {i : Nat} {r : List UInt8}
    (hws : ∀ w ∈ ws, isJsonBlank w = true) (h : bytesFrom bs i = ws ++ 125 :: r) :
    ReadsTo (nextKey first) bs i none (125 :: r) := by
  unfold nextKey
  refine (readsTo_skipBlanks_cons ws hws (by decide) h).bind fun j hj => ?_
  dsimp only
  simp +decide only [ite_true]
  exact readsTo_pure none hj

theorem readsTo_expectColon (ws : List UInt8) {i : Nat} {r : List UInt8}
    (hws : ∀ w ∈ ws, isJsonBlank w = true) (h : bytesFrom bs i = ws ++ 58 :: r) :
    ReadsTo expectColon bs i () r := by
  unfold expectColon
  refine (readsTo_skipBlanks_cons ws hws (by decide) h).bind fun j hj => ?_
  dsimp only
  simp +decide only [ite_true]
  exact readsTo_eatByte hj

theorem readsTo_closeObject (ws : List UInt8) {i : Nat} {r : List UInt8}
    (hws : ∀ w ∈ ws, isJsonBlank w = true) (h : bytesFrom bs i = ws ++ 125 :: r) :
    ReadsTo closeObject bs i () r := by
  unfold closeObject
  refine (readsTo_skipBlanks_cons ws hws (by decide) h).bind fun j hj => ?_
  dsimp only
  simp +decide only [ite_true]
  exact readsTo_eatByte hj

theorem readsTo_expectEnd (ws : List UInt8) {i : Nat} (hws : ∀ w ∈ ws, isJsonBlank w = true)
    (h : bytesFrom bs i = ws) : ReadsTo expectEnd bs i () [] := by
  have h' : bytesFrom bs i = ws ++ [] := by rw [h, List.append_nil]
  unfold expectEnd
  exact (readsTo_skipBlanks hws (by simp) h').bind fun j hj => readsTo_pure () hj

theorem readsTo_enterContainer {depth : Nat} (hdepth : 1 < depth) (i : Nat) :
    ReadsTo (enterContainer depth) bs i (depth - 1) (bytesFrom bs i) := by
  unfold enterContainer
  rw [if_neg (by omega)]
  exact readsTo_pure _ rfl

theorem readsTo_nestedBudget (i : Nat) :
    ReadsTo nestedBudget bs i (2 * bs.size + 2) (bytesFrom bs i) :=
  ⟨i, rfl, rfl⟩

end Objects

end PathHierarchy.Json
