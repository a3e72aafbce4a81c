/-!
# Binary64 values as integers

A finite double is `(-1)^sign · mantissa · 2^exponent`. This module reads that triple off the
bit pattern of a `Float` and builds the double nearest to a natural number, ties to the even
mantissa, so that other modules can do exact decimal work in `Nat` arithmetic.
-/

namespace PathHierarchy.Binary64

/-- The width of the stored fraction. -/
def fractionBits : Nat := 52

/-- The exponent of the least subnormal step, `2^-1074`. -/
def leastExponent : Int := -1074

/-- A double taken apart: sign, integer mantissa and binary exponent, or a special value. -/
inductive Parts where
  | finite (negative : Bool) (mantissa : Nat) (exponent : Int)
      (fraction : Nat) (biased : Nat)
  | infinite (negative : Bool)
  | nan
  deriving Repr, Inhabited

/-- Read the sign, fraction and biased exponent fields of a double. -/
def parts (f : Float) : Parts :=
  let bits := f.toBits.toNat
  let negative := bits / Nat.pow 2 63 % 2 == 1
  let biased := bits / Nat.pow 2 fractionBits % Nat.pow 2 11
  let fraction := bits % Nat.pow 2 fractionBits
  if biased == 2047 then
    if fraction == 0 then .infinite negative else .nan
  else if biased == 0 then
    .finite negative fraction leastExponent fraction biased
  else
    .finite negative (fraction + Nat.pow 2 fractionBits) ((biased : Int) - 1075) fraction biased

/-- Whether a double has its sign bit set, so `-0.0` counts as negative. -/
def signBit (f : Float) : Bool :=
  f.toBits.toNat / Nat.pow 2 63 % 2 == 1

/-- Round `n / 2^shift` to the nearest integer, a tie going to the even one. -/
def roundShift (n shift : Nat) : Nat :=
  if shift = 0 then n
  else
    let q := n / Nat.pow 2 shift
    let r := n % Nat.pow 2 shift
    let half := Nat.pow 2 (shift - 1)
    if r > half || (r == half && q % 2 == 1) then q + 1 else q

/-- The positive double with mantissa `m` (below `2^53`) scaled by `2^shift`, written as
bits; an exponent past the largest finite one gives infinity. -/
private def encodeNormal (m : Nat) (shift : Nat) : Float :=
  -- `m · 2^shift` with `2^52 ≤ m < 2^53` has biased exponent `shift + 52 + 1023`
  let biased := shift + fractionBits + 1023
  if biased ≥ 2047 then Float.ofBits (UInt64.ofNat (2047 * Nat.pow 2 fractionBits))
  else Float.ofBits (UInt64.ofNat (biased * Nat.pow 2 fractionBits + (m - Nat.pow 2 fractionBits)))

/-- The double nearest to the natural number `n`, a tie going to the even mantissa. -/
def ofNat (n : Nat) : Float :=
  if n = 0 then Float.ofBits 0
  else
    let len := Nat.log2 n + 1
    if len ≤ 53 then
      -- exact: scale up into `[2^52, 2^53)` and count the scaling back in the exponent
      let m := n * Nat.pow 2 (53 - len)
      Float.ofBits (UInt64.ofNat ((len - 1 + 1023) * Nat.pow 2 fractionBits + (m - Nat.pow 2 fractionBits)))
    else
      let shift := len - 53
      let q := roundShift n shift
      if q = Nat.pow 2 53 then encodeNormal (Nat.pow 2 52) (shift + 1) else encodeNormal q shift

/-- The double nearest to `10^k`. -/
def powTen (k : Nat) : Float := ofNat (Nat.pow 10 k)

end PathHierarchy.Binary64
