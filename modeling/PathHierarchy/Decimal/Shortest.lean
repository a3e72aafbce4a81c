import PathHierarchy.Decimal.Binary64

/-!
# Shortest decimal of a double

A positive finite double `m · 2^e` stands for every real in its rounding interval: the reals
nearer to it than to either neighbour, the ends included when `m` is even. The shortest decimal
of the double is the `d · 10^k` in that interval with the largest `k`; of several such `d`, the
one nearest the double, a tie going to the even digit. All arithmetic is exact, on `Nat`.

`digits` gives `(d, k)`; a `d` found at the largest `k` never ends in a zero digit, since `d / 10`
would then already lie in the interval at `k + 1`.
-/

namespace PathHierarchy.Decimal

/-- A decimal `significand · 10^exponent`. -/
structure Scientific where
  significand : Nat
  exponent : Int
  deriving Repr, DecidableEq, Inhabited

/-- A real `num · 2^twos · 10^tens` with a natural `num`, kept exact. -/
private structure Exact where
  num : Nat
  twos : Int
  tens : Int

/-- Bring two exact reals to integers over one common scale: `(a', b')` with
`a / b = a' / b'`. -/
private def common (a b : Exact) : Nat × Nat :=
  let twos := min a.twos b.twos
  let tens := min a.tens b.tens
  (a.num * Nat.pow 2 (a.twos - twos).toNat * Nat.pow 10 (a.tens - tens).toNat,
   b.num * Nat.pow 2 (b.twos - twos).toNat * Nat.pow 10 (b.tens - tens).toNat)

/-- Integer quotient rounded up. -/
private def ceilDiv (a b : Nat) : Nat := (a + b - 1) / b

/-- Integer quotient rounded to nearest, a tie going to the even quotient. -/
private def roundDiv (a b : Nat) : Nat :=
  let q := a / b
  let r := a % b
  if 2 * r > b || (2 * r == b && q % 2 == 1) then q + 1 else q

/-- The rounding interval of a positive finite double, in units of `2^(e-2)`:
`(low, value, high, ends included)`. -/
private def interval (mantissa : Nat) (halfBelow : Bool) : Nat × Nat × Nat × Bool :=
  let v := 4 * mantissa
  (if halfBelow then v - 1 else v - 2, v, v + 2, mantissa % 2 == 0)

/-- The multiples of `10^k` inside the interval, if any, as the chosen significand at `k`. -/
private def pickAt (low value high : Nat) (closed : Bool) (scale : Int) (k : Int) :
    Option Nat :=
  let unit : Exact := ⟨1, 0, k⟩
  let (lo, c) := common ⟨low, scale, 0⟩ unit
  let (hi, c') := common ⟨high, scale, 0⟩ unit
  let (v, c'') := common ⟨value, scale, 0⟩ unit
  -- `lo / c` is the low end measured in steps of `10^k`; the three scales agree
  let first := if closed then ceilDiv lo c else lo / c + 1
  let last := if closed then hi / c' else ceilDiv hi c' - 1
  if first ≤ last ∧ 0 < first then
    let near := roundDiv v c''
    some (if near < first then first else if near > last then last else near)
  else none

/-- A power of ten above the double: `10^start` exceeds `2^bits` with `bits` the binary length
of the interval's high end. -/
private def startExponent (high : Nat) (scale : Int) : Int :=
  let bits : Int := (Nat.log2 high + 1 : Nat) + scale
  bits * 30103 / 100000 + 2

/-- Shortest decimal `(d, k)` of the positive double `mantissa · 2^exponent`; `halfBelow` says
that the gap to the next double down is half the gap up, as at a power of two. -/
def shortest (mantissa : Nat) (exponent : Int) (halfBelow : Bool) : Scientific :=
  let (low, value, high, closed) := interval mantissa halfBelow
  let scale := exponent - 2
  let start := startExponent high scale
  let found := (List.range 40).findSome? fun (i : Nat) =>
    let k := start - (i : Int)
    (pickAt low value high closed scale k).map fun d => (⟨d, k⟩ : Scientific)
  found.getD ⟨mantissa, exponent⟩

/-- Shortest decimal of the absolute value of a finite nonzero double. -/
def ofFloat? (f : Float) : Option Scientific :=
  match Binary64.parts f with
  | .finite _ mantissa exponent fraction biased =>
    if mantissa = 0 then none
    else some (shortest mantissa exponent (fraction == 0 && biased > 1))
  | _ => none

end PathHierarchy.Decimal
