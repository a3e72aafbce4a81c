import PathHierarchy.Decimal.Shortest

/-!
# JSON numbers

A number read from JSON text is an integer when it has no fraction or exponent and fits the
unsigned or signed 64-bit range; anything else is a double. `-0` is the double `-0.0`.

A double is written with its shortest decimal digits, laid out by `Layout.standard`: positional
below `10^16`, with at most four zeros after the point before the digits, in scientific form
otherwise; a whole number keeps `.0`, and the exponent has no leading zeros and a `+` when it
is positive (`1e+16`, `1e-7`).
-/

namespace PathHierarchy.Json

/-- A JSON number: an integer in the 64-bit ranges, or a double. -/
inductive Number where
  | int (i : Int)
  | float (f : Float)
  deriving Inhabited

/-- Where positional notation stops, for digits `d` times `10^k` of length `n`. -/
structure Layout where
  /-- Positional when the integer part has at most this many digits (`n + k`). -/
  maxIntegerDigits : Nat
  /-- Positional below one when at most this many zeros follow the point. -/
  maxLeadingZeros : Nat
  /-- Whether a positive exponent is written with `+`. -/
  plusSign : Bool

/-- Sixteen integer digits, four leading zeros, `+` on positive exponents. -/
def Layout.standard : Layout := ⟨16, 4, true⟩

/-- The exponent part of scientific notation. -/
def Layout.exponentText (l : Layout) (e : Int) : String :=
  "e" ++ (if l.plusSign && 0 < e then "+" else "") ++ toString e

/-- `n` zero digits. -/
def zeros (n : Nat) : String := String.ofList (List.replicate n '0')

/-- Lay out the digits of a shortest decimal. -/
def Layout.render (l : Layout) (d : Decimal.Scientific) : String :=
  let ds := Nat.toDigits 10 d.significand
  let len := ds.length
  let k := d.exponent
  let kk : Int := len + k
  let text := String.ofList ds
  if 0 ≤ k ∧ kk ≤ l.maxIntegerDigits then
    text ++ zeros k.toNat ++ ".0"
  else if 0 < kk ∧ kk ≤ l.maxIntegerDigits then
    String.ofList (ds.take kk.toNat) ++ "." ++ String.ofList (ds.drop kk.toNat)
  else if -(l.maxLeadingZeros + 1 : Int) < kk ∧ kk ≤ 0 then
    "0." ++ zeros (-kk).toNat ++ text
  else if len = 1 then
    text ++ l.exponentText (kk - 1)
  else
    String.ofList (ds.take 1) ++ "." ++ String.ofList (ds.drop 1) ++ l.exponentText (kk - 1)

/-- The text of a double: shortest digits in the standard layout, `0.0` for zero, and `NaN`,
`inf`, `-inf` for the special values. -/
def floatText (f : Float) : String :=
  let sign := if Binary64.signBit f then "-" else ""
  match Binary64.parts f with
  | .nan => "NaN"
  | .infinite negative => if negative then "-inf" else "inf"
  | .finite _ _ _ _ _ =>
    match Decimal.ofFloat? f with
    | none => sign ++ "0.0"
    | some d => sign ++ Layout.standard.render d

/-- The text of a number, as it is displayed and written into JSON. -/
def Number.text : Number → String
  | .int i => toString i
  | .float f => floatText f

/-- Divide by `10^e` as the reader does: past `10^308` it first divides by the double `1e308`,
stopping early once the value is zero. -/
def scaleDown (f : Float) (e : Nat) : Float :=
  if e ≤ 308 then f / Binary64.powTen e
  else if f == 0 then f
  else scaleDown (f / Binary64.powTen 308) (e - 308)
termination_by e

/-- The double for `significand · 10^exponent` as the reader computes it: the significand (below
`2^64`) as the nearest double, then one multiplication or division by the nearest double of
the power of ten. `none` when the result is past the largest double. -/
def decimalToFloat (negative : Bool) (significand : Nat) (exponent : Int) : Option Float :=
  let f := Binary64.ofNat significand
  let magnitude : Option Float :=
    if 0 ≤ exponent then
      if exponent.toNat ≤ 308 then
        let g := f * Binary64.powTen exponent.toNat
        if g.isInf then none else some g
      else if f == 0 then some f else none
    else some (scaleDown f (-exponent).toNat)
  magnitude.map fun g => if negative then -g else g

end PathHierarchy.Json
