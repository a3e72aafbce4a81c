/-!
# Tables of code point ranges

A Unicode property is stored as a sorted array of disjoint closed ranges of code points.
Membership is a binary search for the one range that could hold the code point.
-/

namespace PathHierarchy.Text

/-- Sorted, disjoint, closed ranges `(first, last)` of code points. -/
abbrev RangeTable := Array (Nat × Nat)

namespace RangeTable

/-- Search the ranges with index in `[lo, hi)` for one holding `c`; every step shrinks the
window, so `steps` at least its width always suffices. -/
def searchIn (t : RangeTable) (c : Nat) : (steps lo hi : Nat) → Bool
  | 0, _, _ => false
  | steps + 1, lo, hi =>
    if lo < hi then
      match t[(lo + hi) / 2]? with
      | some (first, last) =>
        if c < first then searchIn t c steps lo ((lo + hi) / 2)
        else if last < c then searchIn t c steps ((lo + hi) / 2 + 1) hi
        else true
      | none => false
    else false

/-- Whether some range of the table holds the code point `c`. -/
def contains (t : RangeTable) (c : Nat) : Bool := searchIn t c (t.size + 1) 0 t.size

end RangeTable

end PathHierarchy.Text
