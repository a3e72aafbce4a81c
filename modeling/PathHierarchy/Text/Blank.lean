import PathHierarchy.Text.RangeTable

/-!
# Blank characters

The characters with the Unicode property White_Space, and trimming by them. Paths are trimmed
this way before they are split, and a custom delimiter may not be one of them. The zero-width
space U+200B and the byte order mark U+FEFF are not blank.
-/

namespace PathHierarchy.Text

/-- The code points with the Unicode property White_Space. -/
def whiteSpaceRanges : RangeTable := #[
  (0x9, 0xD), (0x20, 0x20), (0x85, 0x85), (0xA0, 0xA0), (0x1680, 0x1680), (0x2000, 0x200A),
  (0x2028, 0x2029), (0x202F, 0x202F), (0x205F, 0x205F), (0x3000, 0x3000)]

/-- Whether a character is blank (Unicode White_Space). -/
def isBlank (c : Char) : Bool := whiteSpaceRanges.contains c.toNat

/-- Drop the blank characters at both ends of a list of characters. -/
def trimBlankList (cs : List Char) : List Char :=
  ((cs.dropWhile isBlank).reverse.dropWhile isBlank).reverse

/-- Drop the blank characters at both ends of a string. -/
def trimBlank (s : String) : String := String.ofList (trimBlankList s.toList)

example : isBlank ' ' ∧ isBlank '　' ∧ !isBlank '​' ∧ !isBlank '﻿' := by decide

end PathHierarchy.Text
