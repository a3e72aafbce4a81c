import PathHierarchy.Text.GraphemeExtend
import PathHierarchy.Text.Unprintable

/-!
# Quoted text

The debugging form of a string: in double quotes, with a backslash before a quote or
backslash, the short escapes for NUL, tab, newline and carriage return, and `\u{hex}` (lowercase,
no leading zeros) for every character that would not show as itself: grapheme extenders and
unprintable characters. Paths quote the apostrophe too.
-/

namespace PathHierarchy.Text

/-- Whether a character extends the grapheme before it. -/
def isGraphemeExtend (c : Char) : Bool := graphemeExtendRanges.contains c.toNat

/-- Whether a character prints as itself: printable ASCII, or a character outside the
unprintable table. -/
def isPrintable (c : Char) : Bool :=
  if c.toNat < 0x20 then false
  else if c.toNat < 0x7F then true
  else !unprintableRanges.contains c.toNat

/-- The `\u{hex}` escape of a character. -/
def unicodeEscape (c : Char) : String :=
  "\\u" ++ "\x7b" ++ String.ofList (Nat.toDigits 16 c.toNat) ++ "\x7d"

/-- The quoted form of one character inside double quotes; `apostrophe` says whether `'` is
escaped as well. -/
def escapeChar (apostrophe : Bool) (c : Char) : String :=
  match c with
  | '\x00' => "\\0"
  | '\t' => "\\t"
  | '\r' => "\\r"
  | '\n' => "\\n"
  | '\\' => "\\\\"
  | '"' => "\\\""
  | '\'' => if apostrophe then "\\'" else "'"
  | c =>
    if isGraphemeExtend c then unicodeEscape c
    else if isPrintable c then c.toString
    else unicodeEscape c

/-- The debugging form of a string. -/
def quote (s : String) : String :=
  "\"" ++ String.join (s.toList.map (escapeChar false)) ++ "\""

/-- The debugging form of a path, which escapes the apostrophe as well. -/
def quotePath (s : String) : String :=
  "\"" ++ String.join (s.toList.map (escapeChar true)) ++ "\""

end PathHierarchy.Text
