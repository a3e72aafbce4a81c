/-!
# Delimiters

A path such as `company/europe/finland` is split into segments on one character. A path that
contains a slash is split on slashes, any other on dots; a builder may instead fix one
character for every path. Splitting drops the empty pieces, so `"/a//b/"` has the segments
`a` and `b`, and a path made only of delimiters has none.
-/

set_option autoImplicit false

namespace PathHierarchy.Forest

/-- The character that separates the segments of a path. -/
inductive Delimiter where
  | slash
  | dot
  | custom (c : Char)
  deriving Repr, DecidableEq, Inhabited

namespace Delimiter

/-- The character itself. -/
def toChar : Delimiter → Char
  | .slash => '/'
  | .dot => '.'
  | .custom c => c

/-- The delimiter of a character: slash and dot by name, any other as custom. -/
def ofChar (c : Char) : Delimiter :=
  if c = '/' then .slash else if c = '.' then .dot else .custom c

/-- The name of the delimiter's kind. -/
def kind : Delimiter → String
  | .slash => "slash"
  | .dot => "dot"
  | .custom _ => "custom"

/-- The delimiter of one path: a slash if the path has one, else a dot. -/
def detect (path : String) : Delimiter :=
  if path.toList.contains '/' then .slash else .dot

/-- The nonempty pieces of a path between delimiters, in order. -/
def segments (d : Delimiter) (path : String) : List String :=
  ((path.toList.splitOn d.toChar).filter (· ≠ [])).map String.ofList

/-- A delimiter made from a character is that character. -/
theorem toChar_ofChar (c : Char) : (ofChar c).toChar = c := by
  unfold ofChar
  split
  · next h => simp [toChar, h]
  · split
    · next h => simp [toChar, h]
    · rfl

end Delimiter

end PathHierarchy.Forest
