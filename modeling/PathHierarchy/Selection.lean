import PathHierarchy.Json.Value

/-!
# Selections

A tree select control reports what is chosen as a raw JSON payload. Normalized, a selection is
untouched (no payload at all), cleared (`null`, or a payload of an unsupported shape: a boolean
or an object), or a list of values: a string or a number alone is one value, and an array keeps
its strings and numbers in order and drops everything else.
-/

set_option autoImplicit false

namespace PathHierarchy

open Json

/-- One chosen value. -/
inductive SelectionValue where
  | text (s : String)
  | number (n : Number)
  deriving Inhabited

/-- A normalized selection. -/
inductive Selection where
  | untouched
  | cleared
  | values (vs : List SelectionValue)
  deriving Inhabited

namespace SelectionValue

/-- A string or number as a chosen value. -/
def ofJson? : Value → Option SelectionValue
  | .string s => some (.text s)
  | .number n => some (.number n)
  | _ => none

/-- The value as JSON. -/
def toJson : SelectionValue → Value
  | .text s => .string s
  | .number n => .number n

end SelectionValue

namespace Selection

/-- Normalize a payload; `none` is a payload that was never given. -/
def normalize : Option Value → Selection
  | none => .untouched
  | some .null => .cleared
  | some (.string s) => .values [.text s]
  | some (.number n) => .values [.number n]
  | some (.array items) => .values (items.filterMap SelectionValue.ofJson?)
  | some (.bool _) => .cleared
  | some (.object _) => .cleared

/-- Whether a payload has a shape that is not supported, and so counts as cleared. -/
def unsupported : Option Value → Bool
  | some (.bool _) => true
  | some (.object _) => true
  | _ => false

/-- The chosen values, when there are any to speak of. -/
def values? : Selection → Option (List SelectionValue)
  | .values vs => some vs
  | _ => none

/-- The selection as JSON: nothing when untouched, `null` when cleared, else an array. -/
def toJson? : Selection → Option Value
  | .untouched => none
  | .cleared => some .null
  | .values vs => some (.array (vs.map SelectionValue.toJson))

/-- The name of the selection's state. -/
def state : Selection → String
  | .untouched => "untouched"
  | .cleared => "cleared"
  | .values _ => "values"

end Selection

end PathHierarchy
