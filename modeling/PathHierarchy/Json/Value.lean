import PathHierarchy.Json.Number

/-!
# JSON values

A value is null, a boolean, a number, a string, an array or an object. An object keeps its
fields in the order their keys first appeared; writing a key again replaces the value in place
(`Fields.insert`), so an object never holds one key twice.
-/

namespace PathHierarchy.Json

/-- A JSON value. -/
inductive Value where
  | null
  | bool (b : Bool)
  | number (n : Number)
  | string (s : String)
  | array (items : List Value)
  | object (fields : List (String × Value))
  deriving Inhabited

/-- The fields of an object, in order. -/
abbrev Fields := List (String × Value)

/-- Put `k ↦ v` into fields: a present key keeps its place and takes `v`, a new key goes last. -/
def Fields.insert (fields : Fields) (k : String) (v : Value) : Fields :=
  if fields.any (·.1 == k) then fields.map fun (k', v') => if k' == k then (k', v) else (k', v')
  else fields ++ [(k, v)]

/-- The value of key `k` among the fields. -/
def Fields.get? (fields : Fields) (k : String) : Option Value :=
  (fields.find? (·.1 == k)).map (·.2)

namespace Value

/-- The value of key `k` when this is an object holding it. -/
def field? : Value → String → Option Value
  | .object fields, k => Fields.get? fields k
  | _, _ => none

/-- The text when this is a string. -/
def asString? : Value → Option String
  | .string s => some s
  | _ => none

/-- The items when this is an array. -/
def asArray? : Value → Option (List Value)
  | .array items => some items
  | _ => none

end Value

end PathHierarchy.Json
