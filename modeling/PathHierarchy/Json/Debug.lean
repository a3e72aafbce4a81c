import PathHierarchy.Json.Value
import PathHierarchy.Text.Quoted

/-!
# The debugging form of a value

Logs show values in a constructor notation: `Null`, `Bool(true)`, `Number(3)`,
`String("x")` with the string quoted, `Array [a, b]`, and `Object {"k": v}`.
-/

namespace PathHierarchy.Json

mutual

/-- The debugging form of a value. -/
def Value.debug : Value → String
  | .null => "Null"
  | .bool b => "Bool(" ++ toString b ++ ")"
  | .number n => "Number(" ++ n.text ++ ")"
  | .string s => "String(" ++ Text.quote s ++ ")"
  | .array items => "Array [" ++ debugItems items ++ "]"
  | .object fields => "Object \x7b" ++ debugFields fields ++ "\x7d"

/-- Items separated by `, `. -/
def debugItems : List Value → String
  | [] => ""
  | [v] => v.debug
  | v :: rest => v.debug ++ ", " ++ debugItems rest

/-- Fields as `"k": v`, separated by `, `. -/
def debugFields : List (String × Value) → String
  | [] => ""
  | [(k, v)] => Text.quote k ++ ": " ++ v.debug
  | (k, v) :: rest => Text.quote k ++ ": " ++ v.debug ++ ", " ++ debugFields rest

end

end PathHierarchy.Json
