import PathHierarchy.Json.Value

/-!
# Writing JSON

Strings escape the quote, the backslash and the control characters below U+0020 (short forms
`\b \f \n \r \t`, else `\u00xx` in lowercase hex) and keep every other character as it is.
`Value.write` is the compact form with no blanks; `Value.pretty` puts every item and field on a
line of its own, indented two spaces a level, with `": "` after keys and empty containers as
`[]` and `{}`.
-/

namespace PathHierarchy.Json

/-- Two lowercase hex digits of a byte. -/
def hexByte (n : Nat) : String :=
  let digit (d : Nat) : Char := if d < 10 then Char.ofNat (48 + d) else Char.ofNat (87 + d)
  String.ofList [digit (n / 16 % 16), digit (n % 16)]

/-- The escaped form of one character inside a JSON string. -/
def escapeChar (c : Char) : String :=
  match c with
  | '"' => "\\\""
  | '\\' => "\\\\"
  | '\x08' => "\\b"
  | '\x0c' => "\\f"
  | '\n' => "\\n"
  | '\r' => "\\r"
  | '\t' => "\\t"
  | c => if c.toNat < 0x20 then "\\u00" ++ hexByte c.toNat else c.toString

/-- A string as a JSON string literal. -/
def quoteString (s : String) : String :=
  "\"" ++ String.join (s.toList.map escapeChar) ++ "\""

/-- A number as JSON: a double that is not finite is written `null`. -/
def Number.json : Number → String
  | .int i => toString i
  | .float f => if f.isNaN || f.isInf then "null" else floatText f

/-- Two spaces per level. -/
def indent (depth : Nat) : String := String.ofList (List.replicate (2 * depth) ' ')

mutual

/-- The compact text of a value. -/
def Value.write : Value → String
  | .null => "null"
  | .bool b => if b then "true" else "false"
  | .number n => n.json
  | .string s => quoteString s
  | .array items => "[" ++ writeItems items ++ "]"
  | .object fields => "\x7b" ++ writeFields fields ++ "\x7d"

/-- Items separated by commas. -/
def writeItems : List Value → String
  | [] => ""
  | [v] => v.write
  | v :: rest => v.write ++ "," ++ writeItems rest

/-- Fields separated by commas. -/
def writeFields : List (String × Value) → String
  | [] => ""
  | [(k, v)] => quoteString k ++ ":" ++ v.write
  | (k, v) :: rest => quoteString k ++ ":" ++ v.write ++ "," ++ writeFields rest

end

mutual

/-- The indented text of a value that starts at nesting level `depth`. -/
def Value.pretty (depth : Nat) : Value → String
  | .array [] => "[]"
  | .array items => "[\n" ++ prettyItems (depth + 1) items ++ "\n" ++ indent depth ++ "]"
  | .object [] => "\x7b\x7d"
  | .object fields =>
    "\x7b\n" ++ prettyFields (depth + 1) fields ++ "\n" ++ indent depth ++ "\x7d"
  | .null => "null"
  | .bool b => if b then "true" else "false"
  | .number n => n.json
  | .string s => quoteString s

/-- Items at level `depth`, one per line. -/
def prettyItems (depth : Nat) : List Value → String
  | [] => ""
  | [v] => indent depth ++ v.pretty depth
  | v :: rest => indent depth ++ v.pretty depth ++ ",\n" ++ prettyItems depth rest

/-- Fields at level `depth`, one per line. -/
def prettyFields (depth : Nat) : List (String × Value) → String
  | [] => ""
  | [(k, v)] => indent depth ++ quoteString k ++ ": " ++ v.pretty depth
  | (k, v) :: rest =>
    indent depth ++ quoteString k ++ ": " ++ v.pretty depth ++ ",\n" ++ prettyFields depth rest

end

/-- The indented text of a value at the top level. -/
def Value.writePretty (v : Value) : String := v.pretty 0

end PathHierarchy.Json
