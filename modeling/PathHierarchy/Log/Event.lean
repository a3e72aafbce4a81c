import PathHierarchy.Log.Filter

/-!
# Log events

An event has a level, a target naming the part of the program it comes from, a message and
named fields. Its line is the level right-aligned to five places, the target, a colon, the
message, then each field as `name=value`, all separated by single spaces. The field values
are already written in debug form: text quoted, enumerations by their constructor names.

A message may carry text from the input, so the characters that steer a terminal are written
as escapes in it: escape, bell, backspace, form feed and delete as `\x1b`, `\x07`, `\x08`,
`\x0c` and `\x7f`, and the C1 controls U+0080 to U+009F as `\u{80}` to `\u{9f}`.
-/

set_option autoImplicit false

namespace PathHierarchy.Log

/-- A log event. -/
structure Event where
  level : Level
  target : String
  message : String
  /-- Named fields, in order, each value already written. -/
  fields : List (String × String) := []
  deriving DecidableEq, Repr

namespace Event

/-- The names of an event's fields; the message counts as the field `message`. -/
def fieldNames (e : Event) : List String := "message" :: e.fields.map Prod.fst

/-- A character of a message as the log writes it: terminal controls as escapes. -/
def escapeChar (c : Char) : String :=
  if [0x1b, 0x07, 0x08, 0x0c, 0x7f].contains c.toNat then
    let digits := Nat.toDigits 16 c.toNat
    "\\x" ++ String.ofList (if digits.length < 2 then '0' :: digits else digits)
  else if 0x80 ≤ c.toNat && c.toNat ≤ 0x9f then
    "\\u\x7b" ++ String.ofList (Nat.toDigits 16 c.toNat) ++ "\x7d"
  else c.toString

/-- A message as the log writes it. -/
def escapeMessage (m : String) : String := String.join (m.toList.map escapeChar)

/-- The line written for an event, without time stamp or newline. -/
def line (e : Event) : String :=
  e.level.label ++ " " ++ e.target ++ ": " ++ escapeMessage e.message ++
    String.join (e.fields.map fun field => " " ++ field.1 ++ "=" ++ field.2)

/-- Whether a filter lets the event through. -/
def passes (f : Filter) (e : Event) : Bool := f.admits e.level e.target e.fieldNames

end Event

example : (Event.mk .info "pathtree" "tree built" [("nodes", "2")]).line =
    " INFO pathtree: tree built nodes=2" := by decide

example : Event.escapeMessage "a\x1bb\x85" = "a\\x1bb\\u\x7b85\x7d" := by decide

end PathHierarchy.Log
