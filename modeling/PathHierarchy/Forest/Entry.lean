import PathHierarchy.Json.Read
import PathHierarchy.Text.Blank

/-!
# Entries

What the builder takes: a raw path string, or a labeled value whose label titles the last node
of its path. A labeled value may be text, a number or null; only text is a path. A path is
used trimmed of blanks, and a blank path is no path at all.

Entries come from a JSON array (strings are raw, objects give `label` and `value`, anything
else is a null value), or from rows of objects with the path in one column and the label in
another.
-/

set_option autoImplicit false

namespace PathHierarchy.Forest

open Json

/-- The value half of a labeled entry. -/
inductive EntryValue where
  | text (s : String)
  | number (n : Number)
  | null
  deriving Inhabited

/-- One input of the builder. -/
inductive Entry where
  | raw (path : String)
  | labeled (label : Option String) (value : EntryValue)
  deriving Inhabited

namespace EntryValue

/-- A JSON value as an entry value: strings are text, numbers numbers, the rest null. -/
def ofJson : Value → EntryValue
  | .string s => .text s
  | .number n => .number n
  | _ => .null

/-- The debugging form, as logs show it. -/
def debug : EntryValue → String
  | .text s => "Text(" ++ Text.quote s ++ ")"
  | .number n => "Number(Number(" ++ n.text ++ "))"
  | .null => "Null"

end EntryValue

namespace Entry

/-- A labeled text entry. -/
def labeledText (label value : String) : Entry := .labeled (some label) (.text value)

/-- The trimmed path, or `none` when the entry has no text or only blanks. -/
def path? (e : Entry) : Option String :=
  let text := match e with
    | .raw s => some s
    | .labeled _ (.text s) => some s
    | .labeled _ _ => none
  match text with
  | some s => let t := Text.trimBlank s; if t.isEmpty then none else some t
  | none => none

/-- The label, which only a labeled entry may have. -/
def label? : Entry → Option String
  | .raw _ => none
  | .labeled label _ => label

/-- Whether this is a raw path. -/
def isRaw : Entry → Bool
  | .raw _ => true
  | .labeled _ _ => false

/-- The debugging form, as logs show it. -/
def debug : Entry → String
  | .raw s => "Raw(" ++ Text.quote s ++ ")"
  | .labeled label value =>
    let labelText := match label with
      | some l => "Some(" ++ Text.quote l ++ ")"
      | none => "None"
    "Labeled \x7b label: " ++ labelText ++ ", value: " ++ value.debug ++ " \x7d"

/-- One item of a JSON array as an entry. -/
def ofJsonItem : Value → Entry
  | .string s => .raw s
  | .object fields =>
    .labeled ((Fields.get? fields "label").bind Value.asString?)
      (((Fields.get? fields "value").map EntryValue.ofJson).getD .null)
  | _ => .labeled none .null

/-- The entries of a JSON document: one per item of an array, none for anything else. -/
def listOfJson (doc : Value) : List Entry :=
  match doc with
  | .array items => items.map ofJsonItem
  | _ => []

/-- The entry of one row: the path from `column`, the label from `labelColumn` when it holds a
string. A row that is not an object has neither. -/
def ofRow (column : String) (labelColumn : Option String) (row : Value) : Entry :=
  .labeled ((labelColumn.bind row.field?).bind Value.asString?)
    (((row.field? column).map EntryValue.ofJson).getD .null)

/-- The entries of rows. -/
def listOfRows (rows : List Value) (column : String) (labelColumn : Option String) :
    List Entry :=
  rows.map (ofRow column labelColumn)

/-- Entries read from JSON text: an array of rows when `column` is given, else an array of
paths and labeled values. -/
def listOfText (text : String) (column labelColumn : Option String) :
    Except ReadError (List Entry) := do
  let items ← Value.listOfText text
  match column with
  | some c => pure (listOfRows items c labelColumn)
  | none => pure (listOfJson (.array items))

end Entry

end PathHierarchy.Forest
