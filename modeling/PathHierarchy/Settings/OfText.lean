import PathHierarchy.Settings.OfValue
import PathHierarchy.Json.Read

/-!
# Settings from JSON text

Settings are read straight from text, in one pass, so the first fault in the text decides the
message, whether the text is not JSON there or has the wrong shape there. Fields other than the
four known ones are skipped unread, with no limit on their nesting. A field given twice is
refused at its second key.

A fault about a value's shape is placed where the reader stands when it gives up on that value;
inside a container that is after the container's closing has been tried, so
`{"delimiter": "custom"}` is refused at the closing brace.

`Settings.load` reads settings from a file's text and then checks them.
-/

set_option autoImplicit false

namespace PathHierarchy.Settings

open Forest Json

/-- The name of a choice, which must be a known one. -/
def readVariant {α : Type} (variants : List (Variant α)) : ReadM (Variant α) := placed do
  match ← skipBlanks with
  | none => failAhead .eofWhileParsingValue
  | some b =>
    if b == byte '"' then do
      eatByte
      let name ← readString
      match findVariant variants name with
      | .ok v => pure v
      | .error m => mismatch m
    else refuseFound "variant identifier"

/-- `null`, the payload of a plain choice. -/
def readUnit : ReadM Unit := placed do
  match ← skipBlanks with
  | none => failAhead .eofWhileParsingValue
  | some b =>
    if b == byte 'n' then do eatByte; expectWord wordNull
    else refuseFound "unit"

/-- A string of exactly one character. -/
def readChar : ReadM Char := placed do
  match ← skipBlanks with
  | none => failAhead .eofWhileParsingValue
  | some b =>
    if b == byte '"' then do
      eatByte
      let s ← readString
      match s.toList with
      | [c] => pure c
      | _ => mismatch (.invalidValue (.str s) "a character")
    else refuseFound "a character"

/-- A boolean. -/
def readBool : ReadM Bool := placed do
  match ← skipBlanks with
  | none => failAhead .eofWhileParsingValue
  | some b =>
    if b == byte 't' then do eatByte; expectWord wordTrue; pure true
    else if b == byte 'f' then do eatByte; expectWord wordFalse; pure false
    else refuseFound "a boolean"

/-- A choice: a name in quotes, or an object with one field, the name, holding `null` or the
character of a custom delimiter. The name in an object is read as a key, so it must be a
string. Anything else is no value here. -/
def readChoice {α : Type} (variants : List (Variant α)) (depth : Nat) : ReadM α := do
  match ← skipBlanks with
  | none => failAhead .eofWhileParsingValue
  | some b =>
    if b == byte '{' then do
      let _ ← enterContainer depth
      eatByte
      match ← skipBlanks with
      | none => failAhead .eofWhileParsingObject
      | some k => if k != byte '"' then failAhead .keyMustBeAString
      let v ← readVariant variants
      expectColon
      let a ← match v with
        | .unit _ a => do readUnit; pure a
        | .char _ make => make <$> readChar
      match ← skipBlanks with
      | some c => if c == byte '}' then do eatByte; pure a else failHere .expectedSomeValue
      | none => failHere .eofWhileParsingObject
    else if b == byte '"' then do
      match ← readVariant variants with
      | .unit _ a => pure a
      | .char _ _ => mismatch (.invalidType .unitVariant "newtype variant")
    else failAhead .expectedSomeValue

/-- Read the value of the field `name` into settings; an unknown field's value is skipped. -/
def readFieldValue (s : Settings) (name : String) (depth : Nat) : ReadM Settings :=
  if name = "delimiter" then do pure { s with delimiter := ← readChoice delimiterVariants depth }
  else if name = "ordering" then do pure { s with ordering := ← readChoice orderingVariants depth }
  else if name = "empty_paths" then do
    pure { s with emptyPaths := ← readChoice emptyPathsVariants depth }
  else if name = "selectable" then do pure { s with selectable := ← readBool }
  else do skipValue; pure s

/-- The fields of a settings object up to its closing brace; `seen` holds the known fields
read so far. -/
def readSettingsFields (depth : Nat) (s : Settings) (seen : List String) (first : Bool) :
    Nat → ReadM Settings
  | 0 => failHere .eofWhileParsingObject
  | n + 1 => do
    match ← nextKey first with
    | none => pure s
    | some name =>
      let known := fieldNames.contains name
      if known && seen.contains name then mismatch (.duplicateField name)
      else
        expectColon
        let s ← readFieldValue s name depth
        readSettingsFields depth s (if known then name :: seen else seen) false n

/-- The next item of a settings array, read by `item`, if the array has one more. -/
def readNextItem {β : Type} (first : Bool) (item : ReadM β) : ReadM (Option β × Bool) := do
  if ← nextItem first then pure (some (← item), false) else pure (none, first)

/-- The items of a settings array: the fields in order, defaults for the missing ones. The
closing bracket is left to the caller. -/
def readSettingsItems (depth : Nat) : ReadM Settings := do
  let (delimiter, first) ← readNextItem true (readChoice delimiterVariants depth)
  let (ordering, first) ← readNextItem first (readChoice orderingVariants depth)
  let (emptyPaths, first) ← readNextItem first (readChoice emptyPathsVariants depth)
  let (selectable, _) ← readNextItem first readBool
  let s : Settings := {}
  pure { delimiter := delimiter.getD s.delimiter, ordering := ordering.getD s.ordering,
         emptyPaths := emptyPaths.getD s.emptyPaths, selectable := selectable.getD s.selectable }

/-- Read a container's contents, then close it. A fault in the contents wins, but the closing
is still attempted (`attempt` moves the reader as far as the closing would), and a fault with
no position is placed where that leaves the reader. -/
def closedAfter {α : Type} (contents : ReadM α) (close attempt : ReadM Unit) : ReadM α := do
  let r ← tryCatch (Except.ok <$> contents) fun e => pure (Except.error e)
  match r with
  | .ok a => do close; pure a
  | .error e => do
    set e.cursor
    attempt
    let i ← get
    throw (if e.position.isNone then { e with position := some i } else e)

/-- How far closing an object moves the reader, faults aside. -/
def attemptCloseObject : ReadM Unit := do
  match ← skipBlanks with
  | some b => if b == byte '}' then eatByte
  | none => pure ()

/-- How far closing an array moves the reader, faults aside. -/
def attemptCloseArray : ReadM Unit := do
  match ← skipBlanks with
  | some b =>
    if b == byte ']' then eatByte
    else if b == byte ',' then do eatByte; discard skipBlanks
  | none => pure ()

/-- Settings as an object or an array. -/
def readSettings : ReadM Settings := placed do
  match ← skipBlanks with
  | none => failAhead .eofWhileParsingValue
  | some b =>
    if b == byte '[' then do
      let inner ← enterContainer nestingLimit
      eatByte
      closedAfter (readSettingsItems inner) closeArray attemptCloseArray
    else if b == byte '{' then do
      let inner ← enterContainer nestingLimit
      eatByte
      closedAfter (do readSettingsFields inner {} [] true (← nestedBudget)) closeObject
        attemptCloseObject
    else refuseFound typeName

/-- Settings read from the whole of a text. -/
def ofText (text : String) : Except ReadError Settings :=
  ReadM.runText (do let s ← readSettings; expectEnd; pure s) text

/-- Settings from a settings file's text, checked. -/
def load (text : String) : Except SettingsError Settings :=
  match Settings.ofText text with
  | .error e => .error (.parse (e.messageIn text))
  | .ok s => do s.validate; pure s

end PathHierarchy.Settings
