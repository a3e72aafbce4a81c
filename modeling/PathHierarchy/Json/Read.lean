import PathHierarchy.Json.Cursor
import PathHierarchy.Json.Value

/-!
# Reading JSON values

`Value.ofText` reads one value from text and `Value.listOfText` an array of values, each
refusing anything but blanks after it. Nesting is limited: the 128th open bracket or brace,
counting the outermost, is refused.

Inside a container a comma must separate items, a comma before the closing bracket is a
trailing comma, and an object key must be a string followed by a colon. When a key repeats, the
later value replaces the earlier one in the earlier place.
-/

namespace PathHierarchy.Json

/-- The nesting allowed at the top: one less than the refused depth. -/
def nestingLimit : Nat := 128

/-- Open one more container, refusing it when the nesting budget is spent. -/
def enterContainer (depth : Nat) : ReadM Nat :=
  if depth ≤ 1 then failAhead .recursionLimitExceeded else pure (depth - 1)

/-- The word, number or string that stands where something else was expected, refused as a
value of the wrong type. A container is named without being consumed. -/
def refuseFound (expected : String) : ReadM α := do
  let found : Unexpected ← do
    match (← peekByte).getD 0 with
    | b =>
      if b == byte 'n' then do eatByte; expectWord wordNull; pure .unit
      else if b == byte 't' then do eatByte; expectWord wordTrue; pure (.bool true)
      else if b == byte 'f' then do eatByte; expectWord wordFalse; pure (.bool false)
      else if b == byte '-' then do eatByte; pure (Number.unexpected (← readNumber true))
      else if isDigit b then do pure (Number.unexpected (← readNumber false))
      else if b == byte '"' then do eatByte; pure (.str (← readString))
      else if b == byte '[' then pure .seq
      else if b == byte '{' then pure .map
      else failAhead .expectedSomeValue
  placed (mismatch (.invalidType found expected))

/-- The end of an array whose items have all been read: anything but the closing bracket is
left over, and a comma before the bracket is a trailing comma. -/
def closeArray : ReadM Unit := do
  match ← skipBlanks with
  | some b =>
    if b == byte ']' then eatByte
    else if b == byte ',' then do
      eatByte
      match ← skipBlanks with
      | some c => if c == byte ']' then failAhead .trailingComma else failAhead .trailingCharacters
      | none => failAhead .trailingCharacters
    else failAhead .trailingCharacters
  | none => failAhead .eofWhileParsingList

/-- The end of an object whose fields have all been read. -/
def closeObject : ReadM Unit := do
  match ← skipBlanks with
  | some b =>
    if b == byte '}' then eatByte
    else if b == byte ',' then failAhead .trailingComma
    else failAhead .trailingCharacters
  | none => failAhead .eofWhileParsingObject

/-- Before the next item of an array: `true` when one follows, `false` at the closing bracket
(not consumed). `first` says no item has been read yet. -/
def nextItem (first : Bool) : ReadM Bool := do
  let peek ← do
    match ← skipBlanks with
    | none => failAhead .eofWhileParsingList
    | some b =>
      if b == byte ']' then return false
      else if b == byte ',' && !first then do eatByte; skipBlanks
      else if first then pure (some b)
      else failAhead .expectedListCommaOrEnd
  match peek with
  | some b => if b == byte ']' then failAhead .trailingComma else pure true
  | none => failAhead .eofWhileParsingValue

/-- Before the next field of an object: its key, or `none` at the closing brace (not
consumed). -/
def nextKey (first : Bool) : ReadM (Option String) := do
  let peek ← do
    match ← skipBlanks with
    | none => failAhead .eofWhileParsingObject
    | some b =>
      if b == byte '}' then return none
      else if b == byte ',' && !first then do eatByte; skipBlanks
      else if first then pure (some b)
      else failAhead .expectedObjectCommaOrEnd
  match peek with
  | some b =>
    if b == byte '"' then do eatByte; return some (← readString)
    else if b == byte '}' then failAhead .trailingComma
    else failAhead .keyMustBeAString
  | none => failAhead .eofWhileParsingValue

/-- The colon between a key and its value. -/
def expectColon : ReadM Unit := do
  match ← skipBlanks with
  | some b => if b == byte ':' then eatByte else failAhead .expectedColon
  | none => failAhead .eofWhileParsingObject

mutual

/-- One value, with `depth` containers still allowed to open. -/
def readValueFor (depth : Nat) : Nat → ReadM Value
  | 0 => failHere .eofWhileParsingValue
  | n + 1 => placed do
    match ← skipBlanks with
    | none => failAhead .eofWhileParsingValue
    | some b =>
      if b == byte 'n' then do eatByte; expectWord wordNull; pure Value.null
      else if b == byte 't' then do eatByte; expectWord wordTrue; pure (Value.bool true)
      else if b == byte 'f' then do eatByte; expectWord wordFalse; pure (Value.bool false)
      else if b == byte '-' then do eatByte; pure (Value.number (← readNumber true))
      else if isDigit b then do pure (Value.number (← readNumber false))
      else if b == byte '"' then do eatByte; pure (Value.string (← readString))
      else if b == byte '[' then do
        let inner ← enterContainer depth
        eatByte
        let items ← readItemsFor inner true [] n
        closeArray
        pure (Value.array items)
      else if b == byte '{' then do
        let inner ← enterContainer depth
        eatByte
        let fields ← readFieldsFor inner true [] n
        closeObject
        pure (Value.object fields)
      else failAhead .expectedSomeValue

/-- The items of an array up to its closing bracket. -/
def readItemsFor (depth : Nat) (first : Bool) (acc : List Value) : Nat → ReadM (List Value)
  | 0 => failHere .eofWhileParsingList
  | n + 1 => do
    if ← nextItem first then
      let v ← readValueFor depth n
      readItemsFor depth false (acc ++ [v]) n
    else pure acc

/-- The fields of an object up to its closing brace. -/
def readFieldsFor (depth : Nat) (first : Bool) (acc : Fields) : Nat → ReadM Fields
  | 0 => failHere .eofWhileParsingObject
  | n + 1 => do
    match ← nextKey first with
    | some k =>
      expectColon
      let v ← readValueFor depth n
      readFieldsFor depth false (Fields.insert acc k v) n
    | none => pure acc

end

/-- Nothing but blanks may follow what was read. -/
def expectEnd : ReadM Unit := do
  match ← skipBlanks with
  | some _ => failAhead .trailingCharacters
  | none => pure ()

/-- The step budget for nested reading: two steps per byte. -/
def nestedBudget : ReadM Nat := do return 2 * (← read).size + 2

/-- Run a reader over the whole of a text. -/
def ReadM.runText (r : ReadM α) (text : String) : Except ReadError α :=
  match (r.run text.toUTF8).run 0 with
  | .ok (a, _) => .ok a
  | .error e => .error e

/-- An array of values. -/
def readValueArray : ReadM (List Value) := placed do
  match ← skipBlanks with
  | none => failAhead .eofWhileParsingValue
  | some b =>
    if b == byte '[' then do
      let inner ← enterContainer nestingLimit
      eatByte
      let items ← readItemsFor inner true [] (← nestedBudget)
      closeArray
      pure items
    else refuseFound "a sequence"

/-- One JSON value read from the whole of a text. -/
def Value.ofText (text : String) : Except ReadError Value :=
  ReadM.runText (do let v ← readValueFor nestingLimit (← nestedBudget); expectEnd; pure v) text

/-- An array of JSON values read from the whole of a text. -/
def Value.listOfText (text : String) : Except ReadError (List Value) :=
  ReadM.runText (do let vs ← readValueArray; expectEnd; pure vs) text

/-- The message of a reading fault, placed in the text it came from. -/
def ReadError.messageIn (text : String) (e : ReadError) : String := e.message text.toUTF8

end PathHierarchy.Json
