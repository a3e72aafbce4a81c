import PathHierarchy.Settings.Basic
import PathHierarchy.Json.Fault

/-!
# Settings from a JSON value

Settings are an object whose known fields are read and whose other fields are ignored, or an
array giving the fields in order, where missing trailing fields keep their defaults and extra
items are refused. A choice is a name, or an object with one field: the name, and then `null`
for a plain choice or the character of a custom delimiter.
-/

set_option autoImplicit false

namespace PathHierarchy.Settings

open Forest Json

/-- `null`, the payload of a plain choice. -/
def decodeUnit (v : Value) : Except Mismatch Unit :=
  match v with
  | .null => .ok ()
  | other => .error (.invalidType other.unexpected "unit")

/-- A string of exactly one character. -/
def decodeChar (v : Value) : Except Mismatch Char :=
  match v with
  | .string s =>
    match s.toList with
    | [c] => .ok c
    | _ => .error (.invalidValue (.str s) "a character")
  | other => .error (.invalidType other.unexpected "a character")

/-- A boolean. -/
def decodeBool (v : Value) : Except Mismatch Bool :=
  match v with
  | .bool b => .ok b
  | other => .error (.invalidType other.unexpected "a boolean")

/-- The variant of a stored name. -/
def findVariant {α : Type} (variants : List (Variant α)) (name : String) :
    Except Mismatch (Variant α) :=
  match variants.find? (·.name == name) with
  | some v => .ok v
  | none => .error (.unknownVariant name (variants.map Variant.name))

/-- A choice among variants: a name, or an object with a single field. -/
def decodeChoice {α : Type} (variants : List (Variant α)) (v : Value) : Except Mismatch α := do
  let (name, payload) ← match v with
    | .object [(k, p)] => pure (k, some p)
    | .object _ => throw (.invalidValue .map "map with a single key")
    | .string s => pure (s, none)
    | other => throw (.invalidType other.unexpected "string or map")
  match ← findVariant variants name with
  | .unit _ a =>
    match payload with
    | none => pure a
    | some p => do decodeUnit p; pure a
  | .char _ make =>
    match payload with
    | none => throw (.invalidType .unitVariant "newtype variant")
    | some p => make <$> decodeChar p

/-- Settings with one more field read from a value; `seen` holds the fields read so far. -/
def withField (s : Settings) (seen : List String) (name : String) (v : Value) :
    Except Mismatch (Settings × List String) := do
  if fieldNames.contains name then
    if seen.contains name then throw (.duplicateField name)
  let seen := if fieldNames.contains name then name :: seen else seen
  if name = "delimiter" then pure ({ s with delimiter := ← decodeChoice delimiterVariants v }, seen)
  else if name = "ordering" then pure ({ s with ordering := ← decodeChoice orderingVariants v }, seen)
  else if name = "empty_paths" then
    pure ({ s with emptyPaths := ← decodeChoice emptyPathsVariants v }, seen)
  else if name = "selectable" then pure ({ s with selectable := ← decodeBool v }, seen)
  else pure (s, seen)

/-- Settings from an object's fields, in order. -/
def ofFields (fields : List (String × Value)) : Except Mismatch Settings := do
  let (s, _) ← fields.foldlM (fun (acc : Settings × List String) (k, v) =>
    acc.1.withField acc.2 k v) ({}, [])
  pure s

/-- Settings from an array: the fields in order, defaults for missing ones. -/
def ofItems (items : List Value) : Except Mismatch Settings := do
  let s : Settings := {}
  let s ← match items[0]? with
    | some v => pure { s with delimiter := ← decodeChoice delimiterVariants v }
    | none => pure s
  let s ← match items[1]? with
    | some v => pure { s with ordering := ← decodeChoice orderingVariants v }
    | none => pure s
  let s ← match items[2]? with
    | some v => pure { s with emptyPaths := ← decodeChoice emptyPathsVariants v }
    | none => pure s
  let s ← match items[3]? with
    | some v => pure { s with selectable := ← decodeBool v }
    | none => pure s
  if items.length > 4 then throw (.invalidLength items.length "fewer elements in array")
  pure s

/-- Settings from a JSON value. -/
def ofValue (v : Value) : Except Mismatch Settings :=
  match v with
  | .object fields => Settings.ofFields fields
  | .array items => Settings.ofItems items
  | other => .error (.invalidType other.unexpected typeName)

end PathHierarchy.Settings
