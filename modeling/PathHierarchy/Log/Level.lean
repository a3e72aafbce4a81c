/-!
# Log levels

Events have one of five levels, from `error`, the most severe, to `trace`. A filter lets
through the events up to a threshold: `0` (`off`) lets nothing through and `5` (`trace`)
everything.

A threshold is written as a level name in any case of ASCII letters, as `off`, or as a
number from 0 to 5 with an optional `+` and any number of leading zeros. The empty text
reads as `error`.
-/

set_option autoImplicit false

namespace PathHierarchy.Log

/-- The severity of an event. -/
inductive Level where
  | error
  | warn
  | info
  | debug
  | trace
  deriving DecidableEq, Repr

/-- How verbose a level is: `error` is 1 and `trace` is 5. -/
def Level.verbosity : Level → Nat
  | .error => 1
  | .warn => 2
  | .info => 3
  | .debug => 4
  | .trace => 5

/-- The level as it opens a log line, right-aligned to five places. -/
def Level.label : Level → String
  | .error => "ERROR"
  | .warn => " WARN"
  | .info => " INFO"
  | .debug => "DEBUG"
  | .trace => "TRACE"

/-- The most verbose level let through: `0` lets nothing through and `5` everything. -/
structure Threshold where
  verbosity : Nat
  deriving DecidableEq, Repr

/-- The threshold that lets through a level and everything more severe. -/
def Threshold.ofLevel (l : Level) : Threshold := ⟨l.verbosity⟩

/-- Whether a threshold lets an event of this level through. -/
def Threshold.admits (t : Threshold) (l : Level) : Bool := l.verbosity ≤ t.verbosity

/-- The threshold that lets everything through. -/
def Threshold.all : Threshold := ⟨5⟩

/-- Lower the ASCII letters of a text. -/
def lowerAscii (cs : List Char) : List Char := cs.map Char.toLower

/-- The threshold of a level name, in any case of ASCII letters; the empty name is `error`. -/
def Threshold.ofWord? (cs : List Char) : Option Threshold :=
  match String.ofList (lowerAscii cs) with
  | "" => some ⟨1⟩
  | "off" => some ⟨0⟩
  | "error" => some ⟨1⟩
  | "warn" => some ⟨2⟩
  | "info" => some ⟨3⟩
  | "debug" => some ⟨4⟩
  | "trace" => some ⟨5⟩
  | _ => none

/-- The value of an unsigned number: an optional `+`, then one or more ASCII digits. -/
def unsignedValue? (cs : List Char) : Option Nat :=
  let digits := match cs with
    | '+' :: rest => rest
    | rest => rest
  if digits ≠ [] ∧ digits.all Char.isDigit then
    some (digits.foldl (fun n c => 10 * n + (c.toNat - '0'.toNat)) 0)
  else none

/-- Read a threshold as a number from 0 to 5 or as a level name. -/
def Threshold.ofText? (cs : List Char) : Option Threshold :=
  match unsignedValue? cs with
  | some n => if n ≤ 5 then some ⟨n⟩ else Threshold.ofWord? cs
  | none => Threshold.ofWord? cs

example : Threshold.ofText? "+4".toList = some ⟨4⟩ ∧ Threshold.ofText? "0005".toList = some ⟨5⟩ ∧
    Threshold.ofText? "DeBuG".toList = some ⟨4⟩ ∧ Threshold.ofText? "-1".toList = none := by
  decide

end PathHierarchy.Log
