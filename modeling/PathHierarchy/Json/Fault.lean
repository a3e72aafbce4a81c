import PathHierarchy.Json.Value
import PathHierarchy.Text.Quoted

/-!
# What can go wrong reading JSON

Two kinds of fault: the text is not JSON (`Syntax`), or it is JSON of the wrong shape for what
is being read (`Mismatch`). A fault found in text is reported with a line and a column: the
column counts bytes since the last newline, and the line counts newlines before it plus one.
A mismatch found in an already parsed value has no position.
-/

namespace PathHierarchy.Json

/-- A reason why text is not JSON. -/
inductive Syntax where
  | eofWhileParsingList
  | eofWhileParsingObject
  | eofWhileParsingString
  | eofWhileParsingValue
  | expectedColon
  | expectedListCommaOrEnd
  | expectedObjectCommaOrEnd
  | expectedSomeIdent
  | expectedSomeValue
  | invalidEscape
  | invalidNumber
  | numberOutOfRange
  | controlCharacterWhileParsingString
  | keyMustBeAString
  | loneLeadingSurrogateInHexEscape
  | trailingComma
  | trailingCharacters
  | unexpectedEndOfHexEscape
  | recursionLimitExceeded
  deriving Repr, DecidableEq, Inhabited

/-- The wording of a syntax fault. -/
def Syntax.message : Syntax → String
  | .eofWhileParsingList => "EOF while parsing a list"
  | .eofWhileParsingObject => "EOF while parsing an object"
  | .eofWhileParsingString => "EOF while parsing a string"
  | .eofWhileParsingValue => "EOF while parsing a value"
  | .expectedColon => "expected `:`"
  | .expectedListCommaOrEnd => "expected `,` or `]`"
  | .expectedObjectCommaOrEnd => "expected `,` or `\x7d`"
  | .expectedSomeIdent => "expected ident"
  | .expectedSomeValue => "expected value"
  | .invalidEscape => "invalid escape"
  | .invalidNumber => "invalid number"
  | .numberOutOfRange => "number out of range"
  | .controlCharacterWhileParsingString =>
    "control character (\\u0000-\\u001F) found while parsing a string"
  | .keyMustBeAString => "key must be a string"
  | .loneLeadingSurrogateInHexEscape => "lone leading surrogate in hex escape"
  | .trailingComma => "trailing comma"
  | .trailingCharacters => "trailing characters"
  | .unexpectedEndOfHexEscape => "unexpected end of hex escape"
  | .recursionLimitExceeded => "recursion limit exceeded"

/-- What was found where something else was expected. -/
inductive Unexpected where
  | bool (b : Bool)
  | unsigned (n : Nat)
  | signed (i : Int)
  | float (f : Float)
  | str (s : String)
  | unit
  | seq
  | map
  | unitVariant
  | newtypeVariant

/-- How the found thing is named in a message. -/
def Unexpected.describe : Unexpected → String
  | .bool b => "boolean `" ++ toString b ++ "`"
  | .unsigned n => "integer `" ++ toString n ++ "`"
  | .signed i => "integer `" ++ toString i ++ "`"
  | .float f => "floating point `" ++ floatText f ++ "`"
  | .str s => "string " ++ Text.quote s
  | .unit => "null"
  | .seq => "sequence"
  | .map => "map"
  | .unitVariant => "unit variant"
  | .newtypeVariant => "newtype variant"

/-- What a number is called when it turns up in the wrong place. -/
def Number.unexpected : Number → Unexpected
  | .int i => if 0 ≤ i then .unsigned i.toNat else .signed i
  | .float f => .float f

/-- What a value is called when it turns up in the wrong place. -/
def Value.unexpected : Value → Unexpected
  | .null => .unit
  | .bool b => .bool b
  | .number n => n.unexpected
  | .string s => .str s
  | .array _ => .seq
  | .object _ => .map

/-- A value of the wrong shape. -/
inductive Mismatch where
  | invalidType (found : Unexpected) (expected : String)
  | invalidValue (found : Unexpected) (expected : String)
  | invalidLength (length : Nat) (expected : String)
  | unknownVariant (name : String) (variants : List String)
  | duplicateField (name : String)

/-- Names in backticks: one, two joined by `or`, or `one of` a comma list. -/
def oneOf : List String → String
  | [] => "there are no variants"
  | [a] => "`" ++ a ++ "`"
  | [a, b] => "`" ++ a ++ "` or `" ++ b ++ "`"
  | names => "one of " ++ ", ".intercalate (names.map fun n => "`" ++ n ++ "`")

/-- The wording of a mismatch. -/
def Mismatch.message : Mismatch → String
  | .invalidType found expected =>
    "invalid type: " ++ found.describe ++ ", expected " ++ expected
  | .invalidValue found expected =>
    "invalid value: " ++ found.describe ++ ", expected " ++ expected
  | .invalidLength length expected =>
    "invalid length " ++ toString length ++ ", expected " ++ expected
  | .unknownVariant name [] => "unknown variant `" ++ name ++ "`, there are no variants"
  | .unknownVariant name variants => "unknown variant `" ++ name ++ "`, expected " ++ oneOf variants
  | .duplicateField name => "duplicate field `" ++ name ++ "`"

/-- A fault of either kind. -/
inductive Fault where
  | malformed (s : Syntax)
  | mismatch (m : Mismatch)

/-- The wording of a fault. -/
def Fault.message : Fault → String
  | .malformed s => s.message
  | .mismatch m => m.message

/-- A fault met while reading text. `cursor` is the byte offset the reader had reached;
`position`, once set, is the byte offset the message reports. A mismatch starts without a
position and takes the reader's offset when it leaves the reading step that found it. -/
structure ReadError where
  fault : Fault
  position : Option Nat
  cursor : Nat

/-- Line and column of a byte offset: the column counts bytes since the last newline before
the offset. -/
def lineColumn (bytes : ByteArray) (offset : Nat) : Nat × Nat :=
  let before := (bytes.extract 0 offset).toList
  let newline : UInt8 := 10
  let lines := before.count newline
  let lineStart := before.length - (before.reverse.takeWhile (· != newline)).length
  (lines + 1, offset - lineStart)

/-- The message of a fault found in text: the wording, then its line and column. -/
def ReadError.message (bytes : ByteArray) (e : ReadError) : String :=
  let (line, column) := lineColumn bytes (e.position.getD e.cursor)
  e.fault.message ++ " at line " ++ toString line ++ " column " ++ toString column

end PathHierarchy.Json
