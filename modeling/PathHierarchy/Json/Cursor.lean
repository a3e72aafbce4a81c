import PathHierarchy.Json.Fault

/-!
# Reading JSON text byte by byte

`ReadM` reads the UTF-8 bytes of a text from an offset that only moves forward. This module has
the pieces every reader shares: blanks, the literal words, strings with their escapes, numbers,
and skipping a whole value unread.

Positions follow two rules. A fault found at the byte just consumed, or at the end of the text,
is reported at the current offset (`failHere`); a fault about the byte not yet consumed is
reported one past it (`failAhead`), never past the end.

Loops run on a step budget of one more than the length of the text: every step consumes a
byte, so the budget never runs out first.
-/

namespace PathHierarchy.Json

/-- Reading from the bytes of a text at an offset. -/
abbrev ReadM := ReaderT ByteArray (StateT Nat (Except ReadError))

/-- The byte `c` stands for, for ASCII `c`. -/
def byte (c : Char) : UInt8 := c.toNat.toUInt8

/-- Whether a byte is an ASCII digit. -/
def isDigit (b : UInt8) : Bool := 48 ≤ b && b ≤ 57

/-- The value of an ASCII digit. -/
def digitValue (b : UInt8) : Nat := b.toNat - 48

/-- The step budget for a loop over the text. -/
def budget : ReadM Nat := do return (← read).size + 1

/-- The byte at the offset, not consumed. -/
def peekByte : ReadM (Option UInt8) := do return (← read)[← get]?

/-- Consume one byte. -/
def eatByte : ReadM Unit := modify (· + 1)

/-- The byte at the offset, consumed. -/
def nextByte : ReadM (Option UInt8) := do
  let b ← peekByte
  if b.isSome then eatByte
  return b

/-- A syntax fault at the offset. -/
def failHere (s : Syntax) : ReadM α := do
  let i ← get
  throw ⟨.malformed s, some i, i⟩

/-- A syntax fault about the byte at the offset, reported one byte on. -/
def failAhead (s : Syntax) : ReadM α := do
  let i ← get
  throw ⟨.malformed s, some (min (← read).size (i + 1)), i⟩

/-- A value of the wrong shape, not yet placed. -/
def mismatch (m : Mismatch) : ReadM α := do
  let i ← get
  throw ⟨.mismatch m, none, i⟩

/-- Give a fault without a position the offset where it was found. -/
def ReadError.fix (e : ReadError) : ReadError :=
  if e.position.isNone then { e with position := some e.cursor } else e

/-- Run a step and place any fault it leaves without a position. -/
def placed (x : ReadM α) : ReadM α :=
  tryCatch x fun e => throw e.fix

/-- Whether a byte is a JSON blank: space, newline, tab or carriage return. -/
def isJsonBlank (b : UInt8) : Bool := b == 32 || b == 10 || b == 9 || b == 13

/-- Skip blanks within the budget; the next byte, not consumed. -/
def skipBlanksFor : Nat → ReadM (Option UInt8)
  | 0 => peekByte
  | n + 1 => do
    match ← peekByte with
    | some b => if isJsonBlank b then do eatByte; skipBlanksFor n else return some b
    | none => return none

/-- Skip blanks; the next byte, not consumed. -/
def skipBlanks : ReadM (Option UInt8) := do skipBlanksFor (← budget)

/-- Consume the rest of a literal word, byte by byte. -/
def expectWord : List UInt8 → ReadM Unit
  | [] => pure ()
  | b :: rest => do
    match ← nextByte with
    | none => failHere .eofWhileParsingValue
    | some c => if c == b then expectWord rest else failHere .expectedSomeIdent

/-- The rest of `null`, `true` and `false` after their first letter. -/
def wordNull : List UInt8 := [byte 'u', byte 'l', byte 'l']
/-- See `wordNull`. -/
def wordTrue : List UInt8 := [byte 'r', byte 'u', byte 'e']
/-- See `wordNull`. -/
def wordFalse : List UInt8 := [byte 'a', byte 'l', byte 's', byte 'e']

/-- The value of a hex digit. -/
def hexValue (b : UInt8) : Option Nat :=
  if isDigit b then some (digitValue b)
  else if 97 ≤ b && b ≤ 102 then some (b.toNat - 87)
  else if 65 ≤ b && b ≤ 70 then some (b.toNat - 55)
  else none

/-- Four hex digits after `\u`, all consumed before they are checked; the end of the text
inside them is the end of an unfinished string. -/
def readHexEscape : ReadM Nat := do
  let bs ← read
  let i ← get
  if i + 4 ≤ bs.size then
    set (i + 4)
    match hexValue bs[i]!, hexValue bs[i + 1]!, hexValue bs[i + 2]!, hexValue bs[i + 3]! with
    | some a, some b, some c, some d => return ((a * 16 + b) * 16 + c) * 16 + d
    | _, _, _, _ => failHere .invalidEscape
  else
    set bs.size
    failHere .eofWhileParsingString

/-- Append the UTF-8 encoding of a code point. -/
def pushCodePoint (acc : ByteArray) (n : Nat) : ByteArray :=
  if n < 0x80 then acc.push n.toUInt8
  else if n < 0x800 then
    (acc.push (0xC0 + n / 64).toUInt8).push (0x80 + n % 64).toUInt8
  else if n < 0x10000 then
    ((acc.push (0xE0 + n / 4096).toUInt8).push (0x80 + n / 64 % 64).toUInt8).push
      (0x80 + n % 64).toUInt8
  else
    (((acc.push (0xF0 + n / 262144).toUInt8).push (0x80 + n / 4096 % 64).toUInt8).push
      (0x80 + n / 64 % 64).toUInt8).push (0x80 + n % 64).toUInt8

/-- The byte at the offset, not consumed; the end of the text ends an unfinished string. -/
def peekInString : ReadM UInt8 := do
  match ← peekByte with
  | some b => return b
  | none => failHere .eofWhileParsingString

/-- A `\u` escape: one UTF-16 unit, or a leading surrogate that must be followed by `\u` and a
trailing one. A trailing surrogate alone is refused. -/
def readUnicodeEscape (acc : ByteArray) : ReadM ByteArray := do
  let n ← readHexEscape
  if 0xDC00 ≤ n ∧ n ≤ 0xDFFF then failHere .loneLeadingSurrogateInHexEscape
  else if n < 0xD800 ∨ 0xDBFF < n then return pushCodePoint acc n
  else
    if (← peekInString) == byte '\\' then eatByte
    else do eatByte; failHere .unexpectedEndOfHexEscape
    if (← peekInString) == byte 'u' then eatByte
    else do eatByte; failHere .unexpectedEndOfHexEscape
    let low ← readHexEscape
    if low < 0xDC00 ∨ 0xDFFF < low then failHere .loneLeadingSurrogateInHexEscape
    else return pushCodePoint acc ((n - 0xD800) * 1024 + (low - 0xDC00) + 0x10000)

/-- An escape after its backslash. -/
def readEscape (acc : ByteArray) : ReadM ByteArray := do
  match ← nextByte with
  | none => failHere .eofWhileParsingString
  | some c =>
    if c == byte '"' then return acc.push c
    else if c == byte '\\' then return acc.push c
    else if c == byte '/' then return acc.push c
    else if c == byte 'b' then return acc.push 8
    else if c == byte 'f' then return acc.push 12
    else if c == byte 'n' then return acc.push 10
    else if c == byte 'r' then return acc.push 13
    else if c == byte 't' then return acc.push 9
    else if c == byte 'u' then readUnicodeEscape acc
    else failHere .invalidEscape

/-- The bytes of a string up to its closing quote, escapes decoded. A control character is
consumed before it is refused. -/
def readStringBytes (acc : ByteArray) : Nat → ReadM ByteArray
  | 0 => failHere .eofWhileParsingString
  | n + 1 => do
    match ← peekByte with
    | none => failHere .eofWhileParsingString
    | some b =>
      if b == byte '"' then do eatByte; return acc
      else if b == byte '\\' then do eatByte; readStringBytes (← readEscape acc) n
      else if b < 32 then do eatByte; failHere .controlCharacterWhileParsingString
      else do eatByte; readStringBytes (acc.push b) n

/-- A string whose opening quote has been consumed. -/
def readString : ReadM String := do
  let bytes ← readStringBytes ByteArray.empty (← budget)
  return (String.fromUTF8? bytes).getD ""

/-- Check an escape without decoding it. -/
def skipEscape : ReadM Unit := do
  match ← nextByte with
  | none => failHere .eofWhileParsingString
  | some c =>
    if c == byte 'u' then discard readHexEscape
    else if [byte '"', byte '\\', byte '/', byte 'b', byte 'f', byte 'n', byte 'r',
        byte 't'].contains c then pure ()
    else failHere .invalidEscape

/-- Skip a string whose opening quote has been consumed. A control character is refused
before it is consumed. -/
def skipStringFor : Nat → ReadM Unit
  | 0 => failHere .eofWhileParsingString
  | n + 1 => do
    match ← peekByte with
    | none => failHere .eofWhileParsingString
    | some b =>
      if b == byte '"' then eatByte
      else if b == byte '\\' then do eatByte; skipEscape; skipStringFor n
      else if b < 32 then failHere .controlCharacterWhileParsingString
      else do eatByte; skipStringFor n

/-- Skip a string whose opening quote has been consumed. -/
def skipString : ReadM Unit := do skipStringFor (← budget)

/-! ## Numbers -/

/-- The largest unsigned 64-bit integer. -/
def u64Max : Nat := 18446744073709551615

/-- Whether `s · 10 + d` would pass the unsigned 64-bit range. -/
def overflowsU64 (s d : Nat) : Bool :=
  s ≥ u64Max / 10 && (s > u64Max / 10 || d > u64Max % 10)

/-- Whether `s · 10 + d` would pass the signed 32-bit range. -/
def overflowsI32 (s d : Nat) : Bool :=
  s ≥ 2147483647 / 10 && (s > 2147483647 / 10 || d > 2147483647 % 10)

/-- Clamp to the signed 32-bit range. -/
def saturateI32 (i : Int) : Int := max (-2147483648) (min 2147483647 i)

/-- The double for the digits read, or a fault when it is out of range. -/
def toFloat (negative : Bool) (significand : Nat) (exponent : Int) : ReadM Float :=
  match decimalToFloat negative significand exponent with
  | some f => pure f
  | none => failHere .numberOutOfRange

/-- Skip digits within the budget. -/
def skipDigitsFor : Nat → ReadM Unit
  | 0 => pure ()
  | n + 1 => do
    match ← peekByte with
    | some b => if isDigit b then do eatByte; skipDigitsFor n else pure ()
    | none => pure ()

/-- Skip digits. -/
def skipDigits : ReadM Unit := do skipDigitsFor (← budget)

/-- An exponent whose digits pass the 32-bit range: zero, unless the significand is not zero
and the exponent positive, which is out of range. -/
def exponentOverflow (negative zeroSignificand positiveExponent : Bool) : ReadM Float := do
  if !zeroSignificand && positiveExponent then failHere .numberOutOfRange
  else
    skipDigits
    return if negative then -0.0 else 0.0

/-- Exponent digits after the first, accumulated into `exp`. -/
def readExponentDigits (negative : Bool) (significand : Nat) (start : Int) (positive : Bool)
    (exp : Nat) : Nat → ReadM Float
  | 0 => toFloat negative significand start
  | n + 1 => do
    match ← peekByte with
    | some b =>
      if isDigit b then do
        eatByte
        if overflowsI32 exp (digitValue b) then
          exponentOverflow negative (significand == 0) positive
        else readExponentDigits negative significand start positive (exp * 10 + digitValue b) n
      else
        toFloat negative significand
          (if positive then saturateI32 (start + exp) else saturateI32 (start - exp))
    | none =>
      toFloat negative significand
        (if positive then saturateI32 (start + exp) else saturateI32 (start - exp))

/-- An exponent, at its `e`, scaling `significand · 10^start`. -/
def readExponent (negative : Bool) (significand : Nat) (start : Int) : ReadM Float := do
  eatByte
  let positive ← do
    match ← peekByte with
    | some b =>
      if b == byte '+' then do eatByte; pure true
      else if b == byte '-' then do eatByte; pure false
      else pure true
    | none => pure true
  match ← nextByte with
  | none => failHere .eofWhileParsingValue
  | some c =>
    if isDigit c then readExponentDigits negative significand start positive (digitValue c) (← budget)
    else failHere .invalidNumber

/-- Fraction digits past the 64-bit range are skipped; the exponent stays. -/
def decimalOverflow (negative : Bool) (significand : Nat) (exponent : Int) : ReadM Float := do
  skipDigits
  match ← peekByte with
  | some b =>
    if b == byte 'e' || b == byte 'E' then readExponent negative significand exponent
    else toFloat negative significand exponent
  | none => toFloat negative significand exponent

/-- After the fraction digits: at least one digit must follow the point, then an optional
exponent. A point at the end of the text is an unfinished value rather than a bad number. -/
def finishFraction (negative : Bool) (significand : Nat) (before : Int) (after : Nat) :
    ReadM Float := do
  if after = 0 then
    match ← peekByte with
    | some _ => failAhead .invalidNumber
    | none => failAhead .eofWhileParsingValue
  else
    let exponent := before - after
    match ← peekByte with
    | some b =>
      if b == byte 'e' || b == byte 'E' then readExponent negative significand exponent
      else toFloat negative significand exponent
    | none => toFloat negative significand exponent

/-- Fraction digits, each lowering the exponent by one; a digit that would pass the 64-bit
range ends the significand there. -/
def readFractionDigits (negative : Bool) (significand : Nat) (before : Int) (after : Nat) :
    Nat → ReadM Float
  | 0 => finishFraction negative significand before after
  | n + 1 => do
    match ← peekByte with
    | some b =>
      if isDigit b then
        if overflowsU64 significand (digitValue b) then
          decimalOverflow negative significand (before - after)
        else do
          eatByte
          readFractionDigits negative (significand * 10 + digitValue b) before (after + 1) n
      else finishFraction negative significand before after
    | none => finishFraction negative significand before after

/-- A fraction, at its point, of `significand · 10^before`. -/
def readFraction (negative : Bool) (significand : Nat) (before : Int) : ReadM Float := do
  eatByte
  readFractionDigits negative significand before 0 (← budget)

/-- Integer digits past the 64-bit range only raise the exponent. -/
def readLongInteger (negative : Bool) (significand : Nat) (exponent : Nat) : Nat → ReadM Float
  | 0 => toFloat negative significand exponent
  | n + 1 => do
    match ← peekByte with
    | some b =>
      if isDigit b then do eatByte; readLongInteger negative significand (exponent + 1) n
      else if b == byte '.' then readFraction negative significand exponent
      else if b == byte 'e' || b == byte 'E' then readExponent negative significand exponent
      else toFloat negative significand exponent
    | none => toFloat negative significand exponent

/-- What follows the integer digits: a fraction, an exponent, or nothing. Without either the
number is an integer, except that `-0` and integers below the signed 64-bit range are
doubles. -/
def finishInteger (negative : Bool) (significand : Nat) : ReadM Number := do
  let integer : Number :=
    if !negative then .int significand
    else if significand = 0 then .float (-0.0)
    else if significand ≤ Nat.pow 2 63 then .int (-(significand : Int))
    else .float (-(Binary64.ofNat significand))
  match ← peekByte with
  | some b =>
    if b == byte '.' then .float <$> readFraction negative significand 0
    else if b == byte 'e' || b == byte 'E' then .float <$> readExponent negative significand 0
    else pure integer
  | none => pure integer

/-- Integer digits after the first nonzero one. -/
def readIntegerDigits (negative : Bool) (significand : Nat) : Nat → ReadM Number
  | 0 => finishInteger negative significand
  | n + 1 => do
    match ← peekByte with
    | some b =>
      if isDigit b then
        if overflowsU64 significand (digitValue b) then
          .float <$> readLongInteger negative significand 0 (← budget)
        else do
          eatByte
          readIntegerDigits negative (significand * 10 + digitValue b) n
      else finishInteger negative significand
    | none => finishInteger negative significand

/-- A number after its sign. A leading zero may not be followed by a digit. -/
def readNumber (negative : Bool) : ReadM Number := do
  match ← nextByte with
  | none => failHere .eofWhileParsingValue
  | some c =>
    if c == byte '0' then
      match ← peekByte with
      | some d => if isDigit d then failAhead .invalidNumber else finishInteger negative 0
      | none => finishInteger negative 0
    else if isDigit c then readIntegerDigits negative (digitValue c) (← budget)
    else failHere .invalidNumber

/-! ## Skipping a value -/

/-- The byte at the offset, consumed, or NUL at the end of the text. -/
def nextByteOrNul : ReadM UInt8 := do return (← nextByte).getD 0

/-- Skip an exponent at its `e`. -/
def skipExponent : ReadM Unit := do
  eatByte
  match ← peekByte with
  | some b => if b == byte '+' || b == byte '-' then eatByte
  | none => pure ()
  if isDigit (← nextByteOrNul) then skipDigits else failHere .invalidNumber

/-- Skip a fraction at its point. -/
def skipFraction : ReadM Unit := do
  eatByte
  let start ← get
  skipDigits
  if (← get) = start then failAhead .invalidNumber
  else
    match ← peekByte with
    | some b => if b == byte 'e' || b == byte 'E' then skipExponent
    | none => pure ()

/-- Skip a number after its sign, checking only its form. -/
def skipNumber : ReadM Unit := do
  let c ← nextByteOrNul
  if c == byte '0' then
    match ← peekByte with
    | some d => if isDigit d then failAhead .invalidNumber
    | none => pure ()
  else if isDigit c then skipDigits
  else failHere .invalidNumber
  match ← peekByte with
  | some b =>
    if b == byte '.' then skipFraction
    else if b == byte 'e' || b == byte 'E' then skipExponent
  | none => pure ()

/-- An array or object being skipped. -/
inductive Frame where
  | array
  | object
  deriving DecidableEq

/-- Close as many containers as the text closes here. `acceptComma` says a value has just
ended; then a comma ends the closing and the next value is due (`true`), and the closing of
the outermost container ends the skip (`false`). -/
def closeFrames (frame : Frame) (outer : List Frame) (acceptComma : Bool) :
    Nat → ReadM (Option (Frame × List Frame))
  | 0 => failHere .eofWhileParsingValue
  | n + 1 => do
    match ← skipBlanks with
    | none =>
      failAhead (if frame = .array then .eofWhileParsingList else .eofWhileParsingObject)
    | some b =>
      if b == byte ',' && acceptComma then do eatByte; return some (frame, outer)
      else if (b == byte ']' && frame = .array) || (b == byte '}' && frame = .object) then do
        eatByte
        match outer with
        | [] => return none
        | f :: rest => closeFrames f rest true n
      else if acceptComma then
        failAhead (if frame = .array then .expectedListCommaOrEnd else .expectedObjectCommaOrEnd)
      else return some (frame, outer)

/-- After a comma or an opening inside an object, the key and its colon. -/
def skipKey : ReadM Unit := do
  match ← skipBlanks with
  | some b => if b == byte '"' then eatByte else failAhead .keyMustBeAString
  | none => failAhead .eofWhileParsingObject
  skipString
  match ← skipBlanks with
  | some b => if b == byte ':' then eatByte else failAhead .expectedColon
  | none => failAhead .eofWhileParsingObject

/-- Skip values within the budget; `enclosing` is the container the next value sits in and
`outer` the ones around it. There is no limit on nesting. -/
def skipValuesFor (enclosing : Option Frame) (outer : List Frame) : Nat → ReadM Unit
  | 0 => failHere .eofWhileParsingValue
  | n + 1 => do
    let opened : Option Frame ← do
      match ← skipBlanks with
      | none => failAhead .eofWhileParsingValue
      | some b =>
        if b == byte 'n' then do eatByte; expectWord wordNull; pure none
        else if b == byte 't' then do eatByte; expectWord wordTrue; pure none
        else if b == byte 'f' then do eatByte; expectWord wordFalse; pure none
        else if b == byte '-' then do eatByte; skipNumber; pure none
        else if isDigit b then do skipNumber; pure none
        else if b == byte '"' then do eatByte; skipString; pure none
        else if b == byte '[' then do eatByte; pure (some .array)
        else if b == byte '{' then do eatByte; pure (some .object)
        else failAhead .expectedSomeValue
    -- a new container pushes the enclosing one outward
    let outer := match opened, enclosing with
      | some _, some e => e :: outer
      | _, _ => outer
    let next ← match opened, enclosing, outer with
      | some f, _, outer => closeFrames f outer false (← budget)
      | none, some e, outer => closeFrames e outer true (← budget)
      | none, none, [] => pure none
      | none, none, f :: rest => closeFrames f rest true (← budget)
    match next with
    | none => pure ()
    | some (frame, outer) =>
      if frame = .object then skipKey
      skipValuesFor (some frame) outer n

/-- Skip one value of any shape, checking its form but building nothing. -/
def skipValue : ReadM Unit := do skipValuesFor none [] (← budget)

end PathHierarchy.Json
