import PathHierarchy.Log.Level
import PathHierarchy.Text.Pattern
import PathHierarchy.Text.Blank
import PathHierarchy.Text.Alphanumeric

/-!
# Filter directives

A directive says which events a log filter lets through. It is a bare threshold of letters and
digits only, such as `debug` or `0005` (a sign makes it no threshold), which speaks of every
event, or a scope optionally followed by `=` and a threshold,
such as `pathtree::tree=trace`; without `=`, or with nothing after it, the threshold is
`trace`.

A text that is not a threshold as it stands is read with its blanks trimmed. The scope is a
target, the text up to the first `[` or `=`, which must start with a letter, a digit, `_`,
`:` or `-` (a target covers the events whose target starts with it), then optionally a span
filter in brackets: `[name]`, or `[name{fields}]` with a possibly empty name and the fields up
to the first `}`. A scope with neither a target nor a span filter is no scope. After the scope
comes the end of the text or an `=`.

The places of these parts are found in the trimmed text, but the parts themselves are cut
from the untrimmed text at the same bytes, and a target that runs to the end is the whole
untrimmed text. So blanks before a directive shift every part to the left, and blanks after
it stay in a target or threshold that runs to the end: such a target covers no event, and
such a threshold no longer reads.

A field is a name, optionally with `=` and a value, which must be a boolean, a number or a
pattern the matcher can check. Fields are separated by commas, and none may be empty.

A directive that names a span, or a field's value, speaks only of events inside spans. The
events here are never inside one, so such a directive lets nothing through; the others are
rules.
-/

set_option autoImplicit false

namespace PathHierarchy.Log

/-- Why a part of a filter's text is not a directive. -/
inductive DirectiveFault where
  /-- The part does not have the form of a directive. -/
  | malformed
  /-- The threshold does not read. -/
  | badLevel
  /-- A field's value is neither a boolean, a number nor a well-formed pattern. -/
  | badFieldValue
  /-- A field's value is a pattern that asserts a word boundary in Unicode mode, which the
  matcher cannot check. -/
  | unsupportedFieldValue
  deriving DecidableEq, Repr

/-- How a fault is reported. -/
def DirectiveFault.message : DirectiveFault → String
  | .malformed => "invalid filter directive"
  | .badLevel =>
    "error parsing level filter: expected one of \"off\", \"error\", \"warn\", \"info\", " ++
      "\"debug\", \"trace\", or a number 0-5"
  | .badFieldValue => "invalid field filter: error building NFA"
  | .unsupportedFieldValue =>
    "invalid field filter: unsupported regex feature for DFAs: cannot build DFAs for regexes " ++
      "with Unicode word boundaries; switch to ASCII word boundaries, or heuristically enable " ++
      "Unicode word boundaries or use a different regex engine"

/-- A field a directive names, with the value it must match, if any. -/
structure FieldMatch where
  name : String
  value : Option String
  deriving DecidableEq, Repr

/-- What a directive speaks of: a target, a span name and fields. -/
structure Scope where
  target : Option String := none
  span : Option String := none
  fields : List FieldMatch := []
  deriving DecidableEq, Repr

/-- A rule: a directive that speaks of events outside spans. -/
structure Rule where
  /-- The prefix of the targets it covers; none covers every target. -/
  target : Option String
  /-- The fields an event must have to be covered. -/
  fields : List String
  /-- The most verbose level it lets through. -/
  threshold : Threshold
  deriving DecidableEq, Repr

/-- A directive as read: a rule, or one that speaks only of spans. -/
inductive Directive where
  | rule (r : Rule)
  | spanOnly
  deriving DecidableEq, Repr

/-- Whether a text is a number as doubles are read: an optional sign, then `inf`, `infinity`
or `nan` in any case, or digits with at most one point and at least one digit, then an
optional exponent of `e` or `E`, an optional sign and digits. -/
def isNumberText (cs : List Char) : Bool :=
  let body := match cs with
    | '+' :: rest => rest
    | '-' :: rest => rest
    | rest => rest
  let word := String.ofList (lowerAscii body)
  if word == "inf" || word == "infinity" || word == "nan" then true
  else
    let whole := body.takeWhile Char.isDigit
    let afterWhole := body.drop whole.length
    let (fraction, afterFraction) := match afterWhole with
      | '.' :: more => (more.takeWhile Char.isDigit, more.dropWhile Char.isDigit)
      | more => ([], more)
    let exponentOk := match afterFraction with
      | [] => true
      | e :: more =>
        let digits := match more with
          | '+' :: ds => ds
          | '-' :: ds => ds
          | ds => ds
        (e == 'e' || e == 'E') && digits ≠ [] && digits.all Char.isDigit
    (whole ≠ [] || fraction ≠ []) && exponentOk

/-- Why a field's value cannot be matched, if it cannot: a boolean, a number and a pattern the
matcher can check all can. -/
def valueFault (v : String) : Option DirectiveFault :=
  if v == "true" || v == "false" || isNumberText v.toList then none
  else
    match Text.Pattern.check v with
    | .accepted => none
    | .malformed => some .badFieldValue
    | .unicodeWordBoundary => some .unsupportedFieldValue

/-- Read one field: a name, then optionally `=` and the value up to the next `=`. -/
def FieldMatch.read (cs : List Char) : FieldMatch :=
  let name := cs.takeWhile (· != '=')
  match cs.drop name.length with
  | [] => ⟨String.ofList name, none⟩
  | _ :: rest => ⟨String.ofList name, some (String.ofList (rest.takeWhile (· != '=')))⟩

/-- Read fields separated by commas, the first fault of a field, in order, failing them all:
an empty field is malformed, and a value that cannot be matched has its own fault. -/
def readFieldList : List (List Char) → Except DirectiveFault (List FieldMatch)
  | [] => .ok []
  | piece :: rest =>
    if piece = [] then .error .malformed
    else
      let field := FieldMatch.read piece
      match field.value.bind valueFault with
      | some fault => .error fault
      | none => (field :: ·) <$> readFieldList rest

/-- Read the fields between braces: one or more, separated by commas. -/
def readFields (cs : List Char) : Except DirectiveFault (List FieldMatch) :=
  readFieldList (cs.splitOn ',')

/-- Whether a character may start a target: a letter, a digit, `_`, `:` or `-`. -/
def isTargetStart (c : Char) : Bool := Text.isAlphanumeric c || c == '_' || c == ':' || c == '-'

/-- How many bytes a text takes in UTF-8. -/
def byteLength : List Char → Nat
  | [] => 0
  | c :: cs => c.utf8Size + byteLength cs

/-- Drop this many bytes of UTF-8 from the front of a text; none when that would cut a
character in two or run past the end. -/
def dropBytes : Nat → List Char → Option (List Char)
  | 0, cs => some cs
  | _ + 1, [] => none
  | n + 1, c :: rest => if c.utf8Size ≤ n + 1 then dropBytes (n + 1 - c.utf8Size) rest else none

/-- Take this many bytes of UTF-8 from the front of a text; none when that would cut a
character in two or run past the end. -/
def takeBytes : Nat → List Char → Option (List Char)
  | 0, _ => some []
  | _ + 1, [] => none
  | n + 1, c :: rest =>
    if c.utf8Size ≤ n + 1 then (c :: ·) <$> takeBytes (n + 1 - c.utf8Size) rest else none

/-- The part of a directive's text `cs` that lies at the same bytes as the places `start` to
`stop` of its trimmed text `body`. Blanks trimmed from the front shift it to the left. A cut
through a character is malformed. -/
def cutAt (cs body : List Char) (start stop : Nat) : Except DirectiveFault (List Char) :=
  let first := byteLength (body.take start)
  match (dropBytes first cs).bind (takeBytes (byteLength (body.take stop) - first)) with
  | some piece => .ok piece
  | none => .error .malformed

/-- Read a span filter that starts at place `start` of the trimmed text `body`, just after
its `[`: a name up to `]`, or a name, fields in braces up to the first `}`, which must be
there before any field is read, and `]`. The name
and the fields are cut from the untrimmed text `cs`. Gives the span name (none for an empty
name before fields), the fields and the place in `body` after the `]`. -/
def readSpan (cs body : List Char) (start : Nat) :
    Except DirectiveFault (Option String × List FieldMatch × Nat) := do
  let inside := body.drop start
  let name := inside.takeWhile fun c => c != '{' && c != ']'
  let nameStop := start + name.length
  match inside.drop name.length with
  | ']' :: _ => pure (some (String.ofList (← cutAt cs body start nameStop)), [], nameStop + 1)
  | '{' :: braced =>
    let inner := braced.takeWhile (· != '}')
    let fieldsStop := nameStop + 1 + inner.length
    if inner.length = braced.length then throw .malformed
    let fields ← readFields (← cutAt cs body (nameStop + 1) fieldsStop)
    match braced.drop inner.length with
    | '}' :: ']' :: _ =>
      let span ← if name = [] then pure none
        else (fun text => some (String.ofList text)) <$> cutAt cs body start nameStop
      pure (span, fields, fieldsStop + 2)
    | _ => throw .malformed
  | _ => throw .malformed

/-- The directive of a scope and a threshold. -/
def Directive.ofScope (s : Scope) (t : Threshold) : Directive :=
  if s.span.isSome || s.fields.any (·.value.isSome) then .spanOnly
  else .rule ⟨s.target, s.fields.map (·.name), t⟩

/-- Read the threshold after the `=` of a directive whose text is `cs`: it starts as many bytes
into `cs` as the scope and its `=` take in the trimmed text, so blanks before the directive
shift it, and blanks after it stay in it. Nothing at all there means `trace`. -/
def readThreshold (cs : List Char) (scopeBytes : Nat) : Except DirectiveFault Threshold :=
  match dropBytes (scopeBytes + 1) cs with
  | some [] => .ok Threshold.all
  | some level =>
    match Threshold.ofText? level with
    | some t => .ok t
    | none => .error .badLevel
  | none => .error .badLevel

/-- Read one directive. -/
def Directive.read (cs : List Char) : Except DirectiveFault Directive :=
  match if cs.all Char.isAlphanum then Threshold.ofText? cs else none with
  | some t => .ok (.rule ⟨none, [], t⟩)
  | none => do
    let body := Text.trimBlankList cs
    let target := body.takeWhile fun c => c != '[' && c != '='
    match target with
    | c :: _ => if !isTargetStart c then throw .malformed
    | [] => pure ()
    let afterTarget := body.drop target.length
    let targetText ← if afterTarget = [] then pure cs else cutAt cs body 0 target.length
    let target? := if targetText = [] then none else some (String.ofList targetText)
    let (scope, consumed) ← match afterTarget with
      | '[' :: _ => do
        let (span, fields, stop) ← readSpan cs body (target.length + 1)
        pure ({ target := target?, span, fields : Scope }, stop)
      | _ =>
        if target = [] then throw .malformed
        else pure ({ target := target? : Scope }, target.length)
    match body.drop consumed with
    | [] => pure (Directive.ofScope scope Threshold.all)
    | '=' :: _ => (Directive.ofScope scope ·) <$> readThreshold cs (byteLength (body.take consumed))
    | _ => throw .malformed

/-- The fault a directive's text has, if any. -/
def Directive.fault? (cs : List Char) : Option DirectiveFault :=
  match Directive.read cs with
  | .ok _ => none
  | .error fault => some fault

example : (Directive.read "pathtree=+4".toList).toOption = some (.rule ⟨some "pathtree", [], ⟨4⟩⟩) ∧
    (Directive.read "[]".toList).toOption = some .spanOnly ∧
    (Directive.read "pathtree=".toList).toOption = some (.rule ⟨some "pathtree", [], Threshold.all⟩) := by
  decide +kernel
example : Directive.fault? " skipped\x7d]=debug".toList = some .badLevel ∧
    Directive.fault? " pathtree=info".toList = some .badLevel ∧
    Directive.fault? "*=debug".toList = some .malformed ∧
    Directive.fault? "+5".toList = some .malformed ∧
    Directive.fault? "[\x7ba=\\d".toList = some .malformed := by
  decide +kernel
example : (Directive.read "pathtree ".toList).toOption =
      some (.rule ⟨some "pathtree ", [], Threshold.all⟩) ∧
    (Directive.read " [\x7ba\x7d]".toList).toOption = some (.rule ⟨none, ["\x7b"], Threshold.all⟩) ∧
    (Directive.read ":".toList).toOption = some (.rule ⟨some ":", [], Threshold.all⟩) := by
  decide +kernel

end PathHierarchy.Log
