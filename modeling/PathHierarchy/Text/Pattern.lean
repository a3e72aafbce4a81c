import PathHierarchy.Text.Blank
import PathHierarchy.Text.Alphanumeric

/-!
# Pattern syntax

The syntax of the regular expressions that log filters match field values with. Only the form
of a pattern is decided here; no text is ever matched against one.

* `\` escapes an ASCII character that is not a letter or a digit, or names a class (`\d`, `\w`,
  `\s` and their capitals, `\p...`, `\P...`), an assertion (`\b`, `\B`, `\A`, `\z`, `\<`, `\>`,
  `\b{start}`, `\b{end}`, `\b{start-half}`, `\b{end-half}`), a control character (`\a`, `\f`,
  `\n`, `\r`, `\t`, `\v`) or a code point in hexadecimal (`\x7F`, `\u00E9`, `\U0001F600`, or any
  of them with the digits in braces).
* `[...]` is a class. After the bracket and an optional `^`, any number of `-` stand for
  themselves, or else a `]` does. A class holds characters, escapes that are characters or
  classes, ranges `a-z` between two characters that do not run backwards, `[:name:]` classes,
  nested classes, and the operators `&&`, `--` and `~~`.
* `(...)` is a group, `(?P<name>...)` and `(?<name>...)` name it (no name twice),
  `(?flags)` and `(?flags:...)` set the flags `imsUuxR`, each once, with at most one `-`, which
  must be followed by a flag. Look-around is not supported.
* `*`, `+`, `?` and `{n}`, `{n,}`, `{n,m}` (with `n ≤ m` below `2^32`, blanks allowed around the
  numbers) repeat what comes before them, which must not be nothing, the start of a group or
  alternative, or a flag setting; a `?` right after one makes it lazy.

Flags last to the end of their group. With free spacing (`x`) blanks are passed over and `#`
starts a comment that runs to the end of its line, also between the digits of an escape or a
count and inside the braces of a special word boundary.

No Unicode tables are at hand to the matcher. In Unicode mode, on unless the `u` flag is turned
off, the classes `\d`, `\s`, `\w` and their capitals cannot be built, nor can characters or
classes be matched without regard to case (`i`), unless the class holds no character before
it is negated (the sides of the class operators are folded as well). Classes `\p` and `\P` can never be built.
Without Unicode a pattern may only match valid UTF-8 text, so `.`, `\D`, `\S`, `\W`, negated
classes, `\xHH` above `7F` and non-ASCII characters in classes are refused there.

The tree a pattern is read into may be at most 250 deep: groups, repetitions, alternations,
sequences of two or more items, classes, unions of two or more class items and class
operators each add one level.

A pattern that passes all this is still refused by the matcher when it asserts a word
boundary in Unicode mode: deciding one needs to look at whole characters, which the byte
automaton cannot do.

Group names are an alphabetic character or `_`, then alphabetic or numeric characters, `_`,
`.`, `[` and `]`.
-/

set_option autoImplicit false

namespace PathHierarchy.Text.Pattern

/-- What a pattern's text settles about it. -/
inductive Verdict where
  /-- The pattern is well formed and can be matched. -/
  | accepted
  /-- The pattern is not well formed, or cannot be built. -/
  | malformed
  /-- The pattern is well formed, but it asserts a word boundary in Unicode mode. -/
  | unicodeWordBoundary
  deriving DecidableEq, Repr

/-- How deep the tree of a pattern may be. -/
def nestLimit : Nat := 250

/-- The flags in force while a pattern is read. -/
structure Flags where
  /-- Unicode mode (`u`). -/
  unicode : Bool := true
  /-- Matching without regard to case (`i`). -/
  caseless : Bool := false
  /-- Free spacing (`x`). -/
  spacing : Bool := false
  deriving DecidableEq, Repr

/-- Turn flags on or off, in order. -/
def Flags.set (f : Flags) : List (Char × Bool) → Flags
  | [] => f
  | (c, on) :: rest =>
    let f :=
      if c == 'u' then { f with unicode := on }
      else if c == 'i' then { f with caseless := on }
      else if c == 'x' then { f with spacing := on }
      else f
    f.set rest

/-- Pass over blanks, and comments from `#` through the end of their line; `fuel` at least
the length of the text always suffices, since every step passes over a character. -/
def skipSpace : (fuel : Nat) → List Char → List Char
  | 0, cs => cs
  | _, [] => []
  | n + 1, c :: rest =>
    if isBlank c then skipSpace n rest
    else if c == '#' then skipSpace n ((rest.dropWhile (· != '\n')).drop 1)
    else c :: rest

/-- Pass over what free spacing ignores, when it is on. -/
def space (spacing : Bool) (cs : List Char) : List Char :=
  if spacing then skipSpace cs.length cs else cs

/-- Whether a character is a hexadecimal digit. -/
def isHexDigit (c : Char) : Bool :=
  c.isDigit || ('a' ≤ c && c ≤ 'f') || ('A' ≤ c && c ≤ 'F')

/-- The value of hexadecimal digits. -/
def hexValue (cs : List Char) : Nat :=
  cs.foldl (fun n c =>
    16 * n + if c.isDigit then c.toNat - '0'.toNat
      else if c ≤ 'F' then c.toNat - 'A'.toNat + 10 else c.toNat - 'a'.toNat + 10) 0

/-- The value of decimal digits. -/
def decimalValue (cs : List Char) : Nat :=
  cs.foldl (fun n c => 10 * n + (c.toNat - '0'.toNat)) 0

/-- Whether a number is a code point that is not a surrogate. -/
def isScalar (n : Nat) : Bool := n ≤ 0x10FFFF && !(0xD800 ≤ n && n ≤ 0xDFFF)

/-- Exactly `count` hexadecimal digits, with what free spacing ignores before each. Gives the
digits and what follows the last. -/
def hexDigits (spacing : Bool) : Nat → List Char → Option (List Char × List Char)
  | 0, cs => some ([], cs)
  | n + 1, cs =>
    match space spacing cs with
    | c :: rest =>
      if isHexDigit c then (hexDigits spacing n rest).map fun (ds, after) => (c :: ds, after)
      else none
    | [] => none

/-- Hexadecimal digits up to a closing brace, with what free spacing ignores among them;
`fuel` at least one more than the length of the text suffices. Gives the digits and what
follows the brace. -/
def bracedDigits (spacing : Bool) : (fuel : Nat) → List Char → Option (List Char × List Char)
  | 0, _ => none
  | n + 1, cs =>
    match space spacing cs with
    | '}' :: after => some ([], after)
    | c :: rest =>
      if isHexDigit c then (bracedDigits spacing n rest).map fun (ds, after) => (c :: ds, after)
      else none
    | [] => none

/-- A code point in hexadecimal after `\x`, `\u` or `\U`: exactly `width` digits, or one or
more digits in braces, with what free spacing ignores before and among them. Gives its value
and what follows it. -/
def hexEscape (spacing : Bool) (width : Nat) (cs : List Char) : Option (Nat × List Char) :=
  match space spacing cs with
  | '{' :: rest =>
    match bracedDigits spacing (rest.length + 1) rest with
    | some (digits, after) =>
      if digits ≠ [] && isScalar (hexValue digits) then some (hexValue digits, after) else none
    | none => none
  | cs =>
    match hexDigits spacing width cs with
    | some (digits, after) => if isScalar (hexValue digits) then some (hexValue digits, after) else none
    | none => none

/-- Whether a character may be in the name of a special word boundary. -/
def isBoundaryNameChar (c : Char) : Bool :=
  ('a' ≤ c && c ≤ 'z') || ('A' ≤ c && c ≤ 'Z') || c == '-'

/-- The name of a special word boundary, with what free spacing ignores after each character.
Gives the name and what follows it. -/
def boundaryName (spacing : Bool) : Nat → List Char → List Char × List Char
  | n + 1, c :: rest =>
    if isBoundaryNameChar c then
      let (name, after) := boundaryName spacing n (space spacing rest)
      (c :: name, after)
    else ([], c :: rest)
  | _, cs => ([], cs)

/-- What follows `\b`. A brace followed by a letter or `-` must be one of `{start}`, `{end}`,
`{start-half}` and `{end-half}`, and is part of the assertion; any other brace is left for a
counted repetition. Free spacing may put blanks and comments inside the braces. -/
def afterWordBoundary (spacing : Bool) : List Char → Option (List Char)
  | '{' :: rest =>
    match space spacing rest with
    | [] => none
    | c :: more =>
      if !isBoundaryNameChar c then some ('{' :: rest)
      else
        match boundaryName spacing (more.length + 1) (c :: more) with
        | (name, '}' :: after) =>
          if ["start", "end", "start-half", "end-half"].any (·.toList == name) then some after
          else none
        | _ => none
  | cs => some cs

/-- The code of a control character written as a letter after `\`. -/
def controlCode : Char → Option Nat
  | 'a' => some 7
  | 'f' => some 12
  | 't' => some 9
  | 'n' => some 10
  | 'r' => some 13
  | 'v' => some 11
  | _ => none

/-- What an escape stands for. -/
inductive Escaped where
  /-- One character, by its code; `byte` when it was written after `\x` and is below 256, so
  that without Unicode it stands for a byte. -/
  | literal (code : Nat) (byte : Bool)
  /-- One of `\d`, `\s` and `\w`, or with `negated` one of their capitals. -/
  | perlClass (negated : Bool)
  /-- A Unicode class, `\p` or `\P`. -/
  | unicodeClass
  /-- A word boundary: `\b`, `\B`, `\<`, `\>` or a special one in braces. -/
  | wordBoundary
  /-- The start or the end of the text, `\A` or `\z`. -/
  | textBoundary

/-- The escape after a backslash, with what follows it; none for an unknown escape. -/
def escape (spacing : Bool) : List Char → Option (Escaped × List Char)
  | [] => none
  | c :: rest =>
    if c == 'x' || c == 'u' || c == 'U' then
      let width := if c == 'x' then 2 else if c == 'u' then 4 else 8
      (hexEscape spacing width rest).map fun (v, after) => (.literal v (c == 'x' && v < 256), after)
    else if c == 'p' || c == 'P' then some (.unicodeClass, rest)
    else if c == 'd' || c == 's' || c == 'w' then some (.perlClass false, rest)
    else if c == 'D' || c == 'S' || c == 'W' then some (.perlClass true, rest)
    else if c == 'b' then (afterWordBoundary spacing rest).map fun after => (.wordBoundary, after)
    else if c == 'B' || c == '<' || c == '>' then some (.wordBoundary, rest)
    else if c == 'A' || c == 'z' then some (.textBoundary, rest)
    else if c.toNat < 128 && !c.isAlphanum then some (.literal c.toNat false, rest)
    else (controlCode c).map fun code => (.literal code false, rest)

/-- Whether an escape may stand alone in a class read with the flags `f`: assertions never
may, Unicode and (in Unicode mode) Perl classes have no tables, and without Unicode only what
stays within ASCII may. -/
def allowedInClass (f : Flags) : Escaped → Bool
  | .literal code _ => f.unicode || code < 128
  | .perlClass negated => !f.unicode && !negated
  | .unicodeClass => false
  | .wordBoundary => false
  | .textBoundary => false

/-- One item of a class: an escape, or a character standing for itself. -/
def classItem (spacing : Bool) : List Char → Option (Escaped × List Char)
  | '\\' :: rest => escape spacing rest
  | c :: rest => some (.literal c.toNat false, rest)
  | [] => none

/-- The names of the ASCII classes written `[:name:]`. -/
def asciiClassNames : List String :=
  ["alnum", "alpha", "ascii", "blank", "cntrl", "digit", "graph", "lower", "print", "punct",
    "space", "upper", "word", "xdigit"]

/-- An ASCII class after its `[`: `:`, an optional `^`, a known name and `:]`. Gives whether
it is negated and what follows it. -/
def asciiClass : List Char → Option (Bool × List Char)
  | ':' :: cs =>
    let (negated, body) := match cs with
      | '^' :: rest => (true, rest)
      | rest => (false, rest)
    let name := body.takeWhile (· != ':')
    match body.drop name.length with
    | ':' :: ']' :: after =>
      if asciiClassNames.any (·.toList == name) then some (negated, after) else none
    | _ => none
  | _ => none

/-- The `-` that open a class and stand for themselves: how many, and what follows them. -/
def leadingDashes (spacing : Bool) : Nat → List Char → Nat × List Char
  | n + 1, '-' :: rest =>
    let (count, after) := leadingDashes spacing n (space spacing rest)
    (count + 1, after)
  | _, cs => (0, cs)

/-- How deep a union of class items sits: one item is as deep as itself, two or more add a
level for the union. -/
def unionDepth (count deepest : Nat) : Nat := if count ≤ 1 then deepest else deepest + 1

/-- What is known of the characters a class set holds: none, all, or some but not all. -/
inductive Extent where
  | empty
  | full
  | proper
  deriving DecidableEq, Repr

/-- The characters a set does not hold. -/
def Extent.complement : Extent → Extent
  | .empty => .full
  | .full => .empty
  | .proper => .proper

/-- The characters either set holds. -/
def Extent.union : Extent → Extent → Extent
  | .full, _ => .full
  | _, .full => .full
  | .empty, e => e
  | e, .empty => e
  | .proper, .proper => .proper

/-- An operator between class sets. -/
inductive SetOp where
  /-- `&&`: the characters both sets hold. -/
  | intersection
  /-- `--`: the characters the first set holds and the second does not. -/
  | difference
  /-- `~~`: the characters exactly one of the sets holds. -/
  | symmetricDifference
  deriving DecidableEq, Repr

/-- What is known of the set an operator makes of two sets. -/
def SetOp.apply : SetOp → Extent → Extent → Extent
  | .intersection, .empty, _ => .empty
  | .intersection, _, .empty => .empty
  | .intersection, .full, e => e
  | .intersection, e, .full => e
  | .intersection, .proper, .proper => .proper
  | .difference, .empty, _ => .empty
  | .difference, _, .full => .empty
  | .difference, e, .empty => e
  | .difference, .full, .proper => .proper
  | .difference, .proper, .proper => .proper
  | .symmetricDifference, .empty, e => e
  | .symmetricDifference, e, .empty => e
  | .symmetricDifference, .full, e => e.complement
  | .symmetricDifference, e, .full => e.complement
  | .symmetricDifference, .proper, .proper => .proper

/-- What class operators have joined so far: how deep and how wide it is, and the operator
that joins it to the set that follows. -/
structure Joined where
  depth : Nat
  extent : Extent
  op : SetOp

/-- The set a class operator makes: how deep and how wide. Without Unicode case tables, a set
cannot be matched without regard to case unless it is empty, and an operator folds both its
sides. -/
def Joined.close (f : Flags) (before : Option Joined) (depth : Nat) (extent : Extent) :
    Option (Nat × Extent) :=
  match before with
  | none => some (depth, extent)
  | some j =>
    if f.unicode && f.caseless && (j.extent != .empty || extent != .empty) then none
    else some (max j.depth depth + 1, j.op.apply j.extent extent)

/-- What is known of the characters a range holds: all of them from the first code point to
the last. -/
def rangeExtent (lo hi : Nat) : Extent := if lo = 0 && 0x10FFFF ≤ hi then .full else .proper

mutual

/-- The items of a class up to its closing bracket, read with the flags `f`: `count` items
read since the last operator, the deepest `deepest` deep, holding together `extent`, and
`before` what the operators joined so far. Gives the depth and extent of the class's set and
what follows the bracket. -/
def classItems : Nat → Flags → Nat → Nat → Extent → Option Joined → List Char →
    Option (Nat × Extent × List Char)
  | 0, _, _, _, _, _, _ => none
  | n + 1, f, count, deepest, extent, before, cs =>
    let joined := Joined.close f before (unionDepth count deepest) extent
    let next := fun (op : SetOp) (rest : List Char) =>
      match joined with
      | some (depth, ext) => classItems n f 0 0 .empty (some ⟨depth, ext, op⟩) rest
      | none => none
    let add := fun (depth : Nat) (ext : Extent) (rest : List Char) =>
      classItems n f (count + 1) (max deepest depth) (extent.union ext) before rest
    match space f.spacing cs with
    | [] => none
    | ']' :: rest => joined.map fun (depth, ext) => (depth, ext, rest)
    | '[' :: rest =>
      match asciiClass rest with
      | some (negated, after) => if f.unicode || !negated then add 0 .proper after else none
      | none =>
        match classOpen n f rest with
        | some (depth, ext, after) => add depth ext after
        | none => none
    | '&' :: '&' :: rest => next .intersection rest
    | '-' :: '-' :: rest => next .difference rest
    | '~' :: '~' :: rest => next .symmetricDifference rest
    | cs =>
      match classItem f.spacing cs with
      | none => none
      | some (first, rest) =>
        match space f.spacing rest with
        | [] => none
        | '-' :: more =>
          match space f.spacing more with
          | [] => none
          | d :: _ =>
            if d == ']' || d == '-' then
              if allowedInClass f first then add 0 .proper ('-' :: more) else none
            else
              match first, classItem f.spacing (space f.spacing more) with
              | .literal lo _, some (.literal hi _, after) =>
                if lo ≤ hi && (f.unicode || hi < 128) then add 0 (rangeExtent lo hi) after
                else none
              | _, _ => none
        | rest => if allowedInClass f first then add 0 .proper rest else none

/-- A class after its opening bracket: an optional `^`, then any number of `-` standing for
themselves or else a `]` standing for itself, then the items. Without Unicode a class may not
be negated, since it would match bytes beyond ASCII; without Unicode case tables its set must
be empty to be matched without regard to case, which is decided before it is negated. Gives the
class's depth and extent and what follows it. -/
def classOpen : Nat → Flags → List Char → Option (Nat × Extent × List Char)
  | 0, _, _ => none
  | n + 1, f, cs =>
    let (negated, cs) := match space f.spacing cs with
      | '^' :: rest => (true, space f.spacing rest)
      | rest => (false, rest)
    let (dashes, cs) := leadingDashes f.spacing cs.length cs
    let (count, cs) := match dashes, cs with
      | 0, ']' :: rest => (1, rest)
      | k, rest => (k, rest)
    let extent : Extent := if count = 0 then .empty else .proper
    if negated && !f.unicode then none
    else
      match classItems n f count 0 extent none cs with
      | some (depth, ext, rest) =>
        if f.unicode && f.caseless && ext != .empty then none
        else some (depth + 1, if negated then ext.complement else ext, rest)
      | none => none

end

/-- The flags of a group, up to the `:` or `)` that ends them: letters of `imsUuxR`, each
once, with at most one `-`, which must be followed by a flag. `seen` holds the flags read so
far, `negated` says whether the `-` was read, and `changes` what they turn on or off. Gives
the ending character, the changes in order and what follows. -/
def readFlags (seen : List Char) (negated lastWasMinus : Bool) (changes : List (Char × Bool)) :
    List Char → Option (Char × List (Char × Bool) × List Char)
  | [] => none
  | c :: rest =>
    if c == ':' || c == ')' then
      if lastWasMinus || (seen = [] && !negated && c == ')') then none
      else some (c, changes.reverse, rest)
    else if c == '-' then
      if negated then none else readFlags seen true true changes rest
    else if "imsUuxR".toList.contains c && !seen.contains c then
      readFlags (c :: seen) negated false ((c, !negated) :: changes) rest
    else none

/-- Whether a character may be in a group's name; `first` for its first character. -/
def isNameChar (first : Bool) (c : Char) : Bool :=
  c == '_' || (if first then isAlphabetic c else isAlphanumeric c) ||
    (!first && (c == '.' || c == '[' || c == ']'))

/-- The name of a group up to its `>`; gives the name and what follows the `>`. -/
def groupName (cs : List Char) : Option (List Char × List Char) :=
  let name := cs.takeWhile (isNameChar false)
  match name, cs.drop name.length with
  | first :: _, '>' :: after => if isNameChar true first then some (name, after) else none
  | _, _ => none

/-- What an opening parenthesis starts. -/
inductive Opening where
  /-- A capturing group, possibly named, with what follows its opening. -/
  | capture (name : Option (List Char)) (rest : List Char)
  /-- A group that does not capture, with the flags it turns on or off inside. -/
  | group (changes : List (Char × Bool)) (rest : List Char)
  /-- A setting of flags for the rest of the enclosing group. -/
  | setting (changes : List (Char × Bool)) (rest : List Char)

/-- Read what follows an opening parenthesis. -/
def opening : List Char → Option Opening
  | '?' :: 'P' :: '<' :: rest => (groupName rest).map fun (name, after) => .capture (some name) after
  | '?' :: '<' :: c :: rest =>
    if c == '=' || c == '!' then none
    else (groupName (c :: rest)).map fun (name, after) => .capture (some name) after
  | '?' :: rest =>
    match readFlags [] false false [] rest with
    | some (':', changes, after) => some (.group changes after)
    | some (_, changes, after) => some (.setting changes after)
    | none => none
  | rest => some (.capture none rest)

/-- Decimal digits, with what free spacing ignores after each. Gives the digits and what
follows them. -/
def decimalDigits (spacing : Bool) : Nat → List Char → List Char × List Char
  | n + 1, c :: rest =>
    if c.isDigit then
      let (digits, after) := decimalDigits spacing n (space spacing rest)
      (c :: digits, after)
    else ([], c :: rest)
  | _, cs => ([], cs)

/-- A decimal count of a repetition, with blanks around it and, with free spacing, blanks and
comments among its digits: gives its value when it has digits and is below `2^32`, and what
follows the blanks after it. -/
def count (spacing : Bool) (cs : List Char) : Option Nat × List Char :=
  let cs := cs.dropWhile isBlank
  let (digits, after) := decimalDigits spacing cs.length cs
  (if digits ≠ [] && decimalValue digits < Nat.pow 2 32 then some (decimalValue digits) else none,
    after.dropWhile isBlank)

/-- A counted repetition after its `{`: `n}`, `n,}` or `n,m}` with `n ≤ m`. -/
def counted (spacing : Bool) (cs : List Char) : Option (List Char) :=
  match count spacing (space spacing cs) with
  | (low, '}' :: after) => low.map fun _ => after
  | (some low, ',' :: more) =>
    match space spacing more with
    | '}' :: after => some after
    | more =>
      match count spacing more with
      | (some high, '}' :: after) => if low ≤ high then some after else none
      | _ => none
  | _ => none

/-- One branch of an alternation being read: how many items it has, how deep the deepest
one is, and how deep the last one is when it can be repeated. -/
structure Branch where
  items : Nat := 0
  deepest : Nat := 0
  last : Option Nat := none

/-- How deep a branch sits: one item is as deep as itself, two or more add a level for the
sequence. -/
def Branch.depth (b : Branch) : Nat := if b.items ≤ 1 then b.deepest else b.deepest + 1

/-- Add an item of this depth to a branch. -/
def Branch.push (b : Branch) (depth : Nat) (repeatable : Bool) : Branch :=
  { items := b.items + 1, deepest := max b.deepest depth,
    last := if repeatable then some depth else none }

/-- Repeat the last item of a branch, if it can be repeated. -/
def Branch.repeatLast (b : Branch) : Option Branch :=
  b.last.map fun depth => { b with deepest := max b.deepest (depth + 1), last := some (depth + 1) }

/-- What a group holds so far: the branches before its last `|` and the branch being read. -/
structure Body where
  finished : Nat := 0
  finishedDeepest : Nat := 0
  branch : Branch := {}

/-- How deep a group's content sits: one branch is as deep as itself, two or more add a level
for the alternation. -/
def Body.depth (b : Body) : Nat :=
  if b.finished = 0 then b.branch.depth else max b.finishedDeepest b.branch.depth + 1

/-- Close the branch being read at a `|`. -/
def Body.alternate (b : Body) : Body :=
  { finished := b.finished + 1, finishedDeepest := max b.finishedDeepest b.branch.depth }

/-- Add an item to the branch being read. -/
def Body.push (b : Body) (depth : Nat) (repeatable : Bool) : Body :=
  { b with branch := b.branch.push depth repeatable }

/-- An open group: the flags and the content to return to when it closes. -/
structure Frame where
  flags : Flags
  body : Body

/-- Where the reading of a pattern stands. -/
structure Reading where
  flags : Flags := {}
  body : Body := {}
  /-- The open groups, innermost first. -/
  frames : List Frame := []
  /-- Whether a word boundary was asserted in Unicode mode. -/
  unicodeBoundary : Bool := false
  /-- The names given to groups so far. -/
  names : List (List Char) := []

/-- Add an item to the branch being read. -/
def Reading.push (r : Reading) (depth : Nat) : Reading := { r with body := r.body.push depth true }

/-- Read the rest of a pattern from where `r` stands. -/
def readFrom : Nat → Reading → List Char → Verdict
  | 0, _, _ => .malformed
  | n + 1, r, cs =>
    let f := r.flags
    match space f.spacing cs with
    | [] =>
      if r.frames ≠ [] || r.body.depth > nestLimit then .malformed
      else if r.unicodeBoundary then .unicodeWordBoundary
      else .accepted
    | c :: rest =>
      if c == '\\' then
        match escape f.spacing rest with
        | some (.literal code byte, after) =>
          if (f.unicode && !f.caseless) || (!f.unicode && (!byte || code < 128)) then
            readFrom n (r.push 0) after
          else .malformed
        | some (.perlClass negated, after) =>
          if !f.unicode && !negated then readFrom n (r.push 0) after else .malformed
        | some (.unicodeClass, _) => .malformed
        | some (.wordBoundary, after) =>
          readFrom n { r.push 0 with unicodeBoundary := r.unicodeBoundary || f.unicode } after
        | some (.textBoundary, after) => readFrom n (r.push 0) after
        | none => .malformed
      else if c == '[' then
        match classOpen n f rest with
        | some (depth, _, after) => readFrom n (r.push depth) after
        | none => .malformed
      else if c == '(' then
        let opened := { r with frames := ⟨f, r.body⟩ :: r.frames, body := {} }
        match opening (space f.spacing rest) with
        | some (.capture none after) => readFrom n opened after
        | some (.capture (some name) after) =>
          if r.names.contains name then .malformed
          else readFrom n { opened with names := name :: r.names } after
        | some (.group changes after) => readFrom n { opened with flags := f.set changes } after
        | some (.setting changes after) =>
          readFrom n { r with flags := f.set changes, body := r.body.push 0 false } after
        | none => .malformed
      else if c == ')' then
        match r.frames with
        | [] => .malformed
        | frame :: frames =>
          let closed := frame.body.push (r.body.depth + 1) true
          readFrom n { r with flags := frame.flags, frames := frames, body := closed } rest
      else if c == '|' then readFrom n { r with body := r.body.alternate } rest
      else if c == '*' || c == '+' || c == '?' then
        match r.body.branch.repeatLast with
        | some branch =>
          let after := match rest with
            | '?' :: more => more
            | more => more
          readFrom n { r with body := { r.body with branch } } after
        | none => .malformed
      else if c == '{' then
        match r.body.branch.repeatLast, counted f.spacing rest with
        | some branch, some after =>
          let after := match space f.spacing after with
            | '?' :: more => more
            | more => more
          readFrom n { r with body := { r.body with branch } } after
        | _, _ => .malformed
      else if c == '.' then
        if f.unicode then readFrom n (r.push 0) rest else .malformed
      else if c == '^' || c == '$' then readFrom n (r.push 0) rest
      else if f.unicode && f.caseless then .malformed
      else readFrom n (r.push 0) rest

/-- What a pattern's text settles about it. -/
def check (s : String) : Verdict := readFrom (s.length + 1) {} s.toList

example : check "" = .accepted ∧ check "a+b" = .accepted ∧ check "[]a]" = .accepted ∧
    check "(?-u:\\d)x\x7b2,3\x7d" = .accepted ∧ check "[a-\\x7A&&[:alpha:]]" = .accepted := by
  decide +kernel
example : check "(" = .malformed ∧ check "*" = .malformed ∧ check "a\x7b" = .malformed ∧
    check "\\q" = .malformed ∧ check "\\d" = .malformed ∧ check "(?-u)." = .malformed := by
  decide +kernel
example : check "(?x)a #(" = .accepted ∧ check "(?x) *" = .malformed ∧
    check "(?i)a" = .malformed ∧ check "a*??" = .accepted := by
  decide +kernel
example : check "(?i)[&&]" = .accepted ∧ check "(?i)[^&&]" = .accepted ∧
    check "(?i)[a]" = .malformed ∧ check "(?i)[[^&&]]" = .malformed ∧
    check "(?x)\\x4 1" = .accepted ∧ check "(?x)a\x7b1 0\x7d" = .accepted ∧
    check "(?<é>x)" = .accepted ∧ check "(?<²>x)" = .malformed := by
  decide +kernel
example : check "\\bx" = .unicodeWordBoundary ∧ check "(?-u:\\b)x" = .accepted := by
  decide +kernel

end PathHierarchy.Text.Pattern
