import PathHierarchy.Log.Directive

/-!
# Log filters

A filter decides which log events are written. It is read from text such as
`warn,pathtree::tree=trace`: directives separated by commas, where empty parts are skipped
and a part that is not a directive is reported and skipped.

The rules are kept from the most specific to the least: the longer target first, then the
one that names more fields. An event is let through by the first rule that covers it (its
target starts with the rule's and it has every field the rule names) when its level is
within the rule's. A later rule with the same target and fields replaces an earlier one.

When no directive at all was given, a default threshold covers every event. A directive
that speaks only of spans counts as given, so it keeps the default away while letting
nothing through itself.
-/

set_option autoImplicit false

namespace PathHierarchy.Log

/-- Compare two optional targets: none first, then by text. -/
def compareTargets : Option String → Option String → Ordering
  | none, none => .eq
  | none, some _ => .lt
  | some _, none => .gt
  | some a, some b => compare a b

/-- Compare two lists of names in dictionary order. -/
def compareNames : List String → List String → Ordering
  | [], [] => .eq
  | [], _ :: _ => .lt
  | _ :: _, [] => .gt
  | a :: as, b :: bs => (compare a b).then (compareNames as bs)

/-- How specific a rule is against another: by the length of the target in bytes (none
least), then by the number of fields, then by target and field names. -/
def Rule.specificity (a b : Rule) : Ordering :=
  (compare (a.target.map String.utf8ByteSize) (b.target.map String.utf8ByteSize)).then <|
    (compare a.fields.length b.fields.length).then <|
      (compareTargets a.target b.target).then (compareNames a.fields b.fields)

/-- Put a rule among rules kept from the most specific: it replaces a rule of the same
target and fields, and otherwise goes before the first less specific one. -/
def Rule.insertInto (r : Rule) : List Rule → List Rule
  | [] => [r]
  | x :: xs =>
    match r.specificity x with
    | .eq => r :: xs
    | .gt => r :: x :: xs
    | .lt => x :: r.insertInto xs

/-- Whether a rule covers an event of this target with these fields. -/
def Rule.covers (r : Rule) (target : String) (fieldNames : List String) : Bool :=
  (match r.target with
    | none => true
    | some t => t.toList.isPrefixOf target.toList) &&
  r.fields.all (fieldNames.contains ·)

/-- A log filter. -/
structure Filter where
  /-- The rules, from the most specific to the least. -/
  rules : List Rule
  deriving DecidableEq, Repr

/-- Whether a filter lets through an event of this level, target and field names. -/
def Filter.admits (f : Filter) (level : Level) (target : String) (fieldNames : List String) :
    Bool :=
  match f.rules.find? (·.covers target fieldNames) with
  | some r => r.threshold.admits level
  | none => false

/-- The report for a part that is not a directive. -/
def unreadableNote (part : String) (fault : DirectiveFault) : String :=
  "ignoring " ++ "`" ++ part ++ "`" ++ ": " ++ fault.message ++ "\n"

/-- Read a filter from its text, with `fallback` as the level when no directive is given.
Also gives the reports of the parts that were skipped, in order. -/
def Filter.read (text : String) (fallback : Level) : Filter × List String :=
  let parts := (text.toList.splitOn ',').filter (· ≠ [])
  let step := fun (acc : List Rule × Bool × List String) (part : List Char) =>
    let (rules, spans, notes) := acc
    match Directive.read part with
    | .ok (.rule r) => (r.insertInto rules, spans, notes)
    | .ok .spanOnly => (rules, true, notes)
    | .error fault => (rules, spans, notes ++ [unreadableNote (String.ofList part) fault])
  let (rules, spans, notes) := parts.foldl step ([], false, [])
  let rules := if rules = [] ∧ !spans then [⟨none, [], Threshold.ofLevel fallback⟩] else rules
  (⟨rules⟩, notes)

example : (Filter.read "" .warn).1.admits .warn "pathtree" ["message"] = true := by decide +kernel
example : (Filter.read "" .warn).1.admits .info "pathtree" ["message"] = false := by decide +kernel
example : (Filter.read "pathtree::tree=trace" .warn).1.admits .trace
    "pathtree::tree::builder" ["message"] = true := by decide +kernel

end PathHierarchy.Log
