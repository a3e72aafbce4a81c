import PathHierarchy.Cli.Help

/-!
# Reading a command line

The arguments are read from left to right against the root command until one names a
subcommand; the rest is read against that subcommand. Then the subcommand is checked, and
only after it the root.

* `--` makes every later argument positional.
* `--name` and `--name=value` are long options, `-abc` are short flags in a row, where an
  option that takes a value takes the rest of the word, or else the next argument.
* Any other argument is the value an option waits for, else the next positional argument.
  A subcommand's name is one only where no option waits for its value.

An argument's values are taken, and checked, only when the next option acts, when the next
positional argument arrives, or at the end: so `--format xml --help` reports the bad format
rather than showing help. An unknown argument is reported at once, and a pending value that
would fail is then passed over without a word.

Reading stops with help or the version when asked for, with the root's help when nothing at
all is given, and otherwise with a usage error: an unknown argument, a value that is
missing or not one of the choices, an option given twice, an option given without one it
requires, or no subcommand.
-/

set_option autoImplicit false

namespace PathHierarchy.Cli

/-- The arguments a command was given, in the order they were taken, each with its value. -/
abbrev Given := List (String × Option String)

/-- What is wrong with a command line. -/
inductive Failure where
  | unknownArgument (arg : String) (tip : Option String)
  | unrecognizedSubcommand (name : String)
  | unexpectedValue (value arg : String)
  | repeated (arg : String)
  | missingValue (arg : String) (choices : List String)
  | invalidValue (value arg : String) (choices : List String)
  | missingRequired (args : List String)
  | missingSubcommand (command : String) (available : List String)
  deriving DecidableEq, Repr

/-- A list of names after an error, such as the possible values. -/
def namesNote (label : String) : List String → String
  | [] => ""
  | names => "\n  [" ++ label ++ ": " ++ ", ".intercalate names ++ "]"

/-- The first line of a usage error, with what follows it before the usage line. -/
def Failure.message : Failure → String
  | .unknownArgument arg tip =>
    "unexpected argument '" ++ arg ++ "' found" ++
      match tip with
      | some t => "\n\n  tip: " ++ t
      | none => ""
  | .unrecognizedSubcommand name => "unrecognized subcommand '" ++ name ++ "'"
  | .unexpectedValue value arg =>
    "unexpected value '" ++ value ++ "' for '" ++ arg ++ "' found; no more were expected"
  | .repeated arg => "the argument '" ++ arg ++ "' cannot be used multiple times"
  | .missingValue arg choices =>
    "a value is required for '" ++ arg ++ "' but none was supplied" ++
      namesNote "possible values" choices
  | .invalidValue value arg choices =>
    "invalid value '" ++ value ++ "' for '" ++ arg ++ "'" ++ namesNote "possible values" choices
  | .missingRequired args =>
    "the following required arguments were not provided:" ++ String.join (args.map ("\n  " ++ ·))
  | .missingSubcommand command available =>
    "'" ++ command ++ "' requires a subcommand but one was not provided" ++
      namesNote "subcommands" available

/-- A usage error: what is wrong, the usage line to show, and whether to point to `--help`. -/
structure UsageError where
  failure : Failure
  usage : Option String
  pointsToHelp : Bool := true
  deriving DecidableEq, Repr

/-- The text of a usage error. -/
def UsageError.text (e : UsageError) : String :=
  "error: " ++ e.failure.message ++
    (match e.usage with
      | some u => "\n\nUsage: " ++ u
      | none => "") ++
    if e.pointsToHelp then "\n\nFor more information, try '--help'.\n" else "\n"

/-- Why reading ended without a command to run. -/
inductive Stop where
  /-- Text asked for, such as help or the version; showing it is a success. -/
  | shown (text : String)
  /-- The root's help, shown because nothing was given; a usage error. -/
  | helpForEmpty (text : String)
  /-- A usage error. -/
  | failed (e : UsageError)
  deriving DecidableEq, Repr

/-- Where values go: an option or a positional argument. -/
inductive Slot where
  | opt (o : Opt)
  | positional (p : Positional)
  deriving DecidableEq, Repr

namespace Slot

/-- The id the slot's value is kept under. -/
def id : Slot → String
  | .opt o => o.id
  | .positional p => p.id

/-- The slot as errors write it. -/
def spec : Slot → String
  | .opt o => o.spec
  | .positional p => p.spec false

/-- How the slot's value is checked, if it takes one. -/
def check? : Slot → Option ValueCheck
  | .opt o =>
    match o.action with
    | .value _ check _ => some check
    | _ => none
  | .positional p => some p.check

end Slot

/-- Check a value: `none` if it passes, else what is wrong. -/
def ValueCheck.fault? (check : ValueCheck) (arg value : String) : Option Failure :=
  match check with
  | .text => none
  | .nonEmpty => if value = "" then some (.missingValue arg []) else none
  | .oneOf names =>
    if names.contains value then none
    else if value = "" then some (.missingValue arg names)
    else some (.invalidValue value arg names)

/-- How far a command's arguments have been read. -/
structure Progress where
  given : Given := []
  /-- The slot whose values are gathered but not yet taken. -/
  pending : Option (Slot × List String) := none
  /-- Whether the pending option waits for its value as the next argument. -/
  waiting : Bool := false
  /-- How many positional slots are used. -/
  position : Nat := 0
  /-- Whether `--` was given. -/
  escaped : Bool := false
  deriving DecidableEq, Repr

/-- The ids of the arguments given. -/
def Progress.named (st : Progress) : List String := st.given.map Prod.fst

/-- Whether an argument has the form of a long option. -/
def isLongForm (a : String) : Bool := a.startsWith "--" && a.length > 2

/-- Whether an argument has the form of short flags. -/
def isShortForm (a : String) : Bool := a.startsWith "-" && !a.startsWith "--" && a.length > 1

/-- The tip for an unknown argument that was meant as a value. -/
def passAsValueTip (arg : String) : String :=
  "to pass '" ++ arg ++ "' as a value, use '-- " ++ arg ++ "'"

/-- A command as it is read: its subcommands (none for a subcommand), its help and the
version text. -/
structure Context where
  command : Command
  subcommands : List Command
  help : String
  version : String

namespace Context

/-- Whether the command has subcommands. -/
def hasCommands (cx : Context) : Bool := cx.subcommands ≠ []

/-- A usage error of this command, its usage line naming `named`. -/
def failure (cx : Context) (f : Failure) (named : List String) : Stop :=
  .failed ⟨f, some (cx.command.usageFor named cx.hasCommands), cx.command.offersHelp⟩

/-- A usage error of this command without a usage line. -/
def bareFailure (cx : Context) (f : Failure) : Stop :=
  .failed ⟨f, none, cx.command.offersHelp⟩

/-- Take a slot's values: a flag is set, a value is checked and kept, and help or the
version stops reading. Gives the state after, and what stopped reading, if anything. -/
def take (cx : Context) (slot : Slot) (vals : List String) (st : Progress) :
    Progress × Option Stop :=
  let seen := st.named.contains slot.id
  let without := { st with given := st.given.filter (·.1 != slot.id) }
  match slot with
  | .opt { action := .help, .. } => (st, some (.shown cx.help))
  | .opt { action := .version, .. } => (st, some (.shown cx.version))
  | _ =>
    match slot.check? with
    | none =>
      if seen then (without, some (cx.failure (.repeated slot.spec) []))
      else ({ st with given := st.given ++ [(slot.id, none)] }, none)
    | some check =>
      match vals with
      | [] =>
        let choices := match slot with
          | .opt o => o.choices
          | .positional _ => []
        (st, some (cx.bareFailure (.missingValue slot.spec choices)))
      | v :: _ =>
        if seen then (without, some (cx.failure (.repeated slot.spec) []))
        else
          match check.fault? slot.spec v with
          | some f => ({ st with given := st.given ++ [(slot.id, none)] }, some (cx.bareFailure f))
          | none => ({ st with given := st.given ++ [(slot.id, some v)] }, none)

/-- Take the pending values, if any. -/
def settle (cx : Context) (st : Progress) : Progress × Option Stop :=
  match st.pending with
  | none => (st, none)
  | some (slot, vals) => cx.take slot vals { st with pending := none }

/-- Take the pending values, then this slot's. -/
def react (cx : Context) (slot : Slot) (vals : List String) (st : Progress) :
    Except Stop Progress :=
  match cx.settle st with
  | (_, some stop) => .error stop
  | (st, none) =>
    match cx.take slot vals st with
    | (_, some stop) => .error stop
    | (st, none) => .ok { st with waiting := false }

/-- Make a slot pending, waiting for its value. -/
def await (cx : Context) (o : Opt) (st : Progress) : Except Stop Progress :=
  match cx.settle st with
  | (_, some stop) => .error stop
  | (st, none) => .ok { st with pending := some (.opt o, []), waiting := true }

/-- Read a long option, `--name` or `--name=value`. -/
def long (cx : Context) (body : List Char) (st : Progress) : Except Stop Progress :=
  let name := String.ofList (body.takeWhile (· != '='))
  let value := if body.contains '=' then some (String.ofList ((body.dropWhile (· != '=')).drop 1))
    else none
  match cx.command.options.find? (·.long == name) with
  | none =>
    let st := (cx.settle st).1
    let arg := "--" ++ name
    let tip := if cx.command.positionals ≠ [] then some (passAsValueTip arg) else none
    .error (cx.failure (.unknownArgument arg tip) st.named)
  | some o =>
    match o.takesValue, value with
    | true, some v => cx.react (.opt o) [v] st
    | true, none => cx.await o st
    | false, some v =>
      -- only the arguments already taken count, and the group once one of its members is
      let grouped := st.named.any (cx.command.group.contains ·)
      .error (.failed ⟨.unexpectedValue v o.spec,
        some (cx.command.usageNaming (st.named ++ [o.id]) grouped cx.hasCommands),
        cx.command.offersHelp⟩)
    | false, none => cx.react (.opt o) [] st

/-- Read short flags in a row, `-abc`. -/
def shortFlags (cx : Context) : List Char → Progress → Except Stop Progress
  | [], st => .ok { st with waiting := false }
  | c :: rest, st =>
    match cx.command.options.find? (·.short == some c) with
    | none =>
      let st := (cx.settle st).1
      let arg := "-" ++ c.toString
      let tip := if !st.escaped && cx.command.positionals ≠ [] then some (passAsValueTip arg)
        else none
      .error (cx.failure (.unknownArgument arg tip) [])
    | some o =>
      if !o.takesValue then
        match cx.react (.opt o) [] st with
        | .error stop => .error stop
        | .ok st => cx.shortFlags rest st
      else if rest = [] then cx.await o st
      else
        let attached := match rest with
          | '=' :: v => v
          | v => v
        cx.react (.opt o) [String.ofList attached] st

/-- An argument that fits no slot. -/
def stray (cx : Context) (a : String) (st : Progress) : Stop :=
  if st.escaped && cx.subcommands.any (·.name == a) then
    cx.failure (.unknownArgument a
      (some ("subcommand '" ++ a ++ "' exists; to use it, remove the '--' before it"))) []
  else if cx.hasCommands && cx.command.positionals = [] then
    cx.failure (.unrecognizedSubcommand a) []
  else
    let tip := if !st.escaped && cx.command.positionals ≠ [] && (isLongForm a || isShortForm a)
      then some (passAsValueTip a) else none
    cx.failure (.unknownArgument a tip) []

/-- Take what is pending, then start gathering a positional argument's values. -/
def gather (cx : Context) (p : Positional) (a : String) (st : Progress) : Except Stop Progress :=
  match cx.settle st with
  | (_, some stop) => .error stop
  | (st, none) =>
    .ok { st with pending := some (.positional p, [a]), waiting := false,
                  position := if p.repeated then st.position else st.position + 1 }

/-- Read a positional argument. -/
def positional (cx : Context) (a : String) (st : Progress) : Except Stop Progress :=
  match cx.command.positionals[st.position]? with
  | none =>
    let st := (cx.settle st).1
    .error (cx.stray a st)
  | some p =>
    match st.pending with
    | some (.positional q, vals) =>
      if q == p && p.repeated then .ok { st with pending := some (.positional p, vals ++ [a]) }
      else cx.gather p a st
    | _ => cx.gather p a st

/-- Read a command's arguments until the end or a subcommand's name. Gives the state, and
the subcommand's name with the arguments after it. -/
def readArgs (cx : Context) (helpFor : List String → Stop) :
    List String → Progress → Except Stop (Progress × Option (String × List String))
  | [], st =>
    match cx.settle st with
    | (_, some stop) => .error stop
    | (st, none) => .ok (st, none)
  | a :: rest, st =>
    if !st.escaped && !st.waiting && cx.subcommands.any (·.name == a) then
      if a == "help" then .error (helpFor rest) else .ok (st, some (a, rest))
    else if !st.escaped && a == "--" then cx.readArgs helpFor rest { st with escaped := true }
    else
      let step : Except Stop Progress :=
        if !st.escaped && isLongForm a then cx.long (a.toList.drop 2) st
        else if !st.escaped && isShortForm a then cx.shortFlags (a.toList.drop 1) st
        else if !st.escaped && st.waiting then
          .ok { st with pending := st.pending.map (fun sv => (sv.1, sv.2 ++ [a])), waiting := false }
        else cx.positional a st
      match step with
      | .error stop => .error stop
      | .ok st => cx.readArgs helpFor rest st

/-- The options that the given ones require, in order, each once. -/
def requirements (cx : Context) (st : Progress) : List String :=
  (st.named.flatMap fun id =>
    ((cx.command.options.find? (·.id == id)).map (·.requires)).getD []).eraseDups

/-- Check a command whose arguments are all read: every required option is given. -/
def check (cx : Context) (st : Progress) : Except Stop Unit :=
  let required := cx.requirements st
  let missing := required.filter (!st.named.contains ·)
  if missing = [] then .ok ()
  else
    let specs := (missing.filterMap fun id => (cx.command.options.find? (·.id == id)).map Opt.spec)
    .error (cx.failure (.missingRequired specs.eraseDups) (required ++ st.named ++ missing))

/-- Why the root stops when no subcommand was named. -/
def noCommand (cx : Context) (st : Progress) : Stop :=
  if st.given = [] then .helpForEmpty cx.help
  else cx.failure (.missingSubcommand cx.command.name (cx.subcommands.map (·.name))) []

end Context

/-- What a command line asks for: the root's arguments, the subcommand and its arguments. -/
structure Parsed where
  root : Given
  command : String
  own : Given
  deriving DecidableEq, Repr

namespace Grammar

/-- How a command is read in this grammar. -/
def context (g : Grammar) (c : Command) (subcommands : List Command) : Context :=
  ⟨c, subcommands, c.helpText subcommands, g.versionText⟩

/-- What `help` with these command names shows. -/
def helpFor (g : Grammar) (names : List String) : Stop :=
  match names with
  | [] => .shown (g.root.helpText g.subcommands)
  | name :: rest =>
    match g.subcommand? name with
    | none => .failed ⟨.unrecognizedSubcommand name, some (g.root.usage true), true⟩
    | some c =>
      match rest with
      | [] => .shown (c.helpText [])
      | next :: _ => .failed ⟨.unrecognizedSubcommand next, some (c.usage false), c.offersHelp⟩

/-- Read a command line. -/
def read (g : Grammar) (args : List String) : Except Stop Parsed := do
  let top := g.context g.root g.subcommands
  let (st, next) ← top.readArgs g.helpFor args {}
  match next with
  | none => .error (top.noCommand st)
  | some (name, rest) =>
    let c := (g.subcommand? name).getD g.helpCommand
    let cx := g.context c []
    let (own, _) ← cx.readArgs g.helpFor rest {}
    cx.check own
    let st ← match top.settle st with
      | (_, some stop) => .error stop
      | (st, none) => .ok st
    top.check st
    pure ⟨st.given, name, own.given⟩

end Grammar

/-- The value of an argument, if it was given one. -/
def Given.value? (g : Given) (id : String) : Option String :=
  (g.find? (·.1 == id)).bind Prod.snd

/-- Whether an argument was given. -/
def Given.has (g : Given) (id : String) : Bool := g.any (·.1 == id)

end PathHierarchy.Cli
