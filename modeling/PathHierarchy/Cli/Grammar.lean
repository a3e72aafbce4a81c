/-!
# Command-line grammars

A command line is read against a grammar of two levels: a root command with options, and
subcommands with options and at most a few positional arguments. Options marked global on
the root are also understood by every subcommand. A command named `help` is always there
besides the declared ones: it shows the help of the commands named after it.

Every option has a long name (`--config`) and may have a one-letter short name (`-v`). An
option either is a flag, takes one value, or shows the help or the version. A value may be
checked: text that must not be empty, as for file paths, or one of a list of names.
-/

set_option autoImplicit false

namespace PathHierarchy.Cli

/-- How an option's or a positional argument's value is checked. -/
inductive ValueCheck where
  /-- Any text. -/
  | text
  /-- Any text but the empty one. -/
  | nonEmpty
  /-- One of these names. -/
  | oneOf (names : List String)
  deriving DecidableEq, Repr

/-- What an option does when it is given. -/
inductive Action where
  /-- Turns a switch on. -/
  | flag
  /-- Takes one value, shown in help as `<name>`; `default` is the value when not given. -/
  | value (name : String) (check : ValueCheck) (default : Option String)
  /-- Shows the command's help. -/
  | help
  /-- Shows the program's version. -/
  | version
  deriving DecidableEq, Repr

/-- An option of a command. -/
structure Opt where
  /-- The name the option's value is kept under. -/
  id : String
  long : String
  short : Option Char := none
  action : Action
  /-- One line of help. -/
  about : String
  /-- Where the option stands in help: by this number first, then by name. -/
  order : Nat
  /-- Whether subcommands understand it too. -/
  global : Bool := false
  /-- The ids of the options that must be given with this one. -/
  requires : List String := []
  deriving DecidableEq, Repr

/-- A positional argument of a command. -/
structure Positional where
  id : String
  /-- Its name in help and usage, such as `INPUT`. -/
  valueName : String
  check : ValueCheck
  about : String
  /-- Whether it takes every remaining argument. -/
  repeated : Bool := false
  deriving DecidableEq, Repr

/-- A command: the root or a subcommand. -/
structure Command where
  name : String
  /-- The words that start its usage line, such as `pathtree build`. -/
  usageName : String
  about : String
  options : List Opt
  positionals : List Positional := []
  /-- The ids of the arguments declared together as the command's own, in order. Some usage
  lines name them as one group, `<INPUT|--column <COLUMN>|...>`. -/
  group : List String := []
  deriving DecidableEq, Repr

/-- A whole command line: the root and its subcommands, in the order shown in help. -/
structure Grammar where
  root : Command
  commands : List Command
  version : String
  deriving DecidableEq, Repr

namespace Opt

/-- Whether the option takes a value. -/
def takesValue (o : Opt) : Bool :=
  match o.action with
  | .value .. => true
  | _ => false

/-- The option as errors and usage lines write it: `--long`, with `<NAME>` if it takes a
value. -/
def spec (o : Opt) : String :=
  "--" ++ o.long ++ match o.action with
    | .value name _ _ => " <" ++ name ++ ">"
    | _ => ""

/-- The names a value may take, when they are fixed. -/
def choices (o : Opt) : List String :=
  match o.action with
  | .value _ (.oneOf names) _ => names
  | _ => []

end Opt

namespace Positional

/-- The positional argument as written in usage: `<NAME>` when given or required, else
`[NAME]`, with `...` when it takes every remaining argument. -/
def spec (p : Positional) (required : Bool) : String :=
  (if required then "<" ++ p.valueName ++ ">" else "[" ++ p.valueName ++ "]") ++
    if p.repeated then "..." else ""

end Positional

namespace Grammar

/-- The root's options that subcommands understand too. -/
def globals (g : Grammar) : List Opt := g.root.options.filter (·.global)

/-- The command that shows help: it takes the names of the commands to explain. -/
def helpCommand (g : Grammar) : Command where
  name := "help"
  usageName := g.root.usageName ++ " help"
  about := "Print this message or the help of the given subcommand(s)"
  options := []
  positionals := [⟨"subcommand", "COMMAND", .text, "Print help for the subcommand(s)", true⟩]

/-- Every subcommand as it is read: the root's global options come first. -/
def subcommands (g : Grammar) : List Command :=
  g.commands.map (fun c => { c with options := g.globals ++ c.options }) ++ [g.helpCommand]

/-- The subcommand of a name. -/
def subcommand? (g : Grammar) (name : String) : Option Command :=
  g.subcommands.find? (·.name == name)

/-- The names of all subcommands, `help` last. -/
def commandNames (g : Grammar) : List String := g.subcommands.map (·.name)

/-- The version line. -/
def versionText (g : Grammar) : String := g.root.name ++ " " ++ g.version ++ "\n"

end Grammar

end PathHierarchy.Cli
