import PathHierarchy.Cli.Grammar

/-!
# Help and usage lines

A usage line names the command, then `[OPTIONS]` if it has options besides help and
version, then its positional arguments, then `<COMMAND>` for the root. When an error
concerns particular arguments, the usage line names those instead of `[OPTIONS]`. The
arguments a command declares together form a group; a usage line for a value given to a
flag that takes none, once a member of the group is named, shows the whole group as one
`<A|B|...>` after the named options, in place of its members.

Help is the command's description, its usage line, then up to three sections: the
subcommands, the positional arguments and the options. Each section is a column of names,
padded two spaces past the longest, followed by one line of help. Options come in the order
of their numbers, and within one number by short name, or long name if they have no short
one; an option with a fixed default or fixed choices lists them after its help.
-/

set_option autoImplicit false

namespace PathHierarchy.Cli

/-- A run of spaces. -/
def spaces (n : Nat) : String := String.ofList (List.replicate n ' ')

/-- A name padded to a column `width` wide, plus the two spaces that end every column. -/
def padded (name : String) (width : Nat) : String := name ++ spaces (width + 2 - name.length)

namespace Opt

/-- The key that orders options of the same number: the short name in lower case, marked
`0` for a lower-case letter and `1` otherwise, or else the long name. -/
def sortKey (o : Opt) : String :=
  match o.short with
  | some c => String.ofList [c.toLower, if c.isLower then '0' else '1']
  | none => o.long

/-- Whether an option is shown no later than another. -/
def shownBefore (a b : Opt) : Bool :=
  a.order < b.order || (a.order == b.order && !decide (b.sortKey < a.sortKey))

/-- The default and the choices of an option, as help lists them. -/
def notes (o : Opt) : List String :=
  match o.action with
  | .value _ check default =>
    (default.map fun d => "[default: " ++ d ++ "]").toList ++
      match check with
      | .oneOf names => ["[possible values: " ++ ", ".intercalate names ++ "]"]
      | _ => []
  | _ => []

/-- The option's help line, its name column `width` wide. -/
def helpLine (o : Opt) (width : Nat) : String :=
  "  " ++ (match o.short with
    | some c => "-" ++ c.toString ++ ", "
    | none => "    ") ++
  padded o.spec width ++ " ".intercalate (o.about :: o.notes)

end Opt

/-- The width of a column of names: the longest name, and at least two. -/
def columnWidth (names : List String) : Nat := names.foldl (fun w s => max w s.length) 2

/-- The help lines of options, in the order help shows them. -/
def optionLines (opts : List Opt) : List String :=
  let width := columnWidth (opts.map Opt.spec)
  (opts.mergeSort Opt.shownBefore).map (·.helpLine width)

/-- The help lines of positional arguments. -/
def positionalLines (ps : List Positional) : List String :=
  let width := columnWidth (ps.map (·.spec false))
  ps.map fun p => "  " ++ padded (p.spec false) width ++ p.about

/-- The help lines of subcommands. -/
def commandLines (cs : List Command) : List String :=
  let width := columnWidth (cs.map (·.name))
  cs.map fun c => "  " ++ padded c.name width ++ c.about

namespace Command

/-- Whether the command has an option besides help and version. -/
def hasPlainOptions (c : Command) : Bool :=
  c.options.any fun o =>
    match o.action with
    | .flag => true
    | .value .. => true
    | _ => false

/-- Whether the command has a help option. -/
def offersHelp (c : Command) : Bool :=
  c.options.any fun o =>
    match o.action with
    | .help => true
    | _ => false

/-- The usage line of help: `withCommands` adds `<COMMAND>`. -/
def usage (c : Command) (withCommands : Bool) : String :=
  c.usageName ++ (if c.hasPlainOptions then " [OPTIONS]" else "") ++
    String.join (c.positionals.map fun p => " " ++ p.spec false) ++
    if withCommands then " <COMMAND>" else ""

/-- The command's group as one usage item: its positional arguments by name and its options
as usage lines write them, between `|`, in angle brackets. -/
def groupSpec (c : Command) : String :=
  let members := c.group.filterMap fun id =>
    match c.positionals.find? (·.id == id) with
    | some p => some p.valueName
    | none => (c.options.find? (·.id == id)).map Opt.spec
  "<" ++ "|".intercalate members ++ ">"

/-- The usage line that names some arguments: the named options, each once, in the order
named, then every positional argument in its place, written as required when named. With
`grouped`, the group stands for its members, after the other options. -/
def usageNaming (c : Command) (named : List String) (grouped withCommands : Bool) : String :=
  let own := fun (id : String) => grouped && c.group.contains id
  let opts := (named.filterMap fun id =>
    if own id then none else (c.options.find? (·.id == id)).map Opt.spec).eraseDups
  c.usageName ++ String.join (opts.map (" " ++ ·)) ++
    (if grouped then " " ++ c.groupSpec else "") ++
    String.join ((c.positionals.filter (!own ·.id)).map fun p => " " ++ p.spec (named.contains p.id)) ++
    if withCommands then " <COMMAND>" else ""

/-- The usage line of an error about the named arguments; with none named it is the usage
line of help. -/
def usageFor (c : Command) (named : List String) (withCommands : Bool) : String :=
  if named = [] then c.usage withCommands else c.usageNaming named false withCommands

/-- The help of a command, given its subcommands (none for a subcommand). -/
def helpText (c : Command) (subcommands : List Command) : String :=
  let sections :=
    (if subcommands = [] then [] else ["Commands:\n" ++ "\n".intercalate (commandLines subcommands)]) ++
    (if c.positionals = [] then [] else
      ["Arguments:\n" ++ "\n".intercalate (positionalLines c.positionals)]) ++
    (if c.options = [] then [] else ["Options:\n" ++ "\n".intercalate (optionLines c.options)])
  c.about ++ "\n\nUsage: " ++ c.usage (subcommands ≠ []) ++ "\n\n" ++
    "\n\n".intercalate sections ++ "\n"

end Command

end PathHierarchy.Cli
