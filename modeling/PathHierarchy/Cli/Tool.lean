import PathHierarchy.Cli.Read

/-!
# The command line of `pathtree`

`pathtree` has four commands: `build` reads entries and prints their forest, `normalize`
prints a selection payload in normal form, `schema` prints the JSON Schema of the settings
file, and `dump-config` prints the settings in effect. The root's options, a settings file,
a log file and `-v`, are understood by every command; when one is given both before and
after the command's name, the later one counts.
-/

set_option autoImplicit false

namespace PathHierarchy.Cli

/-- The option that shows a command's help. -/
def helpOption : Opt :=
  { id := "help", long := "help", short := some 'h', action := .help, about := "Print help",
    order := 999 }

/-- The command line of `pathtree`. -/
def tool : Grammar where
  root :=
    { name := "pathtree"
      usageName := "pathtree"
      about := "Build hierarchical select trees from delimited path strings"
      options := [
        { id := "config", long := "config", action := .value "PATH" .nonEmpty none,
          about := "Path to configuration file", order := 0, global := true },
        { id := "log_file", long := "log-file", action := .value "PATH" .nonEmpty none,
          about := "Path to log file (default: stderr)", order := 1, global := true },
        { id := "verbose", long := "verbose", short := some 'v', action := .flag,
          about := "Log debug events (RUST_LOG takes precedence)", order := 2, global := true },
        helpOption,
        { id := "version", long := "version", short := some 'V', action := .version,
          about := "Print version", order := 999 }]
      group := ["config", "log_file", "verbose"] }
  commands := [
    { name := "build"
      usageName := "pathtree build"
      about := "Build a tree from a JSON array of paths, labeled values, or row objects"
      options := [
        { id := "column", long := "column", action := .value "COLUMN" .text none,
          about := "Treat the input as row objects and take paths from this column", order := 0 },
        { id := "label_column", long := "label-column", action := .value "COLUMN" .text none,
          about := "Column holding the leaf label for each row", order := 1,
          requires := ["column"] },
        { id := "sorted", long := "sorted", action := .flag,
          about := "Sort children by value instead of keeping insertion order", order := 2 },
        { id := "delimiter", long := "delimiter", action := .value "DELIMITER" .text none,
          about := "Fixed delimiter: auto, slash, dot, or a single character", order := 3 },
        { id := "degenerate_roots", long := "degenerate-roots", action := .flag,
          about := "Keep raw paths made only of delimiters as single root nodes", order := 4 },
        { id := "selectable", long := "selectable", action := .flag,
          about := "Mark every node selectable", order := 5 },
        { id := "format", long := "format",
          action := .value "FORMAT" (.oneOf ["json", "text"]) (some "json"),
          about := "Output format", order := 6 },
        helpOption]
      positionals := [⟨"input", "INPUT", .nonEmpty, "Input file. Use \"-\" or omit for stdin", false⟩]
      group := ["input", "column", "label_column", "sorted", "delimiter", "degenerate_roots",
        "selectable", "format"] },
    { name := "normalize"
      usageName := "pathtree normalize"
      about := "Normalize a selection payload given as JSON"
      options := [helpOption]
      positionals := [⟨"payload", "JSON", .text, "JSON payload; read from stdin when omitted", false⟩]
      group := ["payload"] },
    { name := "schema"
      usageName := "pathtree schema"
      about := "Print the JSON Schema of the config file"
      options := [helpOption] },
    { name := "dump-config"
      usageName := "pathtree dump-config"
      about := "Print the effective configuration as JSON"
      options := [helpOption] }]
  version := "0.1.0"

/-- How `build` prints the forest. -/
inductive OutputFormat where
  | json
  | text
  deriving DecidableEq, Repr

/-- What `build` was asked to do. -/
structure BuildRequest where
  input : Option String
  column : Option String
  labelColumn : Option String
  sorted : Bool
  delimiter : Option String
  degenerateRoots : Bool
  selectable : Bool
  format : OutputFormat
  deriving DecidableEq, Repr

/-- The command to run. -/
inductive Task where
  | build (r : BuildRequest)
  | normalize (payload : Option String)
  | schema
  | dumpConfig
  deriving DecidableEq, Repr

/-- A command line that can run: the options every command understands, and the task. -/
structure Invocation where
  settingsFile : Option String
  logFile : Option String
  verbose : Bool
  task : Task
  deriving DecidableEq, Repr

/-- The invocation a parsed command line stands for. -/
def Invocation.ofParsed (p : Parsed) : Invocation where
  settingsFile := (p.own.value? "config").orElse fun _ => p.root.value? "config"
  logFile := (p.own.value? "log_file").orElse fun _ => p.root.value? "log_file"
  verbose := p.own.has "verbose" || p.root.has "verbose"
  task :=
    match p.command with
    | "build" => .build
      { input := p.own.value? "input"
        column := p.own.value? "column"
        labelColumn := p.own.value? "label_column"
        sorted := p.own.has "sorted"
        delimiter := p.own.value? "delimiter"
        degenerateRoots := p.own.has "degenerate_roots"
        selectable := p.own.has "selectable"
        format := if p.own.value? "format" == some "text" then .text else .json }
    | "normalize" => .normalize (p.own.value? "payload")
    | "schema" => .schema
    | _ => .dumpConfig

end PathHierarchy.Cli
