import PathHierarchy.Cli.Tool
import PathHierarchy.Log.Event
import PathHierarchy.Log.Stamp
import PathHierarchy.Run.Program
import PathHierarchy.Settings.OfText
import PathHierarchy.Settings.Schema
import PathHierarchy.Forest.Build
import PathHierarchy.Selection
import PathHierarchy.Json.Debug

/-!
# A run of `pathtree`

A run reads its command line; a usage error ends it with exit code 2, and help or the
version with 0. Otherwise it opens the log file if one is named, reads the log filter, and
finds its settings: from the file named on the command line, else from the user's settings
file if there is one, else the defaults. Then it runs the command. A failure on the way
ends the run with exit code 1 and `Error:` on standard error, followed by its cause.

Log events are written to the log file, or to standard error without one, when the filter
lets them through, each stamped with the time the clock shows. The filter's default level is `warn`, or `debug` with `-v`; a filter set
in the surroundings takes its place.
-/

set_option autoImplicit false

namespace PathHierarchy.Run

open Cli Log Settings Forest Json

/-- What a run knows of its surroundings besides files. -/
structure Environment where
  /-- The text of the log filter, if one is set. -/
  logFilter : Option String := none
  /-- Where the user's settings file would be, if there is a place for one. -/
  userSettings : Option String := none
  deriving DecidableEq, Repr

/-- What ends a run with exit code 1: a message and its cause, if any. -/
structure Failure where
  message : String
  cause : Option String := none
  deriving DecidableEq, Repr

/-- The text a failure writes to standard error. -/
def Failure.text (f : Failure) : String :=
  "Error: " ++ f.message ++
    (match f.cause with
      | some c => "\n\nCaused by:\n    " ++ c
      | none => "") ++ "\n"

/-- The steps of a run that may fail. -/
abbrev Steps := ExceptT Failure Program

/-- Stop the run with a message and no cause. -/
def failWith {α : Type} (message : String) : Steps α := throw { message }

/-- Where the settings of a run came from. -/
inductive SettingsSource where
  | explicit (path : String)
  | user (path : String)
  | defaults
  deriving DecidableEq, Repr

/-- The source as the log writes it. -/
def SettingsSource.debug : SettingsSource → String
  | .explicit path => "Explicit(" ++ Text.quotePath path ++ ")"
  | .user path => "User(" ++ Text.quotePath path ++ ")"
  | .defaults => "Defaults"

/-- Which log events are written, and where. -/
structure Logger where
  filter : Filter
  /-- The log file; none writes to standard error. -/
  file : Option String

/-- Write an event if the filter lets it through, stamped with the time. -/
def Logger.note (l : Logger) (e : Event) : Steps Unit :=
  if e.passes l.filter then
    ExceptT.lift do
      let now ← clock
      logLine l.file (stamp now ++ " " ++ e.line)
  else pure ()

/-- The target of the builder's events. -/
def builderTarget : String := "pathtree::tree::builder"

/-- The event of a builder's note. -/
def noteEvent : BuildNote → Event
  | .unusable e => ⟨.debug, builderTarget, "skipping entry without a usable path",
      [("entry", e.debug)]⟩
  | .created v => ⟨.trace, builderTarget, "creating node " ++ v, []⟩
  | .noSegments path => ⟨.debug, builderTarget, "skipping path with no segments",
      [("path", Text.quote path)]⟩
  | .built accepted skipped roots ordering => ⟨.debug, builderTarget, "built path tree",
      [("accepted", toString accepted), ("skipped", toString skipped),
        ("roots", toString roots), ("ordering", ordering.debug)]⟩

/-- The event of settings read from a file. -/
def loadedEvent (user : Bool) (path : String) : Event :=
  ⟨.debug, "pathtree::config_io",
    (if user then "Loaded user config from " else "Loaded config from ") ++ path, []⟩

/-- The event of the settings' source. -/
def resolvedEvent (source : SettingsSource) : Event :=
  ⟨.debug, "pathtree", "resolved configuration", [("source", source.debug)]⟩

/-- The event of a forest built. -/
def treeBuiltEvent (nodes : Nat) : Event :=
  ⟨.info, "pathtree", "tree built", [("nodes", toString nodes)]⟩

/-- The event of a selection payload of a shape that is not supported. -/
def unsupportedEvent (raw : Value) : Event :=
  ⟨.debug, "pathtree::selection", "unsupported selection payload, treating as cleared",
    [("raw", raw.debug)]⟩

/-- Read and check a settings file. -/
def loadSettings (path : String) : Steps Settings := do
  match ← ExceptT.lift (readFile path) with
  | .error fault => failWith (SettingsError.io fault.message).message
  | .ok text =>
    match Settings.load text with
    | .error e => failWith e.message
    | .ok s => pure s

/-- Find the settings: the file named, else the user's file if it exists, else defaults. -/
def resolveSettings (log : Logger) (named user : Option String) :
    Steps (Settings × SettingsSource) := do
  match named with
  | some path =>
    let s ← loadSettings path
    log.note (loadedEvent false path)
    pure (s, .explicit path)
  | none =>
    match user with
    | none => pure ({}, .defaults)
    | some path =>
      if ← ExceptT.lift (pathExists path) then
        let s ← loadSettings path
        log.note (loadedEvent true path)
        pure (s, .user path)
      else pure ({}, .defaults)

/-- Whether a path names standard input: `-`, with only slashes and `.` after it. -/
def namesStandardInput (path : String) : Bool :=
  match path.toList.splitOn '/' with
  | first :: rest => first == ['-'] && rest.all fun piece => piece == [] || piece == ['.']
  | [] => false

/-- The text of the entries: the file named, or standard input. -/
def readEntriesText (input : Option String) : Steps String := do
  match input with
  | some path =>
    if namesStandardInput path then ExceptT.lift readInput
    else
      match ← ExceptT.lift (readFile path) with
      | .error fault => throw { message := "Failed to read " ++ path, cause := some fault.message }
      | .ok text => pure text
  | none => ExceptT.lift readInput

/-- The settings with the command line's choices laid over them, checked. -/
def overlaid (r : BuildRequest) (s : Settings) : Except SettingsError Settings := do
  let s := if r.sorted then { s with ordering := .sorted } else s
  let s ← match r.delimiter with
    | some d => do
      let choice ← DelimiterChoice.parse d
      pure { s with delimiter := choice }
    | none => pure s
  let s := if r.degenerateRoots then { s with emptyPaths := .degenerateRoot } else s
  let s := if r.selectable then { s with selectable := true } else s
  s.validate
  pure s

/-- Run `build`. -/
def runBuild (log : Logger) (s : Settings) (r : BuildRequest) : Steps Unit := do
  let s ← match overlaid r s with
    | .ok s => pure s
    | .error e => failWith e.message
  let text ← readEntriesText r.input
  let entries ← match Entry.listOfText text r.column r.labelColumn with
    | .ok entries => pure entries
    | .error e => throw { message := "Failed to parse input entries", cause := some (e.messageIn text) }
  let b := s.builder
  (b.notes entries).forM fun n => log.note (noteEvent n)
  let forest := b.build entries
  log.note (treeBuiltEvent forest.nodeCount)
  match r.format with
  | .json => ExceptT.lift (writeOutput (forest.toJson.writePretty ++ "\n"))
  | .text => ExceptT.lift (writeOutput forest.render)

/-- Run `normalize`: blank text is a selection never made. -/
def runNormalize (log : Logger) (payload : Option String) : Steps Unit := do
  let text ← match payload with
    | some p => pure p
    | none => ExceptT.lift readInput
  if Text.trimBlank text = "" then ExceptT.lift (writeOutput "undefined\n")
  else
    match Value.ofText text with
    | .error e =>
      throw { message := "Selection payload is not valid JSON", cause := some (e.messageIn text) }
    | .ok v =>
      if Selection.unsupported (some v) then log.note (unsupportedEvent v)
      let shown := match (Selection.normalize (some v)).toJson? with
        | some j => j.write
        | none => "undefined"
      ExceptT.lift (writeOutput (shown ++ "\n"))

/-- Run a command line that was read. -/
def session (env : Environment) (inv : Invocation) : Steps Unit := do
  match inv.logFile with
  | some path =>
    match ← ExceptT.lift (createFile path) with
    | .error fault => throw { message := "Failed to open log file", cause := some fault.message }
    | .ok () => pure ()
  | none => pure ()
  let (filter, notes) := Filter.read (env.logFilter.getD "") (if inv.verbose then .debug else .warn)
  notes.forM fun n => ExceptT.lift (writeError n)
  let log : Logger := ⟨filter, inv.logFile⟩
  let (s, source) ← resolveSettings log inv.settingsFile env.userSettings
  log.note (resolvedEvent source)
  match inv.task with
  | .build r => runBuild log s r
  | .normalize payload => runNormalize log payload
  | .schema => ExceptT.lift (writeOutput (schema.writePretty ++ "\n"))
  | .dumpConfig => ExceptT.lift (writeOutput (s.toJson.writePretty ++ "\n"))

/-- A run of the command line, ending with its exit code. -/
def run (env : Environment) (args : List String) : Program Nat :=
  match tool.read args with
  | .error (.shown text) => do writeOutput text; pure 0
  | .error (.helpForEmpty text) => do writeError text; pure 2
  | .error (.failed e) => do writeError e.text; pure 2
  | .ok parsed => do
    match ← (session env (Invocation.ofParsed parsed)).run with
    | .ok () => pure 0
    | .error f => do writeError f.text; pure 1

end PathHierarchy.Run
