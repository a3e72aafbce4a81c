import PathHierarchy.Run.Session
import Std.Time

/-!
# The `pathtree` executable

Serves a run's requests with the real files and streams. The log filter comes from
`RUST_LOG`, and the user's settings file is `pathtree/config.json` in the configuration
directory: `XDG_CONFIG_HOME` when it is an absolute path, else `.config` in `HOME`.
-/

set_option autoImplicit false

namespace PathHierarchy.Run

/-- The fault of a failed file operation. -/
def faultOf (e : IO.Error) : FileFault :=
  match e with
  | .noFileOrDirectory .. => .notFound
  | .inappropriateType _ code _ =>
    if code == 21 then .isDirectory else if code == 20 then .notDirectory else .other (toString e)
  | _ => .other (toString e)

/-- All that standard input holds. -/
partial def readAllInput (stream : IO.FS.Stream) (acc : String) : IO String := do
  let line ← stream.getLine
  if line.isEmpty then pure acc else readAllInput stream (acc ++ line)

/-- Serve one request with the real files and streams. -/
def serveRequest : {β : Type} → Request β → IO β
  | _, .readFile path => do
    try pure (.ok (← IO.FS.readFile path)) catch e => pure (.error (faultOf e))
  | _, .createFile path => do
    try
      IO.FS.writeFile path ""
      pure (.ok ())
    catch e => pure (.error (faultOf e))
  | _, .pathExists path => do
    try
      let _ ← IO.FS.readFile path
      pure true
    catch e =>
      match faultOf e with
      | .notFound => pure false
      | .notDirectory => pure false
      | _ => pure true
  | _, .clock => do
    let now ← Std.Time.Timestamp.now
    pure now.toNanosecondsSinceUnixEpoch.val.toNat
  | _, .logLine (some path) line => do
    try IO.FS.withFile path .append fun h => h.putStr (line ++ "\n") catch _ => pure ()
  | _, .logLine none line => do
    let err ← IO.getStderr
    err.putStr (line ++ "\n")
  | _, .readInput => do readAllInput (← IO.getStdin) ""
  | _, .writeOutput text => do
    let out ← IO.getStdout
    out.putStr text
    out.flush
  | _, .writeError text => do
    let err ← IO.getStderr
    err.putStr text
    err.flush

/-- Run a program with the real files and streams. -/
def perform {α : Type} : Program α → IO α
  | .done a => pure a
  | .request r next => do
    let b ← serveRequest r
    perform (next b)

end PathHierarchy.Run

open PathHierarchy.Run in
/-- Run `pathtree` on the command line's arguments. -/
def main (args : List String) : IO UInt32 := do
  let logFilter ← IO.getEnv "RUST_LOG"
  let home ← IO.getEnv "HOME"
  let configHome ← IO.getEnv "XDG_CONFIG_HOME"
  let configDir := match configHome with
    | some dir => if dir.startsWith "/" then some dir else home.map (· ++ "/.config")
    | none => home.map (· ++ "/.config")
  let env : Environment := { logFilter, userSettings := configDir.map (· ++ "/pathtree/config.json") }
  let code ← perform (run env args)
  pure code.toUInt32
