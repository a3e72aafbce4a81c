import PathHierarchy.Run.Program

/-!
# Running a program against files in memory

A `Directory` holds the files and folders below one working directory, a few places of the
system around it, what standard input still holds, and what was written to standard output
and standard error. A program is run against it by answering each request in turn.

Paths are read as the system reads them. A relative path starts at the working directory and
an absolute one at the system's root; empty pieces and `.` are skipped and `..` goes up (at
the root it stays there); every piece before the last must be a folder that exists, or the
path leads nowhere: not found if the piece is missing, not a directory if it is a file. A path
that ends in a slash must name a folder. An absolute path through the working directory's own
absolute path, `home`, is read from the working directory. The folders above the working
directory exist, but nothing else is known to be in them: a path climbing there finds folders
and nothing more.

A device, such as `/dev/null`, reads as empty and swallows what is written to it. Log lines
go to their file, each ended by a newline, or to standard error. The clock stands still at
the time the directory holds.
-/

set_option autoImplicit false

namespace PathHierarchy.Run

/-- Files and folders below a working directory, with the standard streams. -/
structure Directory where
  /-- The absolute path of the working directory. -/
  home : String
  /-- The files, by the pieces of their path, with their text. Pieces are relative to the
  working directory, or start with an empty piece for the system's root. -/
  files : List (List String × String) := []
  /-- The folders besides the working directory and the root. -/
  folders : List (List String) := []
  /-- The devices: they read as empty and swallow what is written. -/
  devices : List (List String) := []
  /-- What standard input still holds. -/
  input : String := ""
  /-- The time the clock shows, in nanoseconds since the Unix epoch. -/
  clock : Nat := 0
  output : String := ""
  errors : String := ""
  deriving DecidableEq, Repr

/-- Where a path leads. -/
inductive Place where
  /-- A folder that exists. -/
  | folder (pieces : List String)
  /-- A name in a folder that exists; `asFolder` when the path ends in a slash. -/
  | entry (pieces : List String) (asFolder : Bool)
  /-- The way to it fails. -/
  | nowhere (fault : FileFault)
  deriving DecidableEq, Repr

namespace Directory

/-- Whether a file is at these pieces. -/
def hasFile (d : Directory) (pieces : List String) : Bool := d.files.any (·.1 == pieces)

/-- Whether the pieces climb only above the working directory: `..` one or more times. -/
def isAbove (pieces : List String) : Bool := pieces != [] && pieces.all (· == "..")

/-- Whether a folder is at these pieces; the working directory, the folders above it and the
root are ones. -/
def hasFolder (d : Directory) (pieces : List String) : Bool :=
  pieces == [] || pieces == [""] || isAbove pieces || d.folders.contains pieces

/-- Whether a device is at these pieces. -/
def hasDevice (d : Directory) (pieces : List String) : Bool := d.devices.contains pieces

/-- Follow the pieces of a relative path from the folder `here`. -/
def walk (d : Directory) (here : List String) : List String → Place
  | [] => .folder here
  | piece :: rest =>
    if piece == "" || piece == "." then d.walk here rest
    else if piece == ".." then
      if here == [] || isAbove here then d.walk (here ++ [".."]) rest
      else if here == [""] then d.walk here rest
      else d.walk here.dropLast rest
    else
      let next := here ++ [piece]
      if rest.all (· == "") then .entry next (rest ≠ [])
      else if d.hasFolder next then d.walk next rest
      else if d.hasFile next || d.hasDevice next then .nowhere .notDirectory
      else .nowhere .notFound

/-- The pieces of a path between its slashes. -/
def pathPieces (path : String) : List String := (path.toList.splitOn '/').map String.ofList

/-- Where a path leads. -/
def locate (d : Directory) (path : String) : Place :=
  let pieces := pathPieces path
  let home := pathPieces d.home
  if home.isPrefixOf pieces then d.walk [] (pieces.drop home.length)
  else
    match pieces with
    | "" :: rest => d.walk [""] rest
    | _ => d.walk [] pieces

/-- The text of the file at a path. -/
def readAt (d : Directory) (path : String) : Except FileFault String :=
  match d.locate path with
  | .folder _ => .error .isDirectory
  | .nowhere fault => .error fault
  | .entry pieces asFolder =>
    if d.hasFolder pieces then .error .isDirectory
    else if d.hasDevice pieces then if asFolder then .error .notDirectory else .ok ""
    else
      match d.files.find? (·.1 == pieces) with
      | some file => if asFolder then .error .notDirectory else .ok file.2
      | none => .error .notFound

/-- Create an empty file at a path, or empty the file there. A path that ends in a slash
names a folder, so no file can be created there, whatever is at it. -/
def createAt (d : Directory) (path : String) : Except FileFault Directory :=
  match d.locate path with
  | .folder _ => .error .isDirectory
  | .nowhere fault => .error fault
  | .entry pieces asFolder =>
    if asFolder || d.hasFolder pieces then .error .isDirectory
    else if d.hasDevice pieces then .ok d
    else if d.hasFile pieces then
      .ok { d with files := d.files.map fun f => if f.1 == pieces then (pieces, "") else f }
    else .ok { d with files := d.files ++ [(pieces, "")] }

/-- Whether something is at a path. -/
def existsAt (d : Directory) (path : String) : Bool :=
  match d.locate path with
  | .folder _ => true
  | .nowhere _ => false
  | .entry pieces asFolder =>
    d.hasFolder pieces || (!asFolder && (d.hasFile pieces || d.hasDevice pieces))

/-- Append text to the file at a path, if there is one. -/
def appendAt (d : Directory) (path : String) (text : String) : Directory :=
  match d.locate path with
  | .entry pieces false =>
    { d with files := d.files.map fun f => if f.1 == pieces then (pieces, f.2 ++ text) else f }
  | _ => d

/-- Answer one request. -/
def answer (d : Directory) : {β : Type} → Request β → β × Directory
  | _, .readFile path => (d.readAt path, d)
  | _, .createFile path =>
    match d.createAt path with
    | .ok d' => (.ok (), d')
    | .error fault => (.error fault, d)
  | _, .pathExists path => (d.existsAt path, d)
  | _, .clock => (d.clock, d)
  | _, .logLine (some path) line => ((), d.appendAt path (line ++ "\n"))
  | _, .logLine none line => ((), { d with errors := d.errors ++ line ++ "\n" })
  | _, .readInput => (d.input, { d with input := "" })
  | _, .writeOutput text => ((), { d with output := d.output ++ text })
  | _, .writeError text => ((), { d with errors := d.errors ++ text })

/-- Run a program against the directory: its value and the directory after. -/
def serve {α : Type} : Program α → Directory → α × Directory
  | .done a, d => (a, d)
  | .request r next, d =>
    let (b, d') := d.answer r
    serve (next b) d'

/-- The folders at the top of the system, as every run finds them. -/
def systemFolders : List (List String) :=
  ["bin", "boot", "dev", "etc", "home", "lib", "lib64", "media", "mnt", "opt", "proc", "root",
    "run", "sbin", "srv", "sys", "tmp", "usr", "var"].map fun name => ["", name]

/-- A working directory at the absolute path `home` holding these folders and files, by
relative path, with the folders on their way, on a system that also has its usual top folders and the device `/dev/null`. -/
def ofFiles (home : String) (folders : List String) (files : List (String × String))
    (input : String) : Directory :=
  let pieces := pathPieces
  let entries := files.map fun f => (pieces f.1, f.2)
  let onTheWay := entries.flatMap fun e => (List.range (e.1.length - 1)).map fun n => e.1.take (n + 1)
  { home, files := entries, folders := (folders.map pieces ++ onTheWay).eraseDups ++ systemFolders,
    devices := [["", "dev", "null"]], input }

/-- The text of the file at a path, if there is one. -/
def read? (d : Directory) (path : String) : Option String :=
  match d.readAt path with
  | .ok text => some text
  | .error _ => none

end Directory

end PathHierarchy.Run
