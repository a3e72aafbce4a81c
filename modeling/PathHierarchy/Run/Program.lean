/-!
# Programs as data

A run of the command line touches its surroundings in a few ways only: it reads and creates
files, asks whether a path exists, reads the clock, appends log lines, reads standard input
and writes to standard output and standard error. A `Program` is a tree of such requests, each followed
by what to do with its answer. It says nothing about how a request is served: the files may
be in memory or on disk, so one program can be run in both places, and proofs about it need
no files at all.
-/

set_option autoImplicit false

namespace PathHierarchy.Run

/-- Why a file could not be read or created. -/
inductive FileFault where
  /-- Nothing is at the path, or a directory on the way is missing. -/
  | notFound
  /-- A directory is at the path. -/
  | isDirectory
  /-- A file stands where the path needs a directory. -/
  | notDirectory
  /-- Another reason, as the system words it. -/
  | other (message : String)
  deriving DecidableEq, Repr

/-- The system's wording of a file fault. -/
def FileFault.message : FileFault → String
  | .notFound => "No such file or directory (os error 2)"
  | .isDirectory => "Is a directory (os error 21)"
  | .notDirectory => "Not a directory (os error 20)"
  | .other message => message

/-- A request to the surroundings, indexed by the type of its answer. -/
inductive Request : Type → Type where
  /-- Read a whole file as text. -/
  | readFile (path : String) : Request (Except FileFault String)
  /-- Create a file, or empty it if it exists. -/
  | createFile (path : String) : Request (Except FileFault Unit)
  /-- Whether something is at a path. -/
  | pathExists (path : String) : Request Bool
  /-- The time now, in nanoseconds since the Unix epoch. -/
  | clock : Request Nat
  /-- Append a log line to a file, or to standard error when no file is named. -/
  | logLine (file : Option String) (line : String) : Request Unit
  /-- Read all of standard input. -/
  | readInput : Request String
  /-- Write to standard output. -/
  | writeOutput (text : String) : Request Unit
  /-- Write to standard error. -/
  | writeError (text : String) : Request Unit

/-- A program: done with a value, or a request and what follows each answer. -/
inductive Program (α : Type) where
  | done (a : α)
  | request {β : Type} (r : Request β) (next : β → Program α)

namespace Program

/-- Run one program, then the one its value chooses. -/
def bind {α β : Type} : Program α → (α → Program β) → Program β
  | .done a, f => f a
  | .request r next, f => .request r fun b => (next b).bind f

instance : Monad Program where
  pure := .done
  bind := bind

/-- The program that makes one request and ends with its answer. -/
def ask {β : Type} (r : Request β) : Program β := .request r .done

/-- Binding the program that ends at once is applying the continuation. -/
theorem done_bind {α β : Type} (a : α) (f : α → Program β) : (done a).bind f = f a := rfl

/-- Binding is associative. -/
theorem bind_assoc {α β γ : Type} (p : Program α) (f : α → Program β) (g : β → Program γ) :
    (p.bind f).bind g = p.bind fun a => (f a).bind g := by
  induction p with
  | done a => rfl
  | request r next ih =>
    simp only [bind]
    congr 1
    funext b
    exact ih b

end Program

/-- Read a file. -/
def readFile (path : String) : Program (Except FileFault String) := .ask (.readFile path)

/-- Create or empty a file. -/
def createFile (path : String) : Program (Except FileFault Unit) := .ask (.createFile path)

/-- Whether something is at a path. -/
def pathExists (path : String) : Program Bool := .ask (.pathExists path)

/-- Read the clock. -/
def clock : Program Nat := .ask .clock

/-- Append a log line. -/
def logLine (file : Option String) (line : String) : Program Unit := .ask (.logLine file line)

/-- Read standard input. -/
def readInput : Program String := .ask .readInput

/-- Write to standard output. -/
def writeOutput (text : String) : Program Unit := .ask (.writeOutput text)

/-- Write to standard error. -/
def writeError (text : String) : Program Unit := .ask (.writeError text)

end PathHierarchy.Run
