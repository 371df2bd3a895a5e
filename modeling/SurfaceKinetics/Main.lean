import SurfaceKinetics.CommandLine.Program

/-!
# The command line

The program on the real files, with the printed text on standard output, the log
on standard error, and the clock for a run without a seed.
-/

namespace SurfaceKinetics.CommandLine

/-- The fault that an error of the system stands for. -/
def faultOf (error : IO.Error) : FileFault :=
  match error with
  | .noFileOrDirectory .. => .missing
  | .alreadyExists .. => .taken
  | .inappropriateType _ code _ => if code = 20 then .notDirectory else .directory
  | error => .other (toString error)

/-- The value of an action, or the fault that prevented it. -/
def attempt {β : Type} (action : IO β) : IO (Except FileFault β) := do
  match ← action.toBaseIO with
  | .ok value => pure (.ok value)
  | .error error => pure (.error (faultOf error))

/-- The text in a file. -/
def readText (path : String) : IO (Except FileFault String) := do
  match ← attempt (IO.FS.readBinFile path) with
  | .error fault => pure (.error fault)
  | .ok bytes =>
    match String.fromUTF8? bytes with
    | some text => pure (.ok text)
    | none => pure (.error .notText)

/-- The address of the notes about a topic. -/
def address (topic : Topic) : String := "kmc." ++ topic.name

/-- The line that shows a note in the log. -/
def logLine (note : Note) : String :=
  s!"[{note.level.name} {address note.topic}] {note.text}"

/-- The console of the running program. -/
def console : Console IO where
  files :=
    { read := readText
      makeDirectories := fun path => attempt (IO.FS.createDirAll path)
      write := fun path content => attempt (IO.FS.writeFile path content) }
  print := IO.print
  log note := IO.eprintln (logLine note)

/-- The variable that holds the rules for the log. -/
def logVariable : String := "KMC_LOG"

/-- More events than any run has. -/
def eventBound : Nat := twoTo 62

/-- Runs the program with options; the answer is its exit code. -/
def start (options : Options) : IO UInt32 := do
  let filter :=
    match ← IO.getEnv logVariable with
    | some text => .byRules (.ofText address text)
    | none => .ofVerbosity options.verbosity
  let clockSeed := (← IO.monoNanosNow).toUInt64
  let setting : Setting := { options, filter, clockSeed }
  match ← (Program.run console setting eventBound).run with
  | .ok () => pure 0
  | .error failure => do
    IO.eprintln failure.text
    pure failure.exitCode

end SurfaceKinetics.CommandLine

open SurfaceKinetics in
def main (arguments : List String) : IO UInt32 :=
  match Options.ofArguments arguments with
  | .ok options => CommandLine.start options
  | .error .help => do
    IO.print Options.help
    pure 0
  | .error (.fault fault) => do
    IO.eprintln ("error: " ++ fault.message)
    pure 2
