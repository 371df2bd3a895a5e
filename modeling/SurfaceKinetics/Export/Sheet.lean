/-!
# Sheets

What is exported is a sheet of lines, or a fault that keeps it from being written.  The
lines are handed to a writer one by one.  A writer takes texts in any monad; one in
memory joins them.
-/

namespace SurfaceKinetics

/-- Why a result cannot be written. -/
inductive ExportFault where
  | noSamples
  | notFinite (column : String) (row : Nat)
  deriving DecidableEq

/-- A word for the kind of a fault. -/
def ExportFault.kind : ExportFault → String
  | noSamples => "EmptyResult"
  | notFinite .. => "InvalidData"

def ExportFault.message : ExportFault → String
  | noSamples => "Simulation result contains no samples"
  | notFinite column row =>
    s!"Non-finite value in column '{column}' at row {row}"

namespace Sheet

/-- A line with its end. -/
def terminated (line : String) : String := line ++ "\n"

section Writers

variable {m : Type → Type} [Monad m] (put : String → m Unit)

/-- Hands a line with its end to a writer. -/
def handLine (line : String) : m Unit := put (terminated line)

/-- Hands lines to a writer, one after the other. -/
def handLines (lines : List String) : m Unit := forM lines (handLine put)

end Writers

/-- The writer in memory: the state is what it has been handed. -/
def collect (text : String) : StateM String Unit := modify (· ++ text)

/-- What the writer in memory has been handed, unless there was a fault. -/
def collected
    (written : StateM String (Except ExportFault Unit)) :
    Except ExportFault String :=
  let (outcome, text) := written.run ""
  outcome.map fun () => text

end Sheet

end SurfaceKinetics
