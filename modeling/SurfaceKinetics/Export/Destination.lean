import SurfaceKinetics.Export.HeightMap
import SurfaceKinetics.Export.TimeSeries
import SurfaceKinetics.Files.Host
import SurfaceKinetics.Note

/-!
# Destinations

An export goes to a file.  The file is emptied before the exported text is asked
for, so that an export without a text leaves an empty file behind.
-/

namespace SurfaceKinetics

/-- Why an export to a file fails. -/
inductive DestinationFault where
  | refused (fault : ExportFault)
  | file (fault : FileFault)

/-- The message of a fault and those of its causes. -/
def DestinationFault.chain : DestinationFault → List String
  | refused fault => [fault.message]
  | file fault => ["I/O error: " ++ fault.message, fault.message]

namespace Destination

variable {m : Type → Type} [Monad m]

/-- Empties a file and then writes a text to it, if there is one. -/
def fill
    (host : FileHost m)
    (path : String)
    (content : Except ExportFault String) :
    m (Except DestinationFault Unit) := do
  match ← host.write path "" with
  | .error fault => pure (.error (.file fault))
  | .ok () =>
    match content with
    | .error fault => pure (.error (.refused fault))
    | .ok text =>
      match ← host.write path text with
      | .error fault => pure (.error (.file fault))
      | .ok () => pure (.ok ())

end Destination

variable {m : Type → Type} [Monad m] {α : Type} [Quantity α]

/-- Writes the table of a result to a file. -/
def TimeSeries.writeTo
    (host : FileHost m)
    (path : String)
    (format : TimeSeries.Format α)
    (result : SimulationResult α)
    (count : Option Nat) :
    m (Except DestinationFault Unit) :=
  Destination.fill host path (TimeSeries.write format result count)

/-- Writes the height map of a lattice to a file. -/
def HeightMap.writeTo
    (host : FileHost m)
    (path : String)
    (delimiter : Char)
    (lattice : Lattice)
    (time : α) :
    m (Except DestinationFault Unit) :=
  Destination.fill host path (HeightMap.write delimiter lattice time)

/-- The note about a table that has been written. -/
def TimeSeries.writtenNote (path : String) : Note :=
  ⟨.timeSeries, .info, "Time series written to " ++ path⟩

/-- The note about a height map that has been written. -/
def HeightMap.writtenNote (path : String) : Note :=
  ⟨.heightMap, .info, "Height map written to " ++ path⟩

end SurfaceKinetics
