import SurfaceKinetics.Export.Sheet
import SurfaceKinetics.Lattice.Basic
import SurfaceKinetics.Quantity

/-!
# Height maps

The heights of a lattice as a text: a header line with the time, and one line
per row of the lattice.
-/

namespace SurfaceKinetics.HeightMap

/-- The usual delimiter. -/
def space : Char := ' '

/-- The heights of one row. -/
def rowLine (delimiter : Char) (row : List Int) : String :=
  delimiter.toString.intercalate (row.map Style.signedText)

/-- Heights cut into rows of a number of columns; the last row may be shorter. -/
def rowsOf (columns : Nat) (heights : List Int) : List (List Int) :=
  (List.range ((heights.length + columns - 1) / columns)).map fun row =>
    (heights.drop (row * columns)).take columns

variable {α : Type} [Quantity α]

/-- The line with the time of a lattice. -/
def headerLine (time : α) : String := "Time (s): " ++ Quantity.plain time

/-- Hands the height map of a lattice at a time to a writer. -/
def handTo
    {m : Type → Type}
    [Monad m]
    (put : String → m Unit)
    (delimiter : Char)
    (lattice : Lattice)
    (time : α) :
    m (Except ExportFault Unit) :=
  if lattice.size = 0 then
    pure (.error .noSamples)
  else if !Quantity.isFinite time then
    pure (.error (.notFinite "Time (s)" 0))
  else do
    Sheet.handLine put (headerLine time)
    forM (rowsOf lattice.config.columns lattice.heights) fun row =>
      Sheet.handLine put (rowLine delimiter row)
    pure (.ok ())

/-- The height map of a lattice at a time as a text. -/
def write
    (delimiter : Char)
    (lattice : Lattice)
    (time : α) :
    Except ExportFault String :=
  Sheet.collected (handTo Sheet.collect delimiter lattice time)

end SurfaceKinetics.HeightMap
