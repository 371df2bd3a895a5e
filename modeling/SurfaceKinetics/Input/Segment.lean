import SurfaceKinetics.Text.Line
import SurfaceKinetics.Text.Numeral

/-!
# Segments of an input

The significant lines of an input fall into segments.  A segment is a header
line; the header of a block takes the lines that it announces with it, unless
their number cannot be read or exceeds the lines that follow.
-/

namespace SurfaceKinetics

/-- The keywords of header lines. -/
inductive Keyword where
  | buildLattice
  | species
  | processes
  | pressure
  | temperature
  | time
  | steps
  | debug
  deriving DecidableEq

namespace Keyword

def word : Keyword → String
  | buildLattice => "build_lattice"
  | species => "nspecies"
  | processes => "nprocesses"
  | pressure => "pressure"
  | temperature => "temperature"
  | time => "time"
  | steps => "steps"
  | debug => "debug"

def ofWord? : String → Option Keyword
  | "build_lattice" => some buildLattice
  | "nspecies" => some species
  | "nprocesses" => some processes
  | "pressure" => some pressure
  | "temperature" => some temperature
  | "time" => some time
  | "steps" => some steps
  | "debug" => some debug
  | _ => none

/-- Whether a header with this keyword announces a block. -/
def opensBlock : Keyword → Bool
  | species => true
  | processes => true
  | _ => false

end Keyword

/-- A header line, the lines of its block, and how many lines follow the header. -/
structure Segment where
  header : Line
  body : List Line
  following : Nat
  deriving DecidableEq

namespace Segment

/-- The keyword of a header, if it is a known one. -/
def keyword? (header : Line) : Option Keyword := Keyword.ofWord? header.keyword

/-- The number of lines that the header of a block announces. -/
def announced? (header : Line) : Option Nat :=
  natural? ((header.token? 1).getD "")

/-- The number of lines that belong to a header. -/
def bodyLength (header : Line) (following : Nat) : Nat :=
  match keyword? header with
  | none => 0
  | some keyword =>
    if keyword.opensBlock then
      match announced? header with
      | some count => if count ≤ following then count else 0
      | none => 0
    else
      0

/-- The segments of a list of lines. -/
def ofLines : List Line → List Segment
  | [] => []
  | header :: rest =>
    let length := bodyLength header rest.length
    { header, body := rest.take length, following := rest.length } ::
      ofLines (rest.drop length)
termination_by lines => lines.length
decreasing_by
  simp only [List.length_drop, List.length_cons]
  omega

end Segment

end SurfaceKinetics
