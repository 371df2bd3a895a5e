import SurfaceKinetics.Simulation.Limit
import SurfaceKinetics.Surface

/-!
# Results

A run leaves the samples that were taken on its way, the first before the first
event and the last after the last one, and its final lattice.
-/

namespace SurfaceKinetics

/-- The state of a run at one instant. -/
structure Sample (α : Type) where
  time : α
  step : Nat
  surface : Surface α
  growthRate : α
  /-- Events so far, per process. -/
  events : List Nat
  /-- The share of sites labelled with the species, per process. -/
  coverage : List α

/-- What a run leaves. -/
structure SimulationResult (α : Type) where
  samples : List (Sample α)
  lattice : Lattice
  processNames : List String
  eventCounts : List Nat
  time : α
  steps : Nat
  stopReason : StopReason
  seed : UInt64
  metadata : Metadata := []

namespace SimulationResult

variable {α : Type}

def totalEvents (result : SimulationResult α) : Nat := total result.eventCounts

def lastSample? (result : SimulationResult α) : Option (Sample α) :=
  result.samples.getLast?

/-- The events of the process with a name. -/
def eventsOf? (result : SimulationResult α) (name : String) : Option Nat :=
  (result.processNames.findIdx? (· = name)).bind fun place =>
    result.eventCounts[place]?

end SimulationResult

end SurfaceKinetics
