import SurfaceKinetics.SimulationError

/-!
# Limits of a run

A run ends when simulated time reaches an end, when a number of events has been
executed, or at whichever of the two comes first; or because nothing can happen
any more.
-/

namespace SurfaceKinetics

/-- Why a run ends. -/
inductive StopReason where
  | endTime
  | maxSteps
  /-- Events are eligible, but none has a positive rate. -/
  | zeroTotalRate
  | noEligibleEvents
  deriving DecidableEq

namespace StopReason

/-- Whether the run ended because nothing could happen any more. -/
def isStalled : StopReason → Bool
  | zeroTotalRate => true
  | noEligibleEvents => true
  | endTime => false
  | maxSteps => false

def message : StopReason → String
  | endTime => "end time reached"
  | maxSteps => "maximum number of steps reached"
  | zeroTotalRate => "total rate is zero"
  | noEligibleEvents => "no eligible events"

end StopReason

/-- When a run ends. -/
inductive RunLimit (α : Type) where
  | time (endTime : α)
  | steps (maxSteps : Nat)
  | timeOrSteps (endTime : α) (maxSteps : Nat)

namespace RunLimit

variable {α : Type}

def name : RunLimit α → String
  | time _ => "Time"
  | steps _ => "Steps"
  | timeOrSteps .. => "TimeOrSteps"

def endTime? : RunLimit α → Option α
  | time endTime => some endTime
  | steps _ => none
  | timeOrSteps endTime _ => some endTime

def maxSteps? : RunLimit α → Option Nat
  | time _ => none
  | steps maxSteps => some maxSteps
  | timeOrSteps _ maxSteps => some maxSteps

variable [Quantity α]

/-- Whether a time is at or beyond the end. -/
def timeIsUp (limit : RunLimit α) (now : α) : Bool :=
  match limit.endTime? with
  | some endTime => decide (endTime ≤ now)
  | none => false

/-- Whether all events have been executed. -/
def stepsAreUp (limit : RunLimit α) (step : Nat) : Bool :=
  match limit.maxSteps? with
  | some maxSteps => maxSteps ≤ step
  | none => false

/-- The limit that a run has reached; the time counts first. -/
def stopReason? (limit : RunLimit α) (now : α) (step : Nat) : Option StopReason :=
  if limit.timeIsUp now then some .endTime
  else if limit.stepsAreUp step then some .maxSteps
  else none

/-- The first fault of a limit. -/
def fault? (limit : RunLimit α) : Option (ConfigurationFault α) :=
  let stepsFault := if limit.maxSteps? = some 0 then some .noSteps else none
  match limit.endTime? with
  | some endTime =>
    if Quantity.isFinite endTime && Quantity.isPositive endTime then
      stepsFault
    else
      some (.endTime endTime)
  | none => stepsFault

end RunLimit

/-- Texts under names, in the order in which the names were first given. -/
abbrev Metadata := List (String × String)

/-- Gives a name a text, in the place of an earlier one. -/
def Metadata.put (metadata : Metadata) (key text : String) : Metadata :=
  if metadata.any fun entry => entry.1 = key then
    metadata.map fun entry => if entry.1 = key then (key, text) else entry
  else
    metadata ++ [(key, text)]

def Metadata.get? (metadata : Metadata) (key : String) : Option String :=
  (metadata.find? fun entry => entry.1 = key).map Prod.snd

/-- How long a run is, how it is sampled, and what starts its random source. -/
structure RunConfig (α : Type) where
  limit : RunLimit α
  seed : UInt64
  reportInterval : Option α := none
  metadata : Metadata := []

/-- The first fault of a run configuration; the limit counts first. -/
def RunConfig.fault? {α : Type} [Quantity α] (config : RunConfig α) :
    Option (ConfigurationFault α) :=
  match config.limit.fault? with
  | some fault => some fault
  | none =>
    match config.reportInterval with
    | some interval =>
      if Quantity.isFinite interval && Quantity.isPositive interval then
        none
      else
        some (.reportInterval interval)
    | none => none

end SurfaceKinetics
