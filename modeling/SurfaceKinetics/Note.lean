/-!
# Notes

What a computation reports on its way is part of its value: `Noted β` is a value
of `β` together with notes, in the order in which they were made.  Notes never
influence the value; `value_bind` says so.
-/

namespace SurfaceKinetics

/-- How much attention a note asks for, most first. -/
inductive Level where
  | error
  | warn
  | info
  | debug
  | trace
  deriving DecidableEq, Inhabited

namespace Level

/-- Levels in the order of decreasing attention. -/
def rank : Level → Nat
  | error => 1
  | warn => 2
  | info => 3
  | debug => 4
  | trace => 5

def name : Level → String
  | error => "ERROR"
  | warn => "WARN"
  | info => "INFO"
  | debug => "DEBUG"
  | trace => "TRACE"

def ofName? : String → Option Level
  | "ERROR" => some error
  | "WARN" => some warn
  | "INFO" => some info
  | "DEBUG" => some debug
  | "TRACE" => some trace
  | _ => none

end Level

/-- What a note is about. -/
inductive Topic where
  | input
  | registry
  | reaction
  | lattice
  | binding
  | scenario
  | run
  | timeSeries
  | heightMap
  | plot
  | program
  deriving DecidableEq, Inhabited

def Topic.name : Topic → String
  | input => "input"
  | registry => "registry"
  | reaction => "reaction"
  | lattice => "lattice"
  | binding => "binding"
  | scenario => "scenario"
  | run => "run"
  | timeSeries => "time-series"
  | heightMap => "height-map"
  | plot => "plot"
  | program => "program"

/-- A message, what it is about, and its level. -/
structure Note where
  topic : Topic
  level : Level
  text : String
  deriving DecidableEq, Inhabited

/-- The line that shows a note. -/
def Note.line (note : Note) : String := note.level.name ++ " " ++ note.text

/-- A value and the notes made while it was computed. -/
structure Noted (β : Type) where
  value : β
  notes : Array Note := #[]

namespace Noted

variable {β γ : Type}

instance : Monad Noted where
  pure value := { value }
  bind first next :=
    let second := next first.value
    { value := second.value, notes := first.notes ++ second.notes }

@[simp]
theorem value_pure
    (value : β) :
    (pure value : Noted β).value = value :=
  rfl

@[simp]
theorem value_bind
    (first : Noted β)
    (next : β → Noted γ) :
    (first >>= next).value = (next first.value).value :=
  rfl

@[simp]
theorem value_map
    (function : β → γ)
    (first : Noted β) :
    (function <$> first).value = function first.value :=
  rfl

/-- A note and no value. -/
def note (topic : Topic) (level : Level) (text : String) : Noted Unit :=
  { value := (), notes := #[⟨topic, level, text⟩] }

@[simp]
theorem value_note
    (topic : Topic)
    (level : Level)
    (text : String) :
    (note topic level text).value = () :=
  rfl

/-- Notes that have been collected before. -/
def ofNotes (notes : Array Note) : Noted Unit := { value := (), notes }

/-- A note that is made only under a condition. -/
def noteIf
    (condition : Bool)
    (topic : Topic)
    (level : Level)
    (text : String) :
    Noted Unit :=
  if condition then note topic level text else pure ()

end Noted

end SurfaceKinetics
