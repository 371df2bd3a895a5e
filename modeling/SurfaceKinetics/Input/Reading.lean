import SurfaceKinetics.Input.Directive
import SurfaceKinetics.Registry

/-!
# Reading an input

The segments of an input are read one after the other.  The keyword of a
segment decides what an error in it means: it ends the reading, or it becomes a warning
located in its line.  Process lines
are compiled when all segments have been read, so that a species may be declared
after the processes that use it; their ordinals count the lines of all process
blocks.
-/

namespace SurfaceKinetics

/-- What an input defines. -/
structure SimulationInput (α : Type) where
  lattice : Option LatticeConfig := none
  registry : Registry α := {}
  pressure : Option α := none
  temperature : Option α := none
  endTime : Option α := none
  debug : Bool := false
  warnings : List (InputError α) := []

namespace SimulationInput

variable {α : Type}

/--
The species whose deposition raises the film: the substrate when it is declared,
and else the only declared species.
-/
def growthSpecies (input : SimulationInput α) : List String :=
  let substrate :=
    match input.lattice with
    | some lattice =>
      if !lattice.label.isEmpty && lattice.label ∈ input.registry.symbols then
        some lattice.label
      else
        none
    | none => none
  match substrate with
  | some label => [label]
  | none =>
    match input.registry.symbols with
    | [symbol] => [symbol]
    | _ => []

end SimulationInput

/-- An input while its segments are read. -/
structure Draft (α : Type) where
  input : SimulationInput α := {}
  steps : Option StepProfile := none
  processLines : List Line := []

namespace Draft

variable {α : Type} [Quantity α]

/-- Reports an error and keeps it as a warning. -/
def recover (draft : Draft α) (error : InputError α) : Noted (Draft α) := do
  Noted.note .input .warn error.message
  pure
    { draft with
      input :=
        { draft.input with warnings := draft.input.warnings ++ [error] } }

/-- Declares the species of a line. -/
def declare (registry : Registry α) (line : Line) :
    Except (InputError α) (Registry α) :=
  match line.tokens with
  | symbol :: weight :: _ =>
    match number? weight with
    | some value => registry.addSpecies symbol value
    | none => throw (.molecularWeight symbol (.word weight))
  | [symbol] => throw (.speciesFields symbol)
  | [] => throw (.speciesFields "")

/-- Reads one line of a species block. -/
def readSpecies (draft : Draft α) (line : Line) : Noted (Draft α) :=
  match declare draft.input.registry line with
  | .ok registry => pure { draft with input := { draft.input with registry } }
  | .error error => draft.recover (.atLine line.number error)

/-- Takes a directive into the draft. -/
def apply (draft : Draft α) (number : Nat) :
    Directive α → Noted (Draft α)
  | .lattice config =>
    pure { draft with input := { draft.input with lattice := some config } }
  | .species body => body.foldlM readSpecies draft
  | .processes body =>
    pure { draft with processLines := draft.processLines ++ body }
  | .pressure value =>
    pure { draft with input := { draft.input with pressure := some value } }
  | .temperature value =>
    pure { draft with input := { draft.input with temperature := some value } }
  | .endTime value =>
    pure { draft with input := { draft.input with endTime := some value } }
  | .steps profile => pure { draft with steps := profile }
  | .debug on => pure { draft with input := { draft.input with debug := on } }
  | .unknown keyword => do
    Noted.note .input .debug s!"line {number}: ignoring unknown keyword '{keyword}'"
    pure draft

/-- Takes a directive that an input cannot do without; its error ends the reading. -/
def demand
    (draft : Draft α)
    (number : Nat)
    (outcome : Except (InputError α) (Directive α)) :
    Noted (Except (InputError α) (Draft α)) :=
  match outcome with
  | .ok directive => Except.ok <$> draft.apply number directive
  | .error error => pure (.error (.atLine number error))

/-- Takes a directive that an input can do without; its error is a warning. -/
def attempt
    (draft : Draft α)
    (number : Nat)
    (outcome : Except (InputError α) (Directive α)) :
    Noted (Except (InputError α) (Draft α)) :=
  match outcome with
  | .ok directive => Except.ok <$> draft.apply number directive
  | .error error => Except.ok <$> draft.recover (.atLine number error)

/-- Reads one segment. -/
def readSegment (draft : Draft α) (segment : Segment) :
    Noted (Except (InputError α) (Draft α)) :=
  let number := segment.header.number
  let outcome := Directive.ofSegment segment
  match Segment.keyword? segment.header with
  | some .buildLattice => draft.demand number outcome
  | some .species => draft.attempt number outcome
  | some .processes => draft.attempt number outcome
  | some .pressure => draft.demand number outcome
  | some .temperature => draft.demand number outcome
  | some .time => draft.demand number outcome
  | some .steps => draft.attempt number outcome
  | some .debug => draft.demand number outcome
  | none => draft.attempt number outcome

/-- Reads segments until the first fatal error. -/
def readSegments : List Segment → Draft α →
    Noted (Except (InputError α) (Draft α))
  | [], draft => pure (.ok draft)
  | segment :: rest, draft => do
    match ← draft.readSegment segment with
    | .ok draft => readSegments rest draft
    | .error error => pure (.error error)

/-! ## Processes -/

/-- Compiles one process line; an error is located in it. -/
def compileLine
    (vocabulary : Vocabulary)
    (line : Line × Nat) :
    Noted (Except (InputError α) (Descriptor α)) :=
  match vocabulary.compile (String.ofList line.1.text) line.2 with
  | .ok descriptor => Except.ok <$> descriptor
  | .error error => pure (.error (.atLine line.1.number error))

/-- Compiles one process line in 32 bits. -/
def compileLine?
    (vocabulary : Vocabulary)
    (line : Line × Nat) :
    Checked (Except (InputError α) (Descriptor α)) := do
  match ← Checked.ofOption (vocabulary.compile? (String.ofList line.1.text) line.2) with
  | .ok descriptor => Except.ok <$> (descriptor : Noted (Descriptor α))
  | .error error => pure (.error (.atLine line.1.number error))

def compiled? {ε β : Type} : Except ε β → Option β
  | .ok value => some value
  | .error _ => none

def failure? {ε β : Type} : Except ε β → Option ε
  | .ok _ => none
  | .error error => some error

/-- The steps of a draft belong to its lattice, if it has one. -/
def withSteps (draft : Draft α) : SimulationInput α :=
  match draft.steps with
  | none => draft.input
  | some profile =>
    { draft.input with
      lattice :=
        draft.input.lattice.map fun config =>
          { config with steps := some profile } }

/-- Registers what the process lines of a draft have been compiled to. -/
def conclude
    (draft : Draft α)
    (results : List (Except (InputError α) (Descriptor α))) :
    Noted (SimulationInput α) := do
  let registry ←
    (results.filterMap compiled?).foldlM Registry.register draft.input.registry
  let draft := { draft with input := { draft.input with registry } }
  let draft ← (results.filterMap failure?).foldlM recover draft
  let input := draft.withSteps
  Noted.note .input .info <|
    s!"Read {input.registry.species.length} species and " ++
      s!"{input.registry.processes.length} processes " ++
      s!"({input.warnings.length} warnings)"
  pure input

/-- Compiles and registers the process lines of a draft. -/
def finish (draft : Draft α) : Noted (SimulationInput α) := do
  let vocabulary := draft.input.registry.vocabulary
  draft.conclude (← draft.processLines.zipIdx.mapM (compileLine vocabulary))

/-- Compiles the process lines of a draft in 32 bits and registers them. -/
def finish? (draft : Draft α) : Checked (SimulationInput α) := do
  let vocabulary := draft.input.registry.vocabulary
  draft.conclude (← draft.processLines.zipIdx.mapM (compileLine? vocabulary))

end Draft

namespace SimulationInput

variable {α : Type} [Quantity α]

/-- Reads an input text. -/
def read (source : String) :
    Noted (Except (InputError α) (SimulationInput α)) := do
  match ← Draft.readSegments (Segment.ofLines (significantLines source)) {} with
  | .ok draft => Except.ok <$> draft.finish
  | .error error => pure (.error error)

/-- Reads an input text in 32 bits. -/
def read? (source : String) :
    Checked (Except (InputError α) (SimulationInput α)) := do
  match ← Draft.readSegments (Segment.ofLines (significantLines source)) {} with
  | .ok draft => Except.ok <$> draft.finish?
  | .error error => pure (.error error)

/-- Reads what was found under a path in 32 bits. -/
def readContent? (path : String) (content : Except FileFault String) :
    Checked (Except (InputError α) (SimulationInput α)) :=
  match content with
  | .error cause => pure (.error (.cannotOpen path cause))
  | .ok source => do
    Noted.note .input .info s!"Reading input file {path}"
    read? source

end SimulationInput

end SurfaceKinetics
