import SurfaceKinetics.Proofs.Input.Filling
import SurfaceKinetics.Proofs.Lattice.Magnitude

/-!
# Terraces that an input spells

An input may spell every initial height and every step that fits into 32 bits, the
initial height not below zero, and nothing checks what they amount to together.  So
terraces can be read and be without fault although the heights computed for them do
not fit.
-/

namespace SurfaceKinetics

variable {α : Type}

namespace Directive

/-- The numbers of a directive are such as an input may spell. -/
def Legible : Directive α → Prop
  | .lattice config => config.Legible
  | .steps profile => ∀ steps, profile = some steps → IsShort steps.height
  | _ => True

theorem exists_of_bind_eq_ok
    {ε β γ : Type}
    {outcome : Except ε β}
    {next : β → Except ε γ}
    {result : γ}
    (bound : outcome >>= next = .ok result) :
    ∃ value, outcome = .ok value ∧ next value = .ok result := by
  cases outcome with
  | error error => cases bound
  | ok value => exact ⟨value, rfl, bound⟩

theorem eq_some_of_orFail
    {β : Type}
    {value? : Option β}
    {error : InputError α}
    {value : β}
    (found : orFail value? error = .ok value) :
    value? = some value := by
  cases value? with
  | none => cases found
  | some other =>
      cases found
      rfl

/-- The initial height is checked when it is read, and steps come later. -/
theorem legible_of_latticeOf
    {tokens : List String}
    {config : LatticeConfig}
    (meant : latticeOf (α := α) tokens = .ok config) :
    config.Legible := by
  rw [latticeOf] at meant
  rcases exists_of_bind_eq_ok meant with ⟨tag, _, meant⟩
  rcases exists_of_bind_eq_ok meant with ⟨kind, _, meant⟩
  rcases exists_of_bind_eq_ok meant with ⟨columns, _, meant⟩
  rcases exists_of_bind_eq_ok meant with ⟨rows, _, meant⟩
  rcases exists_of_bind_eq_ok meant with ⟨height, _, meant⟩
  split at meant
  · cases meant
  · next fits =>
    cases meant
    exact ⟨Int.natCast_nonneg height, Int.not_lt.mp fits, nofun⟩

/-- The height of steps is checked when they are read. -/
theorem isShort_of_stepsOf
    {tokens : List String}
    {steps : StepProfile}
    (meant : stepsOf (α := α) tokens = .ok (some steps)) :
    IsShort steps.height := by
  have spelled := eq_some_of_orFail meant
  split at spelled
  · rw [profileOf?] at spelled
    split at spelled
    · cases spelled
    · split at spelled
      · next proper =>
        cases spelled
        exact ⟨proper.2.1, proper.2.2.1⟩
      · cases spelled
  · cases spelled

theorem legible_of_ofSegment
    [Quantity α]
    {segment : Segment}
    {directive : Directive α}
    (meant : ofSegment segment = .ok directive) :
    directive.Legible := by
  rw [ofSegment] at meant
  split at meant
  · cases meant
    trivial
  · next keyword _ =>
    cases keyword <;>
      (rcases exists_of_map_eq_ok meant with ⟨value, valueEq, rfl⟩)
    case buildLattice => exact legible_of_latticeOf valueEq
    case steps =>
      rintro steps rfl
      exact isShort_of_stepsOf valueEq
    all_goals trivial

end Directive

namespace Draft

/-- The numbers of a draft's lattice and steps are such as an input may spell. -/
structure Legible (draft : Draft α) : Prop where
  lattice : ∀ config, draft.input.lattice = some config → config.Legible
  steps : ∀ steps, draft.steps = some steps → IsShort steps.height

/-- The steps of a draft leave its lattice legible. -/
theorem Legible.withSteps
    {draft : Draft α}
    (legible : draft.Legible)
    {config : LatticeConfig}
    (configured : draft.withSteps.lattice = some config) :
    config.Legible := by
  rw [Draft.withSteps] at configured
  split at configured
  · exact legible.lattice config configured
  · next profile given =>
    rcases Option.map_eq_some_iff.mp configured with ⟨flat, found, rfl⟩
    have flatLegible := legible.lattice flat found
    refine ⟨flatLegible.initialHeight_nonneg, flatLegible.initialHeight_le, ?_⟩
    rintro _ ⟨⟩
    exact legible.steps profile given

variable [Quantity α]

theorem invariant_legible : Invariant (α := α) Legible where
  declared legible _ := ⟨legible.lattice, legible.steps⟩
  recovered legible _ := ⟨legible.lattice, legible.steps⟩
  applied number directive legible meant others := by
    have directiveLegible := Directive.legible_of_ofSegment meant
    cases directive with
    | lattice config =>
        refine ⟨?_, legible.steps⟩
        rintro _ ⟨⟩
        exact directiveLegible
    | steps profile => exact ⟨legible.lattice, directiveLegible⟩
    | species body => exact (others body rfl).elim
    | _ => exact ⟨legible.lattice, legible.steps⟩

end Draft

/-- The lattice of an input that has been read is legible. -/
theorem SimulationInput.legible_of_read
    [Quantity α]
    {source : String}
    {input : SimulationInput α}
    (read : (SimulationInput.read source).value = .ok input)
    {config : LatticeConfig}
    (configured : input.lattice = some config) :
    config.Legible := by
  rcases exists_draft read with ⟨draft, draftEq, rfl⟩
  rw [Draft.finish_eq] at configured
  have start : Draft.Legible (α := α) {} := ⟨nofun, nofun⟩
  exact
    (Draft.invariant_legible.readSegments start draftEq).withSteps configured

/--
Let a lattice be read from an input, whatever text this is, and be without fault.  Its
own numbers fit into 32 bits with sign.  All that is computed from them for its terraces
and for the thresholds at their seam fits exactly when these thresholds do: the first
terrace raised by the climb and two, unless the lattice is a single site, and, if the
steps descend, the first terrace lowered by twice the climb and one.  Then the lattice
is built in 32 bits, and otherwise building it stops without a result.
-/
theorem terraces_short_iff_seam
    [Quantity α]
    {source : String}
    {input : SimulationInput α}
    (read : (SimulationInput.read source).value = .ok input)
    {config : LatticeConfig}
    (configured : input.lattice = some config)
    (faultless : config.fault? = none) :
    config.Legible ∧
      ((∀ value, config.Computes value → IsShort value) ↔
        ∀ steps,
          config.steps = some steps →
            (config.size ≠ 1 →
                config.initialHeight + steps.climb + 2 ≤ greatestShort) ∧
              (steps.height < 0 →
                leastShort ≤ config.initialHeight - 2 * steps.climb - 1)) ∧
        ∃ built,
          Lattice.build? config = .ok built ∧
            ∀ lattice,
              built.value? = some lattice ↔
                (∀ value, config.Computes value → IsShort value) ∧
                  Lattice.ofConfig config = lattice := by
  have legible := SimulationInput.legible_of_read read configured
  refine ⟨legible, ?_, ?_⟩
  · rw [LatticeConfig.forall_computes_isShort_iff legible faultless]
    constructor
    · intro fits steps stepped
      exact ⟨(fits steps stepped).above, (fits steps stepped).below⟩
    · intro fits steps stepped
      exact ⟨(fits steps stepped).1, (fits steps stepped).2⟩
  · rcases LatticeConfig.exists_build? faultless with ⟨built, buildEq, valueEq⟩
    refine ⟨built, buildEq, fun lattice => ?_⟩
    rw [valueEq]
    exact (LatticeConfig.checks_ofConfig faultless).eq_some_iff

/-- A ring of two columns on the ground, with the steps that are spelled. -/
def steppedText (spelled : String) : String :=
  "build_lattice SimpleCubic 2 1 0\n" ++ "steps " ++ spelled ++ "\n"

/-- The configuration that is read for two steps. -/
def steppedConfig (height : Int) : LatticeConfig :=
  { kind := .simpleCubic
    columns := 2
    rows := 1
    initialHeight := 0
    steps := some { count := 2, height, depth := 0 } }

theorem exists_read_of_lattice
    {source : String}
    {config : LatticeConfig}
    (configured :
      ((Draft.compiled? (SimulationInput.read (α := Float) source).value).bind
          SimulationInput.lattice) =
        some config) :
    ∃ input,
      (SimulationInput.read (α := Float) source).value = .ok input ∧
        input.lattice = some config := by
  rcases Option.bind_eq_some_iff.mp configured with ⟨input, read, latticeEq⟩
  exact ⟨input, Draft.compiled?_eq_some_iff.mp read, latticeEq⟩

theorem terraces_short_iff_seam_descending :
    ∃ input,
      (SimulationInput.read (α := Float) (steppedText "2 -3 0")).value = .ok input ∧
        input.lattice = some (steppedConfig (-3)) ∧
          (steppedConfig (-3)).fault? = none ∧
            (steppedConfig (-3)).Computes (-7) ∧
              (∀ value, (steppedConfig (-3)).Computes value → IsShort value) ∧
                ∃ built,
                  Lattice.build? (steppedConfig (-3)) = .ok built ∧
                    built.value? = some (Lattice.ofConfig (steppedConfig (-3))) := by
  have latticeEq :
      ((Draft.compiled?
            (SimulationInput.read (α := Float) (steppedText "2 -3 0")).value).bind
          SimulationInput.lattice) =
        some (steppedConfig (-3)) := by
    decide +kernel
  rcases exists_read_of_lattice latticeEq with ⟨input, read, configured⟩
  have faultless : (steppedConfig (-3)).fault? = none := by decide
  have bonded : 0 ∈ (Lattice.ofConfig (steppedConfig (-3))).neighbours 1 := by
    decide +kernel
  have found :
      (Lattice.ofConfig (steppedConfig (-3))).site? 1 =
        some (Site.vacant (-3) "") := by
    decide +kernel
  rcases terraces_short_iff_seam read configured faultless with
    ⟨_, fitsIff, built, buildEq, builds⟩
  have short := fitsIff.mpr (by rintro _ ⟨⟩; decide)
  exact
    ⟨input, read, configured, faultless,
      .below bonded found (by decide) (by decide), short, built, buildEq,
      (builds _).mpr ⟨short, rfl⟩⟩

/--
The greatest step that an input may spell is already too high for a seam, and the
terraces are not built.
-/
theorem greatest_step_exceeds_seam :
    ∃ input,
      (SimulationInput.read (α := Float) (steppedText "2 2147483647 0")).value =
          .ok input ∧
        input.lattice = some (steppedConfig 2147483647) ∧
          (steppedConfig 2147483647).fault? = none ∧
            (steppedConfig 2147483647).Computes 2147483648 ∧
              ¬ IsShort 2147483648 ∧
                ∃ built,
                  Lattice.build? (steppedConfig 2147483647) = .ok built ∧
                    built.value? = none := by
  have latticeEq :
      ((Draft.compiled?
            (SimulationInput.read (α := Float)
              (steppedText "2 2147483647 0")).value).bind
          SimulationInput.lattice) =
        some (steppedConfig 2147483647) := by
    decide +kernel
  rcases exists_read_of_lattice latticeEq with ⟨input, read, configured⟩
  exact
    ⟨input, read, configured, by decide, .seamHeight rfl, by decide, _, rfl,
      by decide +kernel⟩

end SurfaceKinetics
