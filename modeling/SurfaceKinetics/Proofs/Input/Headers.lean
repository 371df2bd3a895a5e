import SurfaceKinetics.Input.Reading

/-!
# Faults of headers

The fields of a lattice, a condition, a duration or the debug mode cannot be done
without, and every error in them is fatal.  No error of a block or of the steps is.  So
what a keyword makes of an error is what the severity of the error asks for.
-/

namespace SurfaceKinetics

variable {α : Type}

/-! ## Outcomes of one severity -/

/-- All errors that an outcome can be are fatal, or none of them is. -/
def HasSeverity {β : Type} (fatal : Bool) (outcome : Except (InputError α) β) : Prop :=
  ∀ error, outcome = .error error → error.isFatal = fatal

namespace HasSeverity

variable
    {β γ : Type}
    {fatal : Bool}

theorem pure (value : β) :
    HasSeverity (α := α) fatal (Pure.pure value) := by
  intro error failed
  cases failed

theorem throw {error : InputError α} (severity : error.isFatal = fatal) :
    HasSeverity (β := β) fatal (MonadExcept.throw error) := by
  rintro _ ⟨⟩
  exact severity

theorem orFail
    {error : InputError α}
    (severity : error.isFatal = fatal)
    (value? : Option β) :
    HasSeverity fatal (Directive.orFail value? error) := by
  cases value? with
  | none => exact throw severity
  | some value => exact pure value

theorem bind
    {outcome : Except (InputError α) β}
    {next : β → Except (InputError α) γ}
    (first : HasSeverity fatal outcome)
    (others : ∀ value, HasSeverity fatal (next value)) :
    HasSeverity fatal (outcome >>= next) := by
  cases outcome with
  | error error =>
      rintro _ ⟨⟩
      exact first error rfl
  | ok value => exact others value

end HasSeverity

/-! ## Fields of headers -/

namespace Directive

theorem severity_latticeOf (tokens : List String) :
    HasSeverity (α := α) true (latticeOf tokens) := by
  refine (HasSeverity.orFail rfl _).bind fun tag => ?_
  refine (HasSeverity.orFail rfl _).bind fun kind => ?_
  refine (HasSeverity.orFail rfl _).bind fun columns => ?_
  refine (HasSeverity.orFail rfl _).bind fun rows => ?_
  refine (HasSeverity.orFail rfl _).bind fun height => ?_
  split
  · exact HasSeverity.throw rfl
  · exact HasSeverity.pure _

theorem severity_debugOf (tokens : List String) :
    HasSeverity (α := α) true (debugOf tokens) := by
  refine (HasSeverity.orFail rfl _).bind fun word => ?_
  split
  · exact HasSeverity.pure _
  · exact HasSeverity.pure _
  · exact HasSeverity.throw rfl

theorem severity_blockOf (keyword : Keyword) (segment : Segment) :
    HasSeverity (α := α) false (blockOf keyword segment) := by
  rw [blockOf]
  split
  · exact HasSeverity.throw rfl
  · split
    · exact HasSeverity.throw rfl
    · exact HasSeverity.pure _

theorem severity_stepsOf (tokens : List String) :
    HasSeverity (α := α) false (stepsOf tokens) :=
  HasSeverity.orFail rfl _

variable [Quantity α]

theorem severity_valueOf
    (keyword : Keyword)
    (tokens : List String)
    {error : InputError α}
    (severity : error.isFatal = true) :
    HasSeverity true (valueOf keyword tokens error) :=
  (HasSeverity.orFail rfl _).bind fun _ => HasSeverity.orFail severity _

end Directive

namespace HasSeverity

theorem map
    {β γ : Type}
    {fatal : Bool}
    {outcome : Except (InputError α) β}
    (severity : HasSeverity fatal outcome)
    (function : β → γ) :
    HasSeverity fatal (function <$> outcome) := by
  cases outcome with
  | error error =>
      rintro _ ⟨⟩
      exact severity error rfl
  | ok value => exact pure (function value)

end HasSeverity

/-! ## Segments -/

namespace Draft

variable
    [Quantity α]
    (draft : Draft α)
    (number : Nat)

/-- Takes a directive; its severity decides what becomes of an error. -/
def takeBySeverity (outcome : Except (InputError α) (Directive α)) :
    Noted (Except (InputError α) (Draft α)) :=
  match outcome with
  | .ok directive => Except.ok <$> draft.apply number directive
  | .error error =>
    if error.isFatal then
      pure (.error (.atLine number error))
    else
      Except.ok <$> draft.recover (.atLine number error)

variable {outcome : Except (InputError α) (Directive α)}

theorem demand_eq (severity : HasSeverity true outcome) :
    draft.demand number outcome = draft.takeBySeverity number outcome := by
  cases outcome with
  | ok directive => rfl
  | error error => exact (if_pos (severity error rfl)).symm

theorem attempt_eq (severity : HasSeverity false outcome) :
    draft.attempt number outcome = draft.takeBySeverity number outcome := by
  cases outcome with
  | ok directive => rfl
  | error error =>
      have harmless : ¬ error.isFatal = true := by rw [severity error rfl]; nofun
      exact (if_neg harmless).symm

/-- Whatever the keyword of a segment, the severity of an error decides. -/
theorem readSegment_eq (segment : Segment) :
    draft.readSegment segment =
      draft.takeBySeverity segment.header.number (Directive.ofSegment segment) := by
  rw [readSegment, Directive.ofSegment]
  cases Segment.keyword? segment.header with
  | none => exact draft.attempt_eq _ (HasSeverity.pure _)
  | some keyword =>
      cases keyword with
      | buildLattice =>
          exact draft.demand_eq _ ((Directive.severity_latticeOf _).map _)
      | species => exact draft.attempt_eq _ ((Directive.severity_blockOf _ _).map _)
      | processes => exact draft.attempt_eq _ ((Directive.severity_blockOf _ _).map _)
      | pressure => exact draft.demand_eq _ ((Directive.severity_valueOf _ _ rfl).map _)
      | temperature =>
          exact draft.demand_eq _ ((Directive.severity_valueOf _ _ rfl).map _)
      | time => exact draft.demand_eq _ ((Directive.severity_valueOf _ _ rfl).map _)
      | steps => exact draft.attempt_eq _ ((Directive.severity_stepsOf _).map _)
      | debug => exact draft.demand_eq _ ((Directive.severity_debugOf _).map _)

end Draft

end SurfaceKinetics
