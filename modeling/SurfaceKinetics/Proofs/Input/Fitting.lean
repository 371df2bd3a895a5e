import SurfaceKinetics.Proofs.Input.Accounting
import SurfaceKinetics.Proofs.Reaction.Sums

/-!
# Inputs that fit

Of the numbers that are computed while an input is read, only the sums of reactions are
kept in 32 bits.  So an input is read there exactly when the sums of its process lines
fit, and what is read is the exact input.
-/

namespace SurfaceKinetics

/-- What is computed for all elements of a list has the results of each of them. -/
theorem Checked.value?_mapM
    {β γ : Type}
    (compute : β → Checked γ)
    (elements : List β) :
    (elements.mapM compute).value? =
      elements.mapM fun element => (compute element).value? := by
  have loop (results : List γ) :
      (List.mapM.loop compute elements results).value? =
        (elements.mapM fun element => (compute element).value?).map
          (results.reverse ++ ·) := by
    induction elements generalizing results with
    | nil => simp [List.mapM.loop]
    | cons element elements induction =>
        rw [List.mapM.loop, value?_bind, List.mapM_cons]
        cases (compute element).value? with
        | none => rfl
        | some result =>
            dsimp only [Option.bind_some, Option.bind_eq_bind]
            rw [induction, Option.map_bind]
            simp [Option.map_eq_bind]
  rw [List.mapM, loop]
  simp

namespace Draft

variable {α : Type} [Quantity α]

/-- The sums of all process lines of a draft fit. -/
def LinesFit (draft : Draft α) : Prop :=
  ∀ line ∈ draft.processLines.zipIdx,
    draft.input.registry.vocabulary.LineFits α (String.ofList line.1.text) line.2

theorem checks_compileLine (vocabulary : Vocabulary) (line : Line × Nat) :
    Checks (compileLine? (α := α) vocabulary line).value?
      (vocabulary.LineFits α (String.ofList line.1.text) line.2)
      (compileLine vocabulary line).value := by
  rw [compileLine?, compileLine, Checked.value?_bind, Checked.value?_ofOption]
  refine Checks.congr ?_ (and_iff_left trivial)
  refine (vocabulary.checks_compile _ _).bind fun _ => ?_
  cases vocabulary.compile (α := α) (String.ofList line.1.text) line.2 with
  | error error => exact Checks.some _
  | ok compiled => exact Checks.some _

theorem checks_finish (draft : Draft α) :
    Checks draft.finish?.value? draft.LinesFit draft.finish.value := by
  rw [finish?, finish, Checked.value?_bind, Checked.value?_mapM, Noted.value_bind,
    Noted.value_mapM]
  refine Checks.congr ?_ (and_iff_left trivial)
  exact
    (Checks.mapM fun line _ => checks_compileLine _ line).bind fun _ =>
      Checks.some _

end Draft

/-- An input is read in 32 bits when the sums of its process lines fit. -/
theorem SimulationInput.checks_read
    {α : Type}
    [Quantity α]
    (source : String) :
    Checks (read? source).value?
      (∀ draft : Draft α,
        (Draft.readSegments (Segment.ofLines (significantLines source)) {}).value =
            .ok draft →
          draft.LinesFit)
      (SimulationInput.read (α := α) source).value := by
  rw [read?, read, Checked.value?_bind, Checked.value?_lift, Option.bind_some,
    Noted.value_bind]
  cases (Draft.readSegments (α := α) _ {}).value with
  | error error =>
      refine (Checks.some _).congr (iff_of_true trivial fun _ drafted => ?_)
      cases drafted
  | ok draft =>
      dsimp only
      rw [Checked.value?_map, Noted.value_map]
      exact (draft.checks_finish.map Except.ok).congr (by simp)

end SurfaceKinetics
