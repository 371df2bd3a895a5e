import Mathlib.Data.Finset.Card
import Mathlib.Data.Finset.Filter
import SurfaceKinetics.Proofs.Lattice.Building
import SurfaceKinetics.Proofs.Lattice.Neighbourhood
import SurfaceKinetics.Proofs.Random.Drawing
import SurfaceKinetics.SurfaceProcess.Perform

/-!
# Partners

The partners of an event are drawn without replacement from the neighbours of its origin
that pass a test.  Neighbours are distinct and no site is its own neighbour, so whatever
numbers a generator yields, origin and partners are distinct sites; and partners are
missing exactly when too few neighbours pass.  The random source of a run is one such
generator, and events draw their partners with it.

A test may look at the number of a site, and so at all that the lattice has for it,
beside its state.
-/

namespace SurfaceKinetics

/-! ## Suitable neighbours -/

namespace Lattice

variable
    (lattice : Lattice)
    (origin : Nat)
    (test : Nat → Site → Bool)

/-- The neighbours of a site that pass a test. -/
def suitable : Finset Nat :=
  (lattice.neighbours origin).toFinset.filter fun neighbour =>
    ∃ state ∈ lattice.site? neighbour, test neighbour state = true

/-- The neighbours of a site that pass a test, in the order of the neighbours. -/
def candidates : List Nat :=
  (lattice.neighbours origin).filter fun neighbour =>
    (lattice.site? neighbour).any (test neighbour)

@[simp]
theorem mem_suitable_iff {site : Nat} :
    site ∈ lattice.suitable origin test ↔
      site ∈ lattice.neighbours origin ∧
        ∃ state, lattice.site? site = some state ∧ test site state = true := by
  simp [suitable]

theorem mem_candidates_iff {site : Nat} :
    site ∈ lattice.candidates origin test ↔
      site ∈ lattice.suitable origin test := by
  simp [candidates, Option.any_eq_true]

theorem nodup_candidates : (lattice.candidates origin test).Nodup :=
  (lattice.nodup_neighbours origin).filter _

theorem length_candidates :
    (lattice.candidates origin test).length =
      (lattice.suitable origin test).card := by
  have suitableEq :
      lattice.suitable origin test =
        (lattice.candidates origin test).toFinset := by
    ext site
    rw [List.mem_toFinset, mem_candidates_iff]
  rw [suitableEq,
    List.toFinset_card_of_nodup (lattice.nodup_candidates origin test)]

end Lattice

/-- A perform draws from the neighbours whose states it accepts. -/
theorem Perform.candidates_eq
    (perform : Perform)
    (lattice : Lattice)
    (origin : Nat)
    (state : Site) :
    perform.candidates lattice origin state =
      lattice.candidates origin fun _ => perform.acceptsPartner state := by
  rw [candidates, Lattice.neighboursWhere, Lattice.candidates]
  congr 1
  funext neighbour
  cases lattice.site? neighbour with
  | none => rfl
  | some other => rfl

/-! ## Drawing partners -/

variable {α σ : Type}

/-- An origin and neighbours of it that pass a test, drawn without replacement. -/
def Generator.pickPartners
    (generator : Generator σ)
    (lattice : Lattice)
    (origin count : Nat)
    (test : Nat → Site → Bool) :
    StateM σ (Except (SimulationError α) (List Nat)) := do
  match ← generator.takeMany count 0 (lattice.candidates origin test) with
  | .error found => pure (.error (.process (.tooFewPartners origin found count)))
  | .ok chosen => pure (.ok (origin :: chosen))

/-- An event draws its partners with the generator of the random source. -/
theorem Perform.execute_eq_pickPartners
    (perform : Perform)
    {lattice : Lattice}
    {origin : Nat}
    {state : Site}
    (found : lattice.site? origin = some state) :
    perform.execute (α := α) lattice origin =
      Except.map (fun cluster => perform.event lattice origin cluster.tail) <$>
        RandomSource.generator.pickPartners lattice origin perform.partners
          fun _ => perform.acceptsPartner state := by
  rw [execute, Lattice.getSite, found, Generator.pickPartners, ← candidates_eq,
    ← RandomSource.takeMany_eq, map_bind]
  change _ >>= _ = _
  congr 1
  funext outcome
  cases outcome with
  | error count => rfl
  | ok chosen => rfl

/-! ## What a draw comes to -/

/-- A draw fails for want of suitable sites, or finds distinct ones beside the origin. -/
structure Lattice.DrawsPartners
    (lattice : Lattice)
    (origin count : Nat)
    (test : Nat → Site → Bool)
    (outcome : Except (SimulationError α) (List Nat)) : Prop where
  fails_iff :
    (∃ error, outcome = .error error) ↔
      (lattice.suitable origin test).card < count
  error_eq :
    ∀ error,
      outcome = .error error →
        error =
          .process
            (.tooFewPartners origin (lattice.suitable origin test).card count)
  finds :
    count ≤ (lattice.suitable origin test).card →
      ∃ partners,
        outcome = .ok (origin :: partners) ∧
          partners.length = count ∧
            partners.Nodup ∧
              ∀ partner ∈ partners,
                partner ≠ origin ∧ partner ∈ lattice.suitable origin test

namespace Lattice.DrawsPartners

variable
    {lattice : Lattice}
    {origin count : Nat}
    {test : Nat → Site → Bool}

theorem of_short (short : (lattice.suitable origin test).card < count) :
    lattice.DrawsPartners (α := α) origin count test
      (.error
        (.process
          (.tooFewPartners origin (lattice.suitable origin test).card count))) where
  fails_iff := iff_of_true ⟨_, rfl⟩ short
  error_eq := by
    rintro _ ⟨⟩
    rfl
  finds enough := absurd short (Nat.not_lt_of_le enough)

theorem of_drawn
    {chosen : List Nat}
    (drawn :
      RandomSource.Drawn count (lattice.candidates origin test) chosen) :
    lattice.DrawsPartners (α := α) origin count test
      (.ok (origin :: chosen)) where
  fails_iff := by
    refine iff_of_false nofun ?_
    rw [← lattice.length_candidates]
    exact Nat.not_lt_of_le drawn.length_le
  error_eq := nofun
  finds := by
    intro _
    refine
      ⟨chosen, rfl, drawn.1, drawn.nodup (lattice.nodup_candidates origin test), ?_⟩
    intro partner member
    have suitable : partner ∈ lattice.suitable origin test :=
      (lattice.mem_candidates_iff origin test).mp (drawn.subset member)
    refine ⟨?_, suitable⟩
    rintro rfl
    have neighbours := ((lattice.mem_suitable_iff partner test).mp suitable).1
    exact lattice.not_mem_neighbours_self partner neighbours

end Lattice.DrawsPartners

/-- Whatever numbers a generator yields, the candidates decide what a draw comes to. -/
theorem Generator.pickPartners_draws
    (generator : Generator σ)
    (lattice : Lattice)
    (origin count : Nat)
    (test : Nat → Site → Bool)
    (state : σ) :
    lattice.DrawsPartners (α := α) origin count test
      ((generator.pickPartners lattice origin count test).run state).1 := by
  have outcome :=
    generator.takeMany_drawn count 0 (lattice.candidates origin test) state
  rw [pickPartners, StateT.run_bind]
  rcases drawn :
      (generator.takeMany count 0 (lattice.candidates origin test)).run state with
    ⟨found | chosen, after⟩
  · rw [drawn] at outcome
    rcases outcome with ⟨short, foundEq⟩
    rw [lattice.length_candidates] at short foundEq
    rw [Nat.zero_add] at foundEq
    subst foundEq
    exact .of_short short
  · rw [drawn] at outcome
    exact .of_drawn outcome

/--
Partners are drawn without replacement, whatever numbers below the bounds a generator
yields: a draw fails exactly when too few neighbours of the origin pass the test, and
otherwise finds as many distinct ones as asked for.  In any list taking one element
leaves the others, and taking until nothing is left yields them all.
-/
theorem partners_drawn_without_replacement (generator : Generator σ) :
    (∀ (lattice : Lattice) (origin count : Nat) (test : Nat → Site → Bool)
          (state : σ),
        lattice.DrawsPartners (α := α) origin count test
          ((generator.pickPartners lattice origin count test).run state).1) ∧
      ∀ {β : Type} (items : List β) (state : σ),
        (((generator.take items).run state).1 = none ↔ items = []) ∧
          (∀ item rest,
              ((generator.take items).run state).1 = some (item, rest) →
                (item :: rest).Perm items) ∧
            (generator.takeAll items state).1.Perm items := by
  constructor
  · exact generator.pickPartners_draws
  · intro β items state
    refine ⟨generator.take_eq_none_iff items state, ?_, ?_⟩
    · intro item rest taken
      exact generator.take_perm taken
    · exact generator.takeAll_perm items state

/-- Two columns and three rows; the same neighbour lies east and west of a site. -/
def narrowSites : Lattice :=
  Lattice.ofConfig
    { kind := .simpleCubic
      columns := 2
      rows := 3
      initialHeight := 1 }

theorem partners_drawn_without_replacement_narrow :
    (∃ partners,
        (((Perform.raiseHeight 4).execute (α := Float) narrowSites 0).run
              (RandomSource.ofSeed 7)).1 =
            .ok ((Perform.raiseHeight 4).event narrowSites 0 partners) ∧
          partners.Perm [1, 2, 4]) ∧
      (((Perform.raiseHeight 5).execute (α := Float) narrowSites 0).run
            (RandomSource.ofSeed 7)).1 =
        .error (.process (.tooFewPartners 0 3 4)) := by
  let level : Nat → Site → Bool := fun _ site => site.height == 1
  have found : narrowSites.site? 0 = some (Site.vacant 1 "") := by decide +kernel
  have suitable : narrowSites.suitable 0 level = {1, 2, 4} := by decide +kernel
  have draws :=
    (partners_drawn_without_replacement (α := Float)
      RandomSource.generator).1 narrowSites 0
  constructor
  · have three := draws 3 level (RandomSource.ofSeed 7)
    rcases three.finds (by rw [suitable]; decide) with
      ⟨partners, drawn, lengthEq, nodup, among⟩
    have subset : partners ⊆ [1, 2, 4] := by
      intro partner member
      have listed := (among partner member).2
      rw [suitable] at listed
      simpa using listed
    refine ⟨partners, ?_, ?_⟩
    · rw [Perform.execute_eq_pickPartners _ found, StateT.run_map]
      exact congrArg (Except.map _) drawn
    · exact (List.subperm_of_subset nodup subset).perm_of_length_le lengthEq.ge
  · have four := draws 4 level (RandomSource.ofSeed 7)
    rcases four.fails_iff.mpr (by rw [suitable]; decide) with ⟨error, failed⟩
    have lacking := four.error_eq error failed
    rw [suitable] at lacking
    rw [Perform.execute_eq_pickPartners _ found, StateT.run_map]
    exact congrArg (Except.map _) (failed.trans (congrArg Except.error lacking))

end SurfaceKinetics
