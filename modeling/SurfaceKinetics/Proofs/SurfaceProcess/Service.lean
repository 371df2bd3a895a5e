import SurfaceKinetics.Proofs.SurfaceProcess.Supply
import SurfaceKinetics.SurfaceProcess.Binding

/-!
# Rules that serve performs

A rule serves a perform when it promises all that the perform looks for at an
origin and among its neighbours.  The pairs of a rule and a perform to which
binding leads are listed here once; in each of them the neighbours that the rule
counts are the ones from which the perform draws its partners.  So the event of
a served perform cannot fail at a site where the rule holds.
-/

namespace SurfaceKinetics

/-- The pairs of a rule and a perform to which binding leads. -/
inductive Rule.Serves : Rule → Perform → Prop where
  | raise : Serves .unconditional (.raiseHeight 1)
  | raiseCluster (extra : Nat) :
      Serves (.sameHeightNeighbours extra) (.raiseHeight (extra + 1))
  | lower : Serves .allNeighboursOccupied (.lowerHeight 1)
  | lowerCluster (extra : Nat) :
      Serves (.elevated extra) (.lowerHeight (extra + 1))
  | cover (species : String) : Serves .vacant (.cover species 1)
  | coverCluster (species : String) (extra : Nat) :
      Serves (.vacantCluster extra) (.cover species (extra + 1))
  | uncover (species : String) (extra : Nat) :
      Serves (.occupiedBy species extra) (.uncover species (extra + 1))
  | hopHeight : Serves .canDescend .hopHeight
  | hop (species : String) : Serves (.canHop species) (.hop species)
  | react
      (first : String)
      (partner product : Option String)
      (grows : Bool) :
      Serves (.pair first partner) (.react partner product grows)

namespace Rule.Serves

variable
    {rule : Rule}
    {perform : Perform}
    (serves : rule.Serves perform)

include serves

/-- What the rule offers covers the needs of the perform. -/
theorem cover_needs : rule.offers.Cover perform.needs := by
  -- A perform of one site draws nothing; the others draw what the rule counts.
  cases serves with
  | raise => exact Or.inl rfl
  | lower => exact Or.inl rfl
  | cover species => exact Or.inl rfl
  | raiseCluster extra => exact Or.inr ⟨Nat.le_refl _, rfl⟩
  | lowerCluster extra => exact Or.inr ⟨Nat.le_refl _, rfl⟩
  | coverCluster species extra => exact Or.inr ⟨Nat.le_refl _, rfl⟩
  | uncover species extra =>
      exact Or.inr ⟨Nat.le_refl _, NeighbourKind.within_self _⟩
  | hopHeight => exact Or.inr ⟨Nat.le_refl _, rfl⟩
  | hop species => exact Or.inr ⟨Nat.le_refl _, rfl⟩
  | react first partner product grows =>
      cases partner with
      | none => exact Or.inl rfl
      | some second =>
          exact Or.inr ⟨Nat.le_refl _, NeighbourKind.within_self _⟩

/-- Where the rule holds an event of the perform cannot fail. -/
theorem not_fails
    {α : Type}
    {error : SimulationError α}
    {lattice : Lattice}
    {site : Nat}
    (eligible : rule.isEligible lattice site = true) :
    ¬ perform.Fails lattice site error := by
  intro fails
  rw [Rule.isEligible] at eligible
  cases fails with
  | outside absent =>
      rw [lattice.site?_eq_none_iff.mpr absent] at eligible
      cases eligible
  | tooFew found short =>
      rw [found] at eligible
      have enough := Rule.partners_le_of_cover serves.cover_needs eligible
      exact Nat.not_lt_of_le enough short

end Rule.Serves

/-! ## Bound processes -/

namespace Binding

variable {α : Type}

theorem siteCount_pos (terms : List String) : 0 < siteCount terms :=
  Nat.le_max_right _ _

theorem sitesOf_pos (descriptor : Descriptor α) : 0 < sitesOf descriptor := by
  rw [sitesOf]
  split
  · exact siteCount_pos _
  · exact siteCount_pos _
  · exact Nat.one_pos

/-- The rule of a binding serves its perform, if the two are consistent. -/
theorem parts_serves
    (vocabulary : Vocabulary)
    (descriptor : Descriptor α)
    (growth : List String)
    (species : String)
    (consistent :
      SurfaceProcess.isConsistent
          (parts vocabulary descriptor growth species).1
          (parts vocabulary descriptor growth species).2 =
        true) :
    (parts vocabulary descriptor growth species).1.Serves
      (parts vocabulary descriptor growth species).2 := by
  rcases Nat.exists_eq_add_of_le' (sitesOf_pos descriptor) with
    ⟨extra, sitesEq⟩
  simp only [parts, sitesEq, Nat.add_sub_cancel] at consistent ⊢
  revert consistent
  split
  · intro _
    split
    · next alone =>
        subst alone
        exact .raise
    · exact .raiseCluster extra
  · intro _
    split
    · next alone =>
        subst alone
        exact .cover species
    · exact .coverCluster species extra
  · split
    · intro consistent
      -- Only a desorption of one site may ask for all neighbours.
      have alone : extra + 1 = 1 := eq_of_beq consistent
      rw [alone]
      exact .lower
    · intro _
      exact .lowerCluster extra
  · exact fun _ => .uncover species extra
  · exact fun _ => .hopHeight
  · exact fun _ => .hop species
  · exact fun _ => .react _ _ _ _

variable [Quantity α]

/-- The process that a descriptor is bound to, if it is bound. -/
def processOf
    (registry : Registry α)
    (growth : List String)
    (descriptor : Descriptor α)
    (species : String)
    (rateLaw : RateLaw α) :
    SurfaceProcess α :=
  let parts := parts registry.vocabulary descriptor growth species
  let mode := modeOf descriptor.category species growth
  .ofParts descriptor species mode parts.1 rateLaw parts.2

theorem assemble_eq_ok_iff
    {descriptor : Descriptor α}
    {registry : Registry α}
    {growth : List String}
    {process : SurfaceProcess α} :
    assemble descriptor registry growth = .ok process ↔
      descriptor.fault? = none ∧
        ∃ species law,
          primarySpecies? registry.vocabulary descriptor = some species ∧
            RateLaw.select descriptor.name descriptor.category descriptor.energetics
                (massOf registry species) =
              .ok law ∧
              process = processOf registry growth descriptor species law := by
  rw [assemble]
  dsimp only
  cases descriptor.fault? with
  | some fault => exact iff_of_false nofun fun both => nomatch both.1
  | none =>
      cases primarySpecies? registry.vocabulary descriptor with
      | none =>
          refine iff_of_false nofun ?_
          rintro ⟨_, _, _, ⟨⟩, _⟩
      | some species =>
          cases selected :
            RateLaw.select descriptor.name descriptor.category descriptor.energetics
              (massOf registry species) with
          | error fault =>
              simp [selected, bind, Except.bind]
          | ok law =>
              simp [selected, bind, Except.bind, pure, Except.pure, processOf, eq_comm]

/-- An assembled process has the mode, rule and perform of its descriptor. -/
theorem assemble_ok
    {descriptor : Descriptor α}
    {registry : Registry α}
    {growth : List String}
    {process : SurfaceProcess α}
    (assembled : assemble descriptor registry growth = .ok process) :
    ∃ species,
      process.descriptor = descriptor ∧
        process.mode = modeOf descriptor.category species growth ∧
          process.rule =
              (parts registry.vocabulary descriptor growth species).1 ∧
            process.perform =
              (parts registry.vocabulary descriptor growth species).2 := by
  rcases assemble_eq_ok_iff.mp assembled with ⟨_, species, law, _, _, rfl⟩
  exact ⟨species, rfl, rfl, rfl, rfl⟩

end Binding

namespace SurfaceProcess

variable {α : Type} [Quantity α]

theorem isConsistent_of_fault?
    {process : SurfaceProcess α}
    (faultless : process.fault? = none) :
    isConsistent process.rule process.perform = true := by
  rw [fault?] at faultless
  split at faultless
  · next consistent => exact consistent
  · cases faultless

/-- A bound process has been assembled and has no fault. -/
theorem assembled_of_bind
    {descriptor : Descriptor α}
    {registry : Registry α}
    {growth : List String}
    {process : SurfaceProcess α}
    (bound : (bind descriptor registry growth).value = .ok process) :
    Binding.assemble descriptor registry growth = .ok process ∧
      process.fault? = none := by
  rw [bind] at bound
  split at bound
  · cases bound
  · next candidate assembled =>
      rw [Noted.value_bind, Noted.value_pure, checked] at bound
      split at bound
      · cases bound
      · next faultless =>
          cases bound
          exact ⟨assembled, faultless⟩

/-- The rule of a bound process serves its perform. -/
theorem serves_of_bind
    {descriptor : Descriptor α}
    {registry : Registry α}
    {growth : List String}
    {process : SurfaceProcess α}
    (bound : (bind descriptor registry growth).value = .ok process) :
    process.rule.Serves process.perform := by
  rcases assembled_of_bind bound with ⟨assembled, faultless⟩
  have consistent := isConsistent_of_fault? faultless
  rcases Binding.assemble_ok assembled with ⟨species, _, _, ruleEq, performEq⟩
  rw [ruleEq, performEq] at consistent ⊢
  exact Binding.parts_serves _ _ _ _ consistent

end SurfaceProcess

end SurfaceKinetics
