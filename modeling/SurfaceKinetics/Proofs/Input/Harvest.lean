import SurfaceKinetics.Proofs.Input.Headers
import SurfaceKinetics.Proofs.Input.Segmentation

/-!
# What reading segments yields

Reading a segment yields at most one fault for its header, one outcome for each line
of a species block, and process lines to be compiled once all segments are read.
What the segments yield is added up along the reading; nothing that an earlier
segment has yielded is lost or changed by a later one.
-/

namespace SurfaceKinetics

variable {α : Type}

/-! ## Warnings of lines -/

/-- The warning that the fault of a line becomes. -/
def located (entry : Line × Option (InputError α)) : Option (InputError α) :=
  entry.2.map (.atLine entry.1.number)

theorem line?_of_located
    {entry : Line × Option (InputError α)}
    {warning : InputError α}
    (warns : located entry = some warning) :
    warning.line? = some entry.1.number := by
  rcases Option.map_eq_some_iff.mp warns with ⟨error, _, rfl⟩
  rfl

/-- The warnings about a line. -/
def SimulationInput.warningsAt
    (input : SimulationInput α)
    (number : Nat) :
    List (InputError α) :=
  input.warnings.filter fun warning => warning.line? = some number

theorem map_line?_located_sublist (entries : List (Line × Option (InputError α))) :
    ((entries.filterMap located).map InputError.line?).Sublist
      (entries.map fun entry => some entry.1.number) := by
  induction entries with
  | nil => exact .slnil
  | cons entry entries induction =>
      cases warns : located entry with
      | none =>
          rw [List.filterMap_cons_none warns]
          exact induction.cons _
      | some warning =>
          rw [List.filterMap_cons_some warns, List.map_cons, List.map_cons,
            line?_of_located warns]
          exact induction.cons_cons _

theorem filter_number_eq
    {entries : List (Line × Option (InputError α))}
    (distinct : (entries.map fun entry => entry.1.number).Nodup)
    {entry : Line × Option (InputError α)}
    (member : entry ∈ entries) :
    (entries.filter fun other => other.1.number = entry.1.number) = [entry] := by
  induction entries with
  | nil => cases member
  | cons first entries induction =>
      rw [List.map_cons, List.nodup_cons] at distinct
      rcases distinct with ⟨new, distinct⟩
      rcases List.mem_cons.mp member with rfl | later
      · have others :
            (entries.filter fun other => other.1.number = entry.1.number) = [] := by
          rw [List.filter_eq_nil_iff]
          intro other otherMember same
          apply new
          rw [← of_decide_eq_true same]
          exact List.mem_map_of_mem (f := fun entry => entry.1.number) otherMember
        rw [List.filter_cons, if_pos (decide_eq_true rfl), others]
      · have different : first.1.number ≠ entry.1.number := by
          intro same
          apply new
          rw [same]
          exact List.mem_map_of_mem (f := fun entry => entry.1.number) later
        rw [List.filter_cons, if_neg (by simpa using different)]
        exact induction distinct later

/-- Where lines have numbers of their own, each is warned about for its own fault. -/
theorem filter_located
    {entries : List (Line × Option (InputError α))}
    (distinct : (entries.map fun entry => entry.1.number).Nodup)
    {entry : Line × Option (InputError α)}
    (member : entry ∈ entries) :
    ((entries.filterMap located).filter fun warning =>
        warning.line? = some entry.1.number) =
      (located entry).toList := by
  have exchange :
      ((entries.filterMap located).filter fun warning =>
          warning.line? = some entry.1.number) =
        (entries.filter fun other =>
            other.1.number = entry.1.number).filterMap located := by
    rw [List.filter_filterMap, List.filterMap_filter]
    congr 1
    funext other
    cases warns : located other with
    | none => simp
    | some warning => simp [Option.filter_some, line?_of_located warns]
  rw [exchange, filter_number_eq distinct member]
  cases warns : located entry with
  | none => simp [warns]
  | some warning => simp [warns]

/-! ## Lines of species blocks -/

section Species

variable [Quantity α]

/-- The species that a line spells. -/
def Line.species? (line : Line) : Option (Species α) :=
  match line.tokens with
  | symbol :: weight :: _ =>
    (number? weight).map fun value => { symbol, weight := value }
  | _ => none

omit [Quantity α] in
theorem Registry.insertSpecies_perm (new : Species α) (species : List (Species α)) :
    (insertSpecies new species).Perm (new :: species) := by
  induction species with
  | nil => exact .refl _
  | cons first species induction =>
      rw [insertSpecies]
      split
      · exact .refl _
      · exact (induction.cons first).trans (.swap new first species)

/-- A line that declares a species declares the one it spells. -/
theorem Draft.declare_eq_ok
    {registry next : Registry α}
    {line : Line}
    (declared : declare registry line = .ok next) :
    ∃ species,
      line.species? = some species ∧
        next =
          { registry with
            species := Registry.insertSpecies species registry.species } := by
  rw [declare] at declared
  rw [Line.species?]
  split at declared
  · next symbol weight others tokensEq =>
    split at declared
    · next value spelled =>
      rw [Registry.addSpecies] at declared
      split at declared
      · split at declared
        · cases declared
        · cases declared
          exact ⟨{ symbol, weight := value }, by simp [tokensEq, spelled], rfl⟩
      · cases declared
    · cases declared
  · cases declared
  · cases declared

/-- Whether the weight of a species is a finite positive number. -/
def Species.isAdmissible (species : Species α) : Bool :=
  Quantity.isFinite species.weight && Quantity.isPositive species.weight

/-- A line with an admissible species is refused only when its symbol is taken. -/
theorem Draft.symbol_mem_of_declare_eq_error
    {registry : Registry α}
    {line : Line}
    {error : InputError α}
    (refused : declare registry line = .error error)
    {species : Species α}
    (spelled : line.species? = some species)
    (admissible : species.isAdmissible = true) :
    species.symbol ∈ registry.symbols := by
  rw [Line.species?] at spelled
  split at spelled
  · next symbol weight others tokensEq =>
    rcases Option.map_eq_some_iff.mp spelled with ⟨value, valueEq, rfl⟩
    rw [Species.isAdmissible] at admissible
    simp only [declare, tokensEq, valueEq, Registry.addSpecies,
      if_pos admissible] at refused
    split at refused
    · next other taken =>
      rw [Registry.species?] at taken
      have same := List.find?_some taken
      exact
        List.mem_map.mpr
          ⟨other, List.mem_of_find?_eq_some taken, of_decide_eq_true same⟩
    · cases refused
  · cases spelled

end Species

/-! ## What segments yield -/

/-- What some segments yield: faults of headers, outcomes of species lines, lines. -/
structure Harvest (α : Type) where
  headers : List (Line × Option (InputError α)) := []
  species : List (Line × Except (InputError α) (Species α)) := []
  processes : List Line := []

namespace Harvest

/-- The harvest of some segments and of the segments behind them. -/
def append (first second : Harvest α) : Harvest α where
  headers := first.headers ++ second.headers
  species := first.species ++ second.species
  processes := first.processes ++ second.processes

/-- The lines of a harvest with their faults. -/
def faults (harvest : Harvest α) : List (Line × Option (InputError α)) :=
  harvest.headers ++
    harvest.species.map fun entry => (entry.1, Draft.failure? entry.2)

/-- The species that a harvest declares. -/
def declared (harvest : Harvest α) : List (Species α) :=
  harvest.species.filterMap fun entry => Draft.compiled? entry.2

/-- The declared species are those of the lines that are kept. -/
theorem map_some_declared
    [Quantity α]
    (harvest : Harvest α)
    {kept : Line → Bool}
    (agree :
      ∀ entry ∈ harvest.species,
        match entry.2 with
        | .ok species =>
          kept entry.1 = true ∧ entry.1.species? = some species
        | .error _ => kept entry.1 = false) :
    harvest.declared.map some =
      ((harvest.species.map Prod.fst).filter kept).map Line.species? := by
  rw [declared]
  generalize harvest.species = entries at agree
  induction entries with
  | nil => rfl
  | cons entry entries induction =>
      rcases List.forall_mem_cons.mp agree with ⟨first, others⟩
      rcases entry with ⟨line, outcome⟩
      cases outcome with
      | error error =>
          rw [List.filterMap_cons_none rfl, List.map_cons,
            List.filter_cons_of_neg (by simpa using first)]
          exact induction others
      | ok species =>
          rcases first with ⟨isKept, spelled⟩
          rw [List.map_cons, List.filter_cons_of_pos isKept, List.map_cons,
            spelled, ← induction others]
          rfl

theorem faults_append (first second : Harvest α) :
    (first.append second).faults.Perm (first.faults ++ second.faults) := by
  simp only [faults, append, List.map_append, List.append_assoc]
  refine List.Perm.append_left _ ?_
  rw [← List.append_assoc, ← List.append_assoc]
  exact List.perm_append_comm.append_right _

theorem declared_append (first second : Harvest α) :
    (first.append second).declared = first.declared ++ second.declared :=
  List.filterMap_append

end Harvest

/-- A harvest leads from one draft to another. -/
structure Draft.Gains
    [Quantity α]
    (harvest : Harvest α)
    (before after : Draft α) : Prop where
  spelled :
    ∀ line species,
      (line, .ok species) ∈ harvest.species → line.species? = some species
  taken :
    ∀ (line : Line) (error : InputError α),
      (line, .error error) ∈ harvest.species →
        ∀ species : Species α,
          line.species? = some species →
            species.isAdmissible = true →
              species.symbol ∈ after.input.registry.symbols
  species :
    after.input.registry.species.Perm
      (before.input.registry.species ++ harvest.declared)
  processes :
    after.input.registry.processes = before.input.registry.processes
  byName : after.input.registry.byName = before.input.registry.byName
  warnings :
    after.input.warnings.Perm
      (before.input.warnings ++ harvest.faults.filterMap located)
  processLines : after.processLines = before.processLines ++ harvest.processes

namespace Draft

variable [Quantity α]

theorem Gains.refl (draft : Draft α) : Gains {} draft draft where
  spelled _ _ := nofun
  taken _ _ := nofun
  species := by simp [Harvest.declared]
  processes := rfl
  byName := rfl
  warnings := by simp [Harvest.faults]
  processLines := by simp

/-- Declared symbols stay declared. -/
theorem Gains.symbols_subset
    {harvest : Harvest α}
    {before after : Draft α}
    (gains : Gains harvest before after) :
    before.input.registry.symbols ⊆ after.input.registry.symbols := by
  intro symbol member
  rcases List.mem_map.mp member with ⟨species, declared, rfl⟩
  exact
    List.mem_map_of_mem
      (gains.species.symm.subset (List.mem_append_left _ declared))

theorem Gains.trans
    {first second : Harvest α}
    {before between after : Draft α}
    (gains : Gains first before between)
    (gainsThen : Gains second between after) :
    Gains (first.append second) before after where
  spelled line species member := by
    rcases List.mem_append.mp member with early | late
    · exact gains.spelled line species early
    · exact gainsThen.spelled line species late
  taken line error member species spelled admissible := by
    rcases List.mem_append.mp member with early | late
    · exact
        gainsThen.symbols_subset
          (gains.taken line error early species spelled admissible)
    · exact gainsThen.taken line error late species spelled admissible
  species := by
    rw [Harvest.declared_append, ← List.append_assoc]
    exact gainsThen.species.trans (gains.species.append_right _)
  processes := gainsThen.processes.trans gains.processes
  byName := gainsThen.byName.trans gains.byName
  warnings := by
    -- Headers and species lines take turns, so the order is lost in the sum.
    have added :
        (first.faults.filterMap located ++ second.faults.filterMap located).Perm
          ((first.append second).faults.filterMap located) := by
      rw [← List.filterMap_append]
      exact ((Harvest.faults_append first second).filterMap located).symm
    refine gainsThen.warnings.trans ((gains.warnings.append_right _).trans ?_)
    rw [List.append_assoc]
    exact added.append_left _
  processLines := by
    rw [gainsThen.processLines, gains.processLines, List.append_assoc]
    rfl

/-! ### One line -/

/-- A line of a species block is a declared species or one warning. -/
theorem readSpecies_gains (draft : Draft α) (line : Line) :
    ∃ outcome,
      Gains { species := [(line, outcome)] } draft
        (draft.readSpecies line).value := by
  rw [readSpecies]
  cases outcome : declare draft.input.registry line with
  | error error =>
      refine ⟨.error error, ?_⟩
      constructor
      · simp
      · intro other _ member species spelled admissible
        simp only [List.mem_singleton, Prod.mk.injEq] at member
        rcases member with ⟨rfl, _⟩
        exact symbol_mem_of_declare_eq_error outcome spelled admissible
      · simp [Harvest.declared, compiled?, recover]
      · rfl
      · rfl
      · simp [Harvest.faults, located, failure?, recover]
      · simp [recover]
  | ok next =>
      rcases declare_eq_ok outcome with ⟨species, spelled, rfl⟩
      refine ⟨.ok species, ?_⟩
      constructor
      · simp [spelled]
      · simp
      · have inserted :=
          Registry.insertSpecies_perm species draft.input.registry.species
        exact inserted.trans (List.perm_append_singleton species _).symm
      · rfl
      · rfl
      · simp [Harvest.faults, located, failure?, List.filterMap_cons]
      · simp

/-- The lines of a species block have one outcome each. -/
theorem foldlM_readSpecies_gains (body : List Line) (draft : Draft α) :
    ∃ outcomes,
      outcomes.map Prod.fst = body ∧
        Gains { species := outcomes } draft
          (body.foldlM readSpecies draft).value := by
  induction body generalizing draft with
  | nil => exact ⟨[], rfl, .refl draft⟩
  | cons line body induction =>
      rcases draft.readSpecies_gains line with ⟨outcome, first⟩
      rcases induction (draft.readSpecies line).value with
        ⟨outcomes, outcomesEq, others⟩
      refine ⟨(line, outcome) :: outcomes, congrArg (line :: ·) outcomesEq, ?_⟩
      rw [List.foldlM_cons, Noted.value_bind]
      exact first.trans others

end Draft

/-! ### One segment -/

namespace Directive

/-- The lines of a species block. -/
def speciesBody : Directive α → List Line
  | species body => body
  | _ => []

/-- The lines of a process block. -/
def processBody : Directive α → List Line
  | processes body => body
  | _ => []

theorem exists_of_map_eq_ok
    {ε β γ : Type}
    {function : β → γ}
    {outcome : Except ε β}
    {result : γ}
    (mapped : function <$> outcome = .ok result) :
    ∃ value, outcome = .ok value ∧ result = function value := by
  cases outcome with
  | error error => cases mapped
  | ok value =>
      cases mapped
      exact ⟨value, rfl, rfl⟩

theorem blockOf_eq_ok
    {keyword : Keyword}
    {segment : Segment}
    {body : List Line}
    (block : blockOf (α := α) keyword segment = .ok body) :
    body = segment.body := by
  rw [blockOf] at block
  split at block
  · cases block
  · split at block
    · cases block
    · cases block
      rfl

theorem closed_of_blockOf_eq_error
    {keyword : Keyword}
    {segment : Segment}
    {error : InputError α}
    (failed : blockOf keyword segment = .error error) :
    ∀ count,
      Segment.Announces segment.header count → segment.following < count := by
  rintro count ⟨_, _, _, countEq⟩
  rw [blockOf, countEq] at failed
  dsimp only at failed
  split at failed
  · next short => exact short
  · cases failed

theorem eq_error_of_map_eq_error
    {ε β γ : Type}
    {function : β → γ}
    {outcome : Except ε β}
    {error : ε}
    (mapped : function <$> outcome = .error error) :
    outcome = .error error := by
  cases outcome with
  | error other =>
      cases mapped
      rfl
  | ok value => cases mapped

variable [Quantity α]

/-- A directive has the body of its segment if its keyword opens a block. -/
theorem bodies_of_ofSegment
    {segment : Segment}
    {directive : Directive α}
    (read : ofSegment segment = .ok directive) :
    directive.speciesBody = segment.bodyUnder .species ∧
      directive.processBody = segment.bodyUnder .processes := by
  rw [ofSegment] at read
  simp only [Segment.bodyUnder]
  cases keywordEq : Segment.keyword? segment.header with
  | none =>
      rw [keywordEq] at read
      cases read
      exact ⟨rfl, rfl⟩
  | some keyword =>
      rw [keywordEq] at read
      cases keyword <;>
        (rcases exists_of_map_eq_ok read with ⟨value, valueEq, rfl⟩)
      case species => exact ⟨blockOf_eq_ok valueEq, rfl⟩
      case processes => exact ⟨rfl, blockOf_eq_ok valueEq⟩
      all_goals exact ⟨rfl, rfl⟩

/-- A header that cannot be read leaves no lines to a body. -/
theorem bodies_of_ofSegment_eq_error
    {segment : Segment}
    {error : InputError α}
    (cut : segment.Cut)
    (failed : ofSegment segment = .error error) :
    segment.bodyUnder .species = [] ∧ segment.bodyUnder .processes = [] := by
  rw [ofSegment] at failed
  simp only [Segment.bodyUnder]
  cases keywordEq : Segment.keyword? segment.header with
  | none => exact ⟨rfl, rfl⟩
  | some keyword =>
      rw [keywordEq] at failed
      cases keyword with
      | species =>
          have closed :=
            closed_of_blockOf_eq_error (eq_error_of_map_eq_error failed)
          exact ⟨cut.body_eq_nil closed, rfl⟩
      | processes =>
          have closed :=
            closed_of_blockOf_eq_error (eq_error_of_map_eq_error failed)
          exact ⟨rfl, cut.body_eq_nil closed⟩
      | _ => exact ⟨rfl, rfl⟩

end Directive

namespace Draft

variable [Quantity α]

/-- The header of a segment with what is wrong with it. -/
def headerFault (segment : Segment) : Line × Option (InputError α) :=
  (segment.header, failure? (Directive.ofSegment (α := α) segment))

/-- A harvest comes from some segments. -/
structure Reaped (segments : List Segment) (harvest : Harvest α) : Prop where
  headers : harvest.headers = segments.map headerFault
  species : harvest.species.map Prod.fst = Segment.speciesLines segments
  processes : harvest.processes = Segment.processLines segments

theorem Reaped.append
    {first second : List Segment}
    {harvest later : Harvest α}
    (reaped : Reaped first harvest)
    (reapedThen : Reaped second later) :
    Reaped (first ++ second) (harvest.append later) where
  headers := by
    rw [List.map_append, ← reaped.headers, ← reapedThen.headers]
    rfl
  species := by
    rw [Segment.speciesLines, List.flatMap_append]
    exact
      List.map_append.trans (congr (congrArg _ reaped.species) reapedThen.species)
  processes := by
    rw [Segment.processLines, List.flatMap_append]
    exact congr (congrArg _ reaped.processes) reapedThen.processes

/-- A directive yields the outcomes of its species block and its process lines. -/
theorem apply_gains
    (draft : Draft α)
    (number : Nat)
    (directive : Directive α) :
    ∃ outcomes,
      outcomes.map Prod.fst = directive.speciesBody ∧
        Gains { species := outcomes, processes := directive.processBody } draft
          (draft.apply number directive).value := by
  cases directive with
  | species body => exact draft.foldlM_readSpecies_gains body
  | processes body =>
      refine ⟨[], rfl, ?_⟩
      constructor
      · simp
      · simp
      · simp [Harvest.declared, apply]
      · rfl
      · rfl
      · simp [Harvest.faults, apply]
      · rfl
  | _ =>
      refine ⟨[], rfl, ?_⟩
      constructor
      · simp
      · simp
      · simp [Harvest.declared, apply]
      · rfl
      · rfl
      · simp [Harvest.faults, apply]
      · simp [apply, Directive.processBody]

/-- A segment that is read yields what its header and its body say. -/
theorem readSegment_gains
    {draft after : Draft α}
    {segment : Segment}
    (cut : segment.Cut)
    (read : (draft.readSegment segment).value = .ok after) :
    ∃ harvest, Reaped [segment] harvest ∧ Gains harvest draft after := by
  rw [readSegment_eq] at read
  unfold takeBySeverity at read
  split at read
  · next directive directiveEq =>
    rcases draft.apply_gains segment.header.number directive with
      ⟨outcomes, outcomesEq, gains⟩
    rcases Directive.bodies_of_ofSegment directiveEq with ⟨species, processes⟩
    cases read
    refine
      ⟨{ headers := [(segment.header, none)]
         species := outcomes
         processes := directive.processBody },
        ?_, ?_⟩
    · constructor
      · simp [headerFault, directiveEq, failure?]
      · simp [outcomesEq, species, Segment.speciesLines]
      · simp [processes, Segment.processLines]
    · exact
        { gains with
          warnings := by
            simpa [Harvest.faults, located, List.filterMap_cons]
              using gains.warnings }
  · next error errorEq =>
    split at read
    · cases read
    · rcases Directive.bodies_of_ofSegment_eq_error cut errorEq with
        ⟨species, processes⟩
      cases read
      refine ⟨{ headers := [(segment.header, some error)] }, ?_, ?_⟩
      · constructor
        · simp [headerFault, errorEq, failure?]
        · simp [species, Segment.speciesLines]
        · simp [processes, Segment.processLines]
      · constructor
        · simp
        · simp
        · simp [Harvest.declared, recover]
        · rfl
        · rfl
        · simp [Harvest.faults, located, recover]
        · simp [recover]

/-- What the segments yield adds up along a reading. -/
theorem readSegments_gains
    {segments : List Segment}
    (cut : ∀ segment ∈ segments, segment.Cut)
    {draft after : Draft α}
    (read : (readSegments segments draft).value = .ok after) :
    ∃ harvest, Reaped segments harvest ∧ Gains harvest draft after := by
  induction segments generalizing draft with
  | nil =>
      cases read
      exact ⟨{}, ⟨rfl, rfl, rfl⟩, .refl _⟩
  | cons segment segments induction =>
      rcases List.forall_mem_cons.mp cut with ⟨first, others⟩
      rw [readSegments, Noted.value_bind] at read
      split at read
      · next between betweenEq =>
        rcases readSegment_gains first betweenEq with ⟨harvest, reaped, gains⟩
        rcases induction others read with ⟨later, reapedThen, gainsThen⟩
        exact
          ⟨harvest.append later, reaped.append reapedThen, gains.trans gainsThen⟩
      · cases read

end Draft

end SurfaceKinetics
