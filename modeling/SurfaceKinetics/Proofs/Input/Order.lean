import Mathlib.Logic.Function.Basic
import SurfaceKinetics.Proofs.Input.Passage
import SurfaceKinetics.Proofs.Input.Severity

/-!
# The order of an input

Each known keyword sets a part of the input that no other one sets, so an input of
passages is assembled from the passage under each keyword.  Steps find their lattice,
and process lines their species, when all passages have been read.  So the order of
passages with keywords of their own does not matter, and passages without a known
keyword may be left out.
-/

namespace SurfaceKinetics

variable {α : Type}

/-! ## Equal up to the order of warnings -/

/-- Two readings both fail, or both succeed with related results. -/
def Concordant
    {ε β : Type}
    (related : β → β → Prop) :
    Except ε β → Except ε β → Prop
  | .error _, .error _ => True
  | .ok value, .ok other => related value other
  | _, _ => False

theorem Concordant.map
    {ε β γ : Type}
    {related : β → β → Prop}
    {relatedImages : γ → γ → Prop}
    {function : β → γ}
    {outcome other : Except ε β}
    (concordant : Concordant related outcome other)
    (preserves :
      ∀ value image, related value image →
        relatedImages (function value) (function image)) :
    Concordant relatedImages (outcome.map function) (other.map function) := by
  cases outcome with
  | error error =>
      cases other with
      | error error => trivial
      | ok image => cases concordant
  | ok value =>
      cases other with
      | error error => cases concordant
      | ok image => exact preserves value image concordant

theorem concordant_renumbered_iff
    {β : Type}
    {related : β → β → Prop}
    {place : Nat → Nat}
    {move : β → β}
    (outcome other : Except (InputError α) β) :
    Concordant related
        (renumbered place move outcome) (renumbered place move other) ↔
      Concordant (fun value image => related (move value) (move image))
        outcome other := by
  cases outcome <;> cases other <;> rfl

/-- An input is another one with its warnings rearranged. -/
def SimulationInput.Alike (input other : SimulationInput α) : Prop :=
  ∃ warnings, warnings.Perm other.warnings ∧ input = { other with warnings }

/-- A draft is another one with its warnings rearranged. -/
def Draft.Alike (draft other : Draft α) : Prop :=
  ∃ warnings,
    warnings.Perm other.input.warnings ∧
      draft = { other with input := { other.input with warnings } }

namespace Draft.Alike

variable {draft middle other : Draft α}

theorem symm (alike : draft.Alike other) : other.Alike draft := by
  rcases alike with ⟨warnings, perm, rfl⟩
  exact ⟨_, perm.symm, rfl⟩

theorem trans
    (first : draft.Alike middle)
    (second : middle.Alike other) :
    draft.Alike other := by
  rcases first with ⟨warnings, perm, rfl⟩
  rcases second with ⟨_, later, rfl⟩
  exact ⟨warnings, perm.trans later, rfl⟩

theorem finish
    [Quantity α]
    (alike : draft.Alike other) :
    draft.finish.value.Alike other.finish.value := by
  rcases alike with ⟨warnings, perm, rfl⟩
  rw [finish_eq, finish_eq]
  refine ⟨_, perm.append_right _, ?_⟩
  rcases other with ⟨input, steps, processLines⟩
  cases steps <;> rfl

end Draft.Alike

/-! ## Parts of an input -/

/-- The first passage with a keyword, as a segment. -/
def Segment.under? (passages : List (List Line)) (keyword : Keyword) : Option Segment :=
  (passages.find? fun passage => headKeyword? passage = some keyword).map ofPassage

namespace Segment

theorem under?_nil (keyword : Keyword) : under? [] keyword = none :=
  rfl

theorem under?_cons
    (passage : List Line)
    (passages : List (List Line))
    (keyword : Keyword) :
    under? (passage :: passages) keyword =
      if headKeyword? passage = some keyword then
        some (ofPassage passage)
      else
        under? passages keyword := by
  rw [under?, List.find?_cons]
  split_ifs with headed
  · rw [decide_eq_true headed]
    rfl
  · rw [decide_eq_false headed]
    rfl

/-- Where keywords are distinct, the passages with a keyword are the first one. -/
theorem under?_eq_some_iff
    {passages : List (List Line)}
    (distinct : (passages.filterMap headKeyword?).Nodup)
    {keyword : Keyword}
    {segment : Segment} :
    under? passages keyword = some segment ↔
      ∃ passage ∈ passages,
        headKeyword? passage = some keyword ∧ ofPassage passage = segment := by
  induction passages with
  | nil => exact iff_of_false nofun nofun
  | cons passage passages induction =>
      rw [under?_cons, List.exists_mem_cons_iff]
      split_ifs with headed
      · have others :
            ¬ ∃ other ∈ passages,
              headKeyword? other = some keyword ∧ ofPassage other = segment := by
          rintro ⟨other, member, again, _⟩
          rw [List.filterMap_cons_some headed] at distinct
          exact
            (List.nodup_cons.mp distinct).1
              (List.mem_filterMap.mpr ⟨other, member, again⟩)
        simp [headed, others]
      · have later :=
          (List.sublist_cons_self passage passages).filterMap headKeyword?
        simp [headed, induction (distinct.sublist later)]

/-- Passages that are left have distinct keywords still. -/
theorem nodup_rearranged
    {passages others dropped : List (List Line)}
    (distinct : (passages.filterMap headKeyword?).Nodup)
    (rearranged : passages.Perm (others ++ dropped)) :
    (others.filterMap headKeyword?).Nodup := by
  have perm := rearranged.filterMap headKeyword?
  rw [List.filterMap_append] at perm
  exact (List.nodup_append.mp (perm.nodup_iff.mp distinct)).1

/-- The passage with a keyword does not depend on the order of the passages. -/
theorem under?_rearranged
    {passages others dropped : List (List Line)}
    (distinct : (passages.filterMap headKeyword?).Nodup)
    (rearranged : passages.Perm (others ++ dropped))
    (unknown : ∀ passage ∈ dropped, headKeyword? passage = none) :
    under? passages = under? others := by
  have distinctOthers := nodup_rearranged distinct rearranged
  funext keyword
  apply Option.ext
  intro segment
  rw [under?_eq_some_iff distinct, under?_eq_some_iff distinctOthers]
  constructor
  · rintro ⟨passage, member, headed, rfl⟩
    rcases List.mem_append.mp (rearranged.mem_iff.mp member) with kept | gone
    · exact ⟨passage, kept, headed, rfl⟩
    · rw [unknown passage gone] at headed
      cases headed
  · rintro ⟨passage, member, headed, rfl⟩
    exact
      ⟨passage, rearranged.mem_iff.mpr (List.mem_append_left _ member), headed, rfl⟩

end Segment

namespace Draft

variable [Quantity α]

/-- A registry with the species of some lines, and the warnings about the lines. -/
def declareAll :
    Registry α → List Line → Registry α × List (InputError α)
  | registry, [] => (registry, [])
  | registry, line :: body =>
    match declare registry line with
    | .ok next => declareAll next body
    | .error error =>
      ((declareAll registry body).1,
        .atLine line.number error :: (declareAll registry body).2)

section Parts

variable (part? : Keyword → Option Segment)

/-- The value of a header, if it can be read. -/
def given?
    {β : Type}
    (keyword : Keyword)
    (parse : List String → Except (InputError α) β) :
    Option β :=
  (part? keyword).bind fun passage => compiled? (parse passage.header.tokens)

/-- The lines of a block, if there is one. -/
def bodyUnder (keyword : Keyword) : List Line :=
  (part? keyword).elim [] Segment.body

/-- The species that the lines of the species block declare, and its warnings. -/
def declared : Registry α × List (InputError α) :=
  declareAll {} (bodyUnder part? .species)

/-- The warning about the steps, if they cannot be read. -/
def stepsWarnings : List (InputError α) :=
  ((part? .steps).bind fun passage =>
    located
      (passage.header,
        failure? (Directive.stepsOf passage.header.tokens))).toList

/-- The draft of an input with the given passages under its keywords. -/
def assembled : Draft α where
  input :=
    { lattice := given? (α := α) part? .buildLattice Directive.latticeOf
      registry := (declared part?).1
      pressure :=
        given? part? .pressure fun tokens =>
          Directive.valueOf .pressure tokens .pressure
      temperature :=
        given? part? .temperature fun tokens =>
          Directive.valueOf .temperature tokens .temperature
      endTime :=
        given? part? .time fun tokens => Directive.valueOf .time tokens .time
      debug := (given? (α := α) part? .debug Directive.debugOf).getD false
      warnings := stepsWarnings part? ++ (declared part?).2 }
  steps := (given? (α := α) part? .steps Directive.stepsOf).getD none
  processLines := bodyUnder part? .processes

end Parts

/-! ## One passage -/

/-- The lines of a species block change the registry and the warnings only. -/
theorem foldlM_readSpecies_eq (body : List Line) (draft : Draft α) :
    (body.foldlM readSpecies draft).value =
      { draft with
        input :=
          { draft.input with
            registry := (declareAll draft.input.registry body).1
            warnings :=
              draft.input.warnings ++
                (declareAll draft.input.registry body).2 } } := by
  induction body generalizing draft with
  | nil => simp [declareAll]
  | cons line body induction =>
      rw [List.foldlM_cons, Noted.value_bind, readSpecies, declareAll]
      cases declare draft.input.registry line with
      | ok next => exact induction _
      | error error =>
          refine (induction _).trans ?_
          simp [recover]

/-- Where the fields of a header cannot be done without, they have been read. -/
theorem exists_value_of_readSegment
    {β : Type}
    {outcome : Except (InputError α) β}
    (severity : HasSeverity true outcome)
    {make : β → Directive α}
    {draft next : Draft α}
    {segment : Segment}
    (outcomeEq : Directive.ofSegment segment = make <$> outcome)
    (read : (draft.readSegment segment).value = .ok next) :
    ∃ value,
      outcome = .ok value ∧
        next = (draft.apply segment.header.number (make value)).value := by
  rw [readSegment_eq, outcomeEq] at read
  cases outcome with
  | ok value =>
      cases read
      exact ⟨value, rfl, rfl⟩
  | error error =>
      simp only [takeBySeverity, Functor.map, Except.map, severity error rfl] at read
      cases read

theorem readSegment_of_ok
    (draft : Draft α)
    {segment : Segment}
    {directive : Directive α}
    (outcome : Directive.ofSegment segment = .ok directive) :
    (draft.readSegment segment).value =
      .ok (draft.apply segment.header.number directive).value := by
  rw [readSegment_eq, outcome]
  rfl

theorem readSegment_of_error
    (draft : Draft α)
    {segment : Segment}
    {error : InputError α}
    (outcome : Directive.ofSegment segment = .error error)
    (harmless : error.isFatal = false) :
    (draft.readSegment segment).value =
      .ok (draft.recover (.atLine segment.header.number error)).value := by
  rw [readSegment_eq, outcome, takeBySeverity, harmless]
  rfl

/-- Reading a passage under a new keyword adds it to the others. -/
theorem readSegment_assembled
    {part? : Keyword → Option Segment}
    {passage : Segment}
    {keyword : Keyword}
    (headed : Segment.keyword? passage.header = some keyword)
    (whole :
      keyword.opensBlock = true →
        Directive.blockOf (α := α) keyword passage = .ok passage.body)
    (fresh : part? keyword = none)
    {draft next : Draft α}
    (alike : draft.Alike (assembled part?))
    (read : (draft.readSegment passage).value = .ok next) :
    next.Alike (assembled (Function.update part? keyword (some passage))) := by
  rcases alike with ⟨warnings, perm, rfl⟩
  cases keyword with
  | buildLattice =>
      rcases exists_value_of_readSegment (Directive.severity_latticeOf _)
          (by rw [Directive.ofSegment, headed]) read with
        ⟨value, valueEq, rfl⟩
      refine ⟨warnings, perm, ?_⟩
      simp [assembled, given?, bodyUnder, declared, apply, valueEq, compiled?]
  | pressure =>
      rcases exists_value_of_readSegment (Directive.severity_valueOf _ _ rfl)
          (by rw [Directive.ofSegment, headed]) read with
        ⟨value, valueEq, rfl⟩
      refine ⟨warnings, perm, ?_⟩
      simp [assembled, given?, bodyUnder, declared, apply, valueEq, compiled?]
  | temperature =>
      rcases exists_value_of_readSegment (Directive.severity_valueOf _ _ rfl)
          (by rw [Directive.ofSegment, headed]) read with
        ⟨value, valueEq, rfl⟩
      refine ⟨warnings, perm, ?_⟩
      simp [assembled, given?, bodyUnder, declared, apply, valueEq, compiled?]
  | time =>
      rcases exists_value_of_readSegment (Directive.severity_valueOf _ _ rfl)
          (by rw [Directive.ofSegment, headed]) read with
        ⟨value, valueEq, rfl⟩
      refine ⟨warnings, perm, ?_⟩
      simp [assembled, given?, bodyUnder, declared, apply, valueEq, compiled?]
  | debug =>
      rcases exists_value_of_readSegment (Directive.severity_debugOf _)
          (by rw [Directive.ofSegment, headed]) read with
        ⟨value, valueEq, rfl⟩
      refine ⟨warnings, perm, ?_⟩
      simp [assembled, given?, bodyUnder, declared, apply, valueEq, compiled?]
  | steps =>
      have shape :
          Directive.ofSegment (α := α) passage =
            .steps <$> Directive.stepsOf passage.header.tokens := by
        rw [Directive.ofSegment, headed]
      have warned :
          (assembled (α := α)
              (Function.update part? .steps (some passage))).input.warnings =
            (located
                (passage.header,
                  failure? (Directive.stepsOf passage.header.tokens))).toList ++
              (declared part?).2 := by
        simp [assembled, stepsWarnings, declared, bodyUnder]
      replace perm : warnings.Perm (declared part?).2 := by
        simpa [assembled, stepsWarnings, fresh] using perm
      cases outcome : Directive.stepsOf (α := α) passage.header.tokens with
      | ok value =>
          rw [outcome] at shape warned
          rw [readSegment_of_ok _ shape] at read
          cases read
          refine ⟨warnings, warned ▸ perm, ?_⟩
          simp [assembled, given?, bodyUnder, declared, apply, outcome, compiled?]
      | error error =>
          have harmless := Directive.severity_stepsOf _ _ outcome
          rw [outcome] at shape warned
          rw [readSegment_of_error _ shape harmless] at read
          cases read
          refine
            ⟨_, warned ▸ (perm.append_right _).trans List.perm_append_comm, ?_⟩
          simp [assembled, given?, bodyUnder, declared, recover, outcome, compiled?,
            located, failure?, fresh]
  | species =>
      have shape :
          Directive.ofSegment (α := α) passage =
            .ok (.species passage.body) := by
        rw [Directive.ofSegment, headed]
        exact congrArg (Directive.species <$> ·) (whole rfl)
      have undeclared : declared (α := α) part? = ({}, []) := by
        rw [declared, bodyUnder, fresh]
        rfl
      replace perm : warnings.Perm (stepsWarnings part?) := by
        simpa [assembled, undeclared] using perm
      rw [readSegment_of_ok _ shape, apply, foldlM_readSpecies_eq] at read
      cases read
      have registryEq :
          (assembled (α := α) part?).input.registry = {} :=
        congrArg Prod.fst undeclared
      refine ⟨_, perm.append_right (declareAll {} passage.body).2, ?_⟩
      rw [registryEq]
      simp [assembled, given?, bodyUnder, declared, stepsWarnings]
  | processes =>
      have shape :
          Directive.ofSegment (α := α) passage =
            .ok (.processes passage.body) := by
        rw [Directive.ofSegment, headed]
        exact congrArg (Directive.processes <$> ·) (whole rfl)
      rw [readSegment_of_ok _ shape] at read
      cases read
      refine ⟨warnings, perm, ?_⟩
      simp [assembled, given?, bodyUnder, declared, apply, fresh]

/-! ## All passages -/

/-- A passage without a known keyword leaves the draft as it is. -/
theorem readSegment_unknown
    (draft : Draft α)
    {segment : Segment}
    (unknown : Segment.keyword? segment.header = none) :
    (draft.readSegment segment).value = .ok draft := by
  have outcome :
      Directive.ofSegment (α := α) segment =
        .ok (.unknown segment.header.keyword) := by
    rw [Directive.ofSegment, unknown]
    rfl
  exact readSegment_of_ok draft outcome

/-- Passages with keywords of their own are assembled. -/
theorem readSegments_assembled
    {passages : List (List Line)}
    (all : ∀ passage ∈ passages, IsPassage passage)
    (distinct : (passages.filterMap headKeyword?).Nodup)
    {part? : Keyword → Option Segment}
    (fresh : ∀ keyword ∈ passages.filterMap headKeyword?, part? keyword = none)
    {draft last : Draft α}
    (alike : draft.Alike (assembled part?))
    (read :
      (readSegments (passages.map Segment.ofPassage) draft).value = .ok last) :
    last.Alike
      (assembled fun keyword =>
        (part? keyword).or (Segment.under? passages keyword)) := by
  induction passages generalizing draft part? with
  | nil =>
      cases read
      simpa only [Segment.under?_nil, Option.or_none] using alike
  | cons passage passages induction =>
      rw [List.map_cons, readSegments, Noted.value_bind] at read
      rcases List.forall_mem_cons.mp all with ⟨first, others⟩
      have keywordEq := Segment.keyword?_ofPassage first
      cases nextEq : (draft.readSegment (Segment.ofPassage passage)).value with
      | error error =>
          rw [nextEq] at read
          cases read
      | ok next =>
          rw [nextEq] at read
          cases headed : headKeyword? passage with
          | none =>
              rw [List.filterMap_cons_none headed] at distinct fresh
              rw [draft.readSegment_unknown (keywordEq.trans headed)] at nextEq
              cases nextEq
              simpa [Segment.under?_cons, headed] using
                induction others distinct fresh alike read
          | some keyword =>
              rw [List.filterMap_cons_some headed] at distinct fresh
              rcases List.nodup_cons.mp distinct with ⟨new, distinct⟩
              rcases List.forall_mem_cons.mp fresh with ⟨here, fresh⟩
              have added :=
                readSegment_assembled (keywordEq.trans headed)
                  (Directive.blockOf_ofPassage first headed) here alike nextEq
              have still :
                  ∀ other ∈ passages.filterMap headKeyword?,
                    Function.update part? keyword
                        (some (Segment.ofPassage passage)) other =
                      none := by
                intro other member
                rw [Function.update_of_ne (ne_of_mem_of_not_mem member new)]
                exact fresh other member
              convert induction others distinct still added read using 2
              funext other
              rw [Segment.under?_cons, headed]
              by_cases same : other = keyword
              · subst same
                simp [here]
              · simp [same, Ne.symm same]

/-- A reading fails just when a header is at fault. -/
theorem exists_error_iff
    (segments : List Segment)
    (draft : Draft α) :
    (∃ error, (readSegments segments draft).value = .error error) ↔
      ∃ segment ∈ segments, (fatal? (α := α) segment).isSome = true := by
  rw [← List.findSome?_isSome_iff, Option.isSome_iff_exists]
  exact exists_congr fun error => readSegments_eq_error_iff segments draft error

/-- A header without a known keyword is not at fault. -/
theorem fatal?_unknown
    {segment : Segment}
    (unknown : Segment.keyword? segment.header = none) :
    fatal? (α := α) segment = none := by
  rw [fatal?, Directive.fieldFault?, unknown]
  rfl

section Rearranged

variable
    {passages others dropped : List (List Line)}
    (all : ∀ passage ∈ passages, IsPassage passage)
    (rearranged : passages.Perm (others ++ dropped))
    (unknown : ∀ passage ∈ dropped, headKeyword? passage = none)

include all rearranged unknown

theorem exists_error_rearranged :
    (∃ error,
      (readSegments (α := α) (passages.map Segment.ofPassage) {}).value =
        .error error) ↔
      ∃ error,
        (readSegments (α := α) (others.map Segment.ofPassage) {}).value =
          .error error := by
  rw [exists_error_iff, exists_error_iff]
  constructor
  · rintro ⟨_, mapped, fault⟩
    rcases List.mem_map.mp mapped with ⟨passage, member, rfl⟩
    rcases List.mem_append.mp (rearranged.mem_iff.mp member) with kept | gone
    · exact ⟨_, List.mem_map_of_mem kept, fault⟩
    · have keywordEq := Segment.keyword?_ofPassage (all passage member)
      rw [fatal?_unknown (keywordEq.trans (unknown passage gone))] at fault
      cases fault
  · rintro ⟨_, mapped, fault⟩
    rcases List.mem_map.mp mapped with ⟨passage, member, rfl⟩
    have still := rearranged.mem_iff.mpr (List.mem_append_left dropped member)
    exact ⟨_, List.mem_map_of_mem still, fault⟩

/-- Passages are read alike in any order, and without those of unknown keywords. -/
theorem readSegments_rearranged
    (distinct : (passages.filterMap headKeyword?).Nodup) :
    Concordant Alike
      (readSegments (α := α) (passages.map Segment.ofPassage) {}).value
      (readSegments (α := α) (others.map Segment.ofPassage) {}).value := by
  have errors := exists_error_rearranged (α := α) all rearranged unknown
  cases read :
      (readSegments (α := α) (passages.map Segment.ofPassage) {}).value with
  | error error =>
      rcases errors.mp ⟨error, read⟩ with ⟨other, failed⟩
      rw [failed]
      trivial
  | ok draft =>
      cases readOthers :
          (readSegments (α := α) (others.map Segment.ofPassage) {}).value with
      | error error =>
          rcases errors.mpr ⟨error, readOthers⟩ with ⟨other, failed⟩
          cases read.symm.trans failed
      | ok other =>
          have start : Alike (α := α) {} (assembled fun _ => none) :=
            ⟨[], .refl _, rfl⟩
          have allOthers : ∀ passage ∈ others, IsPassage passage := by
            intro passage member
            exact
              all passage (rearranged.mem_iff.mpr (List.mem_append_left _ member))
          have distinctOthers := Segment.nodup_rearranged distinct rearranged
          have first :=
            readSegments_assembled all distinct (fun _ _ => rfl) start read
          have second :=
            readSegments_assembled allOthers distinctOthers (fun _ _ => rfl)
              start readOthers
          rw [Segment.under?_rearranged distinct rearranged unknown] at first
          exact first.trans second.symm

end Rearranged

end Draft

theorem filterMap_headKeyword?_plainLines (pieces : List String) :
    (pieces.map plainLines).filterMap headKeyword? =
      pieces.filterMap fun piece => headKeyword? (significantLines piece) := by
  rw [List.filterMap_map]
  exact List.filterMap_congr fun piece _ => headKeyword?_plainLines piece

/--
Texts of one passage each, with known keywords of their own, are read alike in any
order and without those of unknown keywords: both readings fail, or both give the same
input, with the same warnings up to their order and the numbers of their lines.
-/
theorem order_irrelevant
    [Quantity α]
    {pieces others dropped : List String}
    (passages : ∀ piece ∈ pieces, IsPassage (significantLines piece))
    (distinct :
      (pieces.filterMap fun piece => headKeyword? (significantLines piece)).Nodup)
    (rearranged : pieces.Perm (others ++ dropped))
    (unknown : ∀ piece ∈ dropped, headKeyword? (significantLines piece) = none) :
    Concordant
      (fun input other : SimulationInput α =>
        (input.renumber fun _ => 0).Alike (other.renumber fun _ => 0))
      (SimulationInput.read (joined "\n" pieces)).value
      (SimulationInput.read (joined "\n" others)).value := by
  have passagesOthers :
      ∀ piece ∈ others, IsPassage (significantLines piece) := by
    intro piece member
    exact
      passages piece (rearranged.mem_iff.mpr (List.mem_append_left _ member))
  have linesAll : ∀ lines ∈ pieces.map plainLines, IsPassage lines := by
    intro lines member
    rcases List.mem_map.mp member with ⟨piece, pieceMember, rfl⟩
    exact (passages piece pieceMember).renumber _
  have linesRearranged := rearranged.map plainLines
  rw [List.map_append] at linesRearranged
  have linesUnknown :
      ∀ lines ∈ dropped.map plainLines, headKeyword? lines = none := by
    intro lines member
    rcases List.mem_map.mp member with ⟨piece, pieceMember, rfl⟩
    exact (headKeyword?_plainLines piece).trans (unknown piece pieceMember)
  rw [← filterMap_headKeyword?_plainLines] at distinct
  have drafts :=
    Draft.readSegments_rearranged (α := α) linesAll linesRearranged
      linesUnknown distinct
  apply (concordant_renumbered_iff _ _).mp
  rw [SimulationInput.read_joined passages,
    SimulationInput.read_joined passagesOthers]
  exact drafts.map fun _ _ alike => alike.finish

/--
Passages of a stepped lattice, with a species declared twice, a line without an arrow
and an unknown keyword.
-/
def loosePassages : List String :=
  [ "nprocesses 2\nA + * -> A*, 1.0\nA*, 1.0",
    "steps 2 1 0",
    "colour red",
    "build_lattice SimpleCubic 4 2 3 Cu",
    "nspecies 2\nA 12.0\nA 13.0" ]

/-- The passages are read backwards, and without the unknown keyword. -/
theorem order_irrelevant_loose :
    ∃ input other : SimulationInput Float,
      (SimulationInput.read (joined "\n" loosePassages)).value = .ok input ∧
        (SimulationInput.read
            (joined "\n" (loosePassages.reverse.eraseIdx 2))).value = .ok other ∧
          (input.renumber fun _ => 0).Alike (other.renumber fun _ => 0) ∧
            (input.registry.processes.map Descriptor.name = ["Adsorption0"] ∧
              input.lattice.bind LatticeConfig.steps =
                some { count := 2, height := 1, depth := 0 }) ∧
              input.warnings.map InputError.line? = [some 9, some 3] ∧
                other.warnings.map InputError.line? = [some 3, some 8] := by
  have ahead :
      ((Draft.compiled?
            (SimulationInput.read (α := Float) (joined "\n" loosePassages)).value).any
        fun input =>
          (input.registry.processes.map Descriptor.name = ["Adsorption0"] &&
              input.lattice.bind LatticeConfig.steps =
                some { count := 2, height := 1, depth := 0 }) &&
            input.warnings.map InputError.line? = [some 9, some 3]) = true := by
    decide +kernel
  have aheadOthers :
      ((Draft.compiled?
            (SimulationInput.read (α := Float)
              (joined "\n" (loosePassages.reverse.eraseIdx 2))).value).any
        fun other =>
          other.warnings.map InputError.line? = [some 3, some 8]) = true := by
    decide +kernel
  rcases (Option.any_eq_true _ _).mp ahead with ⟨input, found, checked⟩
  rcases (Option.any_eq_true _ _).mp aheadOthers with ⟨other, foundOther, lines⟩
  simp only [Bool.and_eq_true, decide_eq_true_eq] at checked lines
  have read := Draft.compiled?_eq_some_iff.mp found
  have readOther := Draft.compiled?_eq_some_iff.mp foundOther
  have rearranged :
      loosePassages.Perm (loosePassages.reverse.eraseIdx 2 ++ ["colour red"]) := by
    decide
  have concordant :=
    order_irrelevant (α := Float) (by decide +kernel) (by decide +kernel) rearranged
      (by decide +kernel)
  rw [read, readOther] at concordant
  exact ⟨input, other, read, readOther, concordant, checked.1, checked.2, lines⟩

end SurfaceKinetics
