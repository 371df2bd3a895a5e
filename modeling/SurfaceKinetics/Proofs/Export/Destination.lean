import Mathlib.Data.List.Basic
import SurfaceKinetics.Export.Destination
import SurfaceKinetics.Files.Tree
import SurfaceKinetics.Proofs.Export.HeightMap
import SurfaceKinetics.Proofs.Export.TimeSeries

/-!
# Refused exports

A writer is handed nothing when a sheet is refused, but the file of an export has been
emptied by then.  So an export that is refused leaves an empty file under its path,
whatever stood there before, and everything else in its tree as it was.
-/

namespace SurfaceKinetics

namespace FileTree

variable (tree : FileTree)

/-! ## Entries -/

theorem entry?_put_self (place : Place) (content : String) :
    entry? (tree.put place content) place = some (.text content) := by
  have cleared :
      (tree.files.filter fun file => file.1 ≠ place).find? (fun file => file.1 = place) =
        none := by
    rw [List.find?_eq_none]
    intro file member same
    exact of_decide_eq_true (List.mem_filter.mp member).2 (of_decide_eq_true same)
  have found :
      (tree.put place content).files.find? (fun file => file.1 = place) =
        some (place, content) := by
    rw [put, List.find?_append, cleared, Option.none_or]
    exact List.find?_cons_of_pos (decide_eq_true rfl)
  unfold entry?
  rw [found]

/-- Putting a text at a place changes nothing elsewhere. -/
theorem entry?_put_of_ne
    {place other : Place}
    (different : other ≠ place)
    (content : String) :
    entry? (tree.put place content) other = tree.entry? other := by
  have passed :
      [(place, content)].find? (fun file => file.1 = other) = none :=
    List.find?_cons_of_neg (by simpa using different.symm)
  have found :
      (tree.put place content).files.find? (fun file => file.1 = other) =
        tree.files.find? fun file => file.1 = other := by
    rw [put, List.find?_append, passed, Option.or_none, List.find?_filter]
    congr 1
    funext file
    by_cases same : file.1 = other
    · simp [same, different]
    · simp [same]
  unfold entry?
  rw [found]
  rfl

/-- A text is written where a path spells a place that is no directory. -/
theorem write_eq_ok_iff {path content : String} {after : FileTree} :
    tree.write path content = .ok after ↔
      ∃ place,
        tree.placeOf path = .ok place ∧
          tree.entry? place ≠ some .directory ∧ tree.put place content = after := by
  rw [write]
  cases tree.placeOf path with
  | error fault => exact iff_of_false nofun (by rintro ⟨_, ⟨⟩, _⟩)
  | ok place =>
      simp only [bind, Except.bind, Except.ok.injEq, exists_eq_left']
      split
      · next directory => exact iff_of_false nofun fun other => other.1 directory
      · next other =>
        rw [and_iff_right other]
        exact Iff.of_eq (Except.ok.injEq _ _)

/-- Two trees hold the same under every place. -/
def SameEntries (first second : FileTree) : Prop :=
  ∀ place, second.entry? place = first.entry? place

/-- A tree is another one with an empty text at a place. -/
structure Emptied (place : Place) (before after : FileTree) : Prop where
  there : after.entry? place = some (.text "")
  elsewhere : ∀ other, other ≠ place → after.entry? other = before.entry? other

theorem emptied_put (place : Place) : Emptied place tree (tree.put place "") where
  there := tree.entry?_put_self place ""
  elsewhere _ different := tree.entry?_put_of_ne different ""

theorem Emptied.sameEntries_iff
    {place : Place}
    {before after : FileTree}
    (emptied : Emptied place before after) :
    before.SameEntries after ↔ before.entry? place = some (.text "") := by
  constructor
  · intro same
    rw [← same place, emptied.there]
  · intro empty other
    by_cases here : other = place
    · rw [here, emptied.there, empty]
    · exact emptied.elsewhere other here

end FileTree

/-! ## Files -/

/-- A tree that cannot be changed as a host is asked to stays as it is. -/
theorem FileTree.run_write (tree : FileTree) (path content : String) :
    (host.write path content).run tree =
      match tree.write path content with
      | .ok after => (.ok (), after)
      | .error fault => (.error fault, tree) := by
  simp only [host, changed, StateT.run_bind, StateT.run_get, pure_bind]
  cases tree.write path content <;> rfl

/-- What an export on a tree does. -/
theorem Destination.run_fill
    (tree : FileTree)
    (path : String)
    (content : Except ExportFault String) :
    (fill FileTree.host path content).run tree =
      match tree.write path "" with
      | .error fault => (.error (.file fault), tree)
      | .ok emptied =>
        match content with
        | .error fault => (.error (.refused fault), emptied)
        | .ok text =>
          match emptied.write path text with
          | .error fault => (.error (.file fault), emptied)
          | .ok written => (.ok (), written) := by
  simp only [fill, StateT.run_bind, FileTree.run_write]
  cases tree.write path "" with
  | error fault => rfl
  | ok emptied =>
      cases content with
      | error fault => rfl
      | ok text =>
          -- The second write runs on the tree that the first one has left.
          change StateT.run (FileTree.host.write path text >>= _) emptied = _
          simp only [StateT.run_bind, FileTree.run_write]
          cases emptied.write path text <;> rfl

/-- An export on a tree is refused when it has no content and its file was emptied. -/
theorem Destination.run_fill_eq_refused_iff
    {path : String}
    {content : Except ExportFault String}
    {tree after : FileTree}
    {fault : ExportFault} :
    (fill FileTree.host path content).run tree = (.error (.refused fault), after) ↔
      content = .error fault ∧ tree.write path "" = .ok after := by
  rw [run_fill]
  cases tree.write path "" with
  | error broken => exact iff_of_false nofun (fun both => nomatch both.2)
  | ok emptied =>
      cases content with
      | error refused =>
          constructor
          · rintro ⟨⟩
            exact ⟨rfl, rfl⟩
          · rintro ⟨⟨⟩, ⟨⟩⟩
            rfl
      | ok text =>
          refine iff_of_false ?_ (fun both => nomatch both.1)
          dsimp only
          cases emptied.write path text <;> exact nofun

/-! ## Exporters -/

/-- What can be exported of a result to a file. -/
inductive Exporter (α : Type) where
  | timeSeries (format : TimeSeries.Format α)
  | heightMap (delimiter : Char)

namespace Exporter

variable {α : Type} [Quantity α]

/-- The sheet of a result; a height map has no rows to be thinned out. -/
def sheet
    (exporter : Exporter α)
    (result : SimulationResult α)
    (count : Option Nat) :
    Sheet :=
  match exporter with
  | timeSeries format => TimeSeries.sheet format result count
  | heightMap delimiter => HeightMap.sheet delimiter result.lattice result.time

/-- Hands what is exported of a result to a writer. -/
def handTo
    {m : Type → Type}
    [Monad m]
    (put : String → m Unit)
    (exporter : Exporter α)
    (result : SimulationResult α)
    (count : Option Nat) :
    m (Except ExportFault Unit) :=
  match exporter with
  | timeSeries format => TimeSeries.handTo put format result count
  | heightMap delimiter => HeightMap.handTo put delimiter result.lattice result.time

theorem handTo_eq
    {m : Type → Type}
    [Monad m]
    [LawfulMonad m]
    (put : String → m Unit)
    (exporter : Exporter α)
    (result : SimulationResult α)
    (count : Option Nat) :
    exporter.handTo put result count = (exporter.sheet result count).handTo put := by
  cases exporter with
  | timeSeries format => exact TimeSeries.handTo_eq put format result count
  | heightMap delimiter =>
      exact HeightMap.handTo_eq put delimiter result.lattice result.time

/-- Exports a result to a file. -/
def writeTo
    {m : Type → Type}
    [Monad m]
    (host : FileHost m)
    (path : String)
    (exporter : Exporter α)
    (result : SimulationResult α)
    (count : Option Nat) :
    m (Except DestinationFault Unit) :=
  match exporter with
  | timeSeries format => TimeSeries.writeTo host path format result count
  | heightMap delimiter =>
    HeightMap.writeTo host path delimiter result.lattice result.time

theorem writeTo_eq_fill
    {m : Type → Type}
    [Monad m]
    (host : FileHost m)
    (path : String)
    (exporter : Exporter α)
    (result : SimulationResult α)
    (count : Option Nat) :
    exporter.writeTo host path result count =
      Destination.fill host path (exporter.sheet result count).text := by
  cases exporter with
  | timeSeries format =>
      rw [writeTo, TimeSeries.writeTo, TimeSeries.write_eq_text, sheet]
  | heightMap delimiter =>
      rw [writeTo, HeightMap.writeTo, HeightMap.write_eq_text, sheet]

/-- An export on a tree is refused for a fault of its sheet, and not before its file. -/
theorem run_writeTo_eq_refused_iff
    {path : String}
    {exporter : Exporter α}
    {result : SimulationResult α}
    {count : Option Nat}
    {tree after : FileTree}
    {fault : ExportFault} :
    (exporter.writeTo FileTree.host path result count).run tree =
        (.error (.refused fault), after) ↔
      (exporter.sheet result count).fault? = some fault ∧
        tree.write path "" = .ok after := by
  rw [writeTo_eq_fill, Destination.run_fill_eq_refused_iff]
  exact and_congr_left' ⟨Sheet.fault?_eq_some_of_text, Sheet.text_of_fault⟩

/--
An export that is refused has emptied its file before: under its path, which is not that
of a directory, there is an empty text and everything else is as it was.  So the tree
holds what it held exactly when there was an empty text already.  The writer of an
export that is refused has been handed nothing.
-/
theorem refused_export_empties
    (exporter : Exporter α)
    (result : SimulationResult α)
    (count : Option Nat) :
    (∀ (tree after : FileTree) (path : String) (fault : ExportFault),
      (exporter.writeTo FileTree.host path result count).run tree =
          (.error (.refused fault), after) →
        ∃ place,
          tree.placeOf path = .ok place ∧
            tree.entry? place ≠ some .directory ∧
              FileTree.Emptied place tree after ∧
                (tree.SameEntries after ↔ tree.entry? place = some (.text ""))) ∧
      ∀ {σ ε : Type} (put : String → StateT σ (Except ε) Unit) (state later : σ)
          (fault : ExportFault),
        (exporter.handTo put result count).run state = .ok (.error fault, later) →
          later = state := by
  constructor
  · intro tree after path fault refused
    rcases run_writeTo_eq_refused_iff.mp refused with ⟨_, emptied⟩
    rcases tree.write_eq_ok_iff.mp emptied with ⟨place, placeEq, file, rfl⟩
    have emptied := tree.emptied_put place
    exact ⟨place, placeEq, file, emptied, emptied.sameEntries_iff⟩
  · intro σ ε put state later fault refused
    rw [handTo_eq] at refused
    exact Sheet.state_eq_of_handTo refused

/-- A run whose clock has left the numbers. -/
def endlessResult : SimulationResult Float :=
  { samples :=
      [{ time := 1 / 0
         step := 1
         surface := { meanHeight := 0, roughness := 1, rms := 0 }
         growthRate := 0
         events := []
         coverage := [] }]
    lattice := Lattice.ofConfig
      { kind := .simpleCubic, columns := 1, rows := 1, initialHeight := 0 }
    processNames := []
    eventCounts := []
    time := 1 / 0
    steps := 1
    stopReason := .maxSteps
    seed := 1 }

/-- A tree with an earlier export. -/
def keptTree : FileTree :=
  { directories := [["out"]], files := [(["out", "growth.csv"], "Time (s)\n")] }

theorem fault?_timeSeries_endlessResult :
    ((timeSeries {}).sheet endlessResult none).fault? =
      some (.notFinite "Time (s)" 0) := by
  decide +kernel

theorem refused_export_empties_kept :
    ∃ after later,
      ((timeSeries {}).writeTo FileTree.host "out/growth.csv" endlessResult none).run
            keptTree =
          (.error (.refused (.notFinite "Time (s)" 0)), after) ∧
        (after.read "out/growth.csv" = .ok "" ∧ ¬ keptTree.SameEntries after) ∧
          ((timeSeries {}).handTo
                  (fun text => (modify (· ++ text) : StateT String (Except Unit) Unit))
                  endlessResult none).run
                "kept" =
              .ok (.error (.notFinite "Time (s)" 0), later) ∧
            later = "kept" := by
  have faulty := fault?_timeSeries_endlessResult
  have written :
      keptTree.write "out/growth.csv" "" =
        .ok (keptTree.put ["out", "growth.csv"] "") := by
    decide +kernel
  have refused := run_writeTo_eq_refused_iff.mpr ⟨faulty, written⟩
  have handed :
      ((timeSeries {}).handTo
            (fun text => (modify (· ++ text) : StateT String (Except Unit) Unit))
            endlessResult none).run "kept" =
        .ok (.error (.notFinite "Time (s)" 0), "kept") := by
    rw [handTo_eq, Sheet.handTo_of_fault _ faulty]
    rfl
  rcases refused_export_empties (timeSeries {}) endlessResult none with
    ⟨empties, unwritten⟩
  rcases empties _ _ _ _ refused with ⟨place, placeEq, _, _, sameIff⟩
  have spelled : keptTree.placeOf "out/growth.csv" = .ok ["out", "growth.csv"] := by
    decide +kernel
  rw [spelled] at placeEq
  cases placeEq
  refine ⟨_, _, refused, ⟨?_, ?_⟩, handed, unwritten _ _ _ _ handed⟩
  · decide +kernel
  · rw [sameIff]
    decide +kernel

/-- A refused export creates a file, and empties one that has a text. -/
def LosesText (exporter : Exporter Float) : Prop :=
  (∃ created : FileTree,
    (exporter.writeTo FileTree.host "growth.csv" endlessResult none).run {} =
        (.error (.refused (.notFinite "Time (s)" 0)), created) ∧
      ({} : FileTree).read "growth.csv" = .error .missing ∧
        created.read "growth.csv" = .ok "") ∧
    ∃ lost : FileTree,
      (exporter.writeTo FileTree.host "out/growth.csv" endlessResult none).run keptTree =
          (.error (.refused (.notFinite "Time (s)" 0)), lost) ∧
        keptTree.read "out/growth.csv" = .ok "Time (s)\n" ∧
          lost.read "out/growth.csv" = .ok ""

theorem losesText_of_fault?
    {exporter : Exporter Float}
    (faulty :
      (exporter.sheet endlessResult none).fault? = some (.notFinite "Time (s)" 0)) :
    exporter.LosesText := by
  have created :
      ({} : FileTree).write "growth.csv" "" =
        .ok (({} : FileTree).put ["growth.csv"] "") := by
    decide +kernel
  have lost :
      keptTree.write "out/growth.csv" "" =
        .ok (keptTree.put ["out", "growth.csv"] "") := by
    decide +kernel
  exact
    ⟨⟨_, run_writeTo_eq_refused_iff.mpr ⟨faulty, created⟩, by decide +kernel,
        by decide +kernel⟩,
      _, run_writeTo_eq_refused_iff.mpr ⟨faulty, lost⟩, by decide +kernel,
      by decide +kernel⟩

/-- Both kinds of exports lose an earlier text. -/
theorem refused_export_loses_text :
    LosesText (timeSeries {}) ∧ LosesText (heightMap HeightMap.space) :=
  ⟨losesText_of_fault? fault?_timeSeries_endlessResult,
    losesText_of_fault? (by decide +kernel)⟩

end Exporter

end SurfaceKinetics
