import SurfaceKinetics.SurfaceProcess.Basic
import SurfaceKinetics.Total

/-!
# Event tables

An event table holds the rate of every live pair of a process and a site at
which the process may happen.  Pairs are scanned process by process and, within
a process, in the order of the sites.  A pair is selected by a target below the
total rate: it is the first one whose cumulative rate exceeds the target.
-/

namespace SurfaceKinetics

/-- A process, a site and the rate of the process there. -/
structure LivePair (α : Type) where
  process : Nat
  site : Nat
  rate : α

/-- For each process, the rates at its eligible sites. -/
structure EventTable (α : Type) where
  rows : List (Array (Option α))

namespace EventTable

variable {α : Type}

/-! ## Building and updating -/

section Building

variable [Quantity α]

/-- The rate of a process at a site, if it may happen there. -/
def entry
    (conditions : Conditions α)
    (lattice : Lattice)
    (process : SurfaceProcess α)
    (site : Nat) :
    Option α :=
  if process.rule.isEligible lattice site then
    some (process.rate conditions lattice site)
  else
    none

/-- The table of all processes at all sites. -/
def build
    (conditions : Conditions α)
    (processes : List (SurfaceProcess α))
    (lattice : Lattice) :
    EventTable α :=
  { rows := processes.map fun process =>
      (Array.range lattice.size).map (entry conditions lattice process) }

/-- Evaluates all processes at one site anew. -/
def refreshSite
    (conditions : Conditions α)
    (processes : List (SurfaceProcess α))
    (lattice : Lattice)
    (table : EventTable α)
    (site : Nat) :
    EventTable α :=
  { rows :=
      List.zipWith
        (fun process row =>
          row.setIfInBounds site (entry conditions lattice process site))
        processes table.rows }

/-- Evaluates all processes at some sites anew. -/
def update
    (conditions : Conditions α)
    (processes : List (SurfaceProcess α))
    (lattice : Lattice)
    (table : EventTable α)
    (sites : List Nat) :
    EventTable α :=
  sites.foldl (refreshSite conditions processes lattice) table

end Building

/-! ## Counting -/

/-- The rates of a row, in the order of the sites. -/
def rates (row : Array (Option α)) : List α := row.toList.filterMap id

/-- The number of live pairs. -/
def size (table : EventTable α) : Nat :=
  total (table.rows.map fun row => (rates row).length)

def isEmpty (table : EventTable α) : Bool :=
  table.rows.all fun row => (rates row).isEmpty

/-- The number of sites at which a process may happen. -/
def eligibleCount (table : EventTable α) (process : Nat) : Nat :=
  match table.rows[process]? with
  | some row => (rates row).length
  | none => 0

/-- The live pairs of one process. -/
def rowPairs (process : Nat) (row : Array (Option α)) : List (LivePair α) :=
  row.toList.zipIdx.filterMap fun item =>
    item.1.map fun rate => { process, site := item.2, rate }

/-- All live pairs in the order of the scan. -/
def pairs (table : EventTable α) : List (LivePair α) :=
  table.rows.zipIdx.flatMap fun item => rowPairs item.2 item.1

variable [Quantity α]

/-- The total rate of a process; zero for numbers beyond the processes. -/
def processRate (table : EventTable α) (process : Nat) : α :=
  match table.rows[process]? with
  | some row => Quantity.sum (rates row)
  | none => Quantity.zero

/-- The total rate of all processes. -/
def totalRate (table : EventTable α) : α :=
  Quantity.sum (table.rows.map fun row => Quantity.sum (rates row))

end EventTable

/-! ## Selection -/

section Selection

variable {α : Type} [Quantity α]

/--
Scans pairs from a cumulative rate on.  Pairs whose rate is at most zero are
passed over; when no cumulative rate exceeds the target, the last pair that was
not passed over is selected.
-/
def selectFrom
    (target : α) :
    α → Option (LivePair α) → List (LivePair α) → Option (LivePair α)
  | _, last, [] => last
  | cumulative, last, pair :: rest =>
    if pair.rate ≤ Quantity.zero then
      selectFrom target cumulative last rest
    else if target < cumulative + pair.rate then
      some pair
    else
      selectFrom target (cumulative + pair.rate) (some pair) rest

/-- The pair that a cumulative target selects. -/
def selectEvent (pairs : List (LivePair α)) (target : α) : Option (LivePair α) :=
  selectFrom target Quantity.zero none pairs

/-- The live pair of a table that a cumulative target selects. -/
def EventTable.select (table : EventTable α) (target : α) : Option (LivePair α) :=
  selectEvent table.pairs target

end Selection

end SurfaceKinetics
