import SurfaceKinetics.Quantity
import SurfaceKinetics.Random.ChaCha

/-!
# Random sources

A source is seeded once and then yields words of 64 bits.  Uniform quantities
use the 52 high bits of a word.  A uniform whole number below a bound is the high
half of the product of a word and the bound; words whose low half would favour
some numbers are refused.

Elements are drawn from a list without replacement; the last element takes the
place of the drawn one.
-/

namespace SurfaceKinetics

/-- A seed, its key, the number of the next block and the words still to come. -/
structure RandomSource where
  seed : UInt64
  key : Vector UInt32 8
  nextBlock : UInt64
  pending : List UInt64
  deriving DecidableEq

namespace RandomSource

/-- A source at its first word. -/
def ofSeed (seed : UInt64) : RandomSource :=
  { seed, key := ChaCha.key seed, nextBlock := 0, pending := [] }

/-- The next word. -/
def word : StateM RandomSource UInt64 := do
  let source ← get
  match source.pending with
  | word :: pending =>
    set { source with pending }
    pure word
  | [] =>
    let words := ChaCha.wideWords (ChaCha.block source.key source.nextBlock)
    set
      { source with
        nextBlock := source.nextBlock + 1
        pending := words.tail }
    pure (words.headD 0)

/-! ## Quantities -/

/-- The quantity in `[0, 1)` that a word stands for. -/
def fraction {α : Type} [Quantity α] (word : UInt64) : α :=
  Quantity.ofNat (word >>> 12).toNat / Quantity.ofNat (twoTo 52)

/-- A quantity in `[0, 1)`. -/
def uniform {α : Type} [Quantity α] : StateM RandomSource α :=
  fraction <$> word

/-- A quantity in `(0, 1]`. -/
def uniformOpen {α : Type} [Quantity α] : StateM RandomSource α :=
  (Quantity.ofNat 1 - ·) <$> uniform

/-! ## Whole numbers -/

/--
How many words are refused before one is taken as it is.  A seeded source repeats after
fewer words than this, so one is taken as it is only where all to come would be refused.
-/
def refusals : Nat := twoTo 68

/-- The greatest low half that is not refused for a bound of at most 64 bits. -/
def zone (bound : Nat) : Nat := bound * twoTo (63 - bound.log2) - 1

/-- A number below a bound, with a limit on the words that are refused. -/
def below (bound : Nat) : Nat → StateM RandomSource Nat
  | 0 => do
    let word ← word
    pure (word.toNat * bound / twoTo 64)
  | refusals + 1 => do
    let word ← word
    let product := word.toNat * bound
    if product % twoTo 64 ≤ zone bound then
      pure (product / twoTo 64)
    else
      below bound refusals

/-- A whole number of a closed range; the least one when the range is empty. -/
def intInRange (least greatest : Int) : StateM RandomSource Int :=
  if greatest ≤ least then
    pure least
  else
    let count := ((greatest - least + 1) % twoTo 64).toNat
    if count = 0 then do
      let word ← word
      pure (word.toNat.toInt64.toInt)
    else do
      let offset ← below count refusals
      pure (least + offset)

/-- The place of an element in a list of some length. -/
def index (length : Nat) : StateM RandomSource (Option Nat) :=
  match length with
  | 0 => pure none
  | 1 => pure (some 0)
  | length => some <$> below length refusals

/-! ## Drawing without replacement -/

/-- A list without one element, whose place the last element takes. -/
def removeAt {β : Type} (items : List β) (place : Nat) : List β :=
  match items.getLast? with
  | none => []
  | some last => (items.set place last).dropLast

/-- An element of a list and the other elements. -/
def take {β : Type} (items : List β) :
    StateM RandomSource (Option (β × List β)) := do
  match ← index items.length with
  | none => pure none
  | some place =>
    pure (items[place]?.map fun item => (item, removeAt items place))

/-- Several elements; fails with the number of those drawn when they run out. -/
def takeMany {β : Type} :
    Nat → Nat → List β → StateM RandomSource (Except Nat (List β))
  | 0, _, _ => pure (.ok [])
  | count + 1, drawn, items => do
    match ← take items with
    | none => pure (.error drawn)
    | some (item, rest) =>
      let others ← takeMany count (drawn + 1) rest
      pure (others.map (item :: ·))

end RandomSource

end SurfaceKinetics
