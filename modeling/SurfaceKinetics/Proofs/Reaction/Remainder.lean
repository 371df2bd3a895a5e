import Mathlib.Logic.Function.Iterate
import SurfaceKinetics.Proofs.Reaction.Participation
import SurfaceKinetics.Proofs.Text.Erasure

/-!
# What is left of a term

The species of a term is erased wherever it stands, and what is left is read as its
coefficient.  What stood on both sides of an erased symbol is joined, which may spell
another symbol or the same one again.  So a remainder may have species of its own, even
the one that was erased; it never has it when all letters of the symbol are the same.

Each erasing shortens a term.  So erasing the species of the remainder over and over ends,
and what is left in the end has no species in it.
-/

namespace SurfaceKinetics

theorem toList_without (symbol term : String) :
    (without symbol term).toList = erase symbol.toList term.toList :=
  String.toList_ofList

namespace Vocabulary

/-! ## Erasing once -/

/-- What is left of a term without its species. -/
def remainder (vocabulary : Vocabulary) (term : String) : String :=
  (vocabulary.eraseLongest term).2

variable {vocabulary : Vocabulary} {term : String}

theorem eraseLongest_of_longestMatch?
    {symbol : String}
    (found : vocabulary.longestMatch? term = some symbol) :
    vocabulary.eraseLongest term = (some symbol, without symbol term) := by
  rw [eraseLongest, found]

theorem eraseLongest_of_none (none : vocabulary.longestMatch? term = none) :
    vocabulary.eraseLongest term = (Option.none, term) := by
  rw [eraseLongest, none]

/-- What is erased from a term is its species. -/
theorem eraseLongest_eq_some
    {symbol rest : String}
    (erased : vocabulary.eraseLongest term = (some symbol, rest)) :
    vocabulary.longestMatch? term = some symbol ∧ without symbol term = rest := by
  cases found : vocabulary.longestMatch? term with
  | none =>
      rw [eraseLongest_of_none found] at erased
      cases erased
  | some longest =>
      rw [eraseLongest_of_longestMatch? found] at erased
      cases erased
      exact ⟨rfl, rfl⟩

theorem toList_ne_nil {symbol : String} (named : symbol ≠ "") : symbol.toList ≠ [] :=
  fun empty => named (String.toList_inj.mp empty)

theorem utf8ByteSize_without_lt
    {symbol : String}
    (named : symbol ≠ "")
    (present : occursIn symbol term = true) :
    (without symbol term).utf8ByteSize < term.utf8ByteSize := by
  have shorter :=
    utf8Len_erase_lt (toList_ne_nil named) (occursIn_iff_isInfix.mp present)
  rwa [← String.utf8ByteSize_ofList, ← String.utf8ByteSize_ofList,
    String.ofList_toList] at shorter

/-- A symbol that does not stand in a text is not erased from it. -/
theorem without_of_not_isInfix
    {symbol : String}
    (named : symbol ≠ "")
    (absent : ¬ symbol.toList <:+: term.toList) :
    without symbol term = term := by
  rw [without, erase_of_not_isInfix (toList_ne_nil named) absent, String.ofList_toList]

end Vocabulary

/--
A symbol has been erased from a term, and left some parts between the places where it
stood.
-/
structure ErasedBetween
    (vocabulary : Vocabulary)
    (term symbol rest : String)
    (between : List (List Char)) :
    Prop where
  intercalate_eq : symbol.toList.intercalate between = term.toList
  flatten_eq : between.flatten = rest.toList
  two_le_length : 2 ≤ between.length
  free : ∀ part ∈ between, ¬ symbol.toList <:+: part
  /-- The symbol is spelled again where parts meet. -/
  isInfix_iff : symbol.toList <:+: rest.toList ↔ StandsAcross symbol.toList between
  without_eq_iff : without symbol rest = rest ↔ ¬ StandsAcross symbol.toList between
  /-- Where it is not spelled again, erasing it has come to an end. -/
  settled :
    ¬ StandsAcross symbol.toList between →
      (vocabulary.eraseLongest rest).1 ≠ some symbol ∧
        vocabulary.coefficientText (without symbol rest) =
          vocabulary.coefficientText rest
  gone_iff :
    (∀ text : String, ¬ symbol.toList <:+: (without symbol text).toList) ↔
      ∃ letter, ∀ other ∈ symbol.toList, other = letter

/--
Let a symbol be erased from a term, as its longest declared symbol.  The term consists of
parts without the symbol, with the symbol between neighbours, and the parts alone are the
remainder.  So the symbol is in the remainder exactly when it stands across a place where
parts meet, and when it does not, it is not found again, and erasing it again leaves the
remainder and its coefficient as they are.  A symbol is gone from everything that it is
erased from exactly when all its letters are the same.
-/
theorem erased_unless_rejoined
    {vocabulary : Vocabulary}
    (named : ∀ symbol ∈ vocabulary.symbols, symbol ≠ "")
    {term symbol rest : String}
    (erased : vocabulary.eraseLongest term = (some symbol, rest)) :
    ErasedBetween vocabulary term symbol rest (parts symbol.toList term.toList) := by
  rcases Vocabulary.eraseLongest_eq_some erased with ⟨found, rfl⟩
  rcases Vocabulary.mem_of_longestMatch? found with ⟨declared, present⟩
  have symbolNe : symbol ≠ "" := named symbol declared
  have nonempty : symbol.toList ≠ [] := Vocabulary.toList_ne_nil symbolNe
  have inside : symbol.toList <:+: term.toList := occursIn_iff_isInfix.mp present
  have across :
      symbol.toList <:+: (without symbol term).toList ↔
        StandsAcross symbol.toList (parts symbol.toList term.toList) := by
    rw [toList_without]
    exact isInfix_erase_iff nonempty term.toList
  have kept :
      ¬ StandsAcross symbol.toList (parts symbol.toList term.toList) →
        without symbol (without symbol term) = without symbol term := by
    intro apart
    exact Vocabulary.without_of_not_isInfix symbolNe (mt across.mp apart)
  constructor
  case intercalate_eq => exact intercalate_parts nonempty term.toList
  case flatten_eq => exact (toList_without symbol term).symm
  case two_le_length => exact two_le_length_parts nonempty inside
  case free => exact not_isInfix_of_mem_parts nonempty term.toList
  case isInfix_iff => exact across
  case without_eq_iff =>
    refine ⟨fun same joined => ?_, kept⟩
    have shorter :=
      Vocabulary.utf8ByteSize_without_lt symbolNe
        (occursIn_iff_isInfix.mpr (across.mpr joined))
    rw [same] at shorter
    exact lt_irrefl _ shorter
  case settled =>
    refine fun apart => ⟨fun again => ?_, by rw [kept apart]⟩
    have foundAgain :=
      (Vocabulary.eraseLongest_eq_some (Prod.ext again rfl)).1
    have standing := (Vocabulary.mem_of_longestMatch? foundAgain).2
    exact apart (across.mp (occursIn_iff_isInfix.mp standing))
  case gone_iff =>
    rw [← forall_not_isInfix_erase_iff nonempty]
    constructor
    · intro gone text
      have absent := gone (String.ofList text)
      rwa [toList_without, String.toList_ofList] at absent
    · intro gone text
      rw [toList_without]
      exact gone text.toList

/-- A symbol that is gone from a term, and one that is spelled again where it was. -/
theorem erased_unless_rejoined_dimer :
    let vocabulary : Vocabulary := { symbols := ["AB"] }
    (∀ symbol ∈ vocabulary.symbols, symbol ≠ "") ∧
      (vocabulary.eraseLongest "2ABAB*" = (some "AB", "2*") ∧
        without "AB" "2*" = "2*" ∧ (vocabulary.eraseLongest "2*").1 ≠ some "AB") ∧
        vocabulary.eraseLongest "AABB" = (some "AB", "AB") ∧
          StandsAcross ['A', 'B'] (parts ['A', 'B'] ['A', 'A', 'B', 'B']) := by
  intro vocabulary
  have named : ∀ symbol ∈ vocabulary.symbols, symbol ≠ "" := by decide
  have apart : vocabulary.eraseLongest "2ABAB*" = (some "AB", "2*") := by
    decide +kernel
  have joined : vocabulary.eraseLongest "AABB" = (some "AB", "AB") := by
    decide +kernel
  have settled := erased_unless_rejoined named apart
  have rejoined := erased_unless_rejoined named joined
  have free := mt settled.isInfix_iff.mpr (by decide +kernel)
  exact
    ⟨named, ⟨apart, settled.without_eq_iff.mpr free, (settled.settled free).1⟩, joined,
      rejoined.isInfix_iff.mp (List.infix_refl _)⟩

/--
The symbol that was erased stands in the remainder, and erasing it again changes a
coefficient that cannot be read into one.
-/
theorem erased_symbol_respelled :
    let vocabulary : Vocabulary := { symbols := ["AB"] }
    (∀ symbol ∈ vocabulary.symbols, symbol ≠ "") ∧
      ∃ rest,
        vocabulary.eraseLongest "AABB" = (some "AB", rest) ∧
          "AB".toList <:+: rest.toList ∧
            (vocabulary.eraseLongest rest).1 = some "AB" ∧
              Vocabulary.coefficient? (vocabulary.coefficientText rest) = none ∧
                Vocabulary.coefficient?
                    (vocabulary.coefficientText (without "AB" rest)) =
                  some 1 := by
  intro vocabulary
  exact
    ⟨by decide, "AB", by decide +kernel, List.infix_refl _, by decide +kernel,
      by decide +kernel, by decide +kernel⟩

namespace Vocabulary

/-! ## Erasing over and over -/

/--
Erasing the species of a term, and then of what is left, comes to an end after a number
of steps.  Until then each step erases a species and shortens the text; then no declared
symbol is left.
-/
structure ExhaustedAfter
    (vocabulary : Vocabulary)
    (term : String)
    (steps : Nat) : Prop where
  erases :
    ∀ step < steps,
      ∃ symbol ∈ vocabulary.symbols,
        vocabulary.eraseLongest (vocabulary.remainder^[step] term) =
          (some symbol, vocabulary.remainder^[step + 1] term)
  shortens :
    ∀ step < steps,
      (vocabulary.remainder^[step + 1] term).utf8ByteSize <
        (vocabulary.remainder^[step] term).utf8ByteSize
  free :
    ∀ symbol ∈ vocabulary.symbols,
      ¬ symbol.toList <:+: (vocabulary.remainder^[steps] term).toList
  settled :
    vocabulary.eraseLongest (vocabulary.remainder^[steps] term) =
      (none, vocabulary.remainder^[steps] term)

namespace ExhaustedAfter

variable {vocabulary : Vocabulary} {term : String}

/-- A term without species is left as it is. -/
theorem zero (none : vocabulary.longestMatch? term = none) :
    vocabulary.ExhaustedAfter term 0 where
  erases _ early := (Nat.not_lt_zero _ early).elim
  shortens _ early := (Nat.not_lt_zero _ early).elim
  free symbol declared inside :=
    longestMatch?_eq_none_iff.mp none symbol declared (occursIn_iff_isInfix.mpr inside)
  settled := eraseLongest_of_none none

/-- A term with a species takes one step more than its remainder. -/
theorem succ
    {symbol : String}
    (found : vocabulary.longestMatch? term = some symbol)
    (shorter : (vocabulary.remainder term).utf8ByteSize < term.utf8ByteSize)
    {steps : Nat}
    (exhausted : vocabulary.ExhaustedAfter (vocabulary.remainder term) steps) :
    vocabulary.ExhaustedAfter term (steps + 1) where
  erases step early := by
    cases step with
    | zero =>
        refine ⟨symbol, (mem_of_longestMatch? found).1, ?_⟩
        show vocabulary.eraseLongest term = (some symbol, vocabulary.remainder term)
        rw [remainder, eraseLongest_of_longestMatch? found]
    | succ step => exact exhausted.erases step (Nat.lt_of_succ_lt_succ early)
  shortens step early := by
    cases step with
    | zero => exact shorter
    | succ step => exact exhausted.shortens step (Nat.lt_of_succ_lt_succ early)
  free := exhausted.free
  settled := exhausted.settled

/-- Nothing changes once no species is left. -/
theorem iterate_eq
    {steps later : Nat}
    (exhausted : vocabulary.ExhaustedAfter term steps)
    (le : steps ≤ later) :
    vocabulary.remainder^[later] term = vocabulary.remainder^[steps] term := by
  have fixed :
      vocabulary.remainder (vocabulary.remainder^[steps] term) =
        vocabulary.remainder^[steps] term :=
    congrArg Prod.snd exhausted.settled
  rw [← Nat.sub_add_cancel le, Function.iterate_add_apply,
    Function.iterate_fixed fixed]

end ExhaustedAfter

end Vocabulary

/--
Erasing the species of a term over and over ends after no more steps than the term has
bytes.  Each step before the end shortens the text, and at the end no declared symbol is
in it and it stays as it is.
-/
theorem erasing_exhausts_species
    {vocabulary : Vocabulary}
    (named : ∀ symbol ∈ vocabulary.symbols, symbol ≠ "")
    (term : String) :
    ∃ steps ≤ term.utf8ByteSize,
      vocabulary.ExhaustedAfter term steps ∧
        ∀ later ≥ steps,
          vocabulary.remainder^[later] term = vocabulary.remainder^[steps] term := by
  suffices exhausted :
      ∃ steps ≤ term.utf8ByteSize, vocabulary.ExhaustedAfter term steps by
    rcases exhausted with ⟨steps, stepsLe, exhausted⟩
    exact ⟨steps, stepsLe, exhausted, fun _ => exhausted.iterate_eq⟩
  induction sizeEq : term.utf8ByteSize using Nat.strong_induction_on
    generalizing term with
  | _ size induction =>
      subst sizeEq
      cases found : vocabulary.longestMatch? term with
      | none => exact ⟨0, Nat.zero_le _, .zero found⟩
      | some symbol =>
          rcases Vocabulary.mem_of_longestMatch? found with ⟨declared, present⟩
          have shorter :
              (vocabulary.remainder term).utf8ByteSize < term.utf8ByteSize := by
            rw [Vocabulary.remainder, Vocabulary.eraseLongest_of_longestMatch? found]
            exact Vocabulary.utf8ByteSize_without_lt (named symbol declared) present
          rcases induction _ shorter (vocabulary.remainder term) rfl with
            ⟨steps, stepsLe, exhausted⟩
          exact
            ⟨steps + 1, Nat.succ_le_of_lt (stepsLe.trans_lt shorter),
              .succ found shorter exhausted⟩

/-- Erasing one symbol spells another one, which is erased next. -/
theorem erasing_exhausts_species_nested :
    let vocabulary : Vocabulary := { symbols := ["AB", "CD"] }
    (∀ symbol ∈ vocabulary.symbols, symbol ≠ "") ∧
      ∃ steps ≤ 5,
        vocabulary.ExhaustedAfter "2CABD" steps ∧
          vocabulary.remainder^[steps] "2CABD" = "2" := by
  intro vocabulary
  have named : ∀ symbol ∈ vocabulary.symbols, symbol ≠ "" := by decide
  have sizeEq : "2CABD".utf8ByteSize = 5 := by decide +kernel
  rcases erasing_exhausts_species named "2CABD" with
    ⟨steps, stepsLe, exhausted, later⟩
  rw [sizeEq] at stepsLe
  have last : vocabulary.remainder^[5] "2CABD" = "2" := by decide +kernel
  exact ⟨named, steps, stepsLe, exhausted, (later 5 stepsLe).symm.trans last⟩

end SurfaceKinetics
