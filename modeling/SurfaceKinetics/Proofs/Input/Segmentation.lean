import Mathlib.Data.List.Flatten
import Mathlib.Data.List.Perm.Basic
import SurfaceKinetics.Input.Segment

/-!
# How an input falls into segments

The lines of an input are split from the first one on.  A header that announces
lines takes just that many of the lines behind it, if they are there; every other
header stands alone, and the line behind it is the next header.  There is one such
splitting, and it has every line in one place: as a header or in one body.
-/

namespace SurfaceKinetics

/-! ## Numbers of lines -/

/-- Significant lines are numbered from the given number on, in increasing order. -/
theorem significantFrom_increasing (number : Nat) (texts : List (List Char)) :
    (∀ line ∈ significantFrom number texts, number ≤ line.number) ∧
      (significantFrom number texts).Pairwise (·.number < ·.number) := by
  induction texts generalizing number with
  | nil => exact ⟨List.forall_mem_nil _, .nil⟩
  | cons text texts induction =>
      rcases induction (number + 1) with ⟨later, increasing⟩
      rw [significantFrom]
      split
      · exact ⟨fun line member => Nat.le_of_succ_le (later line member), increasing⟩
      · refine ⟨List.forall_mem_cons.mpr ⟨Nat.le_refl _, ?_⟩, .cons later increasing⟩
        exact fun line member => Nat.le_of_succ_le (later line member)

theorem significantLines_increasing (source : String) :
    (significantLines source).Pairwise (·.number < ·.number) :=
  (significantFrom_increasing 1 _).2

namespace Segment

/-! ## Splitting -/

/-- A header announces a block of some number of lines. -/
def Announces (header : Line) (count : Nat) : Prop :=
  ∃ keyword,
    keyword? header = some keyword ∧
      keyword.opensBlock = true ∧ announced? header = some count

/-- The splitting of lines into segments. -/
inductive Splits : List Line → List Segment → Prop where
  | nil : Splits [] []
  | alone
      {header : Line}
      {rest : List Line}
      {segments : List Segment}
      (closed : ∀ count, Announces header count → rest.length < count)
      (later : Splits rest segments) :
      Splits (header :: rest)
        ({ header, body := [], following := rest.length } :: segments)
  | block
      {header : Line}
      {body rest : List Line}
      {segments : List Segment}
      (opens : Announces header body.length)
      (later : Splits rest segments) :
      Splits (header :: (body ++ rest))
        ({ header, body, following := (body ++ rest).length } :: segments)

theorem bodyLength_of_announces
    {header : Line}
    {count following : Nat}
    (announces : Announces header count)
    (inside : count ≤ following) :
    bodyLength header following = count := by
  rcases announces with ⟨keyword, keywordEq, opens, countEq⟩
  simp only [bodyLength, keywordEq, opens, countEq, if_true, if_pos inside]

theorem bodyLength_eq_zero
    {header : Line}
    {following : Nat}
    (closed : ∀ count, Announces header count → following < count) :
    bodyLength header following = 0 := by
  rw [bodyLength]
  split
  · rfl
  · next keyword keywordEq =>
    split
    · next opens =>
      split
      · next count countEq =>
        have short := closed count ⟨keyword, keywordEq, opens, countEq⟩
        exact if_neg (Nat.not_le_of_lt short)
      · rfl
    · rfl

/-- Lines are split into their segments. -/
theorem splits_ofLines (lines : List Line) : Splits lines (ofLines lines) := by
  fun_induction ofLines lines with
  | case1 => exact .nil
  | case2 header rest length induction =>
      by_cases opens :
          ∃ count, Announces header count ∧ count ≤ rest.length
      -- A header takes a body only if all the lines it announces are there.
      · rcases opens with ⟨count, announces, inside⟩
        have lengthEq : length = count :=
          bodyLength_of_announces announces inside
        have taken : (rest.take count).length = count :=
          List.length_take_of_le inside
        rw [lengthEq] at induction ⊢
        have split :
            Splits (header :: (rest.take count ++ rest.drop count)) _ :=
          .block (taken.symm ▸ announces) induction
        rw [List.take_append_drop] at split
        exact split
      · have closed (count : Nat) (announces : Announces header count) :
            rest.length < count :=
          Nat.lt_of_not_le fun inside => opens ⟨count, announces, inside⟩
        have lengthEq : length = 0 := bodyLength_eq_zero closed
        rw [lengthEq] at induction ⊢
        exact .alone closed induction

/-- There is no other splitting. -/
theorem Splits.eq_ofLines
    {lines : List Line}
    {segments : List Segment}
    (splits : Splits lines segments) :
    segments = ofLines lines := by
  induction splits with
  | nil => rw [ofLines]
  | alone closed later induction =>
      rw [ofLines, bodyLength_eq_zero closed, induction]
      rfl
  | @block header body rest segments opens later induction =>
      have inside : body.length ≤ (body ++ rest).length := by simp
      rw [ofLines, bodyLength_of_announces opens inside, List.take_left,
        List.drop_left, ← induction]

/-! ## Lines of segments -/

/-- The lines of a segment. -/
def lines (segment : Segment) : List Line := segment.header :: segment.body

/-- Every line is in one segment, and the segments are in the order of the lines. -/
theorem Splits.flatMap_lines
    {lines : List Line}
    {segments : List Segment}
    (splits : Splits lines segments) :
    segments.flatMap Segment.lines = lines := by
  induction splits with
  | nil => rfl
  | alone closed later induction =>
      rw [List.flatMap_cons, induction]
      rfl
  | block opens later induction =>
      rw [List.flatMap_cons, induction]
      rfl

/-- A body has the length that its header gives it. -/
def Cut (segment : Segment) : Prop :=
  segment.body.length = bodyLength segment.header segment.following

theorem Splits.cut
    {lines : List Line}
    {segments : List Segment}
    (splits : Splits lines segments) :
    ∀ segment ∈ segments, segment.Cut := by
  induction splits with
  | nil => exact List.forall_mem_nil _
  | alone closed later induction =>
      exact
        List.forall_mem_cons.mpr ⟨(bodyLength_eq_zero closed).symm, induction⟩
  | @block header body rest segments opens later induction =>
      have inside : body.length ≤ (body ++ rest).length := by simp
      exact
        List.forall_mem_cons.mpr
          ⟨(bodyLength_of_announces opens inside).symm, induction⟩

/-! ## Bodies under a keyword -/

/-- The body of a segment, if its header has a given keyword. -/
def bodyUnder (keyword : Keyword) (segment : Segment) : List Line :=
  if keyword? segment.header = some keyword then segment.body else []

/-- The lines of all species blocks. -/
def speciesLines (segments : List Segment) : List Line :=
  segments.flatMap (bodyUnder .species)

/-- The lines of all process blocks. -/
def processLines (segments : List Segment) : List Line :=
  segments.flatMap (bodyUnder .processes)

/-- A body has lines only under a keyword that opens a block. -/
theorem Cut.body_eq_nil
    {segment : Segment}
    (cut : segment.Cut)
    (closed :
      ∀ count, Announces segment.header count → segment.following < count) :
    segment.body = [] :=
  List.length_eq_zero_iff.mp (cut.trans (bodyLength_eq_zero closed))

theorem Cut.body_eq
    {segment : Segment}
    (cut : segment.Cut) :
    segment.body =
      segment.bodyUnder .species ++ segment.bodyUnder .processes := by
  by_cases species : keyword? segment.header = some .species
  · simp [bodyUnder, species]
  · by_cases processes : keyword? segment.header = some .processes
    · simp [bodyUnder, processes]
    · have closed (count : Nat) (announces : Announces segment.header count) :
          segment.following < count := by
        rcases announces with ⟨keyword, keywordEq, opens, _⟩
        cases keyword with
        | species => exact (species keywordEq).elim
        | processes => exact (processes keywordEq).elim
        | _ => cases opens
      simp [bodyUnder, species, processes, cut.body_eq_nil closed]

/-- Headers, species lines and process lines are all the lines there are. -/
theorem perm_lines
    {segments : List Segment}
    (cut : ∀ segment ∈ segments, segment.Cut) :
    (segments.map header ++ (speciesLines segments ++ processLines segments)).Perm
      (segments.flatMap lines) := by
  have bodies :
      (speciesLines segments ++ processLines segments).Perm
        (segments.flatMap body) := by
    have parts :
        (segments.flatMap fun segment =>
            segment.bodyUnder .species ++ segment.bodyUnder .processes) =
          segments.flatMap body :=
      List.flatMap_congr fun segment member => (cut segment member).body_eq.symm
    rw [← parts]
    exact List.flatMap_append_perm segments _ _
  exact
    (bodies.append_left _).trans
      (List.map_append_flatMap_perm segments header body)

end Segment

end SurfaceKinetics
