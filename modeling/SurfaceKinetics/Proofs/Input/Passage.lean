import SurfaceKinetics.Proofs.Input.Layout

/-!
# Passages

A passage is a header with just the lines behind it that it announces.  Texts of one
passage each make up a text that falls into these passages again, whatever their order,
and none of them is read differently for the lines that follow it.
-/

namespace SurfaceKinetics

/-- Lines are a header and the block that it announces, if it announces one. -/
inductive IsPassage : List Line → Prop where
  | block
      {header : Line}
      {body : List Line}
      (announces : Segment.Announces header body.length) :
      IsPassage (header :: body)
  | alone
      {header : Line}
      (closed :
        ∀ keyword,
          Segment.keyword? header = some keyword → keyword.opensBlock = false) :
      IsPassage [header]

theorem isPassage_cons_iff
    (header : Line)
    (body : List Line) :
    IsPassage (header :: body) ↔
      if (Segment.keyword? header).any Keyword.opensBlock then
        Segment.announced? header = some body.length
      else
        body = [] := by
  split_ifs with opens
  · rcases (Option.any_eq_true _ _).mp opens with ⟨keyword, headed, blocks⟩
    constructor
    · rintro (⟨_, _, _, countEq⟩ | closed)
      · exact countEq
      · rw [closed keyword headed] at blocks
        cases blocks
    · exact fun countEq => .block ⟨keyword, headed, blocks, countEq⟩
  · have closed :
        ∀ keyword,
          Segment.keyword? header = some keyword → keyword.opensBlock = false := by
      intro keyword headed
      apply Bool.eq_false_iff.mpr
      intro blocks
      exact opens ((Option.any_eq_true _ _).mpr ⟨keyword, headed, blocks⟩)
    constructor
    · rintro (⟨keyword, headed, blocks, _⟩ | _)
      · rw [closed keyword headed] at blocks
        cases blocks
      · rfl
    · rintro rfl
      exact .alone closed

instance : DecidablePred IsPassage
  | [] => isFalse nofun
  | header :: body => decidable_of_iff' _ (isPassage_cons_iff header body)

/-- The keyword of the first line, if it is a known one. -/
def headKeyword? (lines : List Line) : Option Keyword :=
  lines.head?.bind Segment.keyword?

/-! ## Texts of several lines -/

/-- Joined texts have the lines of all of them. -/
theorem splitOn_intercalate_newline
    {texts : List (List Char)}
    (nonempty : texts ≠ []) :
    (['\n'].intercalate texts).splitOn '\n' =
      texts.flatMap fun text => text.splitOn '\n' := by
  induction texts with
  | nil => exact (nonempty rfl).elim
  | cons text texts induction =>
      cases texts with
      | nil => simp
      | cons next texts =>
          rw [List.intercalate_cons_of_ne_nil (List.cons_ne_nil _ _),
            List.append_assoc, List.singleton_append, List.flatMap_cons,
            ← induction (List.cons_ne_nil _ _)]
          exact List.splitOnP_append_cons _ _ (beq_self_eq_true '\n')

theorem map_text_significantFrom (number : Nat) (texts : List (List Char)) :
    (significantFrom number texts).map Line.text =
      (texts.map significantText).filter fun text => !text.isEmpty := by
  have textsEq := map_text_numbered number (texts.map significantText)
  rw [significantFrom_eq]
  conv_rhs => rw [← textsEq]
  rw [List.filter_map]
  rfl

/-- The significant lines of joined texts are those of the texts, up to numbers. -/
theorem map_text_significantLines_joined (pieces : List String) :
    (significantLines (joined "\n" pieces)).map Line.text =
      pieces.flatMap fun piece => (significantLines piece).map Line.text := by
  cases pieces with
  | nil => rfl
  | cons piece pieces =>
      have linesEq :
          (joined "\n" (piece :: pieces)).toList.splitOn '\n' =
            ((piece :: pieces).map String.toList).flatMap fun text =>
              text.splitOn '\n' := by
        rw [joined, String.toList_intercalate]
        exact splitOn_intercalate_newline (List.cons_ne_nil _ _)
      rw [significantLines, map_text_significantFrom, linesEq, List.flatMap_map,
        List.map_flatMap, List.filter_flatMap]
      exact
        List.flatMap_congr fun piece _ => (map_text_significantFrom 1 _).symm

/-! ## Lines without numbers -/

/-- The significant lines of a source, all under one number. -/
def plainLines (source : String) : List Line :=
  (significantLines source).map (Line.renumber fun _ => 0)

theorem plainLines_joined (pieces : List String) :
    plainLines (joined "\n" pieces) = pieces.flatMap plainLines := by
  have plain (lines : List Line) :
      lines.map (Line.renumber fun _ => 0) =
        (lines.map Line.text).map (Line.mk 0) :=
    List.map_map.symm
  rw [plainLines, plain, map_text_significantLines_joined, List.map_flatMap]
  exact List.flatMap_congr fun piece _ => (plain _).symm

theorem IsPassage.renumber
    {lines : List Line}
    (passage : IsPassage lines)
    (place : Nat → Nat) :
    IsPassage (lines.map (Line.renumber place)) := by
  cases passage with
  | @block header body announces =>
      refine .block ?_
      rw [List.length_map]
      exact announces
  | alone closed => exact .alone closed

theorem headKeyword?_plainLines (source : String) :
    headKeyword? (plainLines source) = headKeyword? (significantLines source) := by
  rw [plainLines]
  cases significantLines source <;> rfl

/-! ## Reading passages -/

namespace Segment

/-- The segment of a passage. -/
def ofPassage : List Line → Segment
  | header :: body => { header, body, following := body.length }
  | [] => { header := { number := 0, text := [] }, body := [], following := 0 }

theorem keyword?_ofPassage
    {lines : List Line}
    (passage : IsPassage lines) :
    keyword? (ofPassage lines).header = headKeyword? lines := by
  cases passage <;> rfl

theorem ofLines_passage_append
    {header : Line}
    {body : List Line}
    (passage : IsPassage (header :: body))
    (rest : List Line) :
    ofLines (header :: (body ++ rest)) =
      { header, body, following := (body ++ rest).length } :: ofLines rest := by
  have later := splits_ofLines rest
  symm
  cases passage with
  | block announces => exact (Splits.block announces later).eq_ofLines
  | alone closed =>
      refine (Splits.alone ?_ later).eq_ofLines
      rintro count ⟨keyword, keywordEq, opens, _⟩
      rw [closed keyword keywordEq] at opens
      cases opens

end Segment

namespace Directive

variable {α : Type}

/-- A block that is there to its end is read. -/
theorem blockOf_eq
    (keyword : Keyword)
    (segment : Segment)
    (countEq :
      Segment.announced? segment.header = some segment.body.length)
    (inside : segment.body.length ≤ segment.following) :
    blockOf (α := α) keyword segment = .ok segment.body := by
  rw [blockOf, countEq]
  exact if_neg (Nat.not_lt_of_le inside)

/-- The block of a passage is read. -/
theorem blockOf_ofPassage
    {lines : List Line}
    (passage : IsPassage lines)
    {keyword : Keyword}
    (headed : headKeyword? lines = some keyword)
    (opens : keyword.opensBlock = true) :
    blockOf (α := α) keyword (Segment.ofPassage lines) =
      .ok (Segment.ofPassage lines).body := by
  cases passage with
  | block announces =>
      rcases announces with ⟨_, _, _, countEq⟩
      exact blockOf_eq keyword _ countEq (Nat.le_refl _)
  | alone closed =>
      rw [closed keyword headed] at opens
      cases opens

/-- Lines behind a passage do not change what it says. -/
theorem ofSegment_ofPassage
    [Quantity α]
    {header : Line}
    {body : List Line}
    (passage : IsPassage (header :: body))
    {following : Nat}
    (inside : body.length ≤ following) :
    ofSegment (α := α) { header, body, following } =
      ofSegment (Segment.ofPassage (header :: body)) := by
  rw [ofSegment, ofSegment, Segment.ofPassage]
  dsimp only
  cases keywordEq : Segment.keyword? header with
  | none => rfl
  | some keyword =>
      cases passage with
      | block announces =>
          rcases announces with ⟨other, otherEq, opens, countEq⟩
          have block (following : Nat) (inside : body.length ≤ following) :
              blockOf (α := α) keyword { header, body, following } = .ok body :=
            blockOf_eq keyword { header, body, following } countEq inside
          cases keyword <;> simp only [block _ inside, block _ (Nat.le_refl _)]
      | alone closed =>
          have closes := closed keyword keywordEq
          cases keyword with
          | species => cases closes
          | processes => cases closes
          | _ => rfl

end Directive

namespace Draft

variable
    {α : Type}
    [Quantity α]

/-- Lines that fall into passages are read passage by passage. -/
theorem readSegments_passages
    {passages : List (List Line)}
    (all : ∀ passage ∈ passages, IsPassage passage)
    (draft : Draft α) :
    readSegments (Segment.ofLines passages.flatten) draft =
      readSegments (passages.map Segment.ofPassage) draft := by
  induction passages generalizing draft with
  | nil => rw [List.flatten_nil, Segment.ofLines, List.map_nil]
  | cons passage passages induction =>
      rcases List.forall_mem_cons.mp all with ⟨first, others⟩
      cases passage with
      | nil => cases first
      | cons header body =>
          have inside : body.length ≤ (body ++ passages.flatten).length := by
            simp
          have same :
              draft.readSegment
                  { header, body,
                    following := (body ++ passages.flatten).length } =
                draft.readSegment (Segment.ofPassage (header :: body)) := by
            rw [readSegment_eq, readSegment_eq, Directive.ofSegment_ofPassage first inside]
            rfl
          rw [List.flatten_cons, List.cons_append,
            Segment.ofLines_passage_append first, List.map_cons, readSegments,
            readSegments, same]
          congr 1
          funext outcome
          cases outcome with
          | error error => rfl
          | ok next => exact induction others next

end Draft

/-- What passages say is read from them one by one, up to numbers of lines. -/
theorem SimulationInput.read_joined
    {α : Type}
    [Quantity α]
    {pieces : List String}
    (passages : ∀ piece ∈ pieces, IsPassage (significantLines piece)) :
    renumbered (fun _ => 0) (renumber fun _ => 0)
        (read (α := α) (joined "\n" pieces)).value =
      (Draft.readSegments
          ((pieces.map plainLines).map Segment.ofPassage) {}).value.map
        fun draft => draft.finish.value := by
  have all : ∀ passage ∈ pieces.map plainLines, IsPassage passage := by
    intro passage member
    rcases List.mem_map.mp member with ⟨piece, pieceMember, rfl⟩
    exact (passages piece pieceMember).renumber _
  rw [value_read, ← readLines_renumber, readLines]
  change
    Except.map _
        (Draft.readSegments
          (Segment.ofLines (plainLines (joined "\n" pieces))) {}).value =
      _
  rw [plainLines_joined, List.flatMap_def, Draft.readSegments_passages all]

end SurfaceKinetics
