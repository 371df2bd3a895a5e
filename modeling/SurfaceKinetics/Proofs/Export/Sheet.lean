import Mathlib.Data.List.Basic
import SurfaceKinetics.Export.Sheet
import SurfaceKinetics.Proofs.Decimal.Letters

/-!
# Reading a sheet back

An exporter looks at all it will hand over before it hands over anything, so what it
does is said by a sheet: the fault that it finds, if there is one, and the lines that it
hands to its writer otherwise.  A writer of a sheet with a fault is left alone.

Every line of a sheet ends, so the lines of its text are the lines of the sheet as long
as none of them is broken by a line end of its own.  A line is cut into cells at its
delimiter, and the cells are those it was put together from when none of them contains
the delimiter.

Whole numbers are such cells for every delimiter that is neither a digit nor a minus.
-/

namespace SurfaceKinetics

/-- Lines to be written, and the fault that prevents this, if there is one. -/
structure Sheet where
  fault? : Option ExportFault
  lines : List String

namespace Sheet

/-! ## Writing -/

/-- Hands a sheet to a writer, unless it has a fault. -/
def handTo
    {m : Type → Type}
    [Monad m]
    (put : String → m Unit)
    (sheet : Sheet) :
    m (Except ExportFault Unit) :=
  match sheet.fault? with
  | some fault => pure (.error fault)
  | none => do
    handLines put sheet.lines
    pure (.ok ())

/-- The text of a sheet. -/
def text (sheet : Sheet) : Except ExportFault String :=
  collected (sheet.handTo collect)

section Writers

variable
    {m : Type → Type}
    [Monad m]
    (put : String → m Unit)

theorem handLines_cons (line : String) (lines : List String) :
    handLines put (line :: lines) =
      (handLine put line >>= fun _ => handLines put lines) :=
  List.forM_cons

variable [LawfulMonad m]

theorem handLines_append (first second : List String) :
    handLines put (first ++ second) =
      (handLines put first >>= fun _ => handLines put second) :=
  List.forM_append

/-- Lines that are handed over where there are some. -/
theorem handLines_filterMap
    {α : Type}
    (line? : α → Option String)
    (places : List α) :
    handLines put (places.filterMap line?) =
      forM places fun place => forM (line? place) (handLine put) := by
  induction places with
  | nil => rfl
  | cons place places induction =>
      rw [List.forM_cons, ← induction, List.filterMap_cons]
      cases line? place with
      | none => exact (pure_bind (m := m) PUnit.unit fun _ => handLines put _).symm
      | some line => exact handLines_cons put line _

end Writers

/-- A sheet with a fault leaves its writer alone. -/
theorem handTo_of_fault
    {m : Type → Type}
    [Monad m]
    (put : String → m Unit)
    {sheet : Sheet}
    {fault : ExportFault}
    (faulty : sheet.fault? = some fault) :
    sheet.handTo put = pure (.error fault) := by
  rw [handTo, faulty]

/-- A writer that hears of a fault has been handed nothing. -/
theorem state_eq_of_handTo
    {σ ε : Type}
    {put : String → StateT σ (Except ε) Unit}
    {sheet : Sheet}
    {state later : σ}
    {fault : ExportFault}
    (refused : (sheet.handTo put).run state = .ok (.error fault, later)) :
    later = state := by
  cases found : sheet.fault? with
  | some other =>
      rw [handTo_of_fault put found] at refused
      cases refused
      rfl
  | none =>
      simp only [handTo, found, StateT.run_bind] at refused
      cases handed : (handLines put sheet.lines).run state with
      | error broken =>
          rw [handed] at refused
          cases refused
      | ok done =>
          rw [handed] at refused
          cases refused

theorem run_handLines_collect (lines : List String) (text : String) :
    (handLines collect lines).run text =
      ((), text ++ String.join (lines.map terminated)) := by
  induction lines generalizing text with
  | nil =>
      rw [List.map_nil, String.join_nil, String.append_empty]
      rfl
  | cons line lines induction =>
      rw [List.map_cons, String.join_cons, ← String.append_assoc]
      exact induction (text ++ terminated line)

theorem text_of_fault
    {sheet : Sheet}
    {fault : ExportFault}
    (faulty : sheet.fault? = some fault) :
    sheet.text = .error fault := by
  rw [text, handTo_of_fault collect faulty]
  rfl

/-- The text of a sheet without fault is its lines, each with its end. -/
theorem text_of_faultless
    {sheet : Sheet}
    (faultless : sheet.fault? = none) :
    sheet.text = .ok (String.join (sheet.lines.map terminated)) := by
  have handed := run_handLines_collect sheet.lines ""
  rw [String.empty_append] at handed
  rw [text, handTo, faultless]
  exact congrArg (fun state => Except.ok state.2) handed

theorem fault?_eq_some_of_text
    {sheet : Sheet}
    {fault : ExportFault}
    (refused : sheet.text = .error fault) :
    sheet.fault? = some fault := by
  cases found : sheet.fault? with
  | none =>
      rw [text_of_faultless found] at refused
      cases refused
  | some other =>
      rw [text_of_fault found] at refused
      cases refused
      rfl

/-! ## Lines -/

/-- The lines of a text, if every one of them ends. -/
def lines? (text : String) : Option (List String) :=
  let pieces := text.toList.splitOn '\n'
  if pieces.getLast? = some [] then
    some (pieces.dropLast.map String.ofList)
  else
    none

/-- A line is free of line ends. -/
def Unbroken (line : String) : Prop := '\n' ∉ line.toList

instance (line : String) : Decidable (Unbroken line) :=
  inferInstanceAs (Decidable ('\n' ∉ line.toList))

theorem splitOn_flatMap_terminated
    {lines : List String}
    (unbroken : ∀ line ∈ lines, Unbroken line) :
    (lines.flatMap fun line => (terminated line).toList).splitOn '\n' =
      lines.map String.toList ++ [[]] := by
  induction lines with
  | nil => rfl
  | cons line lines induction =>
      rw [List.forall_mem_cons] at unbroken
      have free : ∀ letter ∈ line.toList, (letter == '\n') = false := by
        intro letter member
        exact beq_false_of_ne (ne_of_mem_of_not_mem member unbroken.1)
      have ended : (terminated line).toList = line.toList ++ ['\n'] :=
        String.toList_append
      rw [List.flatMap_cons, ended, List.append_assoc, List.singleton_append,
        List.splitOn_eq_splitOnP,
        List.splitOnP_append_cons_of_forall_mem free '\n' rfl,
        ← List.splitOn_eq_splitOnP, induction unbroken.2, List.map_cons,
        List.cons_append]

/-- The lines of a text are read back from it. -/
theorem lines?_join
    {lines : List String}
    (unbroken : ∀ line ∈ lines, Unbroken line) :
    lines? (String.join (lines.map terminated)) = some lines := by
  have pieces :
      (String.join (lines.map terminated)).toList.splitOn '\n' =
        lines.map String.toList ++ [[]] := by
    rw [String.toList_join, List.flatMap_map]
    exact splitOn_flatMap_terminated unbroken
  rw [lines?, pieces, if_pos List.getLast?_concat, List.dropLast_concat, List.map_map]
  simp

/-- The lines of a sheet without fault are read back from its text. -/
theorem exists_text_lines?
    {sheet : Sheet}
    (faultless : sheet.fault? = none)
    (unbroken : ∀ line ∈ sheet.lines, Unbroken line) :
    ∃ text, sheet.text = .ok text ∧ lines? text = some sheet.lines :=
  ⟨_, text_of_faultless faultless, lines?_join unbroken⟩

/-! ## Cells -/

/-- The cells of a line between its delimiters. -/
def cells (delimiter : Char) (line : String) : List String :=
  (line.toList.splitOn delimiter).map String.ofList

theorem toList_delimiter (delimiter : Char) : delimiter.toString.toList = [delimiter] :=
  String.toList_singleton delimiter

/-- Cells are read back from their line when none of them contains the delimiter. -/
theorem cells_intercalate
    {delimiter : Char}
    {fields : List String}
    (nonempty : fields ≠ [])
    (free : ∀ field ∈ fields, delimiter ∉ field.toList) :
    cells delimiter (delimiter.toString.intercalate fields) = fields := by
  have separated :
      ([delimiter].intercalate (fields.map String.toList)).splitOn delimiter =
        fields.map String.toList := by
    apply List.splitOn_intercalate delimiter
    · exact List.forall_mem_map.mpr free
    · simpa using nonempty
  rw [cells, String.toList_intercalate, toList_delimiter, separated, List.map_map]
  simp

/-- A line is unbroken when its cells are and its delimiter is no line end. -/
theorem unbroken_intercalate
    {delimiter : Char}
    {fields : List String}
    (delimiterNe : delimiter ≠ '\n')
    (unbroken : ∀ field ∈ fields, Unbroken field) :
    Unbroken (delimiter.toString.intercalate fields) := by
  rw [Unbroken, String.toList_intercalate]
  induction fields with
  | nil => exact List.not_mem_nil
  | cons field fields induction =>
      rw [List.forall_mem_cons] at unbroken
      have rest := induction unbroken.2
      cases fields with
      | nil =>
          rw [List.map_singleton, List.intercalate_singleton]
          exact unbroken.1
      | cons next fields =>
          have delimiterFree : '\n' ∉ delimiter.toString.toList := by
            rw [toList_delimiter, List.mem_singleton]
            exact Ne.symm delimiterNe
          rw [List.map_cons, List.map_cons, List.intercalate_cons_cons,
            List.mem_append, List.mem_append, not_or, not_or]
          exact ⟨⟨unbroken.1, delimiterFree⟩, rest⟩

/-! ## Delimiters -/

/-- A delimiter can be told from whole numbers and from the ends of lines. -/
structure Delimits (delimiter : Char) : Prop where
  digit : delimiter.isDigit = false
  sign : delimiter ≠ '-'
  lineEnd : delimiter ≠ '\n'

theorem Delimits.not_isWholeLetter
    {delimiter : Char}
    (delimits : Delimits delimiter) :
    isWholeLetter delimiter = false := by
  simp [isWholeLetter, delimits.digit, delimits.sign]

end Sheet

end SurfaceKinetics
