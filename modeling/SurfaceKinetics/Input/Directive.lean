import SurfaceKinetics.Input.Segment
import SurfaceKinetics.InputError
import SurfaceKinetics.Lattice.Config
import SurfaceKinetics.Reaction.Compile

/-!
# Directives

A directive is the meaning of one segment of an input.  `ofSegment` reads it or
says what is wrong with the segment.
-/

namespace SurfaceKinetics

/-- The meaning of a segment. -/
inductive Directive (α : Type) where
  | lattice (config : LatticeConfig)
  | species (body : List Line)
  | processes (body : List Line)
  | pressure (value : α)
  | temperature (value : α)
  | endTime (value : α)
  | steps (profile : Option StepProfile)
  | debug (on : Bool)
  | unknown (keyword : String)

namespace Directive

variable {α : Type}

/-- A value that must be there. -/
def orFail {β : Type} (value? : Option β) (error : InputError α) :
    Except (InputError α) β :=
  match value? with
  | some value => pure value
  | none => throw error

/-- `build_lattice TYPE X Y HEIGHT [LABEL]` -/
def latticeOf (tokens : List String) : Except (InputError α) LatticeConfig := do
  let tag ← orFail tokens[1]? (.missingValue Keyword.buildLattice.word)
  let kind ←
    orFail (LatticeKind.ofLowerTag? (plainLowerCase tag)) (.unknownLattice tag)
  let columns ← orFail (tokens[2]?.bind natural?) .dimensionX
  let rows ← orFail (tokens[3]?.bind natural?) .dimensionY
  let height ← orFail (tokens[4]?.bind natural?) .height
  if greatestShort < height then
    throw .height
  pure
    { kind, columns, rows, initialHeight := height, label := tokens[5]?.getD "" }

/-- The lines that the header of a block announces. -/
def blockOf
    (keyword : Keyword)
    (segment : Segment) :
    Except (InputError α) (List Line) :=
  match Segment.announced? segment.header with
  | none =>
    throw (.count keyword.word ((segment.header.token? 1).getD ""))
  | some count =>
    if segment.following < count then
      throw (.truncatedBlock keyword.word count segment.following)
    else
      pure segment.body

/-- The numeral after a keyword. -/
def valueOf
    [Quantity α]
    (keyword : Keyword)
    (tokens : List String)
    (error : InputError α) :
    Except (InputError α) α := do
  let token ← orFail tokens[1]? (.missingValue keyword.word)
  orFail (number? token) error

/-- The terraces that three whole numbers describe; three zeros describe none. -/
def profileOf? (count height depth : Int) : Option (Option StepProfile) :=
  if count = 0 ∧ height = 0 ∧ depth = 0 then
    some none
  else if 0 < count ∧
      leastShort ≤ height ∧ height ≤ greatestShort ∧
      leastShort ≤ depth ∧ depth ≤ greatestShort then
    some (some { count := count.toNat, height, depth })
  else
    none

/-- `steps COUNT HEIGHT DEPTH` -/
def stepsOf (tokens : List String) :
    Except (InputError α) (Option StepProfile) :=
  let words := tokens.drop 1
  orFail
    (match (words.take 3).map integer? with
      | [some count, some height, some depth] => profileOf? count height depth
      | _ => none)
    (.steps (" ".intercalate words))

/-- `debug on|off` -/
def debugOf (tokens : List String) : Except (InputError α) Bool := do
  let word ← orFail tokens[1]? (.missingValue Keyword.debug.word)
  match plainLowerCase word with
  | "on" => pure true
  | "off" => pure false
  | _ => throw (.debugMode word)

/-- The directive of a segment, or its error without a location. -/
def ofSegment [Quantity α] (segment : Segment) :
    Except (InputError α) (Directive α) :=
  let tokens := segment.header.tokens
  match Segment.keyword? segment.header with
  | none => pure (.unknown segment.header.keyword)
  | some keyword =>
    match keyword with
    | .buildLattice => lattice <$> latticeOf tokens
    | .species => species <$> blockOf keyword segment
    | .processes => processes <$> blockOf keyword segment
    | .pressure => pressure <$> valueOf keyword tokens .pressure
    | .temperature => temperature <$> valueOf keyword tokens .temperature
    | .time => endTime <$> valueOf keyword tokens .time
    | .steps => steps <$> stepsOf tokens
    | .debug => debug <$> debugOf tokens

end Directive

end SurfaceKinetics
