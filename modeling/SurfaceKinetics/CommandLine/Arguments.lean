import SurfaceKinetics.Text.Binary64

/-!
# Arguments

The arguments of the command line are one input path and options.  An option
with a value takes it from behind `=`, from the rest of a short option, or from
the next argument unless that looks like an option.  Short options without a
value may share one argument.  After `--` every argument is a path.

No option may be given twice, except for `-v`, which counts.
-/

namespace SurfaceKinetics

/-- What the command line asks for. -/
structure Options where
  input : String
  output : String
  seed : Option UInt64
  maxSteps : Option Nat
  endTime : Option Float
  reportInterval : Option Float
  plot : Bool
  heights : Bool
  verbosity : Nat

/-- Options with a value. -/
inductive ValueOption where
  | output
  | seed
  | maxSteps
  | endTime
  | reportInterval
  deriving DecidableEq

/-- Options without a value. -/
inductive Switch where
  | plot
  | heights
  | verbose
  | help
  deriving DecidableEq

/-- What is wrong with arguments. -/
inductive UsageFault where
  | noInput
  | unexpected (argument : String)
  | noValue (option : ValueOption)
  | badValue (option : ValueOption) (value : String)
  | emptyInput
  | repeated (option : String)
  | unwantedValue (option value : String)
  deriving DecidableEq

def ValueOption.usage : ValueOption → String
  | output => "--output <OUTPUT>"
  | seed => "--seed <SEED>"
  | maxSteps => "--max-steps <MAX_STEPS>"
  | endTime => "--end-time <END_TIME>"
  | reportInterval => "--report-every <SECONDS>"

def Switch.usage : Switch → String
  | plot => "--plot"
  | heights => "--heights"
  | verbose => "--verbose"
  | help => "--help"

def UsageFault.message : UsageFault → String
  | noInput =>
    "the following required arguments were not provided:\n  <INPUT>"
  | unexpected argument => s!"unexpected argument '{argument}' found"
  | noValue option =>
    s!"a value is required for '{option.usage}' but none was supplied"
  | badValue option value =>
    s!"invalid value '{value}' for '{option.usage}'"
  | emptyInput => "a value is required for '<INPUT>' but none was supplied"
  | repeated option => s!"the argument '{option}' cannot be used multiple times"
  | unwantedValue option value =>
    s!"unexpected value '{value}' for '{option}' found; no more were expected"

/-- Why the arguments are not read to their end. -/
inductive ArgumentStop where
  | help
  | fault (fault : UsageFault)
  deriving DecidableEq

/-- A value option or a switch, by its long name. -/
def longOption? : String → Option (ValueOption ⊕ Switch)
  | "output" => some (.inl .output)
  | "seed" => some (.inl .seed)
  | "max-steps" => some (.inl .maxSteps)
  | "end-time" => some (.inl .endTime)
  | "report-every" => some (.inl .reportInterval)
  | "plot" => some (.inr .plot)
  | "heights" => some (.inr .heights)
  | "verbose" => some (.inr .verbose)
  | "help" => some (.inr .help)
  | _ => none

/-- A value option or a switch, by its letter. -/
def shortOption? : Char → Option (ValueOption ⊕ Switch)
  | 'o' => some (.inl .output)
  | 'v' => some (.inr .verbose)
  | 'h' => some (.inr .help)
  | _ => none

/-- The whole number below a bound that decimal digits spell. -/
def boundedNatural? (bound : Nat) (text : String) : Option Nat :=
  let digits :=
    match text.toList with
    | '+' :: rest => rest
    | all => all
  if !digits.isEmpty && digits.all Char.isDigit && digitsValue digits < bound then
    some (digitsValue digits)
  else
    none

/-- Arguments while they are read. -/
structure ArgumentDraft where
  input : Option String := none
  output : Option String := none
  seed : Option UInt64 := none
  maxSteps : Option Nat := none
  endTime : Option Float := none
  reportInterval : Option Float := none
  plot : Bool := false
  heights : Bool := false
  verbosity : Nat := 0
  /-- The option whose value comes next. -/
  pending : Option ValueOption := none
  /-- Whether `--` has been seen. -/
  onlyPaths : Bool := false

namespace ArgumentDraft

def refuse {β : Type} (fault : UsageFault) : Except ArgumentStop β :=
  throw (.fault fault)

/-- A value that an option may have only once. -/
def once {β : Type}
    (option : ValueOption)
    (text : String)
    (earlier : Option β)
    (value : Option β) :
    Except ArgumentStop (Option β) :=
  match value, earlier with
  | none, _ => refuse (.badValue option text)
  | some _, some _ => refuse (.repeated option.usage)
  | some value, none => pure (some value)

/-- Gives an option its value. -/
def assign
    (draft : ArgumentDraft)
    (option : ValueOption)
    (text : String) :
    Except ArgumentStop ArgumentDraft :=
  let number := (Binary64.ofText? text).map Binary64.toFloat
  let natural := boundedNatural? (twoTo 64) text
  match option with
  | .output => do
    let path := if text.isEmpty then none else some text
    pure { draft with output := ← once option text draft.output path }
  | .seed => do
    let seed := natural.map Nat.toUInt64
    pure { draft with seed := ← once option text draft.seed seed }
  | .maxSteps => do
    pure { draft with maxSteps := ← once option text draft.maxSteps natural }
  | .endTime => do
    pure { draft with endTime := ← once option text draft.endTime number }
  | .reportInterval => do
    let interval ← once option text draft.reportInterval number
    pure { draft with reportInterval := interval }

/-- Turns a switch on. -/
def turnOn
    (draft : ArgumentDraft)
    (switch : Switch) :
    Except ArgumentStop ArgumentDraft :=
  match switch with
  | .plot =>
    if draft.plot then refuse (.repeated switch.usage)
    else pure { draft with plot := true }
  | .heights =>
    if draft.heights then refuse (.repeated switch.usage)
    else pure { draft with heights := true }
  | .verbose => pure { draft with verbosity := draft.verbosity + 1 }
  | .help => throw .help

/-- Takes the path of the input. -/
def takeInput
    (draft : ArgumentDraft)
    (path : String) :
    Except ArgumentStop ArgumentDraft :=
  match draft.input with
  | some _ => refuse (.unexpected path)
  | none =>
    if path.isEmpty then refuse .emptyInput
    else pure { draft with input := some path }

/-- Reads a long option without its dashes. -/
def readLong
    (draft : ArgumentDraft)
    (text : List Char) :
    Except ArgumentStop ArgumentDraft :=
  let name := String.ofList (text.takeWhile (· != '='))
  let attached := (text.dropWhile (· != '=')).tail?.map String.ofList
  match longOption? name, attached with
  | none, _ => refuse (.unexpected ("--" ++ name))
  | some (.inl option), some value => draft.assign option value
  | some (.inl option), none => pure { draft with pending := some option }
  | some (.inr switch), some value => refuse (.unwantedValue switch.usage value)
  | some (.inr switch), none => draft.turnOn switch

/-- Reads short options without their dash. -/
def readShort : ArgumentDraft → List Char → Except ArgumentStop ArgumentDraft
  | draft, [] => pure draft
  | draft, letter :: rest =>
    match shortOption? letter, rest with
    | none, _ => refuse (.unexpected ("-" ++ letter.toString))
    | some (.inr switch), rest => do
      let draft ← draft.turnOn switch
      readShort draft rest
    | some (.inl option), [] => pure { draft with pending := some option }
    | some (.inl option), '=' :: value =>
      draft.assign option (String.ofList value)
    | some (.inl option), value => draft.assign option (String.ofList value)

/-- Reads one argument. -/
def readArgument
    (draft : ArgumentDraft)
    (argument : String) :
    Except ArgumentStop ArgumentDraft :=
  match draft.pending, draft.onlyPaths, argument.toList with
  | some option, _, '-' :: _ :: _ => refuse (.noValue option)
  | some option, _, _ => { draft with pending := none }.assign option argument
  | none, true, _ => draft.takeInput argument
  | none, false, ['-', '-'] => pure { draft with onlyPaths := true }
  | none, false, '-' :: '-' :: text => draft.readLong text
  | none, false, '-' :: letter :: rest => draft.readShort (letter :: rest)
  | none, false, _ => draft.takeInput argument

/-- The options of a draft. -/
def finish (draft : ArgumentDraft) : Except ArgumentStop Options :=
  match draft.pending, draft.input with
  | some option, _ => refuse (.noValue option)
  | none, none => refuse .noInput
  | none, some input =>
    pure
      { input
        output := draft.output.getD "."
        seed := draft.seed
        maxSteps := draft.maxSteps
        endTime := draft.endTime
        reportInterval := draft.reportInterval
        plot := draft.plot
        heights := draft.heights
        verbosity := draft.verbosity }

end ArgumentDraft

/-- Reads the arguments of the command line. -/
def Options.ofArguments (arguments : List String) : Except ArgumentStop Options := do
  let draft ← arguments.foldlM ArgumentDraft.readArgument {}
  draft.finish

/-- The text that explains the command line. -/
def Options.help : String :=
  "\n".intercalate
    ["Kinetic Monte Carlo simulation of surface growth",
      "",
      "Usage: kmc [OPTIONS] <INPUT>",
      "",
      "Arguments:",
      "  <INPUT>  Input description file",
      "",
      "Options:",
      "  -o, --output <OUTPUT>         Output directory [default: .]",
      "      --seed <SEED>             Random seed (0 or absent seeds from the clock)",
      "      --max-steps <MAX_STEPS>   Stop after this many events",
      "      --end-time <END_TIME>     Simulated end time in seconds, " ++
        "overrides the `time` keyword",
      "      --report-every <SECONDS>  Sampling interval in simulated seconds",
      "      --plot                    Write SVG plots of roughness and mean height",
      "      --heights                 Write the final height map",
      "  -v, --verbose...              Verbosity (-v debug, -vv trace)",
      "  -h, --help                    Print help",
      ""]

end SurfaceKinetics
