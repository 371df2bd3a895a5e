import SurfaceKinetics.Simulation.Result

/-!
# Plots

A plot shows a series of points, a value over time each, as a line in a vector
drawing, which is markup that a page can hold.  Its size must be positive, and
the series must have points, all of them finite.
-/

namespace SurfaceKinetics

/-- Red, green and blue, up to 255 each. -/
structure Colour where
  red : Nat
  green : Nat
  blue : Nat
  deriving DecidableEq

/-- How a plot looks. -/
structure PlotConfig where
  width : Nat := 1024
  height : Nat := 768
  title : String := "Plot"
  xLabel : String := "Time (s)"
  yLabel : String := ""
  lineColour : Colour := ⟨255, 0, 0⟩
  background : Colour := ⟨255, 255, 255⟩
  lineWidth : Nat := 2
  showGrid : Bool := true
  deriving DecidableEq

/-- Why a series cannot be plotted. -/
inductive PlotFault where
  | size (width height : Nat)
  | noPoints
  | notFinite
  deriving DecidableEq

def PlotFault.message : PlotFault → String
  | size width height => s!"Plot size must be positive, got {width}x{height}"
  | noPoints => "Cannot plot an empty series"
  | notFinite => "Series contains non-finite values"

namespace PlotConfig

/-- Roughness over time. -/
def roughness (title : String) : PlotConfig :=
  { title, yLabel := "Roughness" }

/-- Standard deviation of the heights over time. -/
def rms (title : String) : PlotConfig :=
  { title, yLabel := "RMS roughness", lineColour := ⟨255, 0, 255⟩ }

/-- Mean height over time. -/
def meanHeight (title : String) : PlotConfig :=
  { title, yLabel := "Mean height (ML)", lineColour := ⟨0, 0, 255⟩ }

def fault? (config : PlotConfig) : Option PlotFault :=
  if config.width = 0 ∨ config.height = 0 then
    some (.size config.width config.height)
  else
    none

end PlotConfig

namespace Plot

variable {α : Type} [Quantity α]

/-! ## Series -/

/-- The points of a measured value over time. -/
def series
    (result : SimulationResult α)
    (value : Surface α → α) :
    List (α × α) :=
  result.samples.map fun sample => (sample.time, value sample.surface)

/-- The first fault of a plot. -/
def fault? (config : PlotConfig) (points : List (α × α)) : Option PlotFault :=
  match config.fault? with
  | some fault => some fault
  | none =>
    if points.isEmpty then some .noPoints
    else if points.all fun point =>
        Quantity.isFinite point.1 && Quantity.isFinite point.2 then none
    else some .notFinite

/-! ## Drawing -/

/-- The greater of two quantities. -/
def greater (left right : α) : α := if left < right then right else left

/-- The smaller of two quantities. -/
def smaller (left right : α) : α := if left < right then left else right

/-- The pixels around the field in which the line is drawn. -/
def margin : Nat := 80

def Colour.text (colour : Colour) : String :=
  s!"rgb({colour.red},{colour.green},{colour.blue})"

/-- A text with the characters of markup replaced. -/
def escaped (text : String) : String :=
  String.join <|
    text.toList.map fun letter =>
      match letter with
      | '<' => "&lt;"
      | '>' => "&gt;"
      | '&' => "&amp;"
      | letter => String.singleton letter

/-- A place between two ends as a share of a length. -/
def placed (least greatest value : α) (length : Nat) : α :=
  (value - least) / (greatest - least) * Quantity.ofNat length

/-- The corners of the line, in pixels. -/
def corners (config : PlotConfig) (points : List (α × α)) : List String :=
  let times := points.map Prod.fst
  let values := points.map Prod.snd
  let one : α := Quantity.ofNat 1
  let latest := times.foldl greater Quantity.zero
  let latest := if Quantity.zero < latest then latest else one
  let low := values.tail.foldl smaller (values.head?.getD Quantity.zero)
  let high := values.tail.foldl greater (values.head?.getD Quantity.zero)
  let low := if low < high then low else low - one
  let high := if low < high then high else high + one
  points.map fun point =>
    let across := placed Quantity.zero latest point.1 (config.width - 2 * margin)
    let up := placed low high point.2 (config.height - 2 * margin)
    Quantity.write (.places 2) (Quantity.ofNat margin + across) ++ "," ++
      Quantity.write (.places 2)
        (Quantity.ofNat (config.height - margin) - up)

/-- A label in a drawing. -/
def label (x y : Nat) (text : String) : String :=
  s!"<text x=\"{x}\" y=\"{y}\" text-anchor=\"middle\">" ++ escaped text ++
    "</text>"

/-- The lines of a grid. -/
def gridLines (config : PlotConfig) : List String :=
  if config.showGrid then
    (List.range 9).map fun place =>
      let y := margin + (config.height - 2 * margin) * (place + 1) / 10
      s!"<line x1=\"{margin}\" x2=\"{config.width - margin}\" " ++
        s!"y1=\"{y}\" y2=\"{y}\" stroke=\"lightgrey\"/>"
  else
    []

/-- The drawing of a series. -/
def drawing (config : PlotConfig) (points : List (α × α)) : String :=
  "\n".intercalate <|
    [s!"<svg width=\"{config.width}\" height=\"{config.height}\">",
      "<rect width=\"100%\" height=\"100%\" fill=\"" ++
        Colour.text config.background ++ "\"/>",
      label (config.width / 2) (margin / 2) config.title,
      label (config.width / 2) (config.height - margin / 2) config.xLabel,
      label (margin / 2) (config.height / 2) config.yLabel] ++
    gridLines config ++
    ["<polyline fill=\"none\" stroke=\"" ++ Colour.text config.lineColour ++
        s!"\" stroke-width=\"{config.lineWidth}\" points=\"" ++
        " ".intercalate (corners config points) ++ "\"/>",
      "</svg>\n"]

/-- The drawing of a series without faults. -/
def draw (config : PlotConfig) (points : List (α × α)) :
    Except PlotFault String :=
  match fault? config points with
  | some fault => throw fault
  | none => pure (drawing config points)

/-- The note about a plot that has been written. -/
def writtenNote (path : String) : Note :=
  ⟨.plot, .info, "Plot written to " ++ path⟩

end Plot

end SurfaceKinetics
