import SurfaceKinetics.Text.Pieces

/-!
# Failures

A failure of the program is what it was about to do and the chain of causes that
prevented it.  Several causes are numbered.  A number that does not fit stops the program
with an exit code of its own.
-/

namespace SurfaceKinetics

structure Failure where
  message : String
  causes : List String := []
  exitCode : UInt32 := 1
  deriving DecidableEq

namespace Failure

/-- The failure at a number that does not fit into 32 bits. -/
def outOfRange : Failure :=
  { message := "A number does not fit into 32 bits", exitCode := 101 }

/-- A text with a head before its first line and margins before the others. -/
def indented (head margin text : String) : String :=
  head ++ joined ("\n" ++ margin) ((text.toList.splitOn '\n').map String.ofList)

/-- A cause with its number. -/
def numbered (number : Nat) (cause : String) : String :=
  let digits := toString number
  let blanks := String.ofList (List.replicate (5 - digits.length) ' ')
  indented (blanks ++ digits ++ ": ") "       " cause

/-- The lines about the causes. -/
def causeLines : List String → List String
  | [] => []
  | [cause] => [indented "    " "    " cause]
  | causes => causes.zipIdx.map fun cause => numbered cause.2 cause.1

/-- The text that reports a failure. -/
def text (failure : Failure) : String :=
  let head := "Error: " ++ failure.message
  if failure.causes.isEmpty then
    head
  else
    joined "\n" ([head, "", "Caused by:"] ++ causeLines failure.causes)

end Failure

end SurfaceKinetics
