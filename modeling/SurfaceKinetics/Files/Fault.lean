/-!
# File faults

Why a file or a directory cannot be read, written or made.
-/

namespace SurfaceKinetics

inductive FileFault where
  | missing
  | taken
  | notDirectory
  | directory
  | notText
  | other (message : String)
  deriving DecidableEq

def FileFault.message : FileFault → String
  | missing => "No such file or directory (os error 2)"
  | taken => "File exists (os error 17)"
  | notDirectory => "Not a directory (os error 20)"
  | directory => "Is a directory (os error 21)"
  | notText => "stream did not contain valid UTF-8"
  | other message => message

end SurfaceKinetics
