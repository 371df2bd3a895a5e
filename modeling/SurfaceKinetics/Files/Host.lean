import SurfaceKinetics.Files.Fault

/-!
# File hosts

What a program asks of the files around it.  A host may be a file tree in memory
or the real file system; a program that is written for every host behaves on
both alike.
-/

namespace SurfaceKinetics

/-- The actions on files in a monad. -/
structure FileHost (m : Type → Type) where
  read : String → m (Except FileFault String)
  /-- Makes a directory and the directories above it, as far as they are missing. -/
  makeDirectories : String → m (Except FileFault Unit)
  /-- Gives a file a text, in the place of what it held. -/
  write : String → String → m (Except FileFault Unit)

end SurfaceKinetics
