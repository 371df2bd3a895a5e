import SurfaceKinetics.Files.Tree
import SurfaceKinetics.Note

/-!
# Consoles

A console is what the program acts on: files, a place for printed text and a log.
A session is a console in memory.
-/

namespace SurfaceKinetics

/-- The actions of a program in a monad. -/
structure Console (m : Type → Type) where
  files : FileHost m
  print : String → m Unit
  log : Note → m Unit

/-- A file tree, what has been printed, and the notes in the log. -/
structure Session where
  tree : FileTree := {}
  printed : String := ""
  log : List Note := []

namespace Session

/-- An action on the file tree of a session. -/
def onTree {β : Type} (action : StateM FileTree β) : StateM Session β := do
  let session ← get
  let (value, tree) := action.run session.tree
  set { session with tree }
  pure value

/-- A session as a console. -/
def console : Console (StateM Session) where
  files :=
    { read := fun path => onTree (FileTree.host.read path)
      makeDirectories := fun path => onTree (FileTree.host.makeDirectories path)
      write := fun path content => onTree (FileTree.host.write path content) }
  print text :=
    modify fun session => { session with printed := session.printed ++ text }
  log note :=
    modify fun session => { session with log := session.log ++ [note] }

end Session

end SurfaceKinetics
