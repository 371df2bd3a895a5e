import SurfaceKinetics.Files.Host

/-!
# File trees

A file tree holds directories and texts under places.  A place is the list of
names on the way from the top, which is a directory itself; a path spells a place
with slashes between names, `.` for staying and `..` for going back.  On its way
a path may only pass through directories.
-/

namespace SurfaceKinetics

/-- The names on the way from the top of a tree. -/
abbrev Place := List String

/-- What is found at a place. -/
inductive FileEntry where
  | directory
  | text (content : String)
  deriving DecidableEq

/-- Directories below the top, and texts. -/
structure FileTree where
  directories : List Place := []
  files : List (Place × String) := []
  deriving DecidableEq

namespace FileTree

/-! ## Looking -/

/-- What a tree holds at a place. -/
def entry? (tree : FileTree) (place : Place) : Option FileEntry :=
  match tree.files.find? fun file => file.1 = place with
  | some file => some (.text file.2)
  | none =>
    if place.isEmpty || place ∈ tree.directories then some .directory else none

/-- The place that the rest of a path spells, seen from a place. -/
def walk (tree : FileTree) : Place → List String → Except FileFault Place
  | here, [] => pure here
  | here, name :: rest =>
    match tree.entry? here with
    | none => throw .missing
    | some (.text _) => throw .notDirectory
    | some .directory =>
      if name = "" ∨ name = "." then tree.walk here rest
      else if name = ".." then tree.walk here.dropLast rest
      else tree.walk (here ++ [name]) rest

/-- The names that a path is made of. -/
def namesOf (path : String) : List String :=
  (path.toList.splitOn '/').map String.ofList

/-- The place that a path spells; nothing need be there. -/
def placeOf (tree : FileTree) (path : String) : Except FileFault Place :=
  tree.walk [] (namesOf path)

/-- The text under a path. -/
def read (tree : FileTree) (path : String) : Except FileFault String := do
  match tree.entry? (← tree.placeOf path) with
  | some (.text content) => pure content
  | some .directory => throw .directory
  | none => throw .missing

/-! ## Changing -/

/-- Puts a text at a place, in the place of an earlier one. -/
def put (tree : FileTree) (place : Place) (content : String) : FileTree :=
  { tree with
    files :=
      (tree.files.filter fun file => file.1 ≠ place) ++ [(place, content)] }

/-- Gives the file under a path a text. -/
def write (tree : FileTree) (path content : String) :
    Except FileFault FileTree := do
  let place ← tree.placeOf path
  match tree.entry? place with
  | some .directory => throw .directory
  | _ => pure (tree.put place content)

/-- Makes the missing directories on the way that names spell, from a place on. -/
def makeFrom (tree : FileTree) : Place → List String → Except FileFault FileTree
  | here, [] =>
    match tree.entry? here with
    | none => pure { tree with directories := here :: tree.directories }
    | some .directory => pure tree
    | some (.text _) => throw .taken
  | here, name :: rest =>
    match tree.entry? here with
    | some (.text _) => throw .notDirectory
    | found =>
      let tree :=
        if found.isNone then
          { tree with directories := here :: tree.directories }
        else
          tree
      if name = "" ∨ name = "." then tree.makeFrom here rest
      else if name = ".." then tree.makeFrom here.dropLast rest
      else tree.makeFrom (here ++ [name]) rest

/-- A list of names without empty names at its end. -/
def withoutTrailing (names : List String) : List String :=
  (names.reverse.dropWhile String.isEmpty).reverse

/-- Makes the directory under a path and those above it. -/
def makeDirectories (tree : FileTree) (path : String) :
    Except FileFault FileTree :=
  tree.makeFrom [] (withoutTrailing (namesOf path))

/-! ## Views -/

/-- The path of a place, from the top. -/
def pathOf (place : Place) : String := "/".intercalate place

/-- Replaces the state by the result of a change that succeeds. -/
def changed (change : FileTree → Except FileFault FileTree) :
    StateM FileTree (Except FileFault Unit) := do
  match change (← get) with
  | .ok tree =>
    set tree
    pure (.ok ())
  | .error fault => pure (.error fault)

/-- A tree as a host. -/
def host : FileHost (StateM FileTree) where
  read path := return (← get).read path
  makeDirectories path := changed (·.makeDirectories path)
  write path content := changed (·.write path content)

end FileTree

end SurfaceKinetics
