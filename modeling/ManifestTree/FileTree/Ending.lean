import ManifestTree.FileTree.Actions

/-!
# Paths as they end

A path may end in a separator, in a dot or in two dots. Its components leave the separator and the dot out, yet each of the three
asks for a directory, and the dots for one that stands. The actions here are those of a file tree on paths that are taken as they
are written: no directory is made under the name of a dot, no file is written where a directory is asked for, and of a directory
that is named by dots only the contents go.

They are for programs that drive the library from outside and set a tree up for it. Rendering uses the actions on components alone.
-/

namespace ManifestTree

namespace Path

/-- The last part of a path that is not empty. -/
def lastPart (p : Path) : Name := ((split p.bytes).filter (· ≠ [])).getLast?.getD []

/-- Whether a path ends in a dot or in two dots. -/
def endsInDots (p : Path) : Bool := p.lastPart = dot || p.lastPart = dotDot

/-- Whether a path ends in a separator. -/
def endsInSeparator (p : Path) : Bool := p.bytes.getLast? = some separator

end Path

namespace FileTree

/-- The place of the existing directory that components lead to. -/
def directoryAt (t : FileTree) (cwd : Place) (cs : List Component) : Except FileError Place := do
  let p ← t.locate cwd cs
  match t.lookup p with
  | some .directory => .ok p
  | some (.file _) => .error .notDirectory
  | none => .error .notFound

/-- Goes on only where components lead to an existing directory. -/
def requireDirectory (cwd : Place) (cs : List Component) : Action FileError Unit := fun t =>
  match t.directoryAt cwd cs with
  | .ok _ => .ok () t
  | .error e => .error e t

/-- Makes a directory and the missing directories above it. One that is named by a dot is not made but has to be there. -/
def makeDirectoriesAsWritten (cwd : Place) (p : Path) : Action FileError Unit := do
  guardPath p
  if p.lastPart = Path.dot then
    makeDirectoriesFor cwd p.components.dropLast
    requireDirectory cwd p.components
  else makeDirectoriesFor cwd p.components

/-- Writes a file, unless the path asks for a directory. -/
def writeFileAsWritten (cwd : Place) (p : Path) (text : String) : Action FileError Unit := do
  if p.endsInDots then
    guardPath p
    requireDirectory cwd p.components
    throw .isDirectory
  else if p.endsInSeparator then
    guardPath p
    fun t => .error (match t.locate cwd p.components with | .ok _ => .isDirectory | .error e => e) t
  else writeFile cwd p text

/-- Removes a directory with everything below it. One that is named by dots is only emptied; that is a failure, unless the way to it
led through what it held. -/
def removeDirectoryAsWritten (cwd : Place) (p : Path) : Action FileError Unit := do
  if p.endsInDots then
    guardPath p
    fun t =>
      match t.directoryAt cwd p.components with
      | .error e => .error e t
      | .ok q =>
        let emptied := (t.prune q).insert q .directory
        match emptied.locate cwd p.components with
        | .error .notFound => .ok () emptied
        | .error e => .error e emptied
        | .ok _ => .error .invalidArgument emptied
  else removeDirectory cwd p

end FileTree

end ManifestTree
