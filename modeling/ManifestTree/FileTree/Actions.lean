import ManifestTree.FileTree

/-!
# Acting on a file tree

Paths are resolved against a tree one component at a time (`walk`): every place passed on the way has to be an existing directory,
and `..` leads to the place above. An action either succeeds or fails with a cause, and in both cases leaves a tree behind: what it
did before it failed stays done.
-/

namespace ManifestTree

/-- Why the file tree refuses an action. -/
inductive FileError where
  | notFound
  | alreadyExists
  | notDirectory
  | isDirectory
  | nameTooLong
  | invalidArgument
  | nulByte
  deriving DecidableEq

/-- The operating system's text for a refusal. -/
def FileError.message : FileError → String
  | .notFound => "No such file or directory (os error 2)"
  | .alreadyExists => "File exists (os error 17)"
  | .notDirectory => "Not a directory (os error 20)"
  | .isDirectory => "Is a directory (os error 21)"
  | .nameTooLong => "File name too long (os error 36)"
  | .invalidArgument => "Invalid argument (os error 22)"
  | .nulByte => "file name contained an unexpected NUL byte"

/-- An action on a file tree that may fail with an `ε`; the tree it leaves behind is part of either result. -/
abbrev Action (ε α : Type) := EStateM ε FileTree α

namespace FileTree

/-- The greatest length of a name, in bytes. -/
def longestName : Nat := 255

/-- The greatest length of a path, in bytes. -/
def longestPath : Nat := 4095

/-- The place that some components lead to, starting from a place. Every place passed on the way is an existing directory; the last
one may be missing. -/
def walk (t : FileTree) : Place → List Component → Except FileError Place
  | p, [] => .ok p
  | _, .root :: rest => walk t [] rest
  | p, c :: rest =>
    match t.lookup p with
    | none => .error .notFound
    | some (.file _) => .error .notDirectory
    | some .directory =>
      match c with
      | .root | .here => walk t p rest
      | .up => walk t p.dropLast rest
      | .name n => if longestName < n.length then .error .nameTooLong else walk t (p ++ [n]) rest

/-- The place that components lead to from the working directory. Where there is nothing to follow there is no place. -/
def locate (t : FileTree) (cwd : Place) : List Component → Except FileError Place
  | [] => .error .notFound
  | cs => t.walk cwd cs

/-- Refuses a path with a NUL byte in it, and one that is too long. -/
def guardPath (p : Path) : Action FileError Unit :=
  if p.bytes.contains 0 then throw .nulByte
  else if longestPath < p.bytes.length then throw .nameTooLong
  else pure ()

/-- Follows components from a directory and makes every directory that is missing on the way. A file on the way is an obstacle: as
long as nothing was missing it is no directory to go on from, and at the end, or behind a directory that was `made`, it stands where
a directory is to be made. -/
def makeOnTheWay (made : Bool) : Place → List Component → Action FileError Unit
  | _, [] => pure ()
  | _, .root :: rest => makeOnTheWay made [] rest
  | p, .here :: rest => makeOnTheWay made p rest
  | p, .up :: rest => makeOnTheWay made p.dropLast rest
  | p, .name n :: rest => fun t =>
    if longestName < n.length then .error .nameTooLong t
    else match t.lookup (p ++ [n]) with
      | some .directory => makeOnTheWay made (p ++ [n]) rest t
      | none => makeOnTheWay true (p ++ [n]) rest (t.insert (p ++ [n]) .directory)
      | some (.file _) => .error (if made ∨ rest = [] then .alreadyExists else .notDirectory) t

/-- Makes the directory that components lead to, and the missing directories above it. -/
def makeDirectoriesFor (cwd : Place) (cs : List Component) : Action FileError Unit := fun t =>
  if cs.head? = some .root ∨ cs = [] ∨ t.lookup cwd = some .directory then makeOnTheWay false cwd cs t
  else .error .notFound t

/-- Makes a directory and the missing directories above it. -/
def makeDirectories (cwd : Place) (p : Path) : Action FileError Unit := do
  guardPath p
  makeDirectoriesFor cwd p.components

/-- Writes a file: a new one in a directory that exists, or over the contents of an existing file. -/
def writeFile (cwd : Place) (p : Path) (text : String) : Action FileError Unit := do
  guardPath p
  fun t =>
    match t.locate cwd p.components with
    | .error e => .error e t
    | .ok q =>
      match t.lookup q with
      | some .directory => .error .isDirectory t
      | _ => .ok () (t.insert q (.file text))

/-- Removes a directory with everything below it. -/
def removeDirectory (cwd : Place) (p : Path) : Action FileError Unit := do
  guardPath p
  fun t =>
    match t.locate cwd p.components with
    | .error e => .error e t
    | .ok q =>
      match t.lookup q with
      | none => .error .notFound t
      | some (.file _) => .error .notDirectory t
      | some .directory => .ok () (t.prune q)

end FileTree

end ManifestTree
