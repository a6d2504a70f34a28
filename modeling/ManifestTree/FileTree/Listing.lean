import ManifestTree.FileTree

/-!
# Trees and paths as they are shown

For programs that drive the library from outside and show what it has done to a tree. Nothing that renders manifests is defined by
these forms.
-/

namespace ManifestTree

/-- The path as text, if it is text. -/
def Path.toText? (p : Path) : Option String := Utf8.decode? p.bytes

namespace FileTree

/-- A place written as a path from where it was listed; a directory ends in a separator. -/
def writtenAs : Place × Entry → Path
  | (p, .directory) => ⟨Path.unsplit (p ++ [[]])⟩
  | (p, .file _) => ⟨Path.unsplit p⟩

/-- Everything strictly below a place, in the byte order of how it is written. -/
def listing (t : FileTree) (q : Place) : List (Path × Entry) :=
  ((t.below q).map fun e => (writtenAs e, e.2)).mergeSort fun a b => decide (a.1.bytes ≤ b.1.bytes)

end FileTree

end ManifestTree
