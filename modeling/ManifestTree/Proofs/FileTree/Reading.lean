import ManifestTree.Proofs.FileTree.Changes

/-!
# Reading files

A file is read at the place that its path leads to, `..` included (`readFile`). Where a path leads changes no more as long as
directories stay: what is put into a tree later can change the text of a file, not the way to it (`Leads.of_directories`).
-/

namespace ManifestTree

namespace FileTree

variable {t t' : FileTree} {cwd q : Place} {path : Path} {text : String}

/-- Reading the file that some components lead to, however its path is written. -/
def readAt (cwd : Place) (cs : List Component) : Action FileError String := fun t =>
  match t.locate cwd cs with
  | .error e => .error e t
  | .ok q =>
    match t.lookup q with
    | none => .error .notFound t
    | some .directory => .error .isDirectory t
    | some (.file text) => .ok text t

/-- Reads the text of a file. -/
def readFile (cwd : Place) (path : Path) : Action FileError String := do
  guardPath path
  readAt cwd path.components

/-- The operating system takes the path, and it can be followed in the tree to a place. -/
structure Leads (t : FileTree) (cwd : Place) (path : Path) (q : Place) : Prop where
  guard : guardPath path = pure ()
  locate : t.locate cwd path.components = .ok q

/-- What was carried out on a guarded path: the operating system takes it. -/
theorem guardPath_of_ok {α : Type} {a : Action FileError α} {x : α} (h : (guardPath path >>= fun _ => a) t = .ok x t') :
    guardPath path = pure () := by
  unfold guardPath at h ⊢
  split at h
  · cases h
  · rename_i hnul
    split at h
    · cases h
    · rename_i hlong
      rw [if_neg hnul, if_neg hlong]

/-- The path of a file that was written leads to it. -/
theorem leads_of_writeFile (h : writeFile cwd path text t = .ok () t') : Leads t cwd path (path.place cwd) where
  guard := by
    rw [writeFile_eq] at h
    exact guardPath_of_ok h
  locate := (writeFile_eq_ok h).1

/-- A path leads where it led in a tree that has kept its directories. -/
theorem Leads.of_directories (h : Leads t cwd path q)
    (hkeep : ∀ r, t.lookup r = some .directory → t'.lookup r = some .directory) : Leads t' cwd path q where
  guard := h.guard
  locate := by
    have hlocate := h.locate
    have hne : path.components ≠ [] := by
      intro hnil
      rw [hnil] at hlocate
      cases hlocate
    rw [locate_of_ne_nil hne] at hlocate ⊢
    exact walk_of_directories hkeep hlocate

/-- A file that stands where a path leads is read. -/
theorem Leads.readFile_eq (h : Leads t cwd path q) (hq : t.lookup q = some (.file text)) :
    readFile cwd path t = .ok text t := by
  unfold readFile
  rw [h.guard, pure_bind, readAt]
  simp only [h.locate, hq]

end FileTree

end ManifestTree
