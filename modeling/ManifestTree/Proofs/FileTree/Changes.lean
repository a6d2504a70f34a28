import ManifestTree.Proofs.FileTree.Confinement
import ManifestTree.Proofs.FileTree.Walking

/-!
# What actions change

A tree is seen through what stands at each place, its view. Clearing a place, making directories down to one and writing a file
each change the view in one way (`View.without`, `View.withDirectories`, `View.withFile`), and a successful action on a path
without `..` makes exactly that change (`removeDirectory_ok`, `makeDirectories_ok`, `writeFile_ok`). What an action can do at all is
said once for each of them (`removeDirectory_cases`, `makeOnTheWay_cons`, `writeFile_cases`): one that fails leaves the tree as it was,
except that making directories may have made the first of them. On a path that goes up again, directories are made wherever the path
passes a missing one, not only above its end (`makeDirectories_along`).
-/

namespace ManifestTree

/-- What stands at each place. -/
abbrev View := Place → Option Entry

namespace View

/-- Nothing at a place and below it. -/
def without (v : View) (p : Place) : View := fun q => if p <+: q then none else v q

/-- Directories at a place and above it. -/
def withDirectories (v : View) (p : Place) : View := fun q => if q <+: p then some .directory else v q

/-- A file at a place. -/
def withFile (v : View) (p : Place) (text : String) : View := fun q => if q = p then some (.file text) else v q

end View

namespace Footprint

/-- The footprint of making directories along some components. -/
def along (p : Place) (cs : List Component) : Footprint := ⟨fun _ => False, Passes p cs⟩

theorem along_cons_within (p : Place) (c : Component) (cs : List Component) :
    (along (lead p [c]) cs).Within (along p (c :: cs)) where
  inside _ hq := hq.elim
  above _ hq := Or.inl hq.cons

theorem along_within_wayTo {path : Path} (hdown : path.Descends) (cwd : Place) :
    (along cwd path.components).Within (wayTo (path.place cwd)) where
  inside _ hq := hq.elim
  above _ hq := Or.inl (hdown.prefix_place hq)

end Footprint

namespace FileTree

variable {t t' : FileTree} {p q cwd : Place} {cs : List Component} {path : Path} {n : Name}

/-- A guarded action is carried out, or refused for what its path is written like. -/
theorem guardPath_bind {α : Type} (path : Path) (a : Action FileError α) (t : FileTree) :
    (guardPath path >>= fun _ => a) t = a t ∨
      ∃ e, e ≠ FileError.notFound ∧ (guardPath path >>= fun _ => a) t = .error e t := by
  unfold guardPath
  split
  · exact Or.inr ⟨.nulByte, by decide, rfl⟩
  · split
    · exact Or.inr ⟨.nameTooLong, by decide, rfl⟩
    · exact Or.inl rfl

/-! ## Removing a directory -/

/-- Removing the directory that some components lead to, however its path is written. -/
def removeAt (cwd : Place) (cs : List Component) : Action FileError Unit := fun t =>
  match t.locate cwd cs with
  | .error e => .error e t
  | .ok q =>
    match t.lookup q with
    | none => .error .notFound t
    | some (.file _) => .error .notDirectory t
    | some .directory => .ok () (t.prune q)

theorem removeDirectory_eq (cwd : Place) (path : Path) :
    removeDirectory cwd path = (guardPath path >>= fun _ => removeAt cwd path.components) := rfl

/-- What removing a directory can do: take away the directory that the path leads to, or fail and change nothing. It is the path or its
end that is missing when nothing is found. -/
theorem removeDirectory_cases (cwd : Place) (path : Path) (t : FileTree) :
    (∃ q, t.locate cwd path.components = .ok q ∧ t.lookup q = some .directory ∧
        removeDirectory cwd path t = .ok () (t.prune q)) ∨
      ∃ e, removeDirectory cwd path t = .error e t ∧ (e = .notFound → t.locate cwd path.components = .error .notFound ∨
        ∃ q, t.locate cwd path.components = .ok q ∧ t.lookup q = none) := by
  rw [removeDirectory_eq]
  rcases guardPath_bind path (removeAt cwd path.components) t with hrun | ⟨e, he, hrun⟩
  · rw [hrun]
    cases hlocate : t.locate cwd path.components with
    | error e =>
      refine Or.inr ⟨e, by simp only [removeAt, hlocate], ?_⟩
      intro he
      exact Or.inl (by rw [he])
    | ok q =>
      cases hlookup : t.lookup q with
      | none => exact Or.inr ⟨.notFound, by simp only [removeAt, hlocate, hlookup], fun _ => Or.inr ⟨q, rfl, hlookup⟩⟩
      | some entry =>
        cases entry with
        | file s => exact Or.inr ⟨.notDirectory, by simp only [removeAt, hlocate, hlookup], fun h => by cases h⟩
        | directory => exact Or.inl ⟨q, rfl, hlookup, by simp only [removeAt, hlocate, hlookup]⟩
  · exact Or.inr ⟨e, hrun, fun h => absurd h he⟩

/-- A directory that was removed: nothing stands at its place and below any more. -/
theorem removeDirectory_ok (hpath : path.components = cs ++ [.name n]) (h : removeDirectory cwd path t = .ok () t') :
    t'.lookup = View.without t.lookup (path.place cwd) := by
  rcases removeDirectory_cases cwd path t with ⟨q, hlocate, -, hrun⟩ | ⟨e, hrun, -⟩
  · rw [hrun] at h
    obtain rfl := (EStateM.Result.ok.inj h).2
    rw [hpath] at hlocate
    have hname := (locate_name hlocate).1
    have hq : q = path.place cwd := by
      rw [hname, Path.place, hpath, lead_append]
      rfl
    rw [← hq]
    funext r
    by_cases hr : r = []
    · -- the root stays, and it is not below a place with a name
      subst hr
      have hne : q ≠ [] := by simp [hname]
      simp [View.without, lookup_root, hne]
    · exact lookup_prune t q r hr
  · simp [hrun] at h

/-- A directory that could not be removed: nothing has changed. -/
theorem removeDirectory_unchanged {e : FileError} (h : removeDirectory cwd path t = .error e t') : t' = t := by
  rcases removeDirectory_cases cwd path t with ⟨q, -, -, hrun⟩ | ⟨e', hrun, -⟩
  · simp [hrun] at h
  · rw [hrun] at h
    exact (EStateM.Result.error.inj h).2.symm

/-- A directory that was not found: nothing stands at its place. -/
theorem lookup_of_removeDirectory_notFound (hne : path.components ≠ []) (hdown : path.Descends)
    (h : removeDirectory cwd path t = .error .notFound t') : t.lookup (path.place cwd) = none := by
  rcases removeDirectory_cases cwd path t with ⟨q, -, -, hrun⟩ | ⟨e, hrun, hmissing⟩
  · simp [hrun] at h
  · rw [hrun] at h
    rcases hmissing (EStateM.Result.error.inj h).1 with hlocate | ⟨q, hlocate, hlookup⟩
    · exact lookup_place_of_notFound hne hdown hlocate
    · rw [locate_of_ne_nil hne] at hlocate
      rw [Path.place, ← walk_eq_lead hlocate]
      exact hlookup

/-- Removing a directory changes nothing outside it. -/
theorem removeDirectory_keeps (hpath : path.components = cs ++ [.name n]) (cwd : Place) :
    Action.Keeps (.below (path.place cwd)) (removeDirectory cwd path) := by
  intro t
  cases h : removeDirectory cwd path t with
  | ok u t' =>
    rw [Action.after_of_ok h]
    intro q
    by_cases hq : path.place cwd <+: q
    · exact Or.inl hq
    · rw [removeDirectory_ok hpath h, View.without, if_neg hq]
      exact Or.inr (Or.inl rfl)
  | error e t' =>
    rw [Action.after_of_error h, removeDirectory_unchanged h]
    exact Confined.refl _ t

/-! ## Making directories -/

/-- Once a directory stands at the place, directories stand everywhere above it, and nowhere else anything has changed. -/
theorem lookup_of_wayTo (h : Confined (.wayTo p) t t') (hp : t'.lookup p = some .directory) :
    t'.lookup = View.withDirectories t.lookup p := by
  funext q
  rw [View.withDirectories]
  by_cases hq : q <+: p
  · rw [if_pos hq]
    by_cases hne : q = p
    · rw [hne, hp]
    · exact lookup_of_prefix_some (by simp [hp]) hq hne
  · rw [if_neg hq]
    exact h.lookup_eq id hq

/-- A missing directory in one that stands can be made. -/
theorem lookup_insert_directory (hp : t.lookup p = some .directory) (hn : t.lookup (p ++ [n]) = none) (q : Place) :
    (t.insert (p ++ [n]) .directory).lookup q = if q = p ++ [n] then some .directory else t.lookup q :=
  lookup_insert t .directory ⟨by simp, by simp [hp], by simp [hn]⟩ q

/-- A name that is too long is no way on. -/
theorem makeOnTheWay_tooLong (made : Bool) (p : Place) (cs : List Component) (t : FileTree) (hn : longestName < n.length) :
    makeOnTheWay made p (.name n :: cs) t = .error .nameTooLong t := if_pos hn

/-- A directory that stands is gone on from. -/
theorem makeOnTheWay_directory (made : Bool) (cs : List Component) (hn : ¬ longestName < n.length)
    (h : t.lookup (p ++ [n]) = some .directory) :
    makeOnTheWay made p (.name n :: cs) t = makeOnTheWay made (p ++ [n]) cs t := by
  simp only [makeOnTheWay, if_neg hn, h]

/-- A missing directory is made and gone on from. -/
theorem makeOnTheWay_missing (made : Bool) (cs : List Component) (hn : ¬ longestName < n.length)
    (h : t.lookup (p ++ [n]) = none) :
    makeOnTheWay made p (.name n :: cs) t = makeOnTheWay true (p ++ [n]) cs (t.insert (p ++ [n]) .directory) := by
  simp only [makeOnTheWay, if_neg hn, h]

/-- A file on the way is an obstacle. -/
theorem makeOnTheWay_file (made : Bool) (cs : List Component) {text : String} (hn : ¬ longestName < n.length)
    (h : t.lookup (p ++ [n]) = some (.file text)) : makeOnTheWay made p (.name n :: cs) t =
      .error (if made ∨ cs = [] then .alreadyExists else .notDirectory) t := by
  simp only [makeOnTheWay, if_neg hn, h]

/-- One step of making directories: a refusal, or a directory to go on from, which is made if it is missing. -/
theorem makeOnTheWay_cons (made : Bool) (c : Component) (cs : List Component) (hp : c = .root ∨ t.lookup p = some .directory) :
    (∃ e, makeOnTheWay made p (c :: cs) t = .error e t) ∨
      ∃ made' s, makeOnTheWay made p (c :: cs) t = makeOnTheWay made' (lead p [c]) cs s ∧
        Confined (.along p (c :: cs)) t s ∧ s.lookup (lead p [c]) = some .directory := by
  have hstart : c ≠ .root → t.lookup p = some .directory := fun hc => hp.resolve_left hc
  cases c with
  | root => exact Or.inr ⟨made, t, rfl, Confined.refl _ t, lookup_root t⟩
  | here => exact Or.inr ⟨made, t, rfl, Confined.refl _ t, hstart (by simp)⟩
  | up =>
    have hdirectory := hstart (by simp)
    refine Or.inr ⟨made, t, rfl, Confined.refl _ t, ?_⟩
    change t.lookup p.dropLast = some .directory
    by_cases hne : p.dropLast = p
    · rw [hne]
      exact hdirectory
    · exact lookup_of_prefix_some (by simp [hdirectory]) (List.dropLast_prefix p) hne
  | name n =>
    have hdirectory := hstart (by simp)
    by_cases hlong : longestName < n.length
    · exact Or.inl ⟨_, makeOnTheWay_tooLong made p cs t hlong⟩
    cases hn : t.lookup (p ++ [n]) with
    | none =>
      have hlookup := lookup_insert_directory hdirectory hn
      refine Or.inr ⟨true, _, makeOnTheWay_missing made cs hlong hn, ?_, (hlookup _).trans (if_pos rfl)⟩
      intro q
      by_cases hq : q = p ++ [n]
      · exact Or.inr (Or.inr ⟨hq ▸ passes_first p (.name n) cs, hq ▸ hn, by rw [hlookup, if_pos hq]⟩)
      · exact Or.inr (Or.inl (by rw [hlookup, if_neg hq]))
    | some entry =>
      cases entry with
      | file s => exact Or.inl ⟨_, makeOnTheWay_file made cs hlong hn⟩
      | directory => exact Or.inr ⟨made, t, makeOnTheWay_directory made cs hlong hn, Confined.refl _ t, hn⟩

/-- Whatever way is taken, only missing directories that it passes are made. -/
theorem makeOnTheWay_keeps (made : Bool) (hp : cs.head? = some .root ∨ t.lookup p = some .directory) :
    Confined (.along p cs) t (Action.after (makeOnTheWay made p cs) t) := by
  induction cs generalizing p made t with
  | nil => exact Confined.refl _ t
  | cons c cs ih =>
    have hc : c = .root ∨ t.lookup p = some .directory := hp.imp_left fun h => Option.some.inj h
    rcases makeOnTheWay_cons made c cs hc with ⟨e, hrun⟩ | ⟨made', s, hrun, hstep, hdirectory⟩
    · rw [Action.after_of_error hrun]
      exact Confined.refl _ t
    · rw [Action.after_congr hrun]
      exact hstep.trans ((ih made' (Or.inr hdirectory)).mono (Footprint.along_cons_within p c cs))

/-- Once all directories on a way were made, a directory stands at its end. -/
theorem makeOnTheWay_ok (made : Bool) (hp : cs.head? = some .root ∨ t.lookup p = some .directory)
    (h : makeOnTheWay made p cs t = .ok () t') : t'.lookup (lead p cs) = some .directory := by
  induction cs generalizing p made t with
  | nil =>
    obtain rfl : t = t' := by simpa [makeOnTheWay, pure, EStateM.pure] using h
    exact hp.resolve_left (by simp)
  | cons c cs ih =>
    have hc : c = .root ∨ t.lookup p = some .directory := hp.imp_left fun h => Option.some.inj h
    rw [lead_cons]
    rcases makeOnTheWay_cons made c cs hc with ⟨e, hrun⟩ | ⟨made', s, hrun, -, hdirectory⟩
    · simp [hrun] at h
    · exact ih made' (Or.inr hdirectory) (hrun ▸ h)

theorem makeDirectoriesFor_root (cwd : Place) (cs : List Component) (t : FileTree) :
    makeDirectoriesFor cwd (.root :: cs) t = makeOnTheWay false [] cs t := if_pos (Or.inl rfl)

theorem makeDirectoriesFor_of_directory (hcwd : t.lookup cwd = some .directory) (cs : List Component) :
    makeDirectoriesFor cwd cs t = makeOnTheWay false cwd cs t := if_pos (Or.inr (Or.inr hcwd))

/-- Making directories starts at the root or at a directory, or fails right away; with no components nothing is to be done. -/
theorem makeDirectoriesFor_cases (cwd : Place) (cs : List Component) (t : FileTree) :
    makeDirectoriesFor cwd cs t = .error .notFound t ∨ (cs = [] ∧ makeDirectoriesFor cwd cs t = .ok () t) ∨
      ((cs.head? = some .root ∨ t.lookup cwd = some .directory) ∧
        makeDirectoriesFor cwd cs t = makeOnTheWay false cwd cs t) := by
  by_cases hroot : cs.head? = some .root
  · exact Or.inr (Or.inr ⟨Or.inl hroot, if_pos (Or.inl hroot)⟩)
  by_cases hcwd : t.lookup cwd = some .directory
  · exact Or.inr (Or.inr ⟨Or.inr hcwd, makeDirectoriesFor_of_directory hcwd cs⟩)
  by_cases hne : cs = []
  · subst hne
    exact Or.inr (Or.inl ⟨rfl, rfl⟩)
  · exact Or.inl (if_neg (by simp [hroot, hne, hcwd]))

/-- Making directories, successful or not, makes missing directories that the path passes and changes nothing else. -/
theorem makeDirectories_along (cwd : Place) (path : Path) :
    Action.Keeps (.along cwd path.components) (makeDirectories cwd path) := by
  intro t
  unfold makeDirectories
  rcases guardPath_bind path (makeDirectoriesFor cwd path.components) t with hrun | ⟨e, -, hrun⟩
  · rw [Action.after_congr hrun]
    rcases makeDirectoriesFor_cases cwd path.components t with herror | ⟨-, hnil⟩ | ⟨hstart, hmake⟩
    · rw [Action.after_of_error herror]
      exact Confined.refl _ t
    · rw [Action.after_of_ok hnil]
      exact Confined.refl _ t
    · rw [Action.after_congr hmake]
      exact makeOnTheWay_keeps false hstart
  · rw [Action.after_of_error hrun]
    exact Confined.refl _ t

/-- Directories that were made: one stands at the place of the path. -/
theorem lookup_of_makeDirectories (hne : path.components ≠ []) (h : makeDirectories cwd path t = .ok () t') :
    t'.lookup (path.place cwd) = some .directory := by
  unfold makeDirectories at h
  rcases guardPath_bind path (makeDirectoriesFor cwd path.components) t with hrun | ⟨e, -, hrun⟩
  · rw [hrun] at h
    rcases makeDirectoriesFor_cases cwd path.components t with herror | ⟨hnil, -⟩ | ⟨hstart, hmake⟩
    · simp [herror] at h
    · exact absurd hnil hne
    · exact makeOnTheWay_ok false hstart (hmake ▸ h)
  · simp [hrun] at h

/-- On a path without `..`, directories are made only down to its place. -/
theorem makeDirectories_keeps (hdown : path.Descends) (cwd : Place) :
    Action.Keeps (.wayTo (path.place cwd)) (makeDirectories cwd path) :=
  (makeDirectories_along cwd path).mono (Footprint.along_within_wayTo hdown cwd)

/-- Directories that were made: they stand at the place and above it. -/
theorem makeDirectories_ok (hdown : path.Descends) (hne : path.components ≠ [])
    (h : makeDirectories cwd path t = .ok () t') : t'.lookup = View.withDirectories t.lookup (path.place cwd) :=
  lookup_of_wayTo ((makeDirectories_keeps hdown cwd).of_ok h) (lookup_of_makeDirectories hne h)

/-! ## Writing a file -/

/-- Writing the file that some components lead to, however its path is written. -/
def writeAt (cwd : Place) (cs : List Component) (text : String) : Action FileError Unit := fun t =>
  match t.locate cwd cs with
  | .error e => .error e t
  | .ok q =>
    match t.lookup q with
    | some .directory => .error .isDirectory t
    | _ => .ok () (t.insert q (.file text))

theorem writeFile_eq (cwd : Place) (path : Path) (text : String) :
    writeFile cwd path text = (guardPath path >>= fun _ => writeAt cwd path.components text) := rfl

/-- What writing a file can do: put it at the place that the path leads to, where no directory stands, or fail and change nothing. -/
theorem writeFile_cases (cwd : Place) (path : Path) (text : String) (t : FileTree) :
    (t.locate cwd path.components = .ok (path.place cwd) ∧ t.lookup (path.place cwd) ≠ some .directory ∧
        writeFile cwd path text t = .ok () (t.insert (path.place cwd) (.file text))) ∨
      ∃ e, writeFile cwd path text t = .error e t := by
  rw [writeFile_eq]
  rcases guardPath_bind path (writeAt cwd path.components text) t with hrun | ⟨e, -, hrun⟩
  · rw [hrun]
    cases hlocate : t.locate cwd path.components with
    | error e => exact Or.inr ⟨e, by simp only [writeAt, hlocate]⟩
    | ok q =>
      have hne : path.components ≠ [] := by
        intro hnil
        rw [hnil] at hlocate
        cases hlocate
      have hplace : q = path.place cwd := by
        rw [locate_of_ne_nil hne] at hlocate
        exact walk_eq_lead hlocate
      rw [← hplace]
      cases hlookup : t.lookup q with
      | none => exact Or.inl ⟨rfl, by simp, by simp only [writeAt, hlocate, hlookup]⟩
      | some entry =>
        cases entry with
        | directory => exact Or.inr ⟨.isDirectory, by simp only [writeAt, hlocate, hlookup]⟩
        | file s => exact Or.inl ⟨rfl, by simp, by simp only [writeAt, hlocate, hlookup]⟩
  · exact Or.inr ⟨e, hrun⟩

/-- A file that was written: its path led to its place, and no directory stood there. -/
theorem writeFile_eq_ok {text : String} (h : writeFile cwd path text t = .ok () t') :
    t.locate cwd path.components = .ok (path.place cwd) ∧ t.lookup (path.place cwd) ≠ some .directory ∧
      t' = t.insert (path.place cwd) (.file text) := by
  rcases writeFile_cases cwd path text t with ⟨hlocate, hfree, hrun⟩ | ⟨e, hrun⟩
  · rw [hrun] at h
    exact ⟨hlocate, hfree, (EStateM.Result.ok.inj h).2.symm⟩
  · simp [hrun] at h

/-- A file that was written stands at its place. -/
theorem writeFile_ok {text : String} (hpath : path.components = cs ++ [.name n])
    (h : writeFile cwd path text t = .ok () t') : t'.lookup = View.withFile t.lookup (path.place cwd) text := by
  obtain ⟨hlocate, hdirectory, rfl⟩ := writeFile_eq_ok h
  rw [hpath] at hlocate
  obtain ⟨hq, hparent⟩ := locate_name hlocate
  funext r
  exact lookup_insert t (.file text) ⟨by simp [hq], by simp [hq, hparent], hdirectory⟩ r

/-- A file that could not be written: nothing has changed. -/
theorem writeFile_error {text : String} {e : FileError} (h : writeFile cwd path text t = .error e t') : t' = t := by
  rcases writeFile_cases cwd path text t with ⟨-, -, hrun⟩ | ⟨e', hrun⟩
  · simp [hrun] at h
  · rw [hrun] at h
    exact (EStateM.Result.error.inj h).2.symm

/-- Writing a file changes nothing but the file. -/
theorem writeFile_keeps (hpath : path.components = cs ++ [.name n]) (cwd : Place) (text : String) :
    Action.Keeps (.only (path.place cwd)) (writeFile cwd path text) := by
  intro t
  cases h : writeFile cwd path text t with
  | ok u t' =>
    rw [Action.after_of_ok h]
    intro q
    by_cases hq : q = path.place cwd
    · exact Or.inl hq
    · rw [writeFile_ok hpath h, View.withFile, if_neg hq]
      exact Or.inr (Or.inl rfl)
  | error e t' =>
    rw [Action.after_of_error h, writeFile_error h]
    exact Confined.refl _ t

end FileTree

end ManifestTree
