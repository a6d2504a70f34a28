import ManifestTree.Proofs.FileTree.Changes
import ManifestTree.Proofs.Path.Parent

/-!
# When actions succeed

A way is passable when no file stands on it (`Passable`). On such a way a path that the operating system takes leads to its end or
misses a directory, but nothing else can stop it (`locate_of_passable`): a directory can be removed there or is not there to begin
with, directories can be made (`makeDirectories_of_passable`), and a file can be written in a directory that stands
(`writeFile_of_parent`). Nothing less would do: where a directory was removed or was not there, no file stands on the way to it
(`passable_of_removeDirectory`), and only paths that the operating system takes are written to (`fits_of_writeFile`). To remove a directory
twice is no harder than once (`removeDirectory_again`).
-/

namespace ManifestTree

/-- How long the name is that a component asks for. -/
def Component.length : Component → Nat
  | .name n => n.length
  | .root | .here | .up => 0

/-- A path that the operating system takes with so many bytes more: it has no NUL byte, and neither the path nor one of its names is
too long. -/
structure Path.Fits (p : Path) (room : Nat) : Prop where
  noNul : (0 : UInt8) ∉ p.bytes
  short : p.bytes.length + room ≤ FileTree.longestPath
  names : ∀ n, .name n ∈ p.components → n.length ≤ FileTree.longestName

instance (p : Path) (room : Nat) : Decidable (p.Fits room) :=
  decidable_of_iff ((0 : UInt8) ∉ p.bytes ∧ p.bytes.length + room ≤ FileTree.longestPath ∧
      ∀ c ∈ p.components, c.length ≤ FileTree.longestName) (by
    constructor
    · rintro ⟨hnul, hshort, hnames⟩
      exact ⟨hnul, hshort, fun n hn => hnames _ hn⟩
    · intro h
      refine ⟨h.noNul, h.short, ?_⟩
      intro c hc
      cases c with
      | name n => exact h.names n hc
      | _ => exact Nat.zero_le _)

namespace Path

variable {p q d : Path} {room : Nat}

theorem Fits.mono {room' : Nat} (h : p.Fits room) (hle : room' ≤ room) : p.Fits room' :=
  ⟨h.noNul, (Nat.add_le_add_left hle _).trans h.short, h.names⟩

/-- Joining adds at most a separator. -/
theorem length_bytes_join (p q : Path) : (p.join q).bytes.length ≤ p.bytes.length + (1 + q.bytes.length) := by
  unfold Path.join
  split
  · omega
  · split
    · simp only [List.length_append]
      omega
    · simp only [List.length_append, List.length_cons]
      omega

/-- Joining adds no NUL byte. -/
theorem noNul_join (hp : (0 : UInt8) ∉ p.bytes) (hq : (0 : UInt8) ∉ q.bytes) : (0 : UInt8) ∉ (p.join q).bytes := by
  unfold Path.join
  split
  · exact hq
  · split
    · simp [hp, hq]
    · simp [hp, hq, separator]

/-- A path with room for some names and a separator before them takes these names. -/
theorem Fits.join {ns : List Name} (h : p.Fits (room + (1 + q.bytes.length))) (hnul : (0 : UInt8) ∉ q.bytes)
    (hcomponents : (p.join q).components = p.components ++ ns.map .name) (hns : ∀ n ∈ ns, n.length ≤ FileTree.longestName) :
    (p.join q).Fits room where
  noNul := noNul_join h.noNul hnul
  short := by
    have hp := h.short
    have hjoin := length_bytes_join p q
    omega
  names n hn := by
    rw [hcomponents] at hn
    rcases List.mem_append.mp hn with hn | hn
    · exact h.names n hn
    · obtain ⟨m, hm, heq⟩ := List.mem_map.mp hn
      rw [← Component.name.inj heq]
      exact hns m hm

/-- The parent of a path that the operating system takes is one too. -/
theorem Fits.parent (h : p.Fits room) (hd : p.parent? = some d) : d.Fits room where
  noNul hnul := h.noNul ((bytes_prefix_of_parent? hd).subset hnul)
  short := (Nat.add_le_add_right (bytes_prefix_of_parent? hd).length_le room).trans h.short
  names n hn := by
    rw [components_of_parent? hd] at hn
    exact h.names n (List.dropLast_subset _ hn)

end Path

namespace FileTree

/-- No file stands at a place or above it. -/
def Passable (t : FileTree) (p : Place) : Prop := ∀ q, q <+: p → ∀ text, t.lookup q ≠ some (.file text)

variable {t t' : FileTree} {p q cwd : Place} {cs : List Component} {path : Path} {n : Name}

/-- On a passable way directories stand, or nothing. -/
theorem Passable.cases (h : t.Passable p) (hq : q <+: p) : t.lookup q = none ∨ t.lookup q = some .directory := by
  cases hlookup : t.lookup q with
  | none => exact Or.inl rfl
  | some e =>
    cases e with
    | directory => exact Or.inr rfl
    | file text => exact absurd hlookup (h q hq text)

/-- Nothing is in the way in an empty tree. -/
theorem passable_empty (p : Place) : empty.Passable p := by
  intro q _ text
  cases q with
  | nil => simp [lookup_root]
  | cons n q => simp [empty, lookup, Node.at?, Children.get?]

/-- What may only have made directories leaves a way passable. -/
theorem Passable.of_lookup (h : t.Passable p)
    (hsame : ∀ q, q <+: p → t'.lookup q = t.lookup q ∨ t'.lookup q = none ∨ t'.lookup q = some .directory) : t'.Passable p := by
  intro q hq text
  rcases hsame q hq with hsame | hsame | hsame
  · rw [hsame]
    exact h q hq text
  · simp [hsame]
  · simp [hsame]

/-- A path without NUL bytes that is not too long is not refused for how it is written. -/
theorem guardPath_of_bounds {α : Type} (hnul : (0 : UInt8) ∉ path.bytes) (hshort : path.bytes.length ≤ longestPath)
    (a : Action FileError α) (t : FileTree) : (guardPath path >>= fun _ => a) t = a t := by
  have hcontains : path.bytes.contains 0 = false := by simpa using hnul
  unfold guardPath
  rw [if_neg (by rw [hcontains]; simp), if_neg (Nat.not_lt.mpr hshort)]
  rfl

theorem guardPath_of_fits {α : Type} (h : path.Fits 0) (a : Action FileError α) (t : FileTree) :
    (guardPath path >>= fun _ => a) t = a t := guardPath_of_bounds h.noNul h.short a t

/-- A passable way down is walked to its end, or misses a directory. -/
theorem walk_of_passable (hcs : GoesDown cs) (hnames : ∀ n, .name n ∈ cs → n.length ≤ longestName)
    (hpass : t.Passable (lead p cs)) : t.walk p cs = .ok (lead p cs) ∨ t.walk p cs = .error .notFound := by
  induction cs generalizing p with
  | nil => exact Or.inl rfl
  | cons c cs ih =>
    have hrest : ∀ n, .name n ∈ cs → n.length ≤ longestName := fun n hn => hnames n (List.mem_cons_of_mem _ hn)
    rw [walk_cons]
    rcases hpass.cases (prefix_lead hcs p) with hp | hp
    · cases c with
      | root => exact absurd List.mem_cons_self hcs.root
      | up => exact absurd List.mem_cons_self hcs.up
      | here => exact Or.inr (by simp [advance, fromDirectory, hp, Except.bind])
      | name n => exact Or.inr (by simp [advance, fromDirectory, hp, Except.bind])
    · have hstep : t.advance p c = .ok (lead p [c]) :=
        advance_of_directory hp fun n hn => hnames n (List.mem_cons.mpr (Or.inl hn.symm))
      rw [lead_cons] at hpass ⊢
      rw [hstep]
      exact ih hcs.tail hrest hpass

/-- A path without `..` whose way is passable leads to its place, or misses a directory. -/
theorem locate_of_passable (hne : path.components ≠ []) (hdown : path.Descends) (hpath : path.Fits 0)
    (hpass : t.Passable (path.place cwd)) :
    t.locate cwd path.components = .ok (path.place cwd) ∨ t.locate cwd path.components = .error .notFound := by
  rw [locate_of_ne_nil hne]
  have hnames := hpath.names
  rw [Path.place] at hpass ⊢
  rcases hdown.cases with ⟨cs, hroot, hcs⟩ | hcs
  · rw [hroot] at hpass hnames ⊢
    rw [walk_cons]
    exact walk_of_passable hcs (fun n hn => hnames n (List.mem_cons_of_mem _ hn)) hpass
  · exact walk_of_passable hcs hnames hpass

/-! ## The three actions -/

/-- On a passable way a directory is removed, or was not there. -/
theorem removeDirectory_of_passable (hne : path.components ≠ []) (hdown : path.Descends) (hpath : path.Fits 0)
    (hpass : t.Passable (path.place cwd)) :
    (∃ t', removeDirectory cwd path t = .ok () t') ∨ removeDirectory cwd path t = .error .notFound t := by
  rw [removeDirectory_eq, guardPath_of_fits hpath]
  unfold removeAt
  rcases locate_of_passable hne hdown hpath hpass with hlocate | hlocate
  · rw [hlocate]
    rcases hpass.cases (List.prefix_refl _) with hlookup | hlookup
    · exact Or.inr (by simp [hlookup])
    · exact Or.inl ⟨t.prune (path.place cwd), by simp [hlookup]⟩
  · exact Or.inr (by simp [hlocate])

/-- On a passable way down from a directory all directories can be made. -/
theorem makeOnTheWay_of_passable (hcs : GoesDown cs) (hnames : ∀ n, .name n ∈ cs → n.length ≤ longestName) (made : Bool)
    (hp : t.lookup p = some .directory) (hpass : t.Passable (lead p cs)) : ∃ t', makeOnTheWay made p cs t = .ok () t' := by
  induction cs generalizing p made t with
  | nil => exact ⟨t, rfl⟩
  | cons c cs ih =>
    have hrest : ∀ n, .name n ∈ cs → n.length ≤ longestName := fun n hn => hnames n (List.mem_cons_of_mem _ hn)
    cases c with
    | root => exact absurd List.mem_cons_self hcs.root
    | up => exact absurd List.mem_cons_self hcs.up
    | here => exact ih hcs.tail hrest made hp hpass
    | name n =>
      have hlong : ¬ longestName < n.length := Nat.not_lt.mpr (hnames n List.mem_cons_self)
      have hpass' : t.Passable (lead (p ++ [n]) cs) := hpass
      rcases hpass'.cases (prefix_lead hcs.tail (p ++ [n])) with hn | hn
      · have hlookup := lookup_insert_directory hp hn
        rw [makeOnTheWay_missing made cs hlong hn]
        refine ih hcs.tail hrest true (by rw [hlookup, if_pos rfl]) (hpass'.of_lookup ?_)
        intro q _
        rw [hlookup]
        split
        · exact Or.inr (Or.inr rfl)
        · exact Or.inl rfl
      · rw [makeOnTheWay_directory made cs hlong hn]
        exact ih hcs.tail hrest made hn hpass'

/-- A path that starts where a directory stands: at the root, or at a working directory that is one. -/
def Starts (t : FileTree) (cwd : Place) (path : Path) : Prop := path.isAbsolute = true ∨ t.lookup cwd = some .directory

/-- A path without `..` starts where it did as long as nothing above its end may be changed. -/
theorem Starts.of_confined {f : Footprint} (h : t.Starts cwd path) (hdown : path.Descends) (hconfined : Confined f t t')
    (hway : ∀ q, q <+: path.place cwd → ¬ f.inside q) : t'.Starts cwd path := by
  rcases h with habsolute | hcwd
  · exact Or.inl habsolute
  · rcases hdown.cases with ⟨cs, hroot, -⟩ | hcs
    · exact Or.inl (Path.root_mem_components_iff.mp (by simp [hroot]))
    · have hin : ¬ f.inside cwd := hway cwd (prefix_lead hcs cwd)
      exact Or.inr ((hconfined.lookup_of_some hin (by simp [hcwd])).trans hcwd)

/-- On a passable way all directories can be made. -/
theorem makeDirectories_of_passable (hdown : path.Descends) (hpath : path.Fits 0) (hstart : t.Starts cwd path)
    (hpass : t.Passable (path.place cwd)) : ∃ t', makeDirectories cwd path t = .ok () t' := by
  have hmake : makeDirectories cwd path t = makeDirectoriesFor cwd path.components t := guardPath_of_fits hpath _ t
  rw [hmake]
  have hnames := hpath.names
  rw [Path.place] at hpass
  rcases hdown.cases with ⟨cs, hroot, hcs⟩ | hcs
  · rw [hroot] at hpass hnames ⊢
    rw [makeDirectoriesFor_root]
    exact makeOnTheWay_of_passable hcs (fun n hn => hnames n (List.mem_cons_of_mem _ hn)) false (lookup_root t) hpass
  · have hcwd : t.lookup cwd = some .directory := by
      rcases hstart with habsolute | hcwd
      · exact absurd (Path.root_mem_components_iff.mpr habsolute) hcs.root
      · exact hcwd
    rw [makeDirectoriesFor_of_directory hcwd]
    exact makeOnTheWay_of_passable hcs hnames false hcwd hpass

/-- Whatever stands above a directory is passable, and so is the directory. -/
theorem passable_of_directory (h : t.lookup p = some .directory) : t.Passable p := by
  intro q hq text
  by_cases hne : q = p
  · rw [hne, h]
    simp
  · rw [lookup_of_prefix_some (by simp [h]) hq hne]
    simp

/-- The way down to a directory that stands is walked to its end. -/
theorem walk_of_directory (hcs : GoesDown cs) (hnames : ∀ n, .name n ∈ cs → n.length ≤ longestName)
    (h : t.lookup (lead p cs) = some .directory) : t.walk p cs = .ok (lead p cs) := by
  rcases walk_of_passable hcs hnames (passable_of_directory h) with hwalk | hwalk
  · exact hwalk
  · rw [lookup_lead_of_walk_notFound hcs hwalk] at h
    cases h

/-- A path that ends in a name, in a directory that stands, leads to its place. -/
theorem locate_of_parent (hcomponents : path.components = cs ++ [.name n]) (hdown : path.Descends) (hpath : path.Fits 0)
    (hparent : t.lookup (lead cwd cs) = some .directory) : t.locate cwd path.components = .ok (path.place cwd) := by
  have hnames : ∀ m, .name m ∈ cs → m.length ≤ longestName := fun m hm => hpath.names m (by simp [hcomponents, hm])
  have hwalk : t.walk cwd cs = .ok (lead cwd cs) := by
    rcases hdown.cases_concat hcomponents with ⟨ds, rfl, hds⟩ | hcs
    · rw [walk_cons]
      exact walk_of_directory (p := []) hds (fun m hm => hnames m (List.mem_cons_of_mem _ hm)) hparent
    · exact walk_of_directory hcs hnames hparent
  have hlast : t.advance (lead cwd cs) (.name n) = .ok (lead cwd cs ++ [n]) := by
    refine advance_of_directory hparent ?_
    intro m hm
    rw [← Component.name.inj hm]
    exact hpath.names n (by simp [hcomponents])
  rw [Path.place, hcomponents, locate_of_ne_nil (by simp), walk_append, hwalk, lead_append]
  change t.walk (lead cwd cs) [.name n] = _
  rw [walk_cons, hlast]
  rfl

/-- A file can be written in a directory that stands, where no directory stands. -/
theorem writeFile_of_parent (hcomponents : path.components = cs ++ [.name n]) (hdown : path.Descends)
    (hpath : path.Fits 0) (hparent : t.lookup (lead cwd cs) = some .directory)
    (hfree : t.lookup (path.place cwd) ≠ some .directory) (text : String) :
    ∃ t', writeFile cwd path text t = .ok () t' := by
  rw [writeFile_eq, guardPath_of_fits hpath]
  unfold writeAt
  rw [locate_of_parent hcomponents hdown hpath hparent]
  cases hlookup : t.lookup (path.place cwd) with
  | none => exact ⟨_, by simp [hlookup]; rfl⟩
  | some e =>
    cases e with
    | directory => exact absurd hlookup hfree
    | file s => exact ⟨_, by simp [hlookup]; rfl⟩

/-! ## What the way was like -/

/-- Only a path that the operating system takes comes through the guard, or misses something. -/
theorem bounds_of_guardPath {α : Type} {a : Action FileError α}
    (h : ∀ e, e ≠ .notFound → (guardPath path >>= fun _ => a) t ≠ .error e t) :
    (0 : UInt8) ∉ path.bytes ∧ path.bytes.length ≤ longestPath := by
  by_cases hnul : path.bytes.contains 0 = true
  · have hguard : guardPath path = throw .nulByte := if_pos hnul
    rw [hguard] at h
    exact absurd rfl (h .nulByte (by decide))
  by_cases hlong : longestPath < path.bytes.length
  · have hguard : guardPath path = throw .nameTooLong := by rw [guardPath, if_neg hnul, if_pos hlong]
    rw [hguard] at h
    exact absurd rfl (h .nameTooLong (by decide))
  · exact ⟨by simpa using hnul, Nat.le_of_not_lt hlong⟩

/-- A walk that succeeds meets no name that is too long. -/
theorem names_of_walk (h : t.walk p cs = .ok q) : ∀ n, .name n ∈ cs → n.length ≤ longestName := by
  induction cs generalizing p with
  | nil => simp
  | cons c cs ih =>
    rw [walk_cons] at h
    cases hc : t.advance p c with
    | error e => simp [hc, Except.bind] at h
    | ok d =>
      rw [hc] at h
      intro n hn
      rcases List.mem_cons.mp hn with rfl | hn
      · by_contra hlong
        have hp := (advance_eq_ok hc).2 (by simp)
        simp [advance, fromDirectory, hp, Nat.lt_of_not_le hlong] at hc
      · exact ih h n hn

/-- Only a file whose path the operating system takes is written. -/
theorem fits_of_writeFile {text : String} (h : writeFile cwd path text t = .ok () t') : path.Fits 0 := by
  have hlocate := (writeFile_eq_ok h).1
  have hne : path.components ≠ [] := by
    intro hnil
    rw [hnil] at hlocate
    cases hlocate
  rw [locate_of_ne_nil hne] at hlocate
  rw [writeFile_eq] at h
  obtain ⟨hnul, hshort⟩ := bounds_of_guardPath fun e _ => by rw [h]; simp
  exact ⟨hnul, hshort, names_of_walk hlocate⟩

/-- Directories are made only on a path that starts where a directory stands. -/
theorem starts_of_makeDirectories (hne : path.components ≠ []) (h : makeDirectories cwd path t = .ok () t') :
    t.Starts cwd path := by
  unfold makeDirectories at h
  rcases guardPath_bind path (makeDirectoriesFor cwd path.components) t with hrun | ⟨e, -, hrun⟩
  · rw [hrun] at h
    rcases makeDirectoriesFor_cases cwd path.components t with herror | ⟨hnil, -⟩ | ⟨hroot | hcwd, -⟩
    · simp [herror] at h
    · exact absurd hnil hne
    · exact Or.inl (Path.root_mem_components_iff.mp (List.mem_of_head? hroot))
    · exact Or.inr hcwd
  · simp [hrun] at h

/-- A walk down that misses a directory meets no file, if there is none above its start. -/
theorem passable_of_walk_notFound (hcs : GoesDown cs) (habove : ∀ q, q <+: p → q ≠ p → ∀ text, t.lookup q ≠ some (.file text))
    (h : t.walk p cs = .error .notFound) : t.Passable (lead p cs) := by
  induction cs generalizing p with
  | nil => simp [walk_nil] at h
  | cons c cs ih =>
    rw [walk_cons] at h
    cases hc : t.advance p c with
    | error e =>
      obtain rfl : e = .notFound := by simpa [hc, Except.bind] using h
      have hnone := lookup_of_advance_notFound hc
      intro q hq text
      rcases List.prefix_or_prefix_of_prefix hq (prefix_lead hcs p) with hqp | hpq
      · by_cases hne : q = p
        · simp [hne, hnone]
        · exact habove q hqp hne text
      · simp [lookup_of_prefix_none hnone hpq]
    | ok d =>
      rw [hc] at h
      obtain ⟨rfl, hstart⟩ := advance_eq_ok hc
      have hroot : c ≠ .root := by
        rintro rfl
        exact hcs.root List.mem_cons_self
      have hpass := passable_of_directory (hstart hroot)
      rw [lead_cons]
      refine ih hcs.tail ?_ h
      intro q hq hne
      cases c with
      | root => exact absurd rfl hroot
      | up => exact absurd List.mem_cons_self hcs.up
      | here => exact hpass q hq
      | name n => exact hpass q ((List.prefix_concat_iff.mp hq).resolve_left hne)

/-- A path without `..` that misses a directory meets no file, if it starts where a directory stands. -/
theorem passable_of_locate_notFound (hne : path.components ≠ []) (hdown : path.Descends) (hstart : t.Starts cwd path)
    (h : t.locate cwd path.components = .error .notFound) : t.Passable (path.place cwd) := by
  rw [locate_of_ne_nil hne] at h
  rw [Path.place]
  rcases hdown.cases with ⟨cs, hroot, hcs⟩ | hcs
  · rw [hroot, walk_cons] at h
    rw [hroot]
    refine passable_of_walk_notFound (p := []) hcs ?_ h
    intro q hq hne
    exact absurd (List.prefix_nil.mp hq) hne
  · have hcwd : t.lookup cwd = some .directory := by
      rcases hstart with habsolute | hcwd
      · exact absurd (Path.root_mem_components_iff.mpr habsolute) hcs.root
      · exact hcwd
    refine passable_of_walk_notFound hcs ?_ h
    intro q hq _
    exact passable_of_directory hcwd q hq

/-- No file stands on the way to a directory that was removed, or that was not there to be removed. -/
theorem passable_of_removeDirectory (hpath : path.components = cs ++ [.name n]) (hdown : path.Descends)
    (hstart : t.Starts cwd path)
    (h : removeDirectory cwd path t = .ok () t' ∨ removeDirectory cwd path t = .error .notFound t') :
    t.Passable (path.place cwd) := by
  have hne : path.components ≠ [] := by simp [hpath]
  have hplace : ∀ q, t.locate cwd path.components = .ok q → q = path.place cwd := by
    intro q hlocate
    rw [locate_of_ne_nil hne] at hlocate
    exact walk_eq_lead hlocate
  rcases removeDirectory_cases cwd path t with ⟨q, hlocate, hdirectory, -⟩ | ⟨e, hrun, hmissing⟩
  · rw [← hplace q hlocate]
    exact passable_of_directory hdirectory
  · have he : e = .notFound := by
      rcases h with h | h
      · simp [hrun] at h
      · rw [hrun] at h
        exact (EStateM.Result.error.inj h).1
    rcases hmissing he with hlocate | ⟨q, hlocate, hnone⟩
    · exact passable_of_locate_notFound hne hdown hstart hlocate
    · rw [← hplace q hlocate]
      rw [hpath] at hlocate
      obtain ⟨rfl, hparent⟩ := locate_name hlocate
      intro r hr text
      rcases List.prefix_concat_iff.mp hr with rfl | hr
      · simp [hnone]
      · exact passable_of_directory hparent r hr text

/-- Where a directory was removed, or was not there to be removed, none is found any more in a tree that has nothing there and is the
same above. -/
theorem removeDirectory_again (hpath : path.components = cs ++ [.name n]) (hdown : path.Descends) {s : FileTree}
    (h : removeDirectory cwd path t = .ok () s ∨ removeDirectory cwd path t = .error .notFound s)
    (hsame : ∀ q, q <+: lead cwd cs → t'.lookup q = t.lookup q) (hnone : t'.lookup (path.place cwd) = none) :
    removeDirectory cwd path t' = .error .notFound t' := by
  have hruns : ∀ e, e ≠ .notFound → removeDirectory cwd path t ≠ .error e t := by
    intro e he heq
    rcases h with h | h
    · simp [h] at heq
    · rw [h] at heq
      exact he (EStateM.Result.error.inj heq).1.symm
  obtain ⟨hnul, hshort⟩ := bounds_of_guardPath hruns
  have hlocate := locate_congr hpath hdown hsame
  rw [removeDirectory_eq, guardPath_of_bounds hnul hshort] at hruns ⊢
  unfold removeAt at hruns ⊢
  rw [hlocate]
  cases hwalk : t.locate cwd path.components with
  | error e =>
    rw [hwalk] at hruns
    have he : e = .notFound := by
      by_contra hne
      exact hruns e hne rfl
    rw [he]
  | ok q =>
    have hq : q = path.place cwd := by
      rw [locate_of_ne_nil (by simp [hpath])] at hwalk
      exact walk_eq_lead hwalk
    simp only [hq, hnone]

end FileTree

end ManifestTree
