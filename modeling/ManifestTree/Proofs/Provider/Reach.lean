import ManifestTree.Proofs.FileTree.Changes
import ManifestTree.Proofs.Manifest.RelativePath
import ManifestTree.Proofs.Path.Parent
import ManifestTree.Proofs.Provider.Contents

/-!
# How far writing reaches

Writing a provider clears its two group directories, and then makes the directories on the way to the file of each manifest and
writes the file. The names of objects are texts of any kind, so the path of a manifest may go up again and lead out of its group. But
whether it succeeds or fails, writing changes nothing besides what lies in the groups and the files of the manifests, and makes
missing directories that their paths pass (`write_reaches`). The file of a manifest whose path never goes up lies in its group
(`groupPlace_prefix_place`). When it succeeds it gives one path for each manifest (`write_paths`).
-/

namespace ManifestTree

namespace Manifest

/-- The groups of manifests. -/
def groupNames : List String := [definitionGroup, plainGroup]

/-- The place that the path of a manifest leads to from the directory of its provider. -/
def place (m : Manifest) (cwd : Place) (directory : Path) : Place := (directory.join m.relativePath).place cwd

/-- The components of the directory that the file of a manifest is written in. -/
def way (m : Manifest) (directory : Path) : List Component := (directory.join m.relativePath).components.dropLast

theorem definitionGroup_mem : definitionGroup ∈ groupNames := List.mem_cons_self

theorem plainGroup_mem : plainGroup ∈ groupNames := List.mem_cons_of_mem _ List.mem_cons_self

theorem groupNames_cases {g : String} (hg : g ∈ groupNames) : g = definitionGroup ∨ g = plainGroup := by
  rcases List.mem_cons.mp hg with hg | hg
  · exact Or.inl hg
  · exact Or.inr (List.mem_singleton.mp hg)

theorem group_mem_groupNames (m : Manifest) : m.group ∈ groupNames := by
  unfold group
  split
  · exact definitionGroup_mem
  · exact plainGroup_mem

/-- The path of every manifest ends in a name, below a directory that is not the one it is followed from. -/
theorem components_eq_way (m : Manifest) (directory : Path) :
    m.way directory ≠ [] ∧ ∃ n, (directory.join m.relativePath).components = m.way directory ++ [.name n] := by
  obtain ⟨cs, n, hrelative⟩ := m.exists_components_relativePath
  have hpath : (directory.join m.relativePath).components =
      (directory.components ++ .name (Utf8.encode m.group) :: cs) ++ [.name n] := by
    rw [components_join_relativePath, hrelative, List.append_assoc, List.cons_append]
  have hway : m.way directory = directory.components ++ .name (Utf8.encode m.group) :: cs := by
    rw [way, hpath, List.dropLast_concat]
  exact ⟨by simp [hway], n, by rw [hway, hpath]⟩

/-- The file of a manifest whose path never goes up lies in the directory of its group. -/
theorem groupPlace_prefix_place {m : Manifest} (hdown : m.relativePath.Descends) (cwd : Place) (directory : Path) :
    groupPlace (directory.place cwd) m.group <+: m.place cwd directory := by
  obtain ⟨cs, n, hrelative⟩ := m.exists_components_relativePath
  obtain ⟨ns, hns⟩ := Path.exists_names m.up_or_name_of_mem_relativePath hdown
  have hhead : Utf8.encode m.group :: ns.tail = ns := by
    cases ns with
    | nil => simp [hns] at hrelative
    | cons k ns =>
      rw [hns, List.map_cons] at hrelative
      rw [Component.name.inj (List.cons.inj hrelative).1]
      rfl
  have hpath : (directory.join m.relativePath).components = directory.components ++ ns.map .name := by
    rw [components_join_relativePath, hns]
  rw [place, Path.place_of_names hpath, groupPlace, List.prefix_append_right_inj]
  exact ⟨ns.tail, hhead⟩

end Manifest

namespace Footprint

variable {g : String}

/-- Where writing a manifest may change a tree: in its file, and by making directories that its path passes. -/
def manifest (cwd : Place) (directory : Path) (m : Manifest) : Footprint where
  inside q := q = m.place cwd directory
  above := Passes cwd (m.way directory)

/-- Where writing manifests may change a tree. -/
def manifests (cwd : Place) (directory : Path) (ms : List Manifest) : Footprint where
  inside q := ∃ m ∈ ms, q = m.place cwd directory
  above q := ∃ m ∈ ms, Passes cwd (m.way directory) q

/-- Where writing a provider may change a tree: in its groups, and where writing its manifests may. -/
def provider (cwd : Place) (p : Provider) : Footprint where
  inside q := (∃ g ∈ Manifest.groupNames, groupPlace (p.directory.place cwd) g <+: q) ∨
    (manifests cwd p.directory p.manifests).inside q
  above := (manifests cwd p.directory p.manifests).above

theorem manifest_within_manifests {cwd : Place} {directory : Path} {m : Manifest} {ms : List Manifest} (hm : m ∈ ms) :
    (manifest cwd directory m).Within (manifests cwd directory ms) where
  inside _ hq := ⟨m, hm, hq⟩
  above _ hq := Or.inl ⟨m, hm, hq⟩

theorem manifests_mono {cwd : Place} {directory : Path} {ms ms' : List Manifest} (h : ms ⊆ ms') :
    (manifests cwd directory ms).Within (manifests cwd directory ms') where
  inside := fun _ ⟨m, hm, hq⟩ => ⟨m, h hm, hq⟩
  above := fun _ ⟨m, hm, hq⟩ => Or.inl ⟨m, h hm, hq⟩

theorem manifests_within_provider (cwd : Place) (p : Provider) :
    (manifests cwd p.directory p.manifests).Within (provider cwd p) where
  inside _ hq := Or.inr hq
  above _ hq := Or.inl hq

theorem group_within_provider {cwd : Place} {p : Provider} (hg : g ∈ Manifest.groupNames) :
    (below (groupPlace (p.directory.place cwd) g)).Within (provider cwd p) where
  inside _ hq := Or.inl ⟨g, hg, hq⟩
  above _ hq := hq.elim

end Footprint

namespace Provider

variable {cwd : Place} {directory path : Path} {paths : List Path} {m : Manifest} {ms : List Manifest} {p : Provider} {t t' : FileTree}
  {e : RenderError}

/-- The components of a group directory. -/
theorem components_joinText_group {g : String} (hg : g ∈ Manifest.groupNames) :
    (directory.joinText g).components = directory.components ++ [Utf8.encode g].map .name := by
  refine Path.components_joinText ?_
  rcases Manifest.groupNames_cases hg with rfl | rfl
  · decide
  · decide

/-- The place of a group directory. -/
theorem place_joinText_group {g : String} (hg : g ∈ Manifest.groupNames) :
    (directory.joinText g).place cwd = groupPlace (directory.place cwd) g :=
  Path.place_of_names (components_joinText_group hg) cwd

/-! ## Clearing a group -/

/-- What clearing a directory can do: remove it, find that it is not there, or fail for another cause and name it. -/
theorem clear_cases (cwd : Place) (path : Path) (t : FileTree) :
    (∃ t', FileTree.removeDirectory cwd path t = .ok () t' ∧ clear cwd path t = .ok () t') ∨
      (FileTree.removeDirectory cwd path t = .error .notFound t ∧ clear cwd path t = .ok () t) ∨
      ∃ cause, FileTree.removeDirectory cwd path t = .error cause t ∧ clear cwd path t = .error (.io path cause) t := by
  unfold clear
  cases hremove : FileTree.removeDirectory cwd path t with
  | ok u t' => exact Or.inl ⟨t', rfl, rfl⟩
  | error cause t' =>
    obtain rfl := FileTree.removeDirectory_unchanged hremove
    cases cause with
    | notFound => exact Or.inr (Or.inl ⟨rfl, rfl⟩)
    | _ => exact Or.inr (Or.inr ⟨_, rfl, rfl⟩)

/-- A directory that was cleared was removed, or it was not there. -/
theorem removeDirectory_of_clear (h : clear cwd path t = .ok () t') :
    FileTree.removeDirectory cwd path t = .ok () t' ∨ FileTree.removeDirectory cwd path t = .error .notFound t' := by
  rcases clear_cases cwd path t with ⟨s, hremove, hclear⟩ | ⟨hremove, hclear⟩ | ⟨cause, -, hclear⟩
  · obtain rfl := (EStateM.Result.ok.inj (hclear.symm.trans h)).2
    exact Or.inl hremove
  · obtain rfl := (EStateM.Result.ok.inj (hclear.symm.trans h)).2
    exact Or.inr hremove
  · cases hclear.symm.trans h

/-- A directory that could not be cleared: nothing has changed, and the error names it. -/
theorem clear_eq_error (h : clear cwd path t = .error e t') : t' = t ∧ ∃ cause, e = .io path cause := by
  rcases clear_cases cwd path t with ⟨s, -, hclear⟩ | ⟨-, hclear⟩ | ⟨cause, -, hclear⟩
  · cases hclear.symm.trans h
  · cases hclear.symm.trans h
  · obtain ⟨rfl, rfl⟩ := EStateM.Result.error.inj (hclear.symm.trans h)
    exact ⟨rfl, cause, rfl⟩

/-- Clearing leaves behind what removing the directory leaves behind. -/
theorem after_clear (cwd : Place) (path : Path) (t : FileTree) :
    Action.after (clear cwd path) t = Action.after (FileTree.removeDirectory cwd path) t := by
  rcases clear_cases cwd path t with ⟨s, hremove, hclear⟩ | ⟨hremove, hclear⟩ | ⟨cause, hremove, hclear⟩
  · rw [Action.after_of_ok hclear, Action.after_of_ok hremove]
  · rw [Action.after_of_ok hclear, Action.after_of_error hremove]
  · rw [Action.after_of_error hclear, Action.after_of_error hremove]

/-- Clearing a group changes nothing outside it. -/
theorem clear_keeps {g : String} (hg : g ∈ Manifest.groupNames) (directory : Path) (cwd : Place) :
    Action.Keeps (.below (groupPlace (directory.place cwd) g)) (clear cwd (directory.joinText g)) := by
  intro t
  have hpath : (directory.joinText g).components = directory.components ++ [.name (Utf8.encode g)] := components_joinText_group hg
  have hremove := FileTree.removeDirectory_keeps hpath cwd
  rw [place_joinText_group hg] at hremove
  rw [after_clear]
  exact hremove t

/-! ## Writing a manifest -/

/-- An action that names its path when it fails leaves behind the same tree. -/
theorem onPath_keeps {α : Type} {f : Footprint} {a : Action FileError α} (h : Action.Keeps f a) (path : Path) :
    Action.Keeps f (onPath path a) := by
  intro t
  have hafter : Action.after (onPath path a) t = Action.after a t := by
    unfold Action.after onPath
    cases a t with
    | ok x t' => rfl
    | error e t' => rfl
  rw [hafter]
  exact h t

/-- Naming its path has no part in the success of an action. -/
theorem onPath_eq_ok {α : Type} {a : Action FileError α} {x : α} : onPath path a t = .ok x t' ↔ a t = .ok x t' := by
  unfold onPath
  cases a t with
  | ok y s => simp
  | error e s => simp

/-- An action that names its path fails when the action itself does. -/
theorem onPath_eq_error {α : Type} {a : Action FileError α} :
    onPath path a t = .error e t' ↔ ∃ cause, a t = .error cause t' ∧ e = .io path cause := by
  unfold onPath
  cases a t with
  | ok x s => simp
  | error cause s =>
    simp only [EStateM.Result.error.injEq]
    constructor
    · rintro ⟨rfl, rfl⟩
      exact ⟨cause, ⟨rfl, rfl⟩, rfl⟩
    · rintro ⟨cause', ⟨rfl, rfl⟩, rfl⟩
      exact ⟨rfl, rfl⟩

/-- Writing a manifest: the directory of its file is made, then the file is written. -/
theorem writeManifest_eq (cwd : Place) (directory : Path) (m : Manifest) :
    ∃ parent, (directory.join m.relativePath).parent? = some parent ∧ parent.components = m.way directory ∧
      writeManifest cwd directory m = (onPath parent (FileTree.makeDirectories cwd parent) >>= fun _ =>
        onPath (directory.join m.relativePath)
          (FileTree.writeFile cwd (directory.join m.relativePath) m.body.toYaml) >>= fun _ =>
        pure (directory.join m.relativePath)) := by
  obtain ⟨-, n, hpath⟩ := m.components_eq_way directory
  obtain ⟨parent, hparent, hway⟩ := Path.exists_parent? hpath
  refine ⟨parent, hparent, hway, ?_⟩
  unfold writeManifest
  simp only [hparent]

/-- A manifest that was written: its path is given. -/
theorem writeManifest_path (h : writeManifest cwd directory m t = .ok path t') : path = directory.join m.relativePath := by
  obtain ⟨parent, -, -, hwrite⟩ := writeManifest_eq cwd directory m
  rw [hwrite] at h
  obtain ⟨u, s, -, h⟩ := Action.bind_eq_ok.mp h
  obtain ⟨v, s', -, hpath⟩ := Action.bind_eq_ok.mp h
  exact (EStateM.Result.ok.inj hpath).1.symm

/-- Writing a manifest changes nothing but its file, and makes missing directories that its path passes. -/
theorem writeManifest_reaches (cwd : Place) (directory : Path) (m : Manifest) :
    Action.Keeps (.manifest cwd directory m) (writeManifest cwd directory m) := by
  obtain ⟨parent, -, hway, hwrite⟩ := writeManifest_eq cwd directory m
  obtain ⟨-, n, hpath⟩ := m.components_eq_way directory
  have hmake : Action.Keeps (.manifest cwd directory m) (FileTree.makeDirectories cwd parent) := by
    have halong := FileTree.makeDirectories_along cwd parent
    rw [hway] at halong
    exact halong.mono ⟨fun _ hq => hq.elim, fun _ hq => Or.inl hq⟩
  have hfile : Action.Keeps (.manifest cwd directory m)
      (FileTree.writeFile cwd (directory.join m.relativePath) m.body.toYaml) :=
    (FileTree.writeFile_keeps hpath cwd m.body.toYaml).mono ⟨fun _ hq => hq, fun _ hq => hq.elim⟩
  rw [hwrite]
  refine .bind (onPath_keeps hmake _) ?_
  intro _
  exact .bind (onPath_keeps hfile _) fun _ => .pure _

/-! ## Writing all manifests -/

theorem writeManifests_cons (cwd : Place) (directory : Path) (m : Manifest) (rest : List Manifest) :
    writeManifests cwd directory (m :: rest) = (writeManifest cwd directory m >>= fun path =>
      writeManifests cwd directory rest >>= fun paths => pure (path :: paths)) := rfl

/-- Manifests that were written: a path for each is given. -/
theorem writeManifests_paths (h : writeManifests cwd directory ms t = .ok paths t') :
    paths = ms.map fun m => directory.join m.relativePath := by
  induction ms generalizing paths t with
  | nil =>
    cases h
    rfl
  | cons m rest ih =>
    rw [writeManifests_cons] at h
    obtain ⟨path, s, hfirst, h⟩ := Action.bind_eq_ok.mp h
    obtain ⟨others, s', hrest, hpaths⟩ := Action.bind_eq_ok.mp h
    obtain ⟨rfl, rfl⟩ := EStateM.Result.ok.inj hpaths
    rw [writeManifest_path hfirst, ih hrest, List.map_cons]

theorem writeManifests_reaches (cwd : Place) (directory : Path) (ms : List Manifest) :
    Action.Keeps (.manifests cwd directory ms) (writeManifests cwd directory ms) := by
  induction ms with
  | nil => exact .pure _
  | cons m rest ih =>
    rw [writeManifests_cons]
    refine .bind ((writeManifest_reaches cwd directory m).mono (Footprint.manifest_within_manifests List.mem_cons_self)) ?_
    intro _
    exact .bind (ih.mono (Footprint.manifests_mono (List.subset_cons_self m rest))) fun _ => .pure _

/-! ## Writing a provider -/

theorem write_eq (p : Provider) (cwd : Place) :
    p.write cwd = (clear cwd (p.directory.joinText Manifest.definitionGroup) >>= fun _ =>
      clear cwd (p.directory.joinText Manifest.plainGroup) >>= fun _ => writeManifests cwd p.directory p.manifests) := by
  unfold write groupDirectories
  simp only [List.forM, bind_assoc, pure_bind]

/-- A provider that was written: a path for each of its manifests is given. -/
theorem write_paths (h : p.write cwd t = .ok paths t') :
    paths = p.manifests.map fun m => p.directory.join m.relativePath := by
  rw [write_eq] at h
  obtain ⟨u, s, -, h⟩ := Action.bind_eq_ok.mp h
  obtain ⟨v, s', -, h⟩ := Action.bind_eq_ok.mp h
  exact writeManifests_paths h

/-- Writing a provider changes nothing besides what lies in its groups and the files of its manifests, and makes missing directories
that the paths of these pass. -/
theorem write_reaches (p : Provider) (cwd : Place) : Action.Keeps (.provider cwd p) (p.write cwd) := by
  have hclear : ∀ g ∈ Manifest.groupNames, Action.Keeps (.provider cwd p) (clear cwd (p.directory.joinText g)) :=
    fun g hg => (clear_keeps hg p.directory cwd).mono (Footprint.group_within_provider hg)
  rw [write_eq]
  refine .bind (hclear _ Manifest.definitionGroup_mem) ?_
  intro _
  refine .bind (hclear _ Manifest.plainGroup_mem) ?_
  intro _
  exact (writeManifests_reaches cwd p.directory p.manifests).mono (Footprint.manifests_within_provider cwd p)

end Provider

end ManifestTree
