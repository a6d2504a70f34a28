import ManifestTree.Proofs.FileTree.FreeWay
import ManifestTree.Proofs.Provider.Writing

/-!
# When a provider can write

A provider can write its manifests whenever no file stands on the way to its group directories, however full these are: they are
cleared first, and after that nothing is in the way of its own files (`write_of_passable`). The paths have to be ones that the
operating system takes, and a relative directory has to start at a working directory that stands. When there is a manifest to write,
all this is needed, too (`write_succeeds_iff`).
-/

namespace ManifestTree.Provider

variable {cwd : Place} {directory : Path} {t t' : FileTree} {m : Manifest} {ms : List Manifest} {g : String}

/-- A tree that manifests can be written in: no file stands on the way to the group directories, and these hold no directories. -/
structure Ready (t : FileTree) (cwd : Place) (directory : Path) : Prop where
  starts : t.Starts cwd directory
  passable : ∀ g ∈ Manifest.groupNames, t.Passable (groupPlace (directory.place cwd) g)
  flat : ∀ g ∈ Manifest.groupNames, ∀ q, q ≠ [] → t.lookup (groupPlace (directory.place cwd) g ++ q) ≠ some .directory

/-- A path that goes on from another starts where that one does. -/
theorem starts_iff_of_names {path : Path} {ns : List Name} (hnames : path.components = directory.components ++ ns.map .name) :
    t.Starts cwd path ↔ t.Starts cwd directory := by
  have habsolute : path.isAbsolute = true ↔ directory.isAbsolute = true := by
    rw [← Path.root_mem_components_iff, ← Path.root_mem_components_iff, hnames]
    simp
  unfold FileTree.Starts
  rw [habsolute]

/-- What is done in the groups of a directory does not take away where its path starts. -/
theorem starts_of_confined (hdown : directory.Descends) (h : t.Starts cwd directory)
    (hconfined : Confined (.groups (directory.place cwd)) t t') : t'.Starts cwd directory := by
  refine h.of_confined hdown hconfined ?_
  intro q hq hin
  obtain ⟨g, -, hin⟩ := Footprint.inside_groups_iff.mp hin
  have hle := (hin.trans hq).length_le
  simp only [groupPlace, List.length_append, List.length_singleton] at hle
  omega

/-! ## Clearing -/

/-- A group directory on a passable way can be cleared. -/
theorem clear_of_passable (hg : g ∈ Manifest.groupNames) (hdown : directory.Descends)
    (hfits : (directory.joinText g).Fits 0) (hpass : t.Passable (groupPlace (directory.place cwd) g)) :
    ∃ t', clear cwd (directory.joinText g) t = .ok () t' := by
  have hne : (directory.joinText g).components ≠ [] := by simp [components_joinText_group hg]
  rw [← place_joinText_group hg] at hpass
  unfold clear
  rcases FileTree.removeDirectory_of_passable hne (descends_joinText_group hg hdown) hfits hpass with ⟨t', h⟩ | h
  · exact ⟨t', by rw [h]⟩
  · exact ⟨t, by rw [h]⟩

/-- Clearing leaves nothing in the way. -/
theorem passable_of_without {p q : Place} (h : t.Passable q) (ht : t'.lookup = View.without t.lookup p) : t'.Passable q := by
  refine h.of_lookup ?_
  intro r _
  rw [ht, View.without]
  split
  · exact Or.inr (Or.inl rfl)
  · exact Or.inl rfl

/-! ## Writing -/

/-- A manifest can be written in a tree that is ready for it. -/
theorem writeManifest_of_ready (hm : m.Plain) (hdown : directory.Descends) (hfits : (directory.join m.relativePath).Fits 0)
    (hready : Ready t cwd directory) : ∃ path t', writeManifest cwd directory m t = .ok path t' := by
  obtain ⟨parent, hparent, hway, hwrite⟩ := writeManifest_eq cwd directory m
  have hgroup := m.group_mem_groupNames
  have hparentNames : parent.components = directory.components ++ [Utf8.encode m.group].map .name :=
    hway.trans (way_of_plain directory hm)
  have hcomponents : parent.components = directory.components ++ [.name (Utf8.encode m.group)] := hparentNames
  have hpathNames := components_join_relativePath directory hm
  have hplace : parent.place cwd = groupPlace (directory.place cwd) m.group := Path.place_of_names hparentNames cwd
  have hparentDown := Path.descends_of_names hparentNames hdown
  obtain ⟨s, hmake⟩ := FileTree.makeDirectories_of_passable hparentDown (hfits.parent hparent)
    ((starts_iff_of_names hparentNames).mpr hready.starts) (hplace ▸ hready.passable m.group hgroup)
  have hmade := FileTree.makeDirectories_ok hparentDown (by simp [hcomponents]) hmake
  have hstands : s.lookup (lead cwd (directory.components ++ [.name (Utf8.encode m.group)])) = some .directory := by
    rw [← hcomponents, ← Path.place, hmade, View.withDirectories, if_pos (List.prefix_refl _)]
  have hfree : s.lookup ((directory.join m.relativePath).place cwd) ≠ some .directory := by
    have hbelow : directory.place cwd ++ m.relativeNames =
        groupPlace (directory.place cwd) m.group ++ [Utf8.encode m.fileName] := by
      rw [groupPlace, List.append_assoc]
      rfl
    have hnot : ¬ groupPlace (directory.place cwd) m.group ++ [Utf8.encode m.fileName] <+:
        groupPlace (directory.place cwd) m.group := by
      intro h
      have hle := h.length_le
      simp only [List.length_append, List.length_cons, List.length_nil] at hle
      omega
    rw [Path.place_of_names hpathNames, hbelow, hmade, hplace, View.withDirectories, if_neg hnot]
    exact hready.flat m.group hgroup _ (by simp)
  obtain ⟨t', hfile⟩ := FileTree.writeFile_of_parent (components_join_relativePath_concat directory hm)
    (Path.descends_of_names hpathNames hdown) hfits hstands hfree m.body.toYaml
  refine ⟨directory.join m.relativePath, t', ?_⟩
  rw [hwrite]
  refine Action.bind_eq_ok.mpr ⟨(), s, onPath_eq_ok.mpr hmake, ?_⟩
  exact Action.bind_eq_ok.mpr ⟨(), t', onPath_eq_ok.mpr hfile, rfl⟩

/-- A tree in which a manifest was written is ready for the next one. -/
theorem Ready.next {path : Path} (hready : Ready t cwd directory) (hm : m.Plain) (hdown : directory.Descends)
    (h : writeManifest cwd directory m t = .ok path t') : Ready t' cwd directory := by
  have hlookup := writeManifest_eq_ok hm hdown h
  have hkeeps := (writeManifest_keeps hm hdown cwd).of_ok h
  refine ⟨starts_of_confined hdown hready.starts hkeeps, ?_, ?_⟩
  · intro g hg
    refine (hready.passable g hg).of_lookup ?_
    intro q hq
    have hfile : q ≠ directory.place cwd ++ m.relativeNames := by
      rintro rfl
      have hle := hq.length_le
      simp [groupPlace, Manifest.relativeNames] at hle
    rw [hlookup, View.withManifest, View.withFile, if_neg hfile, View.withDirectories]
    split
    · exact Or.inr (Or.inr rfl)
    · exact Or.inl rfl
  · intro g hg q hq
    rw [hlookup]
    by_cases hgroup : m.group = g
    · subst hgroup
      rw [withManifest_in_group _ hq]
      split
      · simp
      · exact hready.flat _ hg q hq
    · rw [withManifest_of_ne _ hgroup]
      exact hready.flat g hg q hq

/-- Manifests can be written one after the other in a tree that is ready for them. -/
theorem writeManifests_of_ready (hplain : ∀ m ∈ ms, m.Plain) (hdown : directory.Descends)
    (hfits : ∀ m ∈ ms, (directory.join m.relativePath).Fits 0) (hready : Ready t cwd directory) :
    ∃ paths t', writeManifests cwd directory ms t = .ok paths t' := by
  induction ms generalizing t with
  | nil => exact ⟨[], t, rfl⟩
  | cons m rest ih =>
    have hm := hplain m List.mem_cons_self
    obtain ⟨path, s, hfirst⟩ := writeManifest_of_ready hm hdown (hfits m List.mem_cons_self) hready
    obtain ⟨paths, t', hrest⟩ := ih (fun m' hm' => hplain m' (List.mem_cons_of_mem _ hm'))
      (fun m' hm' => hfits m' (List.mem_cons_of_mem _ hm')) (hready.next hm hdown hfirst)
    refine ⟨path :: paths, t', ?_⟩
    rw [writeManifests_cons]
    refine Action.bind_eq_ok.mpr ⟨path, s, hfirst, ?_⟩
    exact Action.bind_eq_ok.mpr ⟨paths, t', hrest, rfl⟩

/-- A provider can write whenever no file stands on the way to its group directories. -/
theorem write_of_passable {p : Provider} (hplain : ∀ m ∈ p.manifests, m.Plain) (hdown : p.directory.Descends)
    (hgroups : ∀ g ∈ Manifest.groupNames, (p.directory.joinText g).Fits 0)
    (hfits : ∀ m ∈ p.manifests, (p.directory.join m.relativePath).Fits 0) (hstarts : t.Starts cwd p.directory)
    (hpass : ∀ g ∈ Manifest.groupNames, t.Passable (groupPlace (p.directory.place cwd) g)) :
    ∃ paths t', p.write cwd t = .ok paths t' := by
  have hdefinitions := Manifest.definitionGroup_mem
  have hplainGroup := Manifest.plainGroup_mem
  obtain ⟨s, hfirst⟩ := clear_of_passable hdefinitions hdown (hgroups _ hdefinitions) (hpass _ hdefinitions)
  have hs := clear_group_eq_ok hdefinitions hdown hfirst
  have hpass' : ∀ g ∈ Manifest.groupNames, s.Passable (groupPlace (p.directory.place cwd) g) :=
    fun g hg => passable_of_without (hpass g hg) hs
  obtain ⟨s', hsecond⟩ := clear_of_passable hplainGroup hdown (hgroups _ hplainGroup) (hpass' _ hplainGroup)
  have hs' := clear_group_eq_ok hplainGroup hdown hsecond
  have hready : Ready s' cwd p.directory := by
    have hkeeps : ∀ g ∈ Manifest.groupNames,
        Action.Keeps (.groups (p.directory.place cwd)) (clear cwd (p.directory.joinText g)) := fun g hg =>
      (clear_keeps hg p.directory cwd).mono (Footprint.below_within_groups hg (List.prefix_refl _))
    have hcleared := ((hkeeps _ hdefinitions).of_ok hfirst).trans ((hkeeps _ hplainGroup).of_ok hsecond)
    refine ⟨starts_of_confined hdown hstarts hcleared, fun g hg => passable_of_without (hpass' g hg) hs', ?_⟩
    intro g hg q _
    have hnone := lookup_of_clears hdown hfirst hsecond g hg
    rw [FileTree.lookup_of_prefix_none hnone (List.prefix_append _ q)]
    simp
  obtain ⟨paths, t', hwrite⟩ := writeManifests_of_ready hplain hdown hfits hready
  refine ⟨paths, t', ?_⟩
  rw [write_eq]
  refine Action.bind_eq_ok.mpr ⟨(), s, hfirst, ?_⟩
  exact Action.bind_eq_ok.mpr ⟨(), s', hsecond, hwrite⟩

/-! ## When nothing else will do -/

/-- The operating system takes all paths that writing manifests into a directory needs: those of the groups and those of the files. -/
structure PathsFit (directory : Path) (ms : List Manifest) : Prop where
  groups : ∀ g ∈ Manifest.groupNames, (directory.joinText g).Fits 0
  files : ∀ m ∈ ms, (directory.join m.relativePath).Fits 0

/-- Only a group directory whose path the operating system takes is cleared. -/
theorem fits_of_clear (hg : g ∈ Manifest.groupNames)
    (hnames : ∀ n, .name n ∈ directory.components → n.length ≤ FileTree.longestName)
    (h : clear cwd (directory.joinText g) t = .ok () t') : (directory.joinText g).Fits 0 := by
  have hbounds : (0 : UInt8) ∉ (directory.joinText g).bytes ∧ (directory.joinText g).bytes.length ≤ FileTree.longestPath := by
    refine FileTree.bounds_of_guardPath (a := FileTree.removeAt cwd (directory.joinText g).components) (t := t) ?_
    intro e he
    rw [← FileTree.removeDirectory_eq]
    rcases removeDirectory_of_clear h with hrun | hrun
    · simp [hrun]
    · rw [hrun]
      intro heq
      exact he (EStateM.Result.error.inj heq).1.symm
  refine ⟨hbounds.1, hbounds.2, ?_⟩
  intro n hn
  rw [components_joinText_group hg] at hn
  rcases List.mem_append.mp hn with hn | hn
  · exact hnames n hn
  · have hshort : ∀ g ∈ Manifest.groupNames, (Utf8.encode g).length ≤ FileTree.longestName := by decide
    obtain ⟨k, hk, heq⟩ := List.mem_map.mp hn
    rw [← Component.name.inj heq, List.mem_singleton.mp hk]
    exact hshort g hg

/-- The way to a group directory that was cleared is passable, if it starts where a directory stands. -/
theorem passable_of_clear (hg : g ∈ Manifest.groupNames) (hdown : directory.Descends) (hstarts : t.Starts cwd directory)
    (h : clear cwd (directory.joinText g) t = .ok () t') : t.Passable (groupPlace (directory.place cwd) g) := by
  rw [← place_joinText_group hg]
  refine FileTree.passable_of_removeDirectory (components_joinText_group hg) (descends_joinText_group hg hdown) ?_
    (removeDirectory_of_clear h)
  exact (starts_iff_of_names (components_joinText_group hg)).mpr hstarts

/-- Clearing a group takes away nothing that a path starts from. -/
theorem starts_of_clear (hg : g ∈ Manifest.groupNames) (hdown : directory.Descends)
    (h : clear cwd (directory.joinText g) t = .ok () t') (hstarts : t'.Starts cwd directory) : t.Starts cwd directory := by
  refine hstarts.imp_right ?_
  intro hcwd
  rw [clear_group_eq_ok hg hdown h, View.without] at hcwd
  split at hcwd
  · cases hcwd
  · exact hcwd

/-- What a manifest that was written needed: a path that the operating system takes, and a directory that stands to start from. -/
theorem needs_of_writeManifest {path : Path} (hm : m.Plain) (h : writeManifest cwd directory m t = .ok path t') :
    (directory.join m.relativePath).Fits 0 ∧ t.Starts cwd directory := by
  obtain ⟨parent, -, hway, hwrite⟩ := writeManifest_eq cwd directory m
  rw [hwrite] at h
  obtain ⟨u, s, hmake, h⟩ := Action.bind_eq_ok.mp h
  obtain ⟨v, s', hfile, -⟩ := Action.bind_eq_ok.mp h
  have hparent : parent.components = directory.components ++ [Utf8.encode m.group].map .name :=
    hway.trans (way_of_plain directory hm)
  have hstarts := FileTree.starts_of_makeDirectories (by simp [hparent]) (onPath_eq_ok.mp hmake)
  exact ⟨FileTree.fits_of_writeFile (onPath_eq_ok.mp hfile), (starts_iff_of_names hparent).mp hstarts⟩

/-- Of manifests that were written, the operating system takes all paths. -/
theorem fits_of_writeManifests {paths : List Path} (hplain : ∀ m ∈ ms, m.Plain)
    (h : writeManifests cwd directory ms t = .ok paths t') : ∀ m ∈ ms, (directory.join m.relativePath).Fits 0 := by
  induction ms generalizing paths t with
  | nil => simp
  | cons m rest ih =>
    rw [writeManifests_cons] at h
    obtain ⟨path, s, hfirst, h⟩ := Action.bind_eq_ok.mp h
    obtain ⟨others, s', hrest, hpure⟩ := Action.bind_eq_ok.mp h
    obtain ⟨-, rfl⟩ := EStateM.Result.ok.inj hpure
    intro m' hm'
    rcases List.mem_cons.mp hm' with rfl | hm'
    · exact (needs_of_writeManifest (hplain m' List.mem_cons_self) hfirst).1
    · exact ih (fun m' hm' => hplain m' (List.mem_cons_of_mem _ hm')) hrest m' hm'

/-- What a provider with manifests needed when it could write them: nothing more than makes it sure to succeed. -/
theorem needs_of_write {p : Provider} {paths : List Path} (hplain : ∀ m ∈ p.manifests, m.Plain) (hdown : p.directory.Descends)
    (hne : p.manifests ≠ []) (h : p.write cwd t = .ok paths t') : PathsFit p.directory p.manifests ∧
      t.Starts cwd p.directory ∧ ∀ g ∈ Manifest.groupNames, t.Passable (groupPlace (p.directory.place cwd) g) := by
  have hdefinitions := Manifest.definitionGroup_mem
  have hplainGroup := Manifest.plainGroup_mem
  obtain ⟨first, rest, hms⟩ := List.exists_cons_of_ne_nil hne
  have hfirst : first ∈ p.manifests := hms ▸ List.mem_cons_self
  rw [write_eq] at h
  obtain ⟨u, s, hcleared, h⟩ := Action.bind_eq_ok.mp h
  obtain ⟨v, s', hcleared', h⟩ := Action.bind_eq_ok.mp h
  have hfiles := fits_of_writeManifests hplain h
  have hstarts' : s'.Starts cwd p.directory := by
    rw [hms, writeManifests_cons] at h
    obtain ⟨path, u', hwrite, -⟩ := Action.bind_eq_ok.mp h
    exact (needs_of_writeManifest (hplain first hfirst) hwrite).2
  have hstarts : s.Starts cwd p.directory := starts_of_clear hplainGroup hdown hcleared' hstarts'
  have hstart : t.Starts cwd p.directory := starts_of_clear hdefinitions hdown hcleared hstarts
  have hnames : ∀ n, .name n ∈ p.directory.components → n.length ≤ FileTree.longestName := by
    intro n hn
    refine (hfiles first hfirst).names n ?_
    rw [components_join_relativePath p.directory (hplain first hfirst)]
    exact List.mem_append_left _ hn
  refine ⟨⟨?_, hfiles⟩, hstart, ?_⟩
  · intro g hg
    rcases Manifest.groupNames_cases hg with rfl | rfl
    · exact fits_of_clear hg hnames hcleared
    · exact fits_of_clear hg hnames hcleared'
  · intro g hg
    rcases Manifest.groupNames_cases hg with rfl | rfl
    · exact passable_of_clear hg hdown hstart hcleared
    · -- the plain group was cleared second, and nothing above it was taken away before
      have hpass := passable_of_clear hg hdown hstarts hcleared'
      intro q hq text
      have hbelow : ¬ groupPlace (p.directory.place cwd) Manifest.definitionGroup <+: q := by
        intro hbelow
        have heq := (hbelow.trans hq).eq_of_length (by simp [groupPlace])
        simp only [groupPlace, List.append_cancel_left_eq] at heq
        exact absurd heq (by decide)
      have hsame : s.lookup q = t.lookup q := by
        rw [clear_group_eq_ok hdefinitions hdown hcleared, View.without, if_neg hbelow]
      rw [← hsame]
      exact hpass q hq text

/-- A provider with manifests can write them exactly when the operating system takes its paths, its directory starts at a directory
that stands, and no file stands on the way to its group directories. -/
theorem write_succeeds_iff {p : Provider} (hplain : ∀ m ∈ p.manifests, m.Plain) (hdown : p.directory.Descends)
    (hne : p.manifests ≠ []) : Action.succeeds (p.write cwd) t = true ↔ PathsFit p.directory p.manifests ∧
      t.Starts cwd p.directory ∧ ∀ g ∈ Manifest.groupNames, t.Passable (groupPlace (p.directory.place cwd) g) := by
  rw [Action.succeeds_iff]
  constructor
  · rintro ⟨paths, t', h⟩
    exact needs_of_write hplain hdown hne h
  · rintro ⟨hfit, hstarts, hpass⟩
    exact write_of_passable hplain hdown hfit.groups hfit.files hstarts hpass

end ManifestTree.Provider
