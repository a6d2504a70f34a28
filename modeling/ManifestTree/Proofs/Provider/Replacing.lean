import ManifestTree.Proofs.Provider.Outside
import ManifestTree.Proofs.Provider.Success

/-!
# What writing replaces

A provider of plain manifests that writes replaces what its two group directories held: each holds the manifests of its group and
nothing besides, and no other place changes but the missing directories above them (`Replaced`, `replaced_of_write`). What the groups
held before leaves no trace (`Replaced.lookup_eq`), so writing again changes nothing more (`write_again`, `write_replaces`).
-/

namespace ManifestTree

/-- What replacing the output in a directory by some manifests makes of a tree: definitions in the one group and all other manifests
in the other, the directories above if there is anything to write, and everything else as it was. -/
structure Replaced (d : Place) (ms : List Manifest) (t t' : FileTree) : Prop where
  definitions : Holds t' (groupPlace d Manifest.definitionGroup) (ms.filter fun m => m.isDefinition)
  manifests : Holds t' (groupPlace d Manifest.plainGroup) (ms.filter fun m => !m.isDefinition)
  above : ms ≠ [] → ∀ q, q <+: d → t'.lookup q = some .directory
  others : ∀ q, (∀ g ∈ Manifest.groupNames, ¬ groupPlace d g <+: q) → t'.lookup q = t.lookup q ∨
    (ms ≠ [] ∧ q <+: d ∧ t.lookup q = none ∧ t'.lookup q = some .directory)

variable {d : Place} {ms : List Manifest} {t t' s s' : FileTree} {g : String}

theorem Manifest.group_eq_definitionGroup_iff (m : Manifest) : m.group = definitionGroup ↔ m.isDefinition = true := by
  unfold group
  by_cases h : m.isDefinition = true
  · simp [h]
  · rw [if_neg h]
    exact iff_of_false (by decide) h

theorem Manifest.group_eq_plainGroup_iff (m : Manifest) : m.group = plainGroup ↔ m.isDefinition = false := by
  unfold group
  by_cases h : m.isDefinition = true
  · rw [if_pos h]
    exact iff_of_false (by decide) (by simp [h])
  · simp [h]

theorem ofGroup_definitionGroup (ms : List Manifest) : ofGroup Manifest.definitionGroup ms = ms.filter fun m => m.isDefinition := by
  refine List.filter_congr ?_
  intro m _
  rw [Bool.eq_iff_iff, decide_eq_true_iff]
  exact m.group_eq_definitionGroup_iff

theorem ofGroup_plainGroup (ms : List Manifest) : ofGroup Manifest.plainGroup ms = ms.filter fun m => !m.isDefinition := by
  refine List.filter_congr ?_
  intro m _
  rw [Bool.eq_iff_iff, decide_eq_true_iff, Bool.not_eq_true']
  exact m.group_eq_plainGroup_iff

/-! ## What stands in the groups -/

/-- The file of a manifest lies in the directory of its group. -/
theorem Manifest.append_relativeNames (d : Place) (m : Manifest) :
    d ++ m.relativeNames = groupPlace d m.group ++ [Utf8.encode m.fileName] := by
  rw [groupPlace, List.append_assoc]
  rfl

/-- Each place in a group directory is the directory, the file of a manifest that it holds, or empty. -/
theorem Holds.cases (h : Holds t (groupPlace d g) (ofGroup g ms)) (r : Place) :
    (r = [] ∧ ∃ m ∈ ms, m.group = g ∧ t.lookup (groupPlace d g ++ r) = some .directory) ∨
      (∃ m ∈ ms, groupPlace d g ++ r = d ++ m.relativeNames ∧ t.lookup (groupPlace d g ++ r) = some (.file m.body.toYaml)) ∨
      t.lookup (groupPlace d g ++ r) = none := by
  by_cases hr : r = []
  · subst hr
    have hdirectory := h.directory
    rw [List.append_nil]
    split at hdirectory
    · exact Or.inr (Or.inr hdirectory)
    · rename_i hne
      obtain ⟨m, hm⟩ := List.exists_mem_of_ne_nil _ hne
      obtain ⟨hmem, hgroup⟩ := List.mem_filter.mp hm
      exact Or.inl ⟨rfl, m, hmem, of_decide_eq_true hgroup, hdirectory⟩
  · by_cases hnone : t.lookup (groupPlace d g ++ r) = none
    · exact Or.inr (Or.inr hnone)
    · obtain ⟨m, hm, rfl⟩ := h.nothing_else r hr hnone
      obtain ⟨hmem, hgroup⟩ := List.mem_filter.mp hm
      refine Or.inr (Or.inl ⟨m, hmem, ?_, h.files m hm⟩)
      rw [m.append_relativeNames, of_decide_eq_true hgroup]

/-- The files in group directories are those of the manifests that these hold. -/
theorem file_iff_of_holds (h : ∀ g ∈ Manifest.groupNames, Holds t (groupPlace d g) (ofGroup g ms)) {q : Place}
    (hin : ∃ g ∈ Manifest.groupNames, groupPlace d g <+: q) (text : String) :
    t.lookup q = some (.file text) ↔ ∃ m ∈ ms, d ++ m.relativeNames = q ∧ m.body.toYaml = text := by
  constructor
  · intro hq
    obtain ⟨g, hg, r, rfl⟩ := hin
    rcases (h g hg).cases r with ⟨-, m, -, -, hdirectory⟩ | ⟨m, hm, hplace, hfile⟩ | hnone
    · rw [hdirectory] at hq
      cases hq
    · rw [hfile] at hq
      exact ⟨m, hm, hplace.symm, Entry.file.inj (Option.some.inj hq)⟩
    · rw [hnone] at hq
      cases hq
  · rintro ⟨m, hm, rfl, rfl⟩
    rw [m.append_relativeNames]
    exact (h _ m.group_mem_groupNames).files m (List.mem_filter.mpr ⟨hm, by simp⟩)

/-- The directories in group directories are these themselves, where they hold something. -/
theorem directory_of_holds (h : ∀ g ∈ Manifest.groupNames, Holds t (groupPlace d g) (ofGroup g ms)) {q : Place}
    (hin : ∃ g ∈ Manifest.groupNames, groupPlace d g <+: q) (hq : t.lookup q = some .directory) :
    ∃ m ∈ ms, q = groupPlace d m.group := by
  obtain ⟨g, hg, r, rfl⟩ := hin
  rcases (h g hg).cases r with ⟨rfl, m, hm, rfl, -⟩ | ⟨m, -, -, hfile⟩ | hnone
  · exact ⟨m, hm, List.append_nil _⟩
  · rw [hfile] at hq
    cases hq
  · rw [hnone] at hq
    cases hq

namespace Replaced

/-- What each group directory holds where output was replaced. -/
theorem holds (h : Replaced d ms t t') (hg : g ∈ Manifest.groupNames) : Holds t' (groupPlace d g) (ofGroup g ms) := by
  rcases Manifest.groupNames_cases hg with rfl | rfl
  · rw [ofGroup_definitionGroup]
    exact h.definitions
  · rw [ofGroup_plainGroup]
    exact h.manifests

/-- Where something else was left, nothing changed. -/
theorem lookup_eq_start (h : Replaced d ms t t') {q : Place} (hout : ∀ g ∈ Manifest.groupNames, ¬ groupPlace d g <+: q)
    (habove : ¬ (ms ≠ [] ∧ q <+: d)) : t'.lookup q = t.lookup q := by
  rcases h.others q hout with hsame | ⟨hne, hq, -⟩
  · exact hsame
  · exact absurd ⟨hne, hq⟩ habove

/-- The outcome depends only on what stands outside the groups, and not on which directories stand above them when there is something
to write. -/
theorem lookup_eq (h : Replaced d ms t t') (h' : Replaced d ms s s')
    (hsame : ∀ q, (∀ g ∈ Manifest.groupNames, ¬ groupPlace d g <+: q) → ¬ (ms ≠ [] ∧ q <+: d) → s.lookup q = t.lookup q) :
    s'.lookup = t'.lookup := by
  funext q
  by_cases hin : ∃ g ∈ Manifest.groupNames, groupPlace d g <+: q
  · obtain ⟨g, hg, r, rfl⟩ := hin
    exact (h.holds hg).lookup_eq (h'.holds hg) r
  · have hout : ∀ g ∈ Manifest.groupNames, ¬ groupPlace d g <+: q := fun g hg hq => hin ⟨g, hg, hq⟩
    by_cases habove : ms ≠ [] ∧ q <+: d
    · rw [h.above habove.1 q habove.2, h'.above habove.1 q habove.2]
    · rw [h.lookup_eq_start hout habove, h'.lookup_eq_start hout habove, hsame q hout habove]

/-- The files in the groups are those of the manifests. -/
theorem file_iff (h : Replaced d ms t t') {q : Place} (hin : ∃ g ∈ Manifest.groupNames, groupPlace d g <+: q) (text : String) :
    t'.lookup q = some (.file text) ↔ ∃ m ∈ ms, d ++ m.relativeNames = q ∧ m.body.toYaml = text :=
  file_iff_of_holds (fun _ hg => h.holds hg) hin text

/-- No file stands on the way to the groups once manifests were put there. -/
theorem passable (h : Replaced d ms t t') (hne : ms ≠ []) (hg : g ∈ Manifest.groupNames) : t'.Passable (groupPlace d g) := by
  intro q hq text
  rcases List.prefix_concat_iff.mp hq with rfl | hq
  · have hgroup := (h.holds hg).directory
    change t'.lookup (groupPlace d g) ≠ _
    rw [hgroup]
    split <;> simp
  · rw [h.above hne q hq]
    simp

end Replaced

namespace Provider

variable {cwd : Place} {p : Provider} {paths : List Path}

/-- Writing plain manifests at different paths replaces what the groups of a provider held. -/
theorem replaced_of_write (hdown : p.directory.Descends) (hplain : ∀ m ∈ p.manifests, m.Plain) (hdistinct : Distinct p.manifests)
    (h : p.write cwd t = .ok paths t') : Replaced (p.directory.place cwd) p.manifests t t' where
  definitions := by
    rw [← ofGroup_definitionGroup]
    exact write_eq_ok hdown hplain hdistinct h _ Manifest.definitionGroup_mem
  manifests := by
    rw [← ofGroup_plainGroup]
    exact write_eq_ok hdown hplain hdistinct h _ Manifest.plainGroup_mem
  above hne q hq := by
    obtain ⟨m, hm⟩ := List.exists_mem_of_ne_nil _ hne
    have hholds := write_eq_ok hdown hplain hdistinct h _ m.group_mem_groupNames
    have hmem : m ∈ ofGroup m.group p.manifests := List.mem_filter.mpr ⟨hm, by simp⟩
    exact hholds.lookup_above (List.ne_nil_of_mem hmem) hq
  others q hout := by
    rcases (write_reaches p cwd).of_ok h q with hin | hsame | ⟨⟨m, hm, hpasses⟩, hnone, hdirectory⟩
    · have hgroups := (provider_within_groups hdown hplain cwd).inside q hin
      obtain ⟨g, hg, hq⟩ := Footprint.inside_groups_iff.mp hgroups
      exact absurd hq (hout g hg)
    · exact Or.inl hsame
    · rcases (manifest_within_groups (hplain m hm) hdown cwd).above q hpasses with habove | hin
      · exact Or.inr ⟨List.ne_nil_of_mem hm, habove, hnone, hdirectory⟩
      · obtain ⟨g, hg, hq⟩ := Footprint.inside_groups_iff.mp hin
        exact absurd hq (hout g hg)

/-! ## Writing again -/

/-- A group directory that was cleared once can be cleared again, where it is missing and the same stands above it. -/
theorem clear_again (hg : g ∈ Manifest.groupNames) (hdown : p.directory.Descends)
    (h : clear cwd (p.directory.joinText g) t = .ok () s) (habove : ∀ q, q <+: p.directory.place cwd → t'.lookup q = t.lookup q)
    (hnone : t'.lookup (groupPlace (p.directory.place cwd) g) = none) :
    clear cwd (p.directory.joinText g) t' = .ok () t' := by
  have hremove := FileTree.removeDirectory_again (components_joinText_group hg) (descends_joinText_group hg hdown)
    (removeDirectory_of_clear h) habove (by rw [place_joinText_group hg, hnone])
  unfold clear
  rw [hremove]

/-- No group of a directory lies above it. -/
theorem groupPlaces_apart {q : Place} (hq : q <+: d) : ¬ groupPlace d g <+: q := by
  intro h
  have hle := (h.trans hq).length_le
  simp only [groupPlace, List.length_append, List.length_singleton] at hle
  omega

/-- A provider without manifests that was written finds nothing to clear any more. -/
theorem write_again_of_nil (hdown : p.directory.Descends) (hnil : p.manifests = []) (h : p.write cwd t = .ok paths t') :
    p.write cwd t' = .ok paths t' := by
  have hdefinitions := Manifest.definitionGroup_mem
  have hplainGroup := Manifest.plainGroup_mem
  rw [write_eq, hnil] at h ⊢
  obtain ⟨u, s, hfirst, h⟩ := Action.bind_eq_ok.mp h
  obtain ⟨v, s', hsecond, h⟩ := Action.bind_eq_ok.mp h
  obtain ⟨rfl, rfl⟩ := EStateM.Result.ok.inj h
  have hs := clear_group_eq_ok hdefinitions hdown hfirst
  have hs' := clear_group_eq_ok hplainGroup hdown hsecond
  have hcleared := lookup_of_clears hdown hfirst hsecond
  have habove : ∀ q, q <+: p.directory.place cwd → s'.lookup q = s.lookup q ∧ s.lookup q = t.lookup q := by
    intro q hq
    rw [hs', hs, View.without, View.without, if_neg (groupPlaces_apart hq), if_neg (groupPlaces_apart hq)]
    exact ⟨rfl, rfl⟩
  refine Action.bind_eq_ok.mpr ⟨(), s', ?_, ?_⟩
  · exact clear_again hdefinitions hdown hfirst (fun q hq => (habove q hq).1.trans (habove q hq).2) (hcleared _ hdefinitions)
  · refine Action.bind_eq_ok.mpr ⟨(), s', ?_, rfl⟩
    exact clear_again hplainGroup hdown hsecond (fun q hq => (habove q hq).1) (hcleared _ hplainGroup)

/-- A provider that was written can be written again. -/
theorem write_again (hdown : p.directory.Descends) (hplain : ∀ m ∈ p.manifests, m.Plain) (hdistinct : Distinct p.manifests)
    (h : p.write cwd t = .ok paths t') : ∃ u, p.write cwd t' = .ok paths u ∧ u.lookup = t'.lookup := by
  by_cases hne : p.manifests = []
  · exact ⟨t', write_again_of_nil hdown hne h, rfl⟩
  · have hreplaced := replaced_of_write hdown hplain hdistinct h
    obtain ⟨hfit, hstarts, -⟩ := needs_of_write hplain hdown hne h
    have hstarts' := starts_of_confined hdown hstarts ((write_keeps hdown hplain cwd).of_ok h)
    obtain ⟨paths', u, hwrite⟩ := write_of_passable hplain hdown hfit.groups hfit.files hstarts' fun g hg =>
      hreplaced.passable hne hg
    have hpaths : paths' = paths := (write_paths hwrite).trans (write_paths h).symm
    refine ⟨u, by rw [hwrite, hpaths], ?_⟩
    refine hreplaced.lookup_eq (replaced_of_write hdown hplain hdistinct hwrite) ?_
    intro q hout habove
    exact hreplaced.lookup_eq_start hout habove

/-- Writing the plain manifests that were registered with a provider, when it succeeds: the paths come in the order of registration,
the manifests replace what the groups held, writing again changes nothing more, and what the groups held before makes no difference. -/
theorem write_replaces (hp : p.Reached) (hdown : p.directory.Descends) (hplain : ∀ m ∈ p.manifests, m.Plain)
    (h : p.write cwd t = .ok paths t') :
    (paths = p.manifests.map fun m => p.directory.join m.relativePath) ∧
      Replaced (p.directory.place cwd) p.manifests t t' ∧
      (∃ u, p.write cwd t' = .ok paths u ∧ u.lookup = t'.lookup) ∧
      ∀ s paths' s', (∀ q, ¬ p.InGroups cwd q → s.lookup q = t.lookup q) → p.write cwd s = .ok paths' s' →
        s'.lookup = t'.lookup := by
  have hreplaced := replaced_of_write hdown hplain hp.distinct h
  refine ⟨write_paths h, hreplaced, write_again hdown hplain hp.distinct h, ?_⟩
  intro s paths' s' hsame hwrite
  refine hreplaced.lookup_eq (replaced_of_write hdown hplain hp.distinct hwrite) ?_
  intro q hout _
  exact hsame q fun ⟨g, hg, hq⟩ => hout g hg hq

/-- A provider with a definition and an object. -/
def mixed : Provider := (new "demo" (.ofString "out")).afterCalls
  [⟨"apiextensions.k8s.io/v1", Manifest.definitionKind, none, some "trials.example.com", .ok .null⟩,
    namespaceCandidate "trials"]

/-- A tree with notes beside the groups of that provider, and with a definition that it has no more. -/
def usedTree : FileTree :=
  (notesTree.insert [Utf8.encode "out", Utf8.encode Manifest.definitionGroup] .directory).insert
    [Utf8.encode "out", Utf8.encode Manifest.definitionGroup, Utf8.encode "old.yaml"] (.file "old")

theorem write_mixed_succeeds : Action.succeeds (mixed.write []) usedTree = true := by decide +kernel

/-- The definition of an earlier run is gone once that provider was written, and writing it again changes nothing. -/
theorem write_replaces_mixed : ∃ paths t', mixed.write [] usedTree = .ok paths t' ∧
    (paths = mixed.manifests.map fun m => mixed.directory.join m.relativePath) ∧
      Replaced (mixed.directory.place []) mixed.manifests usedTree t' ∧
      (∃ u, mixed.write [] t' = .ok paths u ∧ u.lookup = t'.lookup) ∧
      ∀ s paths' s', (∀ q, ¬ mixed.InGroups [] q → s.lookup q = usedTree.lookup q) → mixed.write [] s = .ok paths' s' →
        s'.lookup = t'.lookup := by
  obtain ⟨paths, hwrite⟩ := Action.exists_of_succeeds write_mixed_succeeds
  exact ⟨paths, _, hwrite, write_replaces ⟨_, _, _, rfl⟩ (by decide +kernel) (by decide +kernel) hwrite⟩

end Provider

end ManifestTree
