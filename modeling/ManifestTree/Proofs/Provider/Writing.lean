import ManifestTree.Proofs.Provider.Reach

/-!
# What a provider writes

After a provider wrote its manifests, each of its two group directories holds exactly the manifests of that group (`write_eq_ok`),
whatever the tree was like. Whether it succeeds or fails, it changes nothing outside these two directories, except that the
directories above them may be made (`write_keeps`).
-/

namespace ManifestTree

/-- Where a provider for a place may change a tree: in the two group directories, and by making the directories above them. -/
def Footprint.groups (d : Place) : Footprint where
  inside q := groupPlace d Manifest.definitionGroup <+: q ∨ groupPlace d Manifest.plainGroup <+: q
  above q := q <+: d

namespace Footprint

variable {d : Place} {g : String}

/-- The inside of a footprint is what lies in its groups. -/
theorem inside_groups_iff {q : Place} : (groups d).inside q ↔ ∃ g ∈ Manifest.groupNames, groupPlace d g <+: q := by
  constructor
  · rintro (h | h)
    · exact ⟨Manifest.definitionGroup, Manifest.definitionGroup_mem, h⟩
    · exact ⟨Manifest.plainGroup, Manifest.plainGroup_mem, h⟩
  · rintro ⟨g, hg, h⟩
    rcases Manifest.groupNames_cases hg with rfl | rfl
    · exact Or.inl h
    · exact Or.inr h

/-- Whatever lies in a group directory lies in the footprint. -/
theorem below_within_groups {p : Place} (hg : g ∈ Manifest.groupNames) (hp : groupPlace d g <+: p) :
    (below p).Within (groups d) where
  inside _ hq := inside_groups_iff.mpr ⟨g, hg, hp.trans hq⟩
  above _ hq := hq.elim

/-- The way to a group directory lies in the footprint. -/
theorem wayTo_within_groups (hg : g ∈ Manifest.groupNames) : (wayTo (groupPlace d g)).Within (groups d) where
  inside _ hq := hq.elim
  above q hq := by
    rcases List.prefix_concat_iff.mp hq with hq | hq
    · exact Or.inr (inside_groups_iff.mpr ⟨g, hg, hq ▸ List.prefix_refl q⟩)
    · exact Or.inl hq

end Footprint

namespace Provider

variable {cwd : Place} {directory path : Path} {t t' : FileTree} {m : Manifest} {ms : List Manifest}

theorem descends_joinText_group {g : String} (hg : g ∈ Manifest.groupNames) (hdown : directory.Descends) :
    (directory.joinText g).Descends := Path.descends_of_names (components_joinText_group hg) hdown

/-! ## Clearing a group -/

/-- A group that was cleared: nothing stands at its place and below. -/
theorem clear_eq_ok {cs : List Component} {n : Name} (hpath : path.components = cs ++ [.name n]) (hdown : path.Descends)
    (h : clear cwd path t = .ok () t') : t'.lookup = View.without t.lookup (path.place cwd) := by
  rcases removeDirectory_of_clear h with hremove | hmissing
  · exact FileTree.removeDirectory_ok hpath hremove
  · obtain rfl := FileTree.removeDirectory_unchanged hmissing
    have hnone := FileTree.lookup_of_removeDirectory_notFound (by simp [hpath]) hdown hmissing
    funext q
    rw [View.without]
    split
    · rename_i hq
      exact FileTree.lookup_of_prefix_none hnone hq
    · rfl

/-- A group directory that was cleared. -/
theorem clear_group_eq_ok {g : String} (hg : g ∈ Manifest.groupNames) (hdown : directory.Descends)
    (h : clear cwd (directory.joinText g) t = .ok () t') :
    t'.lookup = View.without t.lookup (groupPlace (directory.place cwd) g) := by
  rw [clear_eq_ok (components_joinText_group hg) (descends_joinText_group hg hdown) h, place_joinText_group hg]

/-! ## Writing a manifest -/

/-- The components of the path of a plain manifest. -/
theorem components_join_relativePath (directory : Path) (hm : m.Plain) :
    (directory.join m.relativePath).components = directory.components ++ m.relativeNames.map .name := by
  rw [Manifest.components_join_relativePath, hm.components_relativePath]

/-- The path of a plain manifest ends in its file name. -/
theorem components_join_relativePath_concat (directory : Path) (hm : m.Plain) :
    (directory.join m.relativePath).components =
      (directory.components ++ [.name (Utf8.encode m.group)]) ++ [.name (Utf8.encode m.fileName)] := by
  rw [components_join_relativePath directory hm, List.append_assoc]
  rfl

/-- The file of a plain manifest is written in the directory of its group. -/
theorem way_of_plain (directory : Path) (hm : m.Plain) :
    m.way directory = directory.components ++ [Utf8.encode m.group].map .name := by
  rw [Manifest.way, components_join_relativePath_concat directory hm, List.dropLast_concat]
  rfl

/-- The place of a plain manifest is its file name in the directory of its group. -/
theorem place_of_plain (cwd : Place) (directory : Path) (hm : m.Plain) :
    m.place cwd directory = directory.place cwd ++ m.relativeNames :=
  Path.place_of_names (components_join_relativePath directory hm) cwd

/-- A manifest that was written: its file is the only thing new in the group directories. -/
theorem writeManifest_eq_ok (hm : m.Plain) (hdown : directory.Descends) (h : writeManifest cwd directory m t = .ok path t') :
    t'.lookup = View.withManifest t.lookup (directory.place cwd) m := by
  obtain ⟨parent, -, hway, hwrite⟩ := writeManifest_eq cwd directory m
  rw [hwrite] at h
  obtain ⟨u, s, hmake, h⟩ := Action.bind_eq_ok.mp h
  obtain ⟨v, s', hfile, hpath⟩ := Action.bind_eq_ok.mp h
  obtain ⟨rfl, rfl⟩ := EStateM.Result.ok.inj hpath
  have hparent := hway.trans (way_of_plain directory hm)
  have hmade := FileTree.makeDirectories_ok (Path.descends_of_names hparent hdown) (by simp [hparent]) (onPath_eq_ok.mp hmake)
  have hwritten := FileTree.writeFile_ok (components_join_relativePath_concat directory hm) (onPath_eq_ok.mp hfile)
  have hplace : (directory.join m.relativePath).place cwd = directory.place cwd ++ m.relativeNames :=
    place_of_plain cwd directory hm
  rw [hwritten, hmade, Path.place_of_names hparent, hplace]
  rfl

/-- Writing plain manifests reaches no further than the groups. -/
theorem manifest_within_groups (hm : m.Plain) (hdown : directory.Descends) (cwd : Place) :
    (Footprint.manifest cwd directory m).Within (.groups (directory.place cwd)) where
  inside q hq := by
    refine Footprint.inside_groups_iff.mpr ⟨m.group, m.group_mem_groupNames, ?_⟩
    rw [show q = m.place cwd directory from hq, place_of_plain cwd directory hm, groupPlace, List.prefix_append_right_inj]
    exact ⟨[Utf8.encode m.fileName], rfl⟩
  above q hq := by
    have hgroup := m.group_mem_groupNames
    have hpasses : Passes cwd (directory.joinText m.group).components q := by
      rw [components_joinText_group hgroup, ← way_of_plain directory hm]
      exact hq
    refine (Footprint.wayTo_within_groups hgroup).above q ?_
    rw [← place_joinText_group hgroup]
    exact (descends_joinText_group hgroup hdown).prefix_place hpasses

theorem writeManifest_keeps (hm : m.Plain) (hdown : directory.Descends) (cwd : Place) :
    Action.Keeps (.groups (directory.place cwd)) (writeManifest cwd directory m) :=
  (writeManifest_reaches cwd directory m).mono (manifest_within_groups hm hdown cwd)

/-! ## Writing all manifests -/

/-- Manifests written after others: a group directory that held the earlier ones holds these too. -/
theorem writeManifests_eq_ok {done : List Manifest} {paths : List Path} (hdown : directory.Descends)
    (hplain : ∀ m ∈ ms, m.Plain) (hdistinct : Distinct (done ++ ms))
    (h : writeManifests cwd directory ms t = .ok paths t') :
    ∀ g, Holds t (groupPlace (directory.place cwd) g) (ofGroup g done) →
      Holds t' (groupPlace (directory.place cwd) g) (ofGroup g (done ++ ms)) := by
  induction ms generalizing done paths t with
  | nil =>
    cases h
    intro g hdone
    rw [List.append_nil]
    exact hdone
  | cons m rest ih =>
    rw [writeManifests_cons] at h
    obtain ⟨path, s, hfirst, h⟩ := Action.bind_eq_ok.mp h
    obtain ⟨others, s', hrest, hpaths⟩ := Action.bind_eq_ok.mp h
    obtain ⟨-, rfl⟩ := EStateM.Result.ok.inj hpaths
    have hlookup := writeManifest_eq_ok (hplain m List.mem_cons_self) hdown hfirst
    have hnew : ∀ other ∈ done, ¬ other.relativePath.Same m.relativePath := fun other hother =>
      (List.pairwise_append.mp hdistinct).2.2 other hother m List.mem_cons_self
    have hassoc : done ++ m :: rest = (done ++ [m]) ++ rest := by simp
    rw [hassoc] at hdistinct ⊢
    intro g hdone
    exact ih (fun m' hm' => hplain m' (List.mem_cons_of_mem _ hm')) hdistinct hrest g (hdone.add hlookup hnew)

/-! ## Writing a provider -/

/-- Nothing of an earlier run is left in the group directories once they were cleared. -/
theorem lookup_groupPlace_of_cleared {v : View} {d : Place} {g : String} (hg : g ∈ Manifest.groupNames) :
    ((v.without (groupPlace d Manifest.definitionGroup)).without (groupPlace d Manifest.plainGroup)) (groupPlace d g) = none := by
  rcases Manifest.groupNames_cases hg with rfl | rfl
  · rw [View.without, View.without, if_pos (List.prefix_refl _)]
    split <;> rfl
  · rw [View.without, if_pos (List.prefix_refl _)]

/-- Once both groups were cleared, nothing stands where they are. -/
theorem lookup_of_clears {s : FileTree} (hdown : directory.Descends)
    (hfirst : clear cwd (directory.joinText Manifest.definitionGroup) t = .ok () s)
    (hsecond : clear cwd (directory.joinText Manifest.plainGroup) s = .ok () t') :
    ∀ g ∈ Manifest.groupNames, t'.lookup (groupPlace (directory.place cwd) g) = none := by
  intro g hg
  rw [clear_group_eq_ok Manifest.plainGroup_mem hdown hsecond, clear_group_eq_ok Manifest.definitionGroup_mem hdown hfirst]
  exact lookup_groupPlace_of_cleared hg

/-- The group directories of a provider that wrote its manifests hold exactly these. -/
theorem write_eq_ok {p : Provider} {paths : List Path} (hdown : p.directory.Descends) (hplain : ∀ m ∈ p.manifests, m.Plain)
    (hdistinct : Distinct p.manifests) (h : p.write cwd t = .ok paths t') :
    ∀ g ∈ Manifest.groupNames, Holds t' (groupPlace (p.directory.place cwd) g) (ofGroup g p.manifests) := by
  rw [write_eq] at h
  obtain ⟨u, s, hfirst, h⟩ := Action.bind_eq_ok.mp h
  obtain ⟨v, s', hsecond, h⟩ := Action.bind_eq_ok.mp h
  have hcleared := lookup_of_clears hdown hfirst hsecond
  have hnone : Distinct ([] ++ p.manifests) := hdistinct
  exact fun g hg => writeManifests_eq_ok hdown hplain hnone h g (Holds.nil (hcleared g hg))

/-- A provider of plain manifests reaches no further than its groups. -/
theorem provider_within_groups {p : Provider} (hdown : p.directory.Descends) (hplain : ∀ m ∈ p.manifests, m.Plain) (cwd : Place) :
    (Footprint.provider cwd p).Within (.groups (p.directory.place cwd)) where
  inside q hq := by
    rcases hq with hq | ⟨m, hm, hq⟩
    · exact Footprint.inside_groups_iff.mpr hq
    · exact (manifest_within_groups (hplain m hm) hdown cwd).inside q hq
  above := fun q ⟨m, hm, hq⟩ => (manifest_within_groups (hplain m hm) hdown cwd).above q hq

/-- Writing a provider changes nothing outside its group directories but missing directories above them. -/
theorem write_keeps {p : Provider} (hdown : p.directory.Descends) (hplain : ∀ m ∈ p.manifests, m.Plain) (cwd : Place) :
    Action.Keeps (.groups (p.directory.place cwd)) (p.write cwd) :=
  (write_reaches p cwd).mono (provider_within_groups hdown hplain cwd)

end Provider

end ManifestTree
