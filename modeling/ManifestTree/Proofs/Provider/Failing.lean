import ManifestTree.Proofs.Provider.Replacing

/-!
# What a failing write leaves

A provider of plain manifests that fails to write stops in one of two stages. While it clears its groups, the only thing it may have
done is to remove the group of definitions (`StoppedClearing`). After that it stops at one of its manifests, and its groups hold the
files of the manifests before that one and nothing else, whatever they held before (`StoppedWriting`). In both cases nothing outside
the groups has changed but missing directories above them (`write_stops`).
-/

namespace ManifestTree.Provider

variable {cwd : Place} {directory path : Path} {p : Provider} {m : Manifest} {ms : List Manifest} {t t' : FileTree} {e : RenderError}

/-! ## Two stages -/

/-- The first stage of writing a provider: its group directories are cleared. -/
def clearGroups (p : Provider) (cwd : Place) : Action RenderError Unit := p.groupDirectories.forM (clear cwd)

/-- The second stage of writing a provider: its manifests are written. -/
theorem write_eq_stages (p : Provider) (cwd : Place) :
    p.write cwd = (p.clearGroups cwd >>= fun _ => writeManifests cwd p.directory p.manifests) := rfl

/-- The group of definitions is cleared first. -/
theorem clearGroups_eq (p : Provider) (cwd : Place) : p.clearGroups cwd =
    (clear cwd (p.directory.joinText Manifest.definitionGroup) >>= fun _ =>
      clear cwd (p.directory.joinText Manifest.plainGroup)) := by
  unfold clearGroups groupDirectories
  simp only [List.forM, bind_pure_unit]

/-- Once the groups were cleared, they hold nothing. -/
theorem holds_of_clearGroups {u : Unit} (hdown : p.directory.Descends) (h : p.clearGroups cwd t = .ok u t') :
    ∀ g ∈ Manifest.groupNames, Holds t' (groupPlace (p.directory.place cwd) g) (ofGroup g []) := by
  rw [clearGroups_eq] at h
  obtain ⟨v, s, hfirst, hsecond⟩ := Action.bind_eq_ok.mp h
  exact fun g hg => Holds.nil (lookup_of_clears hdown hfirst hsecond g hg)

/-! ## Stopping at a group -/

/-- How writing a provider stopped at one of its groups: the group of definitions is as it was or gone, and nothing else has changed. -/
structure StoppedClearing (cwd : Place) (p : Provider) (t t' : FileTree) (e : RenderError) : Prop where
  stage : p.clearGroups cwd t = .error e t'
  error : ∃ g ∈ Manifest.groupNames, ∃ cause, e = .io (p.directory.joinText g) cause
  definitions : (∀ q, groupPlace (p.directory.place cwd) Manifest.definitionGroup <+: q → t'.lookup q = t.lookup q) ∨
    ∀ q, groupPlace (p.directory.place cwd) Manifest.definitionGroup <+: q → t'.lookup q = none
  manifests : ∀ q, groupPlace (p.directory.place cwd) Manifest.plainGroup <+: q → t'.lookup q = t.lookup q
  others : ∀ q, ¬ p.InGroups cwd q → t'.lookup q = t.lookup q
  files : ∀ q text, t'.lookup q = some (.file text) → t.lookup q = some (.file text)

/-- The two groups of a directory lie apart. -/
theorem not_definitions_of_plain {d q : Place} (hq : groupPlace d Manifest.plainGroup <+: q) :
    ¬ groupPlace d Manifest.definitionGroup <+: q := by
  intro h
  have hle : (groupPlace d Manifest.definitionGroup).length ≤ (groupPlace d Manifest.plainGroup).length := by simp [groupPlace]
  have hprefix := List.prefix_of_prefix_length_le h hq hle
  rw [groupPlace, groupPlace, List.prefix_append_right_inj] at hprefix
  exact absurd hprefix (by decide)

/-- A provider whose groups could not be cleared. -/
theorem stoppedClearing_of_error (hdown : p.directory.Descends) (h : p.clearGroups cwd t = .error e t') :
    StoppedClearing cwd p t t' e := by
  have hstage := h
  rw [clearGroups_eq] at h
  rcases Action.bind_eq_error.mp h with hfirst | ⟨u, s, hfirst, hsecond⟩
  · obtain ⟨rfl, cause, he⟩ := clear_eq_error hfirst
    exact {
      stage := hstage
      error := ⟨_, Manifest.definitionGroup_mem, cause, he⟩
      definitions := Or.inl fun _ _ => rfl
      manifests := fun _ _ => rfl
      others := fun _ _ => rfl
      files := fun _ _ hq => hq }
  · obtain ⟨rfl, cause, he⟩ := clear_eq_error hsecond
    have hcleared := clear_group_eq_ok Manifest.definitionGroup_mem hdown hfirst
    have hgone : ∀ q, groupPlace (p.directory.place cwd) Manifest.definitionGroup <+: q → t'.lookup q = none := by
      intro q hq
      rw [hcleared, View.without, if_pos hq]
    have hkept : ∀ q, ¬ groupPlace (p.directory.place cwd) Manifest.definitionGroup <+: q → t'.lookup q = t.lookup q := by
      intro q hq
      rw [hcleared, View.without, if_neg hq]
    refine ⟨hstage, ⟨_, Manifest.plainGroup_mem, cause, he⟩, Or.inr hgone, ?_, ?_, ?_⟩
    · exact fun q hq => hkept q (not_definitions_of_plain hq)
    · exact fun q hq => hkept q fun hin => hq ⟨_, Manifest.definitionGroup_mem, hin⟩
    · intro q text hfile
      by_cases hq : groupPlace (p.directory.place cwd) Manifest.definitionGroup <+: q
      · rw [hgone q hq] at hfile
        cases hfile
      · rw [← hkept q hq]
        exact hfile

/-! ## Stopping at a manifest -/

/-- An error that names the file of a manifest, or the directory of that file. -/
def NamesFile (directory : Path) (m : Manifest) (e : RenderError) : Prop :=
  ∃ path cause, e = .io path cause ∧
    (path = directory.join m.relativePath ∨ (directory.join m.relativePath).parent? = some path)

/-- A manifest that could not be written: nothing has changed but missing directories down to its group, and the error names the file
or its directory. -/
theorem writeManifest_eq_error (hm : m.Plain) (hdown : directory.Descends) (h : writeManifest cwd directory m t = .error e t') :
    Confined (.wayTo (groupPlace (directory.place cwd) m.group)) t t' ∧ NamesFile directory m e := by
  obtain ⟨parent, hparent, hway, hwrite⟩ := writeManifest_eq cwd directory m
  have hnames := hway.trans (way_of_plain directory hm)
  have hplace : parent.place cwd = groupPlace (directory.place cwd) m.group := Path.place_of_names hnames cwd
  have hkeeps := FileTree.makeDirectories_keeps (Path.descends_of_names hnames hdown) cwd
  rw [hplace] at hkeeps
  rw [hwrite] at h
  rcases Action.bind_eq_error.mp h with hmake | ⟨u, s, hmake, h⟩
  · obtain ⟨cause, hmake, he⟩ := onPath_eq_error.mp hmake
    exact ⟨hkeeps.of_error hmake, parent, cause, he, Or.inr hparent⟩
  · have hmade := hkeeps.of_ok (onPath_eq_ok.mp hmake)
    rcases Action.bind_eq_error.mp h with hfile | ⟨v, s', -, hpure⟩
    · obtain ⟨cause, hfile, he⟩ := onPath_eq_error.mp hfile
      rw [FileTree.writeFile_error hfile]
      exact ⟨hmade, _, cause, he, Or.inl rfl⟩
    · cases hpure

/-- Manifests that could not all be written: some were, and then the next one was not. -/
theorem writeManifests_eq_error (h : writeManifests cwd directory ms t = .error e t') : ∃ done m rest paths s,
    ms = done ++ m :: rest ∧ writeManifests cwd directory done t = .ok paths s ∧ writeManifest cwd directory m s = .error e t' := by
  induction ms generalizing t with
  | nil => cases h
  | cons first others ih =>
    rw [writeManifests_cons] at h
    rcases Action.bind_eq_error.mp h with hfirst | ⟨path, s, hfirst, h⟩
    · exact ⟨[], first, others, [], t, rfl, rfl, hfirst⟩
    · rcases Action.bind_eq_error.mp h with hothers | ⟨paths, s', -, hpure⟩
      · obtain ⟨done, m, rest, paths, s', rfl, hdone, hfails⟩ := ih hothers
        refine ⟨first :: done, m, rest, path :: paths, s', rfl, ?_, hfails⟩
        rw [writeManifests_cons]
        exact Action.bind_eq_ok.mpr ⟨path, s, hfirst, Action.bind_eq_ok.mpr ⟨paths, s', hdone, rfl⟩⟩
      · cases hpure

/-! ## What the groups hold then -/

section

variable {d q : Place} {s : FileTree} {done : List Manifest} (hheld : ∀ g ∈ Manifest.groupNames, Holds s (groupPlace d g) (ofGroup g done))
  (hfails : Confined (.wayTo (groupPlace d m.group)) s t')

include hheld hfails

/-- The files in the groups are those of the manifests that were written before another one failed. -/
theorem file_iff_of_fails (hin : ∃ g ∈ Manifest.groupNames, groupPlace d g <+: q) (text : String) :
    t'.lookup q = some (.file text) ↔ ∃ m ∈ done, d ++ m.relativeNames = q ∧ m.body.toYaml = text := by
  rw [hfails.file_iff (fun hq => hq.elim) text]
  exact file_iff_of_holds hheld hin text

/-- The directories in the groups are these themselves, for the manifests that were written and for the one that failed. -/
theorem directory_of_fails (hin : ∃ g ∈ Manifest.groupNames, groupPlace d g <+: q) (hq : t'.lookup q = some .directory) :
    ∃ m' ∈ done ++ [m], q = groupPlace d m'.group := by
  rcases hfails q with hnone | hsame | ⟨hway, -, -⟩
  · exact hnone.elim
  · obtain ⟨m', hm', hplace⟩ := directory_of_holds hheld hin (hsame ▸ hq)
    exact ⟨m', List.mem_append_left _ hm', hplace⟩
  · -- a place above one group and in one is that group
    obtain ⟨g, -, hprefix⟩ := hin
    have hlength : (groupPlace d g).length = (groupPlace d m.group).length := by simp [groupPlace]
    exact ⟨m, by simp, hway.eq_of_length_le (hlength ▸ hprefix.length_le)⟩

/-- Nothing stands where the file of a manifest with another path belongs. -/
theorem lookup_of_fails {m' : Manifest} (hm' : m'.Plain) (hdone : ∀ other ∈ done, other.Plain)
    (hnew : ∀ other ∈ done, ¬ other.relativePath.Same m'.relativePath) : t'.lookup (d ++ m'.relativeNames) = none := by
  have hplace := m'.append_relativeNames d
  have hin : ∃ g ∈ Manifest.groupNames, groupPlace d g <+: d ++ m'.relativeNames :=
    ⟨m'.group, m'.group_mem_groupNames, _, hplace.symm⟩
  cases hlookup : t'.lookup (d ++ m'.relativeNames) with
  | none => rfl
  | some entry =>
    cases entry with
    | file text =>
      obtain ⟨other, hother, heq, -⟩ := (file_iff_of_fails hheld hfails hin text).mp hlookup
      refine absurd ?_ (hnew other hother)
      rw [Path.Same, (hdone other hother).components_relativePath, hm'.components_relativePath, List.append_cancel_left heq]
    | directory =>
      obtain ⟨other, -, heq⟩ := directory_of_fails hheld hfails hin hlookup
      have hlength := congrArg List.length (hplace.symm.trans heq)
      simp [groupPlace] at hlength

end

/-- How writing a provider stopped at a manifest: its groups hold the files of the manifests before, and besides these files there are
only the directories of the groups. Nothing stands where the files of this manifest and of those behind it belong. -/
structure StoppedWriting (cwd : Place) (p : Provider) (k : Nat) (t t' : FileTree) (e : RenderError) : Prop where
  stage : ∃ s, p.clearGroups cwd t = .ok () s
  error : ∃ m, p.manifests[k]? = some m ∧ NamesFile p.directory m e
  files : ∀ q, p.InGroups cwd q → ∀ text, t'.lookup q = some (.file text) ↔
    ∃ m ∈ p.manifests.take k, m.place cwd p.directory = q ∧ m.body.toYaml = text
  directories : ∀ q, p.InGroups cwd q → t'.lookup q = some .directory →
    ∃ m ∈ p.manifests.take (k + 1), q = groupPlace (p.directory.place cwd) m.group
  missing : ∀ m ∈ p.manifests.drop k, t'.lookup (m.place cwd p.directory) = none

/-- A provider that was cleared and then could not write all of its manifests. -/
theorem stoppedWriting_of_error {s : FileTree} (hdown : p.directory.Descends) (hplain : ∀ m ∈ p.manifests, m.Plain)
    (hdistinct : Distinct p.manifests) (hcleared : p.clearGroups cwd t = .ok () s)
    (h : writeManifests cwd p.directory p.manifests s = .error e t') : ∃ k, StoppedWriting cwd p k t t' e := by
  obtain ⟨done, m, rest, paths, s', hms, hdone, hfails⟩ := writeManifests_eq_error h
  have htake : p.manifests.take done.length = done := by simp [hms]
  have htake' : p.manifests.take (done.length + 1) = done ++ [m] := by simp [hms, List.take_append, List.take_of_length_le]
  have hdrop : p.manifests.drop done.length = m :: rest := by simp [hms]
  rw [hms] at hplain hdistinct
  obtain ⟨hdistinctDone, -, hnew⟩ := List.pairwise_append.mp hdistinct
  have hplainDone : ∀ m' ∈ done, m'.Plain := fun m' hm' => hplain m' (List.mem_append_left _ hm')
  have hplainRest : ∀ m' ∈ m :: rest, m'.Plain := fun m' hm' => hplain m' (List.mem_append_right _ hm')
  have hheld : ∀ g ∈ Manifest.groupNames, Holds s' (groupPlace (p.directory.place cwd) g) (ofGroup g done) := by
    have hnone : Distinct ([] ++ done) := hdistinctDone
    exact fun g hg => writeManifests_eq_ok hdown hplainDone hnone hdone g (holds_of_clearGroups hdown hcleared g hg)
  obtain ⟨hconfined, herror⟩ := writeManifest_eq_error (hplainRest m List.mem_cons_self) hdown hfails
  refine ⟨done.length, ⟨s, hcleared⟩, ⟨m, by simp [hms], herror⟩, ?_, ?_, ?_⟩
  · intro q hin text
    rw [htake, file_iff_of_fails hheld hconfined hin text]
    refine exists_congr fun m' => and_congr_right fun hm' => ?_
    rw [place_of_plain cwd p.directory (hplainDone m' hm')]
  · intro q hin hq
    rw [htake']
    exact directory_of_fails hheld hconfined hin hq
  · intro m' hm'
    rw [hdrop] at hm'
    rw [place_of_plain cwd p.directory (hplainRest m' hm')]
    exact lookup_of_fails hheld hconfined (hplainRest m' hm') hplainDone fun other hother => hnew other hother m' hm'

/-- What is left when a provider of plain manifests cannot be written. Nothing outside its groups has changed but missing directories
above them. If the failure came while clearing, only the group of definitions may be gone. Otherwise it came at a manifest, and the
groups hold the files of the manifests before that one and no others. -/
theorem write_stops (hp : p.Reached) (hdown : p.directory.Descends) (hplain : ∀ m ∈ p.manifests, m.Plain)
    (h : p.write cwd t = .error e t') :
    Confined (.groups (p.directory.place cwd)) t t' ∧
      (StoppedClearing cwd p t t' e ∨ ∃ k, StoppedWriting cwd p k t t' e) := by
  refine ⟨(write_keeps hdown hplain cwd).of_error h, ?_⟩
  rw [write_eq_stages] at h
  rcases Action.bind_eq_error.mp h with hclear | ⟨u, s, hclear, hwrite⟩
  · exact Or.inl (stoppedClearing_of_error hdown hclear)
  · exact Or.inr (stoppedWriting_of_error hdown hplain hp.distinct hclear hwrite)

/-- A provider with two namespaces, of which the second has a name that no file can have. -/
def unwritable : Provider := (new "demo" (.ofString "out")).afterCalls [namespaceCandidate "trials", namespaceCandidate "a\x00"]

/-- Where there were notes and an old definition, that provider leaves its first namespace only, and fails at the second. -/
theorem write_stops_unwritable : ∃ e t', unwritable.write [] usedTree = .error e t' ∧
    Confined (.groups (unwritable.directory.place [])) usedTree t' ∧ StoppedWriting [] unwritable 1 usedTree t' e := by
  have hreached : unwritable.Reached := ⟨_, _, _, rfl⟩
  have hfails : Action.succeeds (unwritable.write []) usedTree = false := by decide +kernel
  have hclears : Action.succeeds (unwritable.clearGroups []) usedTree = true := by decide +kernel
  have hfirst : ∃ m ∈ unwritable.manifests.drop 0,
      (Action.after (unwritable.write []) usedTree).lookup (m.place [] unwritable.directory) ≠ none := by decide +kernel
  obtain ⟨e, hwrite⟩ := Action.exists_of_fails hfails
  obtain ⟨hconfined, hclearing | ⟨k, hwriting⟩⟩ := write_stops hreached (by decide +kernel) (by decide +kernel) hwrite
  · rw [Action.succeeds_of_error hclearing.stage] at hclears
    cases hclears
  · rcases k with _ | _ | k
    · obtain ⟨m, hm, hstands⟩ := hfirst
      exact absurd (hwriting.missing m hm) hstands
    · exact ⟨e, _, hwrite, hconfined, hwriting⟩
    · obtain ⟨m, hm, -⟩ := hwriting.error
      cases hm

end ManifestTree.Provider
