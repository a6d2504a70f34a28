import ManifestTree.Proofs.Provider.ReadingBack

/-!
# What a provider touches outside its groups

Writing a provider is meant to leave every file alone that is not in one of its two group directories. It does so as long as no path
of a manifest goes up. A path that goes up can lead anywhere, and whatever file stands at its place gets the text of the manifest
(`write_touches`).
-/

namespace ManifestTree

open Manifest (lastAt)

/-- A file that only one of two trees has at a place: it was created, changed or removed. -/
def FileTouched (t t' : FileTree) (q : Place) : Prop :=
  ∃ text, ¬ (t'.lookup q = some (.file text) ↔ t.lookup q = some (.file text))

/-- Files are touched only inside a footprint. -/
theorem FileTouched.inside {f : Footprint} {t t' : FileTree} {q : Place} (h : FileTouched t t' q) (hconfined : Confined f t t') :
    f.inside q := by
  obtain ⟨text, htext⟩ := h
  by_contra hin
  exact htext (hconfined.file_iff hin text)

/-- A file that was put at a place touches it exactly when it did not stand there before. -/
theorem fileTouched_iff_of_file {t t' : FileTree} {q : Place} {text : String} (h : t'.lookup q = some (.file text)) :
    FileTouched t t' q ↔ t.lookup q ≠ some (.file text) := by
  constructor
  · rintro ⟨text', htouched⟩ hbefore
    rw [h, hbefore] at htouched
    exact htouched Iff.rfl
  · intro hbefore
    exact ⟨text, fun hiff => hbefore (hiff.mp h)⟩

namespace Provider

variable {cwd q : Place} {t t' : FileTree} {p : Provider}

/-- A place in a group directory of a provider. -/
def InGroups (cwd : Place) (p : Provider) (q : Place) : Prop :=
  ∃ g ∈ Manifest.groupNames, groupPlace (p.directory.place cwd) g <+: q

instance (cwd : Place) (p : Provider) (q : Place) : Decidable (p.InGroups cwd q) :=
  inferInstanceAs (Decidable (∃ g ∈ Manifest.groupNames, _))

/-- The file of a manifest that lies outside the groups: its path goes up. -/
theorem not_descends_of_outside {m : Manifest} (h : ¬ p.InGroups cwd (m.place cwd p.directory)) : ¬ m.relativePath.Descends :=
  fun hdown => h ⟨m.group, m.group_mem_groupNames, Manifest.groupPlace_prefix_place hdown cwd p.directory⟩

/-- Where writing a provider touches a file, the place is in a group, or it is the file of a manifest whose path goes up. -/
theorem inGroups_of_touched (h : FileTouched t (Action.after (p.write cwd) t) q) :
    p.InGroups cwd q ∨ ∃ m ∈ p.manifests, ¬ m.relativePath.Descends ∧ q = m.place cwd p.directory := by
  by_cases hin : p.InGroups cwd q
  · exact Or.inl hin
  · rcases h.inside (write_reaches p cwd t) with hgroup | ⟨m, hm, hq⟩
    · exact absurd hgroup hin
    · exact Or.inr ⟨m, hm, not_descends_of_outside (hq ▸ hin), hq⟩

/-- A provider that was written touches outside its groups exactly the files that manifests lead to and that did not have the text of
the last of these. -/
theorem touched_iff_of_write {paths : List Path} (h : p.write cwd t = .ok paths t') (hout : ¬ p.InGroups cwd q) :
    FileTouched t t' q ↔
      ∃ m, lastAt cwd p.directory q p.manifests = some m ∧ t.lookup q ≠ some (.file m.body.toYaml) := by
  obtain ⟨s, hcleared, hwrote⟩ := wrote_of_write h
  have hbefore : s.lookup q = t.lookup q := hcleared q fun g hg hprefix => hout ⟨g, hg, hprefix⟩
  cases hlast : lastAt cwd p.directory q p.manifests with
  | none =>
    have hfiles := hwrote.files q hlast
    rw [hbefore] at hfiles
    constructor
    · rintro ⟨text, htouched⟩
      exact absurd (hfiles text) htouched
    · rintro ⟨m, hm, -⟩
      cases hm
  | some m =>
    rw [fileTouched_iff_of_file (hwrote.written q m hlast)]
    constructor
    · intro hne
      exact ⟨m, rfl, hne⟩
    · rintro ⟨m', hm', hne⟩
      rw [Option.some.inj hm']
      exact hne

/-- Writing any provider, whether it succeeds or fails, touches only files in its groups and the files of manifests whose paths go up.
And those it does touch: when it succeeds, the file of every manifest that lies outside the groups has the text of the last manifest
there, whatever stood at the place before. -/
theorem write_touches (p : Provider) (cwd : Place) (t : FileTree) :
    (∀ q, FileTouched t (Action.after (p.write cwd) t) q →
        p.InGroups cwd q ∨ ∃ m ∈ p.manifests, ¬ m.relativePath.Descends ∧ q = m.place cwd p.directory) ∧
      ∀ paths t', p.write cwd t = .ok paths t' → ∀ q, ¬ p.InGroups cwd q →
        (FileTouched t t' q ↔
          ∃ m, lastAt cwd p.directory q p.manifests = some m ∧ t.lookup q ≠ some (.file m.body.toYaml)) :=
  ⟨fun _ hq => inGroups_of_touched hq, fun _ _ hwrite _ hout => touched_iff_of_write hwrite hout⟩

/-- A provider with one namespace, whose name goes up to the directory of the provider. -/
def escaping : Provider := (new "demo" (.ofString "out")).afterCalls [namespaceCandidate "a/../../notes"]

/-- The place of a file in the directory of that provider. -/
def notesPlace : Place := [Utf8.encode "out", Utf8.encode "notes.yaml"]

/-- A tree with that file in it. -/
def notesTree : FileTree :=
  (FileTree.empty.insert [Utf8.encode "out"] .directory).insert notesPlace (.file "keep me")

theorem write_escaping_succeeds : Action.succeeds (escaping.write []) notesTree = true := by decide +kernel

/-- What that provider touches outside its groups is the file that its manifest leads to. -/
theorem write_touches_escaping : ∃ paths t', escaping.write [] notesTree = .ok paths t' ∧ ∀ q, ¬ escaping.InGroups [] q →
    (FileTouched notesTree t' q ↔
      ∃ m, lastAt [] escaping.directory q escaping.manifests = some m ∧ notesTree.lookup q ≠ some (.file m.body.toYaml)) := by
  obtain ⟨paths, hwrite⟩ := Action.exists_of_succeeds write_escaping_succeeds
  exact ⟨paths, _, hwrite, (write_touches escaping [] notesTree).2 paths _ hwrite⟩

/-- Writing does not leave all files outside the groups alone: a provider for a directory without `..` loses the notes in it. -/
theorem escaping_overwrites_notes : escaping.Reached ∧ escaping.directory.Descends ∧
    notesTree.lookup notesPlace = some (.file "keep me") ∧ ¬ escaping.InGroups [] notesPlace ∧
      FileTouched notesTree (Action.after (escaping.write []) notesTree) notesPlace := by
  have hbefore : notesTree.lookup notesPlace = some (.file "keep me") := by decide +kernel
  have hafter : (Action.after (escaping.write []) notesTree).lookup notesPlace ≠ some (.file "keep me") := by decide +kernel
  refine ⟨⟨_, _, _, rfl⟩, by decide +kernel, hbefore, by decide +kernel, "keep me", ?_⟩
  intro hiff
  exact hafter (hiff.mpr hbefore)

end Provider

end ManifestTree
