import Mathlib.Data.List.Pairwise
import ManifestTree.Object.Core
import ManifestTree.Proofs.FileTree.Reading
import ManifestTree.Proofs.Provider.Calls
import ManifestTree.Proofs.Provider.Reach

/-!
# Reading manifests back

Two manifests with different paths can still have one file: a name like `a/../b` goes up again, and only the file tree finds out where
its path leads. The file of a place then has the text of the last manifest that leads there (`Wrote.readFile_eq`), so after a
successful run each manifest reads back as its own text exactly when no two with different texts lead to one place
(`manifests_read_back_iff`). That is so when no path goes up: two such paths lead to one place only when they are the same
(`Manifest.same_of_place_eq`).
-/

namespace ManifestTree

namespace Manifest

variable {cwd q : Place} {directory : Path} {m : Manifest} {ms : List Manifest}

/-- The last of some manifests whose path leads to a place. -/
def lastAt (cwd : Place) (directory : Path) (q : Place) (ms : List Manifest) : Option Manifest :=
  (ms.filter fun m => m.place cwd directory = q).getLast?

/-- The last of manifests and others after them: the last of the others, if one of these leads there at all. -/
theorem lastAt_append (cwd : Place) (directory : Path) (q : Place) (ms ms' : List Manifest) :
    lastAt cwd directory q (ms ++ ms') = (lastAt cwd directory q ms').or (lastAt cwd directory q ms) := by
  unfold lastAt
  rw [List.filter_append, List.getLast?_append]

theorem lastAt_singleton (cwd : Place) (directory : Path) (q : Place) (m : Manifest) :
    lastAt cwd directory q [m] = if m.place cwd directory = q then some m else none := by
  unfold lastAt
  by_cases h : m.place cwd directory = q <;> simp [h]

/-- The last manifest that leads to a place is one of them and leads there. -/
theorem lastAt_eq_some (h : lastAt cwd directory q ms = some m) : m ∈ ms ∧ m.place cwd directory = q := by
  have hmem := List.mem_of_getLast? h
  rw [List.mem_filter] at hmem
  exact ⟨hmem.1, of_decide_eq_true hmem.2⟩

/-- Where a manifest leads there is a last one that does. -/
theorem exists_lastAt (hm : m ∈ ms) (hq : m.place cwd directory = q) : ∃ last, lastAt cwd directory q ms = some last := by
  refine Option.ne_none_iff_exists'.mp ?_
  intro hnone
  have hmem : m ∈ ms.filter fun m => m.place cwd directory = q := List.mem_filter.mpr ⟨hm, decide_eq_true hq⟩
  rw [List.getLast?_eq_none_iff.mp hnone] at hmem
  cases hmem

/-- Manifests whose paths never go up have one file only when they have one path. -/
theorem same_of_place_eq {m' : Manifest} (hm : m.relativePath.Descends) (hm' : m'.relativePath.Descends)
    (h : m.place cwd directory = m'.place cwd directory) : m.relativePath.Same m'.relativePath := by
  obtain ⟨ns, hns⟩ := Path.exists_names m.up_or_name_of_mem_relativePath hm
  obtain ⟨ns', hns'⟩ := Path.exists_names m'.up_or_name_of_mem_relativePath hm'
  have hpath : (directory.join m.relativePath).components = directory.components ++ ns.map .name := by
    rw [components_join_relativePath, hns]
  have hpath' : (directory.join m'.relativePath).components = directory.components ++ ns'.map .name := by
    rw [components_join_relativePath, hns']
  rw [place, place, Path.place_of_names hpath, Path.place_of_names hpath', List.append_cancel_left_eq] at h
  rw [Path.Same, hns, hns', h]

end Manifest

open Manifest (lastAt)

/-- What writing some manifests leaves in a tree: the path of each leads to its place, the file of a place has the text of the last
manifest there, other files are what they were, and directories stay. -/
structure Wrote (cwd : Place) (directory : Path) (ms : List Manifest) (t t' : FileTree) : Prop where
  leads : ∀ m ∈ ms, t'.Leads cwd (directory.join m.relativePath) (m.place cwd directory)
  written : ∀ q m, lastAt cwd directory q ms = some m → t'.lookup q = some (.file m.body.toYaml)
  files : ∀ q, lastAt cwd directory q ms = none → ∀ text, t'.lookup q = some (.file text) ↔ t.lookup q = some (.file text)
  directories : ∀ q, t.lookup q = some .directory → t'.lookup q = some .directory

namespace Wrote

variable {cwd : Place} {directory : Path} {m : Manifest} {ms ms' : List Manifest} {t t' s : FileTree}

theorem nil (cwd : Place) (directory : Path) (t : FileTree) : Wrote cwd directory [] t t where
  leads _ hm := by cases hm
  written _ _ h := by cases h
  files _ _ _ := Iff.rfl
  directories _ h := h

/-- Writing manifests and then others. -/
theorem append (h : Wrote cwd directory ms t s) (h' : Wrote cwd directory ms' s t') :
    Wrote cwd directory (ms ++ ms') t t' where
  leads m hm := by
    rcases List.mem_append.mp hm with hm | hm
    · exact (h.leads m hm).of_directories h'.directories
    · exact h'.leads m hm
  written q m hlast := by
    rw [Manifest.lastAt_append] at hlast
    cases hlast' : lastAt cwd directory q ms' with
    | some m' =>
      rw [hlast', Option.some_or] at hlast
      rw [← Option.some.inj hlast]
      exact h'.written q m' hlast'
    | none =>
      rw [hlast', Option.none_or] at hlast
      exact (h'.files q hlast' _).mpr (h.written q m hlast)
  files q hnone text := by
    rw [Manifest.lastAt_append, Option.or_eq_none_iff] at hnone
    exact (h'.files q hnone.1 text).trans (h.files q hnone.2 text)
  directories q hq := h'.directories q (h.directories q hq)

/-- The path of a written manifest gives the text of the last one that leads to its place. -/
theorem readFile_eq (h : Wrote cwd directory ms t t') (hm : m ∈ ms) :
    ∃ last, lastAt cwd directory (m.place cwd directory) ms = some last ∧
      FileTree.readFile cwd (directory.join m.relativePath) t' = .ok last.body.toYaml t' := by
  obtain ⟨last, hlast⟩ := Manifest.exists_lastAt hm rfl
  exact ⟨last, hlast, (h.leads m hm).readFile_eq (h.written _ last hlast)⟩

end Wrote

/-- In the tree the file of a manifest has the manifest's own text. -/
def Manifest.ReadsBack (cwd : Place) (directory : Path) (t : FileTree) (m : Manifest) : Prop :=
  FileTree.readFile cwd (directory.join m.relativePath) t = .ok m.body.toYaml t

namespace Provider

variable {cwd : Place} {directory path : Path} {t t' : FileTree} {m : Manifest} {ms : List Manifest} {p : Provider}

/-! ## What writing leaves behind -/

/-- Writing one manifest: missing directories are made, and then its file is put at its place. -/
theorem wrote_of_writeManifest (h : writeManifest cwd directory m t = .ok path t') : Wrote cwd directory [m] t t' := by
  obtain ⟨parent, -, -, hwrite⟩ := writeManifest_eq cwd directory m
  obtain ⟨-, n, hpath⟩ := m.components_eq_way directory
  rw [hwrite] at h
  obtain ⟨u, s, hmake, h⟩ := Action.bind_eq_ok.mp h
  obtain ⟨v, s', hfile, hpure⟩ := Action.bind_eq_ok.mp h
  obtain ⟨-, rfl⟩ := EStateM.Result.ok.inj hpure
  have hmade : Confined (.along cwd parent.components) t s :=
    (FileTree.makeDirectories_along cwd parent).of_ok (onPath_eq_ok.mp hmake)
  have hwritten := onPath_eq_ok.mp hfile
  have hfree : s.lookup (m.place cwd directory) ≠ some .directory := (FileTree.writeFile_eq_ok hwritten).2.1
  have hlookup : s'.lookup = View.withFile s.lookup (m.place cwd directory) m.body.toYaml := FileTree.writeFile_ok hpath hwritten
  have hdirectories : ∀ q, s.lookup q = some .directory → s'.lookup q = some .directory := by
    intro q hq
    have hne : q ≠ m.place cwd directory := fun heq => hfree (heq ▸ hq)
    rw [hlookup, View.withFile, if_neg hne, hq]
  refine ⟨?_, ?_, ?_, ?_⟩
  · intro m' hm'
    rw [List.mem_singleton.mp hm']
    exact (FileTree.leads_of_writeFile hwritten).of_directories hdirectories
  · intro q m' hlast
    obtain ⟨hm', hq⟩ := Manifest.lastAt_eq_some hlast
    rw [List.mem_singleton.mp hm'] at hq ⊢
    rw [hlookup, View.withFile, if_pos hq.symm]
  · intro q hnone text
    have hne : q ≠ m.place cwd directory := by
      intro heq
      rw [Manifest.lastAt_singleton, if_pos heq.symm] at hnone
      cases hnone
    rw [hlookup, View.withFile, if_neg hne]
    exact hmade.file_iff id text
  · intro q hq
    exact hdirectories q ((hmade.lookup_of_some id (by simp [hq])).trans hq)

/-- Writing manifests in turn. -/
theorem wrote_of_writeManifests {paths : List Path} (h : writeManifests cwd directory ms t = .ok paths t') :
    Wrote cwd directory ms t t' := by
  induction ms generalizing paths t with
  | nil =>
    cases h
    exact .nil cwd directory _
  | cons m rest ih =>
    rw [writeManifests_cons] at h
    obtain ⟨path, s, hfirst, h⟩ := Action.bind_eq_ok.mp h
    obtain ⟨others, s', hrest, hpure⟩ := Action.bind_eq_ok.mp h
    obtain ⟨-, rfl⟩ := EStateM.Result.ok.inj hpure
    exact (wrote_of_writeManifest hfirst).append (ih hrest)

/-- Writing a provider: its groups are cleared, and then its manifests are written. -/
theorem wrote_of_write {paths : List Path} (h : p.write cwd t = .ok paths t') :
    ∃ s, (∀ q, (∀ g ∈ Manifest.groupNames, ¬ groupPlace (p.directory.place cwd) g <+: q) → s.lookup q = t.lookup q) ∧
      Wrote cwd p.directory p.manifests s t' := by
  rw [write_eq] at h
  obtain ⟨u, s, hfirst, h⟩ := Action.bind_eq_ok.mp h
  obtain ⟨v, s', hsecond, h⟩ := Action.bind_eq_ok.mp h
  refine ⟨s', ?_, wrote_of_writeManifests h⟩
  intro q hq
  have hcleared := (clear_keeps Manifest.definitionGroup_mem p.directory cwd).of_ok hfirst
  have hcleared' := (clear_keeps Manifest.plainGroup_mem p.directory cwd).of_ok hsecond
  rw [hcleared'.lookup_eq (hq _ Manifest.plainGroup_mem) id, hcleared.lookup_eq (hq _ Manifest.definitionGroup_mem) id]

/-! ## Reading back -/

/-- A provider that some calls lead to. -/
def Reached (p : Provider) : Prop := ∃ name directory cs, p = (new name directory).afterCalls cs

theorem Reached.distinct (h : p.Reached) : Distinct p.manifests := by
  obtain ⟨name, directory, cs, rfl⟩ := h
  exact distinct_afterCalls cs List.Pairwise.nil

/-- Manifests of a provider with the same path are one. -/
theorem eq_of_same {m' : Manifest} (h : Distinct ms) (hm : m ∈ ms) (hm' : m' ∈ ms)
    (hsame : m.relativePath.Same m'.relativePath) : m = m' := by
  by_contra hne
  have hsymm : Std.Symm fun m m' : Manifest => ¬ m.relativePath.Same m'.relativePath := ⟨fun _ _ h hs => h hs.symm⟩
  exact List.Pairwise.forall h hm hm' hne hsame

/-- Whatever was registered, and whatever tree a provider was written to with success: reading the path of a manifest gives the text
of the last manifest that leads to the same place. So all manifests read back as they are exactly when manifests that lead to one
place have one text, as is the case when no path goes up. -/
theorem manifests_read_back_iff {paths : List Path} (hp : p.Reached) (h : p.write cwd t = .ok paths t') :
    (∀ m ∈ p.manifests, ∃ last, lastAt cwd p.directory (m.place cwd p.directory) p.manifests = some last ∧
        FileTree.readFile cwd (p.directory.join m.relativePath) t' = .ok last.body.toYaml t') ∧
      ((∀ m ∈ p.manifests, m.ReadsBack cwd p.directory t') ↔ ∀ m ∈ p.manifests, ∀ m' ∈ p.manifests,
        m.place cwd p.directory = m'.place cwd p.directory → m.body.toYaml = m'.body.toYaml) ∧
      ((∀ m ∈ p.manifests, m.relativePath.Descends) → ∀ m ∈ p.manifests, m.ReadsBack cwd p.directory t') := by
  obtain ⟨s, -, hwrote⟩ := wrote_of_write h
  have hiff : (∀ m ∈ p.manifests, m.ReadsBack cwd p.directory t') ↔ ∀ m ∈ p.manifests, ∀ m' ∈ p.manifests,
      m.place cwd p.directory = m'.place cwd p.directory → m.body.toYaml = m'.body.toYaml := by
    constructor
    · intro hreads m hm m' hm' hplace
      obtain ⟨last, hlast, hread⟩ := hwrote.readFile_eq hm
      obtain ⟨last', hlast', hread'⟩ := hwrote.readFile_eq hm'
      rw [hplace, hlast'] at hlast
      obtain rfl := Option.some.inj hlast
      have hown := hread.symm.trans (hreads m hm)
      have hown' := hread'.symm.trans (hreads m' hm')
      rw [← (EStateM.Result.ok.inj hown).1, ← (EStateM.Result.ok.inj hown').1]
    · intro hsame m hm
      obtain ⟨last, hlast, hread⟩ := hwrote.readFile_eq hm
      obtain ⟨hmem, hplace⟩ := Manifest.lastAt_eq_some hlast
      rw [Manifest.ReadsBack, hread, hsame last hmem m hm hplace]
  refine ⟨fun m hm => hwrote.readFile_eq hm, hiff, ?_⟩
  intro hdown
  refine hiff.mpr ?_
  intro m hm m' hm' hplace
  rw [eq_of_same hp.distinct hm hm' (Manifest.same_of_place_eq (hdown m hm) (hdown m' hm') hplace)]

/-- A namespace offered to a provider. -/
def namespaceCandidate (name : String) : Candidate := Candidate.ofObject (⟨{ name? := some name }⟩ : Namespace)

/-- A provider with two namespaces, the second of which has a name that goes up and comes down to the file of the first. -/
def overlapping : Provider :=
  (new "demo" (.ofString "out")).afterCalls [namespaceCandidate "b", namespaceCandidate "a/../v1-namespace-cluster-b"]

theorem overlapping_reached : overlapping.Reached := ⟨_, _, _, rfl⟩

theorem write_overlapping_succeeds : Action.succeeds (overlapping.write []) .empty = true := by decide +kernel

/-- Both namespaces are written, and the path of each gives the text of the second. -/
theorem manifests_read_back_iff_overlapping : ∃ paths t', overlapping.write [] .empty = .ok paths t' ∧
    ∀ m ∈ overlapping.manifests, ∃ last,
      lastAt [] overlapping.directory (m.place [] overlapping.directory) overlapping.manifests = some last ∧
        FileTree.readFile [] (overlapping.directory.join m.relativePath) t' = .ok last.body.toYaml t' := by
  obtain ⟨paths, hwrite⟩ := Action.exists_of_succeeds write_overlapping_succeeds
  exact ⟨paths, _, hwrite, (manifests_read_back_iff overlapping_reached hwrite).1⟩

/-- Not every registered manifest reads back: the two namespaces have different paths, writing them succeeds, and the first one's text
is lost. -/
theorem overlapping_loses_manifest : overlapping.Reached ∧ ∃ paths t', overlapping.write [] .empty = .ok paths t' ∧
    ∃ m ∈ overlapping.manifests, ¬ m.ReadsBack [] overlapping.directory t' := by
  obtain ⟨paths, hwrite⟩ := Action.exists_of_succeeds write_overlapping_succeeds
  obtain ⟨s, -, hwrote⟩ := wrote_of_write hwrite
  refine ⟨overlapping_reached, paths, _, hwrite, ?_⟩
  have hloses : overlapping.manifests.any (fun m => decide (∀ last ∈
      lastAt [] overlapping.directory (m.place [] overlapping.directory) overlapping.manifests,
        last.body.toYaml ≠ m.body.toYaml)) = true := by decide +kernel
  obtain ⟨m, hm, hlast⟩ := List.any_eq_true.mp hloses
  obtain ⟨last, hlast', hread⟩ := hwrote.readFile_eq hm
  refine ⟨m, hm, ?_⟩
  intro hown
  exact of_decide_eq_true hlast last hlast' (EStateM.Result.ok.inj (hread.symm.trans hown)).1

end Provider

end ManifestTree
