import ManifestTree.Proofs.FileTree.Changes
import ManifestTree.Proofs.Manifest.FileName
import ManifestTree.Proofs.Provider.Registration

/-!
# What a group directory holds

A directory holds some manifests when it has one file for each of them, with that manifest's text, and nothing besides (`Holds`); with
no manifest to hold it does not exist. Writing one manifest below a provider's directory (`View.withManifest`) adds it to what
its group directory holds and leaves the other groups alone (`Holds.add`).
-/

namespace ManifestTree

/-- A directory that holds a file for each of some manifests and nothing besides. -/
structure Holds (t : FileTree) (dir : Place) (ms : List Manifest) : Prop where
  directory : t.lookup dir = if ms = [] then none else some .directory
  files : ∀ m ∈ ms, t.lookup (dir ++ [Utf8.encode m.fileName]) = some (.file m.body.toYaml)
  nothing_else : ∀ q, q ≠ [] → t.lookup (dir ++ q) ≠ none → ∃ m ∈ ms, q = [Utf8.encode m.fileName]
  distinct : ms.Pairwise fun m m' => m.fileName ≠ m'.fileName

/-- The manifests of a group. -/
def ofGroup (g : String) (ms : List Manifest) : List Manifest := ms.filter (·.group = g)

/-- The directory of a group below a place. -/
def groupPlace (d : Place) (g : String) : Place := d ++ [Utf8.encode g]

/-- What stands at each place once a manifest was written below a directory. -/
def View.withManifest (v : View) (d : Place) (m : Manifest) : View :=
  (v.withDirectories (groupPlace d m.group)).withFile (d ++ m.relativeNames) m.body.toYaml

variable {t t' : FileTree} {d dir : Place} {m : Manifest} {ms : List Manifest} {g : String}

/-- A directory that does not exist holds no manifests. -/
theorem Holds.nil (h : t.lookup dir = none) : Holds t dir [] where
  directory := h
  files := by simp
  nothing_else q _ hq := absurd (FileTree.lookup_of_prefix_none h (List.prefix_append dir q)) hq
  distinct := .nil

/-- What a directory holds depends only on what stands at it and below. -/
theorem Holds.congr (h : Holds t dir ms) (hsame : ∀ q, t'.lookup (dir ++ q) = t.lookup (dir ++ q)) : Holds t' dir ms where
  directory := by
    have hdir := hsame []
    rw [List.append_nil] at hdir
    rw [hdir]
    exact h.directory
  files m hm := by
    rw [hsame]
    exact h.files m hm
  nothing_else q hne hq := h.nothing_else q hne (hsame q ▸ hq)
  distinct := h.distinct

/-- Directories that hold the same manifests look the same. -/
theorem Holds.lookup_eq (h : Holds t dir ms) (h' : Holds t' dir ms) (q : Place) : t'.lookup (dir ++ q) = t.lookup (dir ++ q) := by
  by_cases hq : q = []
  · rw [hq, List.append_nil, h.directory, h'.directory]
  by_cases hfile : ∃ m ∈ ms, q = [Utf8.encode m.fileName]
  · obtain ⟨m, hm, rfl⟩ := hfile
    rw [h.files m hm, h'.files m hm]
  · have hnone : ∀ s : FileTree, Holds s dir ms → s.lookup (dir ++ q) = none := by
      intro s hs
      by_contra hne
      exact hfile (hs.nothing_else q hq hne)
    rw [hnone t h, hnone t' h']

/-- Directories stand above a group directory that holds manifests. -/
theorem Holds.lookup_above (h : Holds t (groupPlace d g) ms) (hne : ms ≠ []) {q : Place} (hq : q <+: d) :
    t.lookup q = some .directory := by
  have hgroup : t.lookup (groupPlace d g) ≠ none := by simp [h.directory, hne]
  refine FileTree.lookup_of_prefix_some hgroup (hq.trans (List.prefix_append d _)) ?_
  rintro rfl
  have hle := hq.length_le
  simp only [groupPlace, List.length_append, List.length_singleton] at hle
  omega

/-! ## Writing a manifest -/

/-- A manifest written in another group changes nothing in this one. -/
theorem withManifest_of_ne (v : View) (hg : m.group ≠ g) (q : Place) :
    v.withManifest d m (groupPlace d g ++ q) = v (groupPlace d g ++ q) := by
  have hname : Utf8.encode m.group ≠ Utf8.encode g := fun h => hg (Utf8.encode_injective h)
  have hfile : groupPlace d g ++ q ≠ d ++ m.relativeNames := by
    intro h
    simp only [groupPlace, Manifest.relativeNames, List.append_assoc, List.append_cancel_left_eq, List.cons_append] at h
    exact hname (List.cons.inj h).1.symm
  have hdirectory : ¬ groupPlace d g ++ q <+: groupPlace d m.group := by
    intro h
    rw [groupPlace, groupPlace, List.append_assoc, List.prefix_append_right_inj] at h
    exact hname (List.cons_prefix_cons.mp h).1.symm
  rw [View.withManifest, View.withFile, if_neg hfile, View.withDirectories, if_neg hdirectory]

/-- The group directory of a written manifest stands. -/
theorem withManifest_group (v : View) : v.withManifest d m (groupPlace d m.group) = some .directory := by
  have hfile : groupPlace d m.group ≠ d ++ m.relativeNames := by
    simp [groupPlace, Manifest.relativeNames]
  rw [View.withManifest, View.withFile, if_neg hfile, View.withDirectories, if_pos (List.prefix_refl _)]

/-- In the group directory of a written manifest its file stands where it did not, and nothing else is new. -/
theorem withManifest_in_group (v : View) {q : Place} (hq : q ≠ []) : v.withManifest d m (groupPlace d m.group ++ q) =
    if q = [Utf8.encode m.fileName] then some (.file m.body.toYaml) else v (groupPlace d m.group ++ q) := by
  have hfile : groupPlace d m.group ++ q = d ++ m.relativeNames ↔ q = [Utf8.encode m.fileName] := by
    simp [groupPlace, Manifest.relativeNames]
  have hdirectory : ¬ groupPlace d m.group ++ q <+: groupPlace d m.group := by
    intro h
    have hlength := h.length_le
    rw [List.length_append] at hlength
    exact hq (List.eq_nil_of_length_eq_zero (by omega))
  rw [View.withManifest, View.withFile, View.withDirectories, if_neg hdirectory]
  by_cases hq' : q = [Utf8.encode m.fileName]
  · rw [if_pos (hfile.mpr hq'), if_pos hq']
  · rw [if_neg fun h => hq' (hfile.mp h), if_neg hq']

/-- Manifests of one group with different paths have different file names. -/
theorem fileName_ne {m' : Manifest} (hg : m.group = m'.group) (h : ¬ m.relativePath.Same m'.relativePath) :
    m.fileName ≠ m'.fileName := by
  intro hname
  refine h ?_
  unfold Path.Same Manifest.relativePath
  rw [hg, hname]

/-- A manifest that is written comes to what its group directory holds, if its path is new there. -/
theorem Holds.insert (h : Holds t (groupPlace d m.group) ms) (ht : t'.lookup = View.withManifest t.lookup d m)
    (hnew : ∀ other ∈ ms, other.fileName ≠ m.fileName) : Holds t' (groupPlace d m.group) (ms ++ [m]) where
  directory := by
    rw [ht, withManifest_group, if_neg (by simp)]
  files m' hm' := by
    rw [ht, withManifest_in_group _ (by simp)]
    rcases List.mem_append.mp hm' with hm' | hm'
    · have hne : [Utf8.encode m'.fileName] ≠ [Utf8.encode m.fileName] := by
        intro heq
        exact hnew m' hm' (Utf8.encode_injective (List.cons.inj heq).1)
      rw [if_neg hne]
      exact h.files m' hm'
    · rw [List.mem_singleton.mp hm', if_pos rfl]
  nothing_else q hne hq := by
    rw [ht, withManifest_in_group _ hne] at hq
    by_cases hname : q = [Utf8.encode m.fileName]
    · exact ⟨m, by simp, hname⟩
    · rw [if_neg hname] at hq
      obtain ⟨m', hm', hq'⟩ := h.nothing_else q hne hq
      exact ⟨m', List.mem_append_left _ hm', hq'⟩
  distinct := by
    refine List.pairwise_append.mpr ⟨h.distinct, List.pairwise_singleton _ _, ?_⟩
    intro other hother m' hm'
    rw [List.mem_singleton.mp hm']
    exact hnew other hother

/-- In each group: what it holds once a manifest was written, if no other manifest has its path. -/
theorem Holds.add (h : Holds t (groupPlace d g) (ofGroup g ms)) (ht : t'.lookup = View.withManifest t.lookup d m)
    (hnew : ∀ other ∈ ms, ¬ other.relativePath.Same m.relativePath) :
    Holds t' (groupPlace d g) (ofGroup g (ms ++ [m])) := by
  unfold ofGroup at h ⊢
  rw [List.filter_append]
  by_cases hg : m.group = g
  · subst hg
    rw [List.filter_cons_of_pos (by simp), List.filter_nil]
    refine h.insert ht ?_
    intro other hother
    obtain ⟨hmem, hgroup⟩ := List.mem_filter.mp hother
    exact fileName_ne (of_decide_eq_true hgroup) (hnew other hmem)
  · rw [List.filter_cons_of_neg (by simp [hg]), List.filter_nil, List.append_nil]
    refine h.congr ?_
    intro q
    rw [ht]
    exact withManifest_of_ne t.lookup hg q

end ManifestTree
