import ManifestTree.Proofs.Layout.RepositoryPath

/-!
# Laws of the repository-relative part

The repository-relative part of a path is what its components say from the last anchor on, written out anew
(`repoRelative_eq_ok_iff`). So it is its own repository-relative part, it is found again behind every path it is appended to, and
behind the components that were left out it is the path itself (`repoRelative_laws`).
-/

namespace ManifestTree.Path

variable {p rel : Path} {before rest : List Component}

/-- The first part of written components is written as a path has it. -/
theorem Written.left (h : Written (before ++ rest)) : Written before := by
  have htail : ∀ c ∈ before.tail, c ∈ (before ++ rest).tail := by
    intro c hc
    cases before with
    | nil => cases hc
    | cons b before => exact List.mem_append_left _ hc
  exact ⟨fun n hn => h.names n (List.mem_append_left _ hn), fun hr => h.root (htail _ hr), fun hh => h.here (htail _ hh)⟩

/-- A path cut at its last anchor: the components before, and those of a relative path from the anchor on. -/
structure CutAtLast (p : Path) (before : List Component) (rel : Path) : Prop where
  components : p.components = before ++ rel.components
  starts : rel.components.head? = some (.name anchor)
  last : .name anchor ∉ rel.components.tail
  relative : rel.isAbsolute = false

/-- The repository-relative part of a path: its components from the last anchor on, written out. -/
theorem repoRelative_eq_ok_iff : p.repoRelative = .ok rel ↔ ∃ before rest,
    p.components = before ++ .name anchor :: rest ∧ .name anchor ∉ rest ∧ rel = ofComponents (.name anchor :: rest) := by
  unfold repoRelative
  cases hfrom : fromLast (Utf8.encode anchorName) p.components with
  | none =>
    have hnone : .name anchor ∉ p.components := fromLast_eq_none_iff.mp hfrom
    refine iff_of_false (by simp) ?_
    rintro ⟨before, rest, hp, -⟩
    exact hnone (by simp [hp])
  | some found =>
    obtain ⟨before, rest, hp, rfl, hrest⟩ := fromLast_eq_some_iff.mp hfrom
    simp only [Except.ok.injEq]
    constructor
    · rintro rfl
      exact ⟨before, rest, hp, hrest, rfl⟩
    · rintro ⟨before', rest', hp', hrest', rfl⟩
      -- there is one last anchor only
      have hsame := fromLast_eq_some_iff.mpr ⟨before', rest', hp', rfl, hrest'⟩
      rw [← Option.some.inj (hfrom.symm.trans hsame)]

/-- The repository-relative part does not depend on what stands before the last anchor. -/
theorem repoRelative_of_components (hp : p.components = before ++ .name anchor :: rest) (hrest : .name anchor ∉ rest) :
    p.repoRelative = .ok (ofComponents (.name anchor :: rest)) :=
  repoRelative_eq_ok_iff.mpr ⟨before, rest, hp, hrest, rfl⟩

/-- What the repository-relative part of any path is: the path's components from the last one on that is the anchor as a whole, if it
has one. The part is its own repository-relative part, it is found again behind every path it is appended to, and appended to the
components that were left out it is the path. A path without an anchor is named in the error, and so is the anchor. -/
theorem repoRelative_laws (p : Path) :
    ((∃ rel, p.repoRelative = .ok rel) ↔ .name anchor ∈ p.components) ∧
      (∀ rel, p.repoRelative = .ok rel → ∃ before, CutAtLast p before rel ∧ rel.repoRelative = .ok rel ∧
        (∀ q : Path, (q.join rel).repoRelative = .ok rel) ∧ ((ofComponents before).join rel).Same p) ∧
      ∀ e, p.repoRelative = .error e →
        e = .anchorNotFound p ∧ e.message = s!"Anchor directory 'kubernetes' not found in path {p.display}" := by
  refine ⟨exists_repoRelative_iff, ?_, ?_⟩
  · intro rel hrel
    obtain ⟨before, rest, hp, hrest, rfl⟩ := repoRelative_eq_ok_iff.mp hrel
    have hwritten : Written (before ++ .name anchor :: rest) := hp ▸ written_components p
    have hcomponents : (ofComponents (.name anchor :: rest)).components = .name anchor :: rest :=
      components_ofComponents hwritten.drop
    have hbefore : (ofComponents before).components = before := components_ofComponents hwritten.left
    have hrelative : (ofComponents (.name anchor :: rest)).isAbsolute = false := by
      refine isAbsolute_of_components ?_
      rw [hcomponents]
      simpa using hwritten.drop.root
    refine ⟨before, ⟨?_, ?_, ?_, hrelative⟩, ?_, ?_, ?_⟩
    · rw [hcomponents, hp]
    · rw [hcomponents]
      rfl
    · rw [hcomponents]
      exact hrest
    · exact repoRelative_of_components (show _ = [] ++ .name anchor :: rest from hcomponents) hrest
    · intro q
      exact repoRelative_of_components (components_join_of_name hcomponents) hrest
    · rw [Same, components_join_of_name hcomponents, hbefore, hp]
  · intro e he
    obtain ⟨-, rfl⟩ := repoRelative_eq_error_iff.mp he
    exact ⟨rfl, rfl⟩

/-- A checkout below a directory that is called like the anchor, written with doubled separators and dots: the second anchor counts, a
name that only starts like it does not, and `..` stays. -/
theorem repoRelative_laws_nested :
    let p : Path := .ofString "/srv//kubernetes/./checkout/kubernetes/manifests/../kubernetes-old/"
    let rel : Path := .ofString "kubernetes/manifests/../kubernetes-old"
    p.repoRelative = .ok rel ∧ ∃ before, CutAtLast p before rel ∧ rel.repoRelative = .ok rel ∧
      (∀ q : Path, (q.join rel).repoRelative = .ok rel) ∧ ((ofComponents before).join rel).Same p := by
  intro p rel
  have hrel : p.repoRelative = .ok rel := by rfl
  exact ⟨hrel, (repoRelative_laws p).2.1 rel hrel⟩

end ManifestTree.Path
