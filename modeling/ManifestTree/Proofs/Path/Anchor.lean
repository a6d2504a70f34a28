import ManifestTree.Layout
import ManifestTree.Proofs.Path.Components

/-!
# The part of a path from its last anchor on

`fromLast` cuts components at the last one that is a given name (`fromLast_eq_some_iff`). A repository-relative path is such
a part of a path, written out again (`repoRelative_eq_ok`); a path without an anchor has none (`repoRelative_eq_error_iff`).
-/

namespace ManifestTree.Path

theorem fromLast_eq_none_iff {anchor : Name} {cs : List Component} :
    fromLast anchor cs = none ↔ .name anchor ∉ cs := by
  induction cs with
  | nil => simp [fromLast]
  | cons c cs ih =>
    rw [fromLast]
    cases hf : fromLast anchor cs with
    | some found =>
      have hm : .name anchor ∈ cs := by simpa [hf] using ih.not
      simp [hm]
    | none =>
      have hm : .name anchor ∉ cs := ih.mp hf
      by_cases hc : c = .name anchor
      · simp [hc]
      · simp [hm, hc, Ne.symm hc]

/-- What is cut off starts at the anchor, and the anchor does not occur again behind that. -/
theorem fromLast_eq_some_iff {anchor : Name} {cs found : List Component} :
    fromLast anchor cs = some found ↔
      ∃ before rest, cs = before ++ .name anchor :: rest ∧ found = .name anchor :: rest ∧ .name anchor ∉ rest := by
  induction cs with
  | nil => simp [fromLast]
  | cons c cs ih =>
    rw [fromLast]
    constructor
    · intro h
      cases hf : fromLast anchor cs with
      | some later =>
        rw [hf] at h ih
        obtain ⟨before, rest, hcs, hfound, hrest⟩ := ih.mp h
        exact ⟨c :: before, rest, by rw [hcs]; rfl, hfound, hrest⟩
      | none =>
        rw [hf] at h
        simp only [Option.ite_none_right_eq_some, Option.some.injEq] at h
        obtain ⟨rfl, rfl⟩ := h
        exact ⟨[], cs, rfl, rfl, fromLast_eq_none_iff.mp hf⟩
    · rintro ⟨before, rest, hcs, rfl, hrest⟩
      cases before with
      | nil =>
        obtain ⟨rfl, rfl⟩ := List.cons.inj hcs
        simp [fromLast_eq_none_iff.mpr hrest]
      | cons b before =>
        obtain ⟨rfl, rfl⟩ := List.cons.inj hcs
        rw [ih.mpr ⟨before, rest, rfl, rfl, hrest⟩]

/-- A part of written components that starts with a name is written as a path has it. -/
theorem Written.drop {before after : List Component} {n : Name} (h : Written (before ++ .name n :: after)) :
    Written (.name n :: after) := by
  have htail : ∀ c ∈ after, c ∈ (before ++ .name n :: after).tail := by
    intro c hc
    cases before with
    | nil => exact hc
    | cons b before => simp [hc]
  exact ⟨fun m hm => h.names m (List.mem_append_right _ hm), fun hr => h.root (htail _ hr), fun hh => h.here (htail _ hh)⟩

/-- A path with an anchor has a repository-relative part: its components from the last anchor on. -/
theorem repoRelative_eq_ok {p : Path} {before rest : List Component}
    (h : p.components = before ++ .name (Utf8.encode anchorName) :: rest) (hrest : .name (Utf8.encode anchorName) ∉ rest) :
    ∃ q, p.repoRelative = .ok q ∧ q.components = .name (Utf8.encode anchorName) :: rest := by
  have hfrom : fromLast (Utf8.encode anchorName) p.components = some (.name (Utf8.encode anchorName) :: rest) :=
    fromLast_eq_some_iff.mpr ⟨before, rest, h, rfl, hrest⟩
  have hwritten : Written (.name (Utf8.encode anchorName) :: rest) := (h ▸ written_components p).drop
  exact ⟨ofComponents (.name (Utf8.encode anchorName) :: rest), by rw [repoRelative, hfrom],
    components_ofComponents hwritten⟩

/-- A path has no repository-relative part exactly when it has no anchor, and the error names the path. -/
theorem repoRelative_eq_error_iff {p : Path} {e : RenderError} :
    p.repoRelative = .error e ↔ .name (Utf8.encode anchorName) ∉ p.components ∧ e = .anchorNotFound p := by
  unfold repoRelative
  rw [← fromLast_eq_none_iff]
  cases fromLast (Utf8.encode anchorName) p.components with
  | none => simp [eq_comm]
  | some cs => simp

/-- A path has a repository-relative part exactly when it has an anchor. -/
theorem exists_repoRelative_iff {p : Path} : (∃ q, p.repoRelative = .ok q) ↔ .name (Utf8.encode anchorName) ∈ p.components := by
  cases h : p.repoRelative with
  | ok q =>
    refine ⟨fun _ => ?_, fun _ => ⟨q, rfl⟩⟩
    by_contra hnone
    rw [repoRelative_eq_error_iff.mpr ⟨hnone, rfl⟩] at h
    cases h
  | error e => simp [(repoRelative_eq_error_iff.mp h).1]

end ManifestTree.Path
