import ManifestTree.Proofs.Path.Anchor
import ManifestTree.Proofs.Text.Utf8

/-!
# Paths that are text

A path that is text shows as it is written and can be read back from that (`ofString_display`). Joining paths that are text and
cutting out the repository-relative part of one gives text again (`IsText.join`, `IsText.repoRelative`).
-/

namespace ManifestTree.Path

/-- A path whose bytes are a text's. -/
def IsText (p : Path) : Prop := Utf8.IsText p.bytes

theorem isText_ofString (s : String) : (ofString s).IsText := Utf8.isText_encode s

/-- A path that is text is the path its display is written as. -/
theorem ofString_display {p : Path} (h : p.IsText) : ofString p.display = p := by
  unfold ofString display
  rw [Utf8.IsText.encode_lossy h]

theorem isText_separator : Utf8.IsText [separator] := ⟨['/'], by decide⟩

/-- Paths that are text, appended to one another. -/
theorem IsText.join {p q : Path} (hp : p.IsText) (hq : q.IsText) : (p.join q).IsText := by
  unfold Path.join
  split
  · exact hq
  · split
    · exact Utf8.IsText.append hp hq
    · exact Utf8.IsText.append hp (Utf8.IsText.append isText_separator hq)

theorem IsText.joinText {p : Path} (hp : p.IsText) (s : String) : (p.joinText s).IsText :=
  hp.join (isText_ofString s)

/-- The names in a path that is text are text. -/
theorem IsText.of_mem_components {p : Path} {n : Name} (hp : p.IsText) (h : .name n ∈ p.components) : Utf8.IsText n :=
  Utf8.isText_of_mem_split hp (mem_split_of_mem_components h)

theorem isText_toPath {c : Component} (h : ∀ n, c = .name n → Utf8.IsText n) : c.toPath.IsText := by
  cases c with
  | root => exact isText_separator
  | here => exact ⟨['.'], by decide⟩
  | up => exact ⟨['.', '.'], by decide⟩
  | name n => exact h n rfl

/-- Components whose names are text, written out in turn. -/
theorem isText_ofComponents {cs : List Component} (h : ∀ n, .name n ∈ cs → Utf8.IsText n) : (ofComponents cs).IsText := by
  have grows : ∀ (cs : List Component) (p : Path), p.IsText → (∀ n, .name n ∈ cs → Utf8.IsText n) →
      (cs.foldl (fun p c => p.join c.toPath) p).IsText := by
    intro cs
    induction cs with
    | nil => exact fun p hp _ => hp
    | cons c cs ih =>
      intro p hp hcs
      refine ih _ (hp.join (isText_toPath ?_)) fun n hn => hcs n (List.mem_cons_of_mem _ hn)
      intro n hn
      exact hcs n (hn ▸ List.mem_cons_self)
  exact grows cs ⟨[]⟩ Utf8.isText_nil h

/-- The repository-relative part of a path that is text is text. -/
theorem IsText.repoRelative {p q : Path} (hp : p.IsText) (h : p.repoRelative = .ok q) : q.IsText := by
  unfold Path.repoRelative at h
  cases hfrom : fromLast (Utf8.encode anchorName) p.components with
  | none => simp [hfrom] at h
  | some found =>
    obtain ⟨before, rest, hcomponents, rfl, -⟩ := fromLast_eq_some_iff.mp hfrom
    simp only [hfrom, Except.ok.injEq] at h
    rw [← h]
    refine isText_ofComponents fun n hn => hp.of_mem_components ?_
    rw [hcomponents]
    exact List.mem_append_right _ hn

end ManifestTree.Path
