import ManifestTree.Proofs.FileTree.FreeWay

/-!
# Actions that change places

Actions whose footprints lie apart do not see each other: a way that one of them may only add to is as passable after it as before
(`Confined.passable_iff`). If each also settles what is in its footprint, whatever was there before, the two can change places and
leave the same tree behind (`lookup_eq_of_settles`).
-/

namespace ManifestTree

/-- What may be changed at will in one footprint may not be changed at all in the other. -/
structure Footprint.Apart (f g : Footprint) : Prop where
  left : ∀ q, f.inside q → ¬ g.inside q ∧ ¬ g.above q
  right : ∀ q, g.inside q → ¬ f.inside q ∧ ¬ f.above q

/-- An action that settles a footprint: when it succeeds, what stands inside does not depend on the tree it started with, and
directories stand above. -/
structure Action.Settles {ε α : Type} (f : Footprint) (a : Action ε α) : Prop where
  inside : ∀ t x t' s y s', a t = .ok x t' → a s = .ok y s' → ∀ q, f.inside q → s'.lookup q = t'.lookup q
  above : ∀ t x t', a t = .ok x t' → ∀ q, f.above q → t'.lookup q = some .directory

variable {f g : Footprint} {t t' : FileTree} {p : Place}

theorem Footprint.Apart.symm (h : f.Apart g) : g.Apart f := ⟨h.right, h.left⟩

/-- A way that does not lead through a footprint is passable after a change within it exactly when it was before. -/
theorem Confined.passable_iff (h : Confined f t t') (hway : ∀ q, q <+: p → ¬ f.inside q) : t'.Passable p ↔ t.Passable p := by
  constructor
  · intro hpass q hq text hfile
    exact hpass q hq text ((h.file_iff (hway q hq) text).mpr hfile)
  · intro hpass q hq text hfile
    exact hpass q hq text ((h.file_iff (hway q hq) text).mp hfile)

/-- Two actions can be carried out in turn when each succeeds alone, if the first one does not matter to whether the second succeeds. -/
theorem exists_inTurn_iff {ε ε' α β : Type} {a : Action ε α} {b : Action ε' β}
    (h : ∀ x s, a t = .ok x s → (Action.succeeds b s = true ↔ Action.succeeds b t = true)) :
    (∃ x s y u, a t = .ok x s ∧ b s = .ok y u) ↔ Action.succeeds a t = true ∧ Action.succeeds b t = true := by
  constructor
  · rintro ⟨x, s, y, u, hfirst, hsecond⟩
    exact ⟨Action.succeeds_iff.mpr ⟨x, s, hfirst⟩, (h x s hfirst).mp (Action.succeeds_iff.mpr ⟨y, u, hsecond⟩)⟩
  · rintro ⟨ha, hb⟩
    obtain ⟨x, s, hfirst⟩ := Action.succeeds_iff.mp ha
    obtain ⟨y, u, hsecond⟩ := Action.succeeds_iff.mp ((h x s hfirst).mpr hb)
    exact ⟨x, s, y, u, hfirst, hsecond⟩

/-- What an action that comes second leaves of what the first one settled: everything. -/
theorem lookup_of_settled {ε α : Type} {a : Action ε α} {s u : FileTree} {x : α} (hapart : f.Apart g) (ha : Action.Settles f a)
    (hfirst : a t = .ok x s) (hsecond : Confined g s u) {q : Place} (hq : f.inside q ∨ (f.above q ∧ ¬ g.inside q)) :
    u.lookup q = s.lookup q := by
  rcases hq with hin | ⟨habove, hout⟩
  · exact hsecond.lookup_eq (hapart.left q hin).1 (hapart.left q hin).2
  · exact hsecond.lookup_of_some hout (by simp [ha.above t x s hfirst q habove])

/-- Two actions that settle footprints apart from each other leave the same tree behind in either order. -/
theorem lookup_eq_of_settles {ε α β : Type} {a : Action ε α} {b : Action ε β} {x x' : α} {y y' : β} {s s' u u' : FileTree}
    (hapart : f.Apart g) (hkeepsA : Action.Keeps f a) (hkeepsB : Action.Keeps g b) (ha : Action.Settles f a)
    (hb : Action.Settles g b) (hab : a t = .ok x s) (hab' : b s = .ok y u) (hba : b t = .ok y' s') (hba' : a s' = .ok x' u') :
    u'.lookup = u.lookup := by
  have hfirstA := hkeepsA.of_ok hab
  have hlastB := hkeepsB.of_ok hab'
  have hfirstB := hkeepsB.of_ok hba
  have hlastA := hkeepsA.of_ok hba'
  funext q
  by_cases hf : f.inside q
  · exact (ha.inside t x s s' x' u' hab hba' q hf).trans (lookup_of_settled hapart ha hab hlastB (Or.inl hf)).symm
  by_cases hg : g.inside q
  · exact (lookup_of_settled hapart.symm hb hba hlastA (Or.inl hg)).trans (hb.inside s y u t y' s' hab' hba q hg)
  by_cases hfa : f.above q
  · rw [ha.above s' x' u' hba' q hfa, lookup_of_settled hapart ha hab hlastB (Or.inr ⟨hfa, hg⟩), ha.above t x s hab q hfa]
  by_cases hga : g.above q
  · rw [hb.above s y u hab' q hga, lookup_of_settled hapart.symm hb hba hlastA (Or.inr ⟨hga, hf⟩), hb.above t y' s' hba q hga]
  · rw [hlastA.lookup_eq hf hfa, hfirstB.lookup_eq hg hga, hlastB.lookup_eq hg hga, hfirstA.lookup_eq hf hfa]

end ManifestTree
