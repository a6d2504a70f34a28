import ManifestTree.FileTree.Actions

/-!
# How far actions reach

A footprint says where an action may change a tree: it may do anything inside it, and above it make directories that are missing.
What an action leaves behind counts whether it succeeds or fails (`Action.after`). Staying within a footprint is kept by doing
nothing, by one action after another, and by allowing more (`Confined.refl`, `Confined.trans`, `Confined.mono`).
-/

namespace ManifestTree

/-- Where a tree may be changed: at will inside, and above only by making missing directories. -/
structure Footprint where
  inside : Place → Prop
  above : Place → Prop

namespace Footprint

/-- A footprint in which everything that another allows is allowed. -/
structure Within (f g : Footprint) : Prop where
  inside : ∀ q, f.inside q → g.inside q
  above : ∀ q, f.above q → g.above q ∨ g.inside q

/-- The footprint of making directories down to a place. -/
def wayTo (p : Place) : Footprint := ⟨fun _ => False, fun q => q <+: p⟩

/-- The footprint of a place and everything below it. -/
def below (p : Place) : Footprint := ⟨fun q => p <+: q, fun _ => False⟩

/-- The footprint of one place. -/
def only (p : Place) : Footprint := ⟨fun q => q = p, fun _ => False⟩

end Footprint

/-- What the second tree has different from the first lies within a footprint. -/
def Confined (f : Footprint) (t t' : FileTree) : Prop :=
  ∀ q, f.inside q ∨ t'.lookup q = t.lookup q ∨ (f.above q ∧ t.lookup q = none ∧ t'.lookup q = some .directory)

namespace Confined

variable {f g : Footprint} {t t' t'' : FileTree}

theorem refl (f : Footprint) (t : FileTree) : Confined f t t := fun _ => Or.inr (Or.inl rfl)

theorem trans (h : Confined f t t') (h' : Confined f t' t'') : Confined f t t'' := by
  intro q
  rcases h q with hin | hq | ⟨habove, hnone, hq⟩
  · exact Or.inl hin
  · rcases h' q with hin | hq' | ⟨habove, hnone, hq'⟩
    · exact Or.inl hin
    · exact Or.inr (Or.inl (hq'.trans hq))
    · exact Or.inr (Or.inr ⟨habove, hq ▸ hnone, hq'⟩)
  · rcases h' q with hin | hq' | ⟨-, hnone', -⟩
    · exact Or.inl hin
    · exact Or.inr (Or.inr ⟨habove, hnone, hq'.trans hq⟩)
    · rw [hq] at hnone'
      exact absurd hnone' (by simp)

theorem mono (h : Confined f t t') (hfg : f.Within g) : Confined g t t' := by
  intro q
  rcases h q with hin | hq | ⟨habove, hnone, hq⟩
  · exact Or.inl (hfg.inside q hin)
  · exact Or.inr (Or.inl hq)
  · rcases hfg.above q habove with habove' | hin
    · exact Or.inr (Or.inr ⟨habove', hnone, hq⟩)
    · exact Or.inl hin

/-- A place that is neither inside nor above keeps what stands there. -/
theorem lookup_eq (h : Confined f t t') {q : Place} (hin : ¬ f.inside q) (habove : ¬ f.above q) :
    t'.lookup q = t.lookup q := by
  rcases h q with hin' | hq | ⟨habove', -⟩
  · exact absurd hin' hin
  · exact hq
  · exact absurd habove' habove

/-- Whatever stands at a place that is not inside stands there still. -/
theorem lookup_of_some (h : Confined f t t') {q : Place} (hin : ¬ f.inside q) (hq : t.lookup q ≠ none) :
    t'.lookup q = t.lookup q := by
  rcases h q with hin' | hsame | ⟨-, hnone, -⟩
  · exact absurd hin' hin
  · exact hsame
  · exact absurd hnone hq

/-- A place that is not inside keeps its file, and gets none: above it nothing but directories is made, where nothing stood. -/
theorem file_iff (h : Confined f t t') {q : Place} (hin : ¬ f.inside q) (text : String) :
    t'.lookup q = some (.file text) ↔ t.lookup q = some (.file text) := by
  rcases h q with hin' | hsame | ⟨-, hbefore, hafter⟩
  · exact absurd hin' hin
  · rw [hsame]
  · simp [hbefore, hafter]

end Confined

/-- The tree that an action leaves behind, whether it succeeds or fails. -/
def Action.after {ε α : Type} (a : Action ε α) (t : FileTree) : FileTree :=
  match a t with
  | .ok _ t' => t'
  | .error _ t' => t'

/-- Whether an action succeeds. -/
def Action.succeeds {ε α : Type} (a : Action ε α) (t : FileTree) : Bool :=
  match a t with
  | .ok _ _ => true
  | .error _ _ => false

/-- An action that stays within a footprint, whether it succeeds or fails. -/
def Action.Keeps {ε α : Type} (f : Footprint) (a : Action ε α) : Prop := ∀ t, Confined f t (Action.after a t)

namespace Action

variable {ε α β : Type} {t t' : FileTree} {f g : Footprint}

theorem after_of_ok {a : Action ε α} {x : α} (h : a t = .ok x t') : Action.after a t = t' := by
  rw [after, h]

theorem after_of_error {a : Action ε α} {e : ε} (h : a t = .error e t') : Action.after a t = t' := by
  rw [after, h]

/-- An action that succeeds gives something and leaves its tree behind. -/
theorem exists_of_succeeds {a : Action ε α} (h : Action.succeeds a t = true) : ∃ x, a t = .ok x (Action.after a t) := by
  unfold succeeds at h
  cases ha : a t with
  | ok x t' => exact ⟨x, by rw [after_of_ok ha]⟩
  | error e t' => simp [ha] at h

/-- An action succeeds when it gives something. -/
theorem succeeds_iff {a : Action ε α} : Action.succeeds a t = true ↔ ∃ x t', a t = .ok x t' := by
  constructor
  · intro h
    obtain ⟨x, hx⟩ := exists_of_succeeds h
    exact ⟨x, _, hx⟩
  · rintro ⟨x, t', h⟩
    unfold succeeds
    rw [h]

theorem succeeds_of_error {a : Action ε α} {e : ε} (h : a t = .error e t') : Action.succeeds a t = false := by
  rw [succeeds, h]

/-- An action that does not succeed fails with an error and leaves its tree behind. -/
theorem exists_of_fails {a : Action ε α} (h : Action.succeeds a t = false) : ∃ e, a t = .error e (Action.after a t) := by
  unfold succeeds at h
  cases ha : a t with
  | ok x t' => simp [ha] at h
  | error e t' => exact ⟨e, by rw [after_of_error ha]⟩

theorem after_congr {a b : Action ε α} {s : FileTree} (h : a t = b s) : Action.after a t = Action.after b s := by
  rw [after, after, h]

/-- An action, on files or on something else, and then another succeed together when each does. -/
theorem bind_eq_ok {σ : Type} {u u' : σ} {a : EStateM ε σ α} {k : α → EStateM ε σ β} {y : β} :
    (a >>= k) u = .ok y u' ↔ ∃ x s, a u = .ok x s ∧ k x s = .ok y u' := by
  change EStateM.bind a k u = _ ↔ _
  unfold EStateM.bind
  cases a u with
  | ok x s =>
    constructor
    · intro h
      exact ⟨x, s, rfl, h⟩
    · rintro ⟨x', s', hrun, h⟩
      obtain ⟨rfl, rfl⟩ := EStateM.Result.ok.inj hrun
      exact h
  | error e s => simp

/-- An action and then another fail together when the first does, or the second behind it. -/
theorem bind_eq_error {σ : Type} {u u' : σ} {a : EStateM ε σ α} {k : α → EStateM ε σ β} {e : ε} :
    (a >>= k) u = .error e u' ↔ a u = .error e u' ∨ ∃ x s, a u = .ok x s ∧ k x s = .error e u' := by
  change EStateM.bind a k u = _ ↔ _
  unfold EStateM.bind
  cases a u with
  | ok x s =>
    constructor
    · intro h
      exact Or.inr ⟨x, s, rfl, h⟩
    · rintro (h | ⟨x', s', hrun, h⟩)
      · cases h
      · obtain ⟨rfl, rfl⟩ := EStateM.Result.ok.inj hrun
        exact h
  | error e' s => simp

/-- What is left behind by an action and then another: what the second leaves, or the first if it fails. -/
theorem after_bind (a : Action ε α) (k : α → Action ε β) (t : FileTree) :
    (∃ x s, a t = .ok x s ∧ Action.after (a >>= k) t = Action.after (k x) s) ∨
      Action.after (a >>= k) t = Action.after a t := by
  cases h : a t with
  | ok x s =>
    have hbind : (a >>= k) t = k x s := by
      change EStateM.bind a k t = _
      unfold EStateM.bind
      rw [h]
    exact Or.inl ⟨x, s, rfl, after_congr hbind⟩
  | error e s =>
    have hbind : (a >>= k) t = .error e s := by
      change EStateM.bind a k t = _
      unfold EStateM.bind
      rw [h]
    exact Or.inr ((after_of_error hbind).trans (after_of_error h).symm)

/-- An action that succeeded stayed within its footprint. -/
theorem Keeps.of_ok {a : Action ε α} {x : α} (h : Action.Keeps f a) (hrun : a t = .ok x t') : Confined f t t' := by
  have hkeeps := h t
  rw [after_of_ok hrun] at hkeeps
  exact hkeeps

/-- An action that failed stayed within its footprint. -/
theorem Keeps.of_error {a : Action ε α} {e : ε} (h : Action.Keeps f a) (hrun : a t = .error e t') : Confined f t t' := by
  have hkeeps := h t
  rw [after_of_error hrun] at hkeeps
  exact hkeeps

theorem Keeps.pure (x : α) : Action.Keeps f (Pure.pure x : Action ε α) := fun t => Confined.refl f t

theorem Keeps.mono {a : Action ε α} (h : Action.Keeps f a) (hfg : f.Within g) : Action.Keeps g a :=
  fun t => (h t).mono hfg

theorem Keeps.bind {a : Action ε α} {k : α → Action ε β} (h : Action.Keeps f a) (hk : ∀ x, Action.Keeps f (k x)) :
    Action.Keeps f (a >>= k) := by
  intro t
  rcases after_bind a k t with ⟨x, s, ha, hafter⟩ | hafter
  · rw [hafter]
    exact (h.of_ok ha).trans (hk x s)
  · rw [hafter]
    exact h t

end Action

end ManifestTree
