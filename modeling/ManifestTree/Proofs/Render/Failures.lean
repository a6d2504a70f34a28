import ManifestTree.Proofs.Render.GeneratedTree
import ManifestTree.Proofs.Render.Registering
import ManifestTree.Proofs.Render.Selections

/-!
# Which renders fail, and what they leave

A resource cannot be rendered because there is no anchor on the paths of its children, and then nothing is done, or because the
operating system refuses a path (`renderResource_eq_error_cases`). Rendering a selection stops at the first resource that cannot be
rendered: those before it are rendered as they are alone, and all others are left as they were (`renderEnvironment_failures`).
-/

namespace ManifestTree

/-- An error of the operating system. -/
def RenderError.IsIo (e : RenderError) : Prop := ∃ path cause, e = .io path cause

namespace Action

variable {ε α β : Type} {P : ε → Prop}

/-- An action whose every error has a property. -/
def FailsWith (P : ε → Prop) (a : Action ε α) : Prop := ∀ t e t', a t = .error e t' → P e

theorem FailsWith.pure (x : α) : FailsWith P (Pure.pure x : Action ε α) := by
  intro t e t' h
  cases h

theorem FailsWith.bind {a : Action ε α} {k : α → Action ε β} (h : FailsWith P a) (hk : ∀ x, FailsWith P (k x)) :
    FailsWith P (a >>= k) := by
  intro t e t' hrun
  rcases bind_eq_error.mp hrun with hfirst | ⟨x, s, -, hsecond⟩
  · exact h t e t' hfirst
  · exact hk x s e t' hsecond

end Action

namespace Provider

/-! ## Writing -/

theorem onPath_failsWith {α : Type} (path : Path) (a : Action FileError α) : Action.FailsWith RenderError.IsIo (onPath path a) := by
  intro t e t' h
  obtain ⟨cause, -, he⟩ := onPath_eq_error.mp h
  exact ⟨path, cause, he⟩

theorem clear_failsWith (cwd : Place) (path : Path) : Action.FailsWith RenderError.IsIo (clear cwd path) := by
  intro t e t' h
  obtain ⟨-, cause, he⟩ := clear_eq_error h
  exact ⟨path, cause, he⟩

theorem writeManifest_failsWith (cwd : Place) (directory : Path) (m : Manifest) :
    Action.FailsWith RenderError.IsIo (writeManifest cwd directory m) := by
  obtain ⟨parent, -, -, hwrite⟩ := writeManifest_eq cwd directory m
  rw [hwrite]
  refine .bind (onPath_failsWith _ _) ?_
  intro _
  exact .bind (onPath_failsWith _ _) fun _ => .pure _

theorem writeManifests_failsWith (cwd : Place) (directory : Path) (ms : List Manifest) :
    Action.FailsWith RenderError.IsIo (writeManifests cwd directory ms) := by
  induction ms with
  | nil => exact .pure _
  | cons m rest ih =>
    rw [writeManifests_cons]
    refine .bind (writeManifest_failsWith cwd directory m) ?_
    intro _
    exact .bind ih fun _ => .pure _

/-- Writing a provider fails only where the operating system refuses a path. -/
theorem write_failsWith (p : Provider) (cwd : Place) : Action.FailsWith RenderError.IsIo (p.write cwd) := by
  rw [write_eq]
  refine .bind (clear_failsWith cwd _) ?_
  intro _
  refine .bind (clear_failsWith cwd _) ?_
  intro _
  exact writeManifests_failsWith cwd p.directory p.manifests

end Provider

namespace Context

variable {ctx : Context} {cwd : Place} {r r' : Resource} {rs rs' : List Resource} {t t' u u' : FileTree} {e : RenderError}

/-! ## Rendering one resource -/

/-- A resource that was not rendered: there is no anchor on the paths of its children and nothing was done, or the operating system
refused a path. -/
theorem renderResource_eq_error_cases (hctx : ctx.Sound) (h : ctx.renderResource cwd r t = .error e t') :
    (ctx.Unanchored r ∧ (∃ child ∈ r.children, e = .anchorNotFound (ctx.directory child)) ∧ t' = t) ∨
      (¬ ctx.Unanchored r ∧ e.IsIo) := by
  cases hregister : ctx.registerResource r (ctx.layout.provider ctx.environment r) with
  | error e' p =>
    rw [renderResource_eq_error hregister] at h
    obtain ⟨rfl, rfl⟩ := EStateM.Result.error.inj h
    have hr := (registerResource_fails_iff hctx.plain _ _).mp ⟨e', p, hregister⟩
    exact Or.inl ⟨hr, (registerResource_eq_error hctx.plain hregister).1, rfl⟩
  | ok v p =>
    rw [renderResource_eq_write hregister] at h
    refine Or.inr ⟨?_, Provider.write_failsWith p cwd t e t' h⟩
    intro hr
    obtain ⟨child, -, hfails⟩ := registerResource_of_unanchored hr (ctx.layout.provider ctx.environment r)
    rw [hregister] at hfails
    cases hfails

/-- What a resource that was rendered has in and above its directory does not depend on what was rendered besides. -/
theorem lookup_below_of_rendered (hctx : ctx.Sound) (h : Confined (ctx.footprint cwd rs) t u)
    (h' : Confined (ctx.footprint cwd rs') t u') (hrendered : Rendered ctx cwd u r) (hrendered' : Rendered ctx cwd u' r) {q : Place}
    (hq : ctx.place cwd r <+: q) : u'.lookup q = u.lookup q := by
  by_cases hown : (Footprint.groups (ctx.place cwd r)).inside q ∨ q <+: ctx.place cwd r
  · exact hrendered.lookup_eq hrendered' hown
  · -- Below its directory only the resource's own groups are ever changed.
    have hunchanged : ∀ {others : List Resource} {v : FileTree}, Confined (ctx.footprint cwd others) t v →
        v.lookup q = t.lookup q := by
      intro others v hv
      refine lookup_eq_outside hv ?_
      rintro other - (hin | habove)
      · obtain rfl : other = r := eq_of_places_above hctx (prefix_of_inside hin) hq
        exact hown (Or.inl hin)
      · obtain rfl : r = other := eq_of_places_above hctx (hq.trans habove) (List.prefix_refl _)
        exact hown (Or.inr habove)
    rw [hunchanged h, hunchanged h']

/-! ## Rendering resources in turn -/

/-- Rendering that stopped: some resources were rendered, and then the next one was not. -/
theorem renderAll_eq_error (h : ctx.renderAll cwd rs t = .error e t') : ∃ before r after paths s,
    rs = before ++ r :: after ∧ ctx.renderAll cwd before t = .ok paths s ∧ ctx.renderResource cwd r s = .error e t' := by
  induction rs generalizing t with
  | nil => cases h
  | cons first rest ih =>
    rw [renderAll_cons] at h
    rcases Action.bind_eq_error.mp h with hfirst | ⟨paths, s, hfirst, h⟩
    · exact ⟨[], first, rest, [], t, rfl, rfl, hfirst⟩
    · rcases Action.bind_eq_error.mp h with hrest | ⟨others, s', -, hpure⟩
      · obtain ⟨before, r, after, others, s', rfl, hbefore, hfails⟩ := ih hrest
        refine ⟨first :: before, r, after, paths ++ others, s', rfl, ?_, hfails⟩
        rw [renderAll_cons]
        exact Action.bind_eq_ok.mpr ⟨paths, s, hfirst, Action.bind_eq_ok.mpr ⟨others, s', hbefore, rfl⟩⟩
      · cases hpure

/-- How rendering a selection stopped, at its first resource that cannot be rendered. The resources before it are as they are when
they are rendered alone, and those that do not occur up to it are as they were. Without an anchor the step that failed did nothing. -/
structure Stopped (ctx : Context) (cwd : Place) (selection before : List Resource) (r : Resource) (t s t' : FileTree)
    (e : RenderError) : Prop where
  position : before ++ [r] <+: selection
  done : ctx.renderAll cwd before t = .ok (before.flatMap ctx.writtenPaths) s
  fails : ctx.renderResource cwd r s = .error e t'
  first : (∀ r' ∈ before, Action.succeeds (ctx.renderResource cwd r') t = true) ∧
    Action.succeeds (ctx.renderResource cwd r) t = false
  rendered : ∀ r' ∈ before, ∃ v, ctx.renderResource cwd r' t = .ok (ctx.writtenPaths r') v ∧
    ∀ q, ctx.place cwd r' <+: q → t'.lookup q = v.lookup q
  untouched : ∀ r', r' ∉ before ++ [r] → ∀ q, ctx.place cwd r' <+: q → t'.lookup q = t.lookup q
  unanchored : ctx.Unanchored r ↔ ∃ path, e = .anchorNotFound path
  nothing : ∀ path, e = .anchorNotFound path → t' = s

/-- What a failing step leaves lies within the footprint of the resources up to it. -/
theorem confined_of_fails (hctx : ctx.Sound) {before : List Resource} {paths : List Path} {s : FileTree}
    (hbefore : ctx.renderAll cwd before t = .ok paths s) (hfails : ctx.renderResource cwd r s = .error e t') :
    Confined (ctx.footprint cwd (before ++ [r])) t t' := by
  have hfirst := (renderAll_keeps hctx cwd before).of_ok hbefore
  have hsecond := (renderResource_keeps_footprint hctx cwd r).of_error hfails
  exact (hfirst.mono (footprint_mono (List.subset_append_left _ _))).trans
    (hsecond.mono (footprint_mono (List.subset_append_right _ _)))

/-- A failing step leaves every other resource rendered that was. -/
theorem Rendered.of_fails (h : Rendered ctx cwd t r') (hctx : ctx.Sound) (hfails : ctx.renderResource cwd r t = .error e t')
    (hne : r' ≠ r) : Rendered ctx cwd t' r' := by
  have hkeeps := (renderResource_keeps_footprint hctx cwd r).of_error hfails
  exact h.of_others hctx hkeeps (by simpa using hne)

/-- Resources that were rendered before another one failed are as they are when they are rendered alone. -/
theorem alone_of_fails (hctx : ctx.Sound) {before : List Resource} {paths : List Path} {s : FileTree}
    (hbefore : ctx.renderAll cwd before t = .ok paths s) (hfails : ctx.renderResource cwd r s = .error e t') (hr : r ∉ before) :
    ∀ r' ∈ before, ∃ v, ctx.renderResource cwd r' t = .ok (ctx.writtenPaths r') v ∧
      ∀ q, ctx.place cwd r' <+: q → t'.lookup q = v.lookup q := by
  intro r' hr'
  have hall := (renderAll_succeeds_iff hctx).mp (Action.succeeds_iff.mpr ⟨paths, s, hbefore⟩)
  obtain ⟨alone, v, hrun⟩ := Action.succeeds_iff.mp (hall r' hr')
  obtain ⟨rfl, hrendered⟩ := renderResource_eq_ok hctx hrun
  have hne : r' ≠ r := fun heq => hr (heq ▸ hr')
  have hkept := ((renderAll_eq_ok hctx hbefore).2 r' hr').of_fails hctx hfails hne
  have halone := (renderResource_keeps_footprint hctx cwd r').of_ok hrun
  exact ⟨v, hrun, fun q hq => lookup_below_of_rendered hctx halone (confined_of_fails hctx hbefore hfails) hrendered hkept hq⟩

/-- Rendering a selection that fails stops at its first resource that cannot be rendered. -/
theorem exists_stopped (hctx : ctx.Sound) {selection : List Resource} (h : ctx.renderAll cwd selection t = .error e t') :
    ∃ before r s, Stopped ctx cwd selection before r t s t' e := by
  obtain ⟨before, r, after, paths, s, rfl, hbefore, hfails⟩ := renderAll_eq_error h
  obtain ⟨rfl, -⟩ := renderAll_eq_ok hctx hbefore
  have hall := (renderAll_succeeds_iff hctx).mp (Action.succeeds_iff.mpr ⟨_, s, hbefore⟩)
  have hcannot : Action.succeeds (ctx.renderResource cwd r) t = false := by
    rw [Bool.eq_false_iff, ne_eq, ← succeeds_after_all hctx hbefore, Action.succeeds_of_error hfails]
    exact Bool.false_ne_true
  have hnotBefore : r ∉ before := by
    intro hr
    rw [hall r hr] at hcannot
    cases hcannot
  have hcause := renderResource_eq_error_cases hctx hfails
  refine ⟨before, r, s, ⟨after, by simp⟩, hbefore, hfails, ⟨hall, hcannot⟩, alone_of_fails hctx hbefore hfails hnotBefore,
    ?_, ?_, ?_⟩
  · exact (stays_of_confined hctx (confined_of_fails hctx hbefore hfails)).otherResources
  · rcases hcause with ⟨hr, ⟨child, -, he⟩, -⟩ | ⟨hr, path, cause, he⟩
    · exact iff_of_true hr ⟨_, he⟩
    · simp [hr, he]
  · intro path he
    rcases hcause with ⟨-, -, hnothing⟩ | ⟨-, path', cause, he'⟩
    · exact hnothing
    · rw [he] at he'
      cases he'

/-- Which renders fail and what they leave. A resource cannot be registered with a fresh provider exactly when it is a bootstrap
resource and no path of its children has an anchor, and the error names the path of one of them. Rendering a selection fails only
with such an error or one of the operating system, and stops at the first resource that cannot be rendered. -/
theorem renderEnvironment_failures (hctx : ctx.Sound) :
    (∀ r name directory, ((∃ e p, ctx.registerResource r (.new name directory) = .error e p) ↔
        r.isBootstrap = true ∧ ∀ child ∈ r.children, .name anchor ∉ (ctx.directory child).components) ∧
      ∀ e p, ctx.registerResource r (.new name directory) = .error e p →
        ∃ child ∈ r.children, e = .anchorNotFound (ctx.directory child)) ∧
      ∀ cwd selection t e t', ctx.renderEnvironment cwd selection t = .error e t' →
        ((∃ path, e = .anchorNotFound path) ∨ ∃ path cause, e = .io path cause) ∧
          ∃ before r s, Stopped ctx cwd (effective selection) before r t s t' e := by
  refine ⟨?_, ?_⟩
  · intro r name directory
    refine ⟨registerResource_fails_iff hctx.plain name directory, ?_⟩
    intro e p hfails
    exact (registerResource_eq_error hctx.plain hfails).1
  · intro cwd selection t e t' h
    obtain ⟨before, r, s, hstopped⟩ := exists_stopped hctx h
    refine ⟨?_, before, r, s, hstopped⟩
    rcases renderResource_eq_error_cases hctx hstopped.fails with ⟨-, ⟨child, -, he⟩, -⟩ | ⟨-, he⟩
    · exact Or.inl ⟨_, he⟩
    · exact Or.inr he

/-- Outside any repository rendering stops at the first resource that has applications for children, behind what was rendered. -/
theorem renderEnvironment_failures_detached : ∃ path s t',
    detached.renderEnvironment [] [.argocd, .applicationsParents, .namespaces] .empty = .error (.anchorNotFound path) t' ∧
      Stopped detached [] [.argocd, .applicationsParents, .namespaces] [.argocd] .applicationsParents .empty s t'
        (.anchorNotFound path) := by
  have hargocd : Action.succeeds (detached.renderResource [] .argocd) .empty = true := by decide +kernel
  have hparents : Action.succeeds (detached.renderResource [] .applicationsParents) .empty = false := by decide +kernel
  cases hrun : detached.renderEnvironment [] [.argocd, .applicationsParents, .namespaces] .empty with
  | ok paths u =>
    have hall := (renderEnvironment_succeeds_iff sound_detached).mp (Action.succeeds_iff.mpr ⟨paths, u, hrun⟩)
    rw [hall .applicationsParents (by decide)] at hparents
    cases hparents
  | error e t' =>
    obtain ⟨-, before, r, s, hstopped⟩ := (renderEnvironment_failures sound_detached).2 _ _ _ _ _ hrun
    have hposition : before ++ [r] <+: [.argocd, .applicationsParents, .namespaces] := hstopped.position
    rcases before with _ | ⟨first, _ | ⟨second, rest⟩⟩
    · -- the first resource can be rendered
      obtain ⟨rfl, -⟩ := List.cons_prefix_cons.mp hposition
      rw [hstopped.first.2] at hargocd
      cases hargocd
    · obtain ⟨rfl, hnext⟩ := List.cons_prefix_cons.mp hposition
      obtain ⟨rfl, -⟩ := List.cons_prefix_cons.mp hnext
      obtain ⟨path, rfl⟩ := hstopped.unanchored.mp ⟨rfl, by decide⟩
      exact ⟨path, s, t', rfl, hstopped⟩
    · -- the second cannot
      obtain ⟨rfl, hnext⟩ := List.cons_prefix_cons.mp hposition
      obtain ⟨rfl, -⟩ := List.cons_prefix_cons.mp hnext
      rw [hstopped.first.1 .applicationsParents (List.mem_cons_of_mem _ List.mem_cons_self)] at hparents
      cases hparents

end Context

end ManifestTree
