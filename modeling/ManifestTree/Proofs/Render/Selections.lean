import ManifestTree.Proofs.Render.Success

/-!
# Selections

Of a selection only the resources in it matter, not their order and not how often they are named: two selections of the same
resources can be rendered into the same trees, leave the same tree behind and give the same paths (`renderEnvironment_of_same_resources`).
A selection can be rendered exactly when each of its resources can be rendered alone.
-/

namespace ManifestTree

namespace Context

variable {ctx : Context} {cwd : Place} {rs rs' : List Resource} {t u u' : FileTree}

/-- Rendering the same resources leaves the same tree behind: whatever stands at a place of theirs was rendered, and everything else is
as it was to begin with. -/
theorem lookup_eq_of_rendered (hsame : ∀ r, r ∈ rs ↔ r ∈ rs') (h : Confined (ctx.footprint cwd rs) t u)
    (h' : Confined (ctx.footprint cwd rs') t u') (hrendered : ∀ r ∈ rs, Rendered ctx cwd u r)
    (hrendered' : ∀ r ∈ rs', Rendered ctx cwd u' r) : u'.lookup = u.lookup := by
  funext q
  by_cases hq : ∃ r ∈ rs, (Footprint.groups (ctx.place cwd r)).inside q ∨ q <+: ctx.place cwd r
  · obtain ⟨r, hr, hq⟩ := hq
    exact (hrendered r hr).lookup_eq (hrendered' r ((hsame r).mp hr)) hq
  · have hbefore : u.lookup q = t.lookup q := lookup_eq_outside h fun r hr hown => hq ⟨r, hr, hown⟩
    have hbefore' : u'.lookup q = t.lookup q := lookup_eq_outside h' fun r hr hown => hq ⟨r, (hsame r).mpr hr, hown⟩
    rw [hbefore, hbefore']

/-- A selection can be rendered exactly when each of its resources can be rendered alone. -/
theorem renderEnvironment_succeeds_iff (hctx : ctx.Sound) {selection : List Resource} :
    Action.succeeds (ctx.renderEnvironment cwd selection) t = true ↔
      ∀ r ∈ effective selection, Action.succeeds (ctx.renderResource cwd r) t = true :=
  renderAll_succeeds_iff hctx

theorem effective_of_ne_nil {selection : List Resource} (h : selection ≠ []) : effective selection = selection := if_neg h

/-- The paths that a resource of a rendered selection gives when it is rendered alone. -/
theorem renderResource_alone (hctx : ctx.Sound) {selection : List Resource} {paths : List Path}
    (h : ctx.renderEnvironment cwd selection t = .ok paths u) :
    ∀ r ∈ effective selection, ∃ v, ctx.renderResource cwd r t = .ok (ctx.writtenPaths r) v := by
  intro r hr
  have hall := (renderEnvironment_succeeds_iff hctx).mp (Action.succeeds_iff.mpr ⟨paths, u, h⟩)
  obtain ⟨alone, v, hrun⟩ := Action.succeeds_iff.mp (hall r hr)
  obtain ⟨rfl, -⟩ := renderResource_eq_ok hctx hrun
  exact ⟨v, hrun⟩

/-- What two selections of the same resources have in common when both are rendered into a tree: what stands at each place afterwards,
and which paths are given. Each gives, in its own order, the paths that its resources give when they are rendered alone. -/
structure Agree (ctx : Context) (cwd : Place) (t : FileTree) (rs rs' : List Resource) (paths paths' : List Path) (u u' : FileTree) :
    Prop where
  tree : u'.lookup = u.lookup
  same : ∀ path, path ∈ paths ↔ path ∈ paths'
  alone : ∀ r ∈ rs, ∃ v, ctx.renderResource cwd r t = .ok (ctx.writtenPaths r) v
  given : paths = rs.flatMap ctx.writtenPaths
  given' : paths' = rs'.flatMap ctx.writtenPaths

/-- Order and repetition of a selection do not matter. Two selections of the same resources can be rendered into the same trees, and
when they are they leave the same tree behind and give the same paths, each resource by resource in its own order. To select
nothing is to select all resources. -/
theorem renderEnvironment_of_same_resources (hctx : ctx.Sound) (hrs : rs ≠ []) (hrs' : rs' ≠ [])
    (hsame : ∀ r, r ∈ rs ↔ r ∈ rs') (cwd : Place) (t : FileTree) :
    (Action.succeeds (ctx.renderEnvironment cwd rs) t = true ↔ Action.succeeds (ctx.renderEnvironment cwd rs') t = true) ∧
      (∀ paths u paths' u', ctx.renderEnvironment cwd rs t = .ok paths u → ctx.renderEnvironment cwd rs' t = .ok paths' u' →
        Agree ctx cwd t rs rs' paths paths' u u') ∧
      ctx.renderEnvironment cwd [] = ctx.renderEnvironment cwd Resource.all := by
  have heffective := effective_of_ne_nil hrs
  have heffective' := effective_of_ne_nil hrs'
  refine ⟨?_, ?_, rfl⟩
  · rw [renderEnvironment_succeeds_iff hctx, renderEnvironment_succeeds_iff hctx, heffective, heffective']
    constructor
    · intro h r hr
      exact h r ((hsame r).mpr hr)
    · intro h r hr
      exact h r ((hsame r).mp hr)
  · intro paths u paths' u' h h'
    have hkeeps := (renderEnvironment_keeps hctx cwd rs).of_ok h
    have hkeeps' := (renderEnvironment_keeps hctx cwd rs').of_ok h'
    have halone := renderResource_alone hctx h
    obtain ⟨hpaths, hrendered⟩ := renderEnvironment_eq_ok hctx h
    obtain ⟨hpaths', hrendered'⟩ := renderEnvironment_eq_ok hctx h'
    rw [heffective] at hkeeps hpaths hrendered halone
    rw [heffective'] at hkeeps' hpaths' hrendered'
    refine ⟨lookup_eq_of_rendered hsame hkeeps hkeeps' hrendered hrendered', ?_, halone, hpaths, hpaths'⟩
    intro path
    rw [hpaths, hpaths', List.mem_flatMap, List.mem_flatMap]
    constructor
    · rintro ⟨r, hr, hpath⟩
      exact ⟨r, (hsame r).mp hr, hpath⟩
    · rintro ⟨r, hr, hpath⟩
      exact ⟨r, (hsame r).mpr hr, hpath⟩

/-- The context of manifests that are kept in `/srv`, outside any repository. -/
def detached : Context := ⟨⟨.ofString "/srv", none⟩, .local, "repository"⟩

theorem sound_detached : detached.Sound where
  descends := by decide
  plain := by
    intro s hs
    cases hs

/-- Two resources the other way round, and one of them twice. -/
theorem renderEnvironment_of_same_resources_repeated : ∃ paths u paths' u',
    detached.renderEnvironment [] [.argocd, .namespaces] .empty = .ok paths u ∧
      detached.renderEnvironment [] [.namespaces, .argocd, .argocd] .empty = .ok paths' u' ∧
        Agree detached [] .empty [.argocd, .namespaces] [.namespaces, .argocd, .argocd] paths paths' u u' := by
  have hsame : ∀ r, r ∈ [Resource.argocd, .namespaces] ↔ r ∈ [Resource.namespaces, .argocd, .argocd] := by
    intro r
    cases r <;> decide
  obtain ⟨hsucceeds, hagree, -⟩ := renderEnvironment_of_same_resources sound_detached (List.cons_ne_nil _ _)
    (List.cons_ne_nil _ _) hsame [] .empty
  have hfirst : Action.succeeds (detached.renderEnvironment [] [.argocd, .namespaces]) .empty = true := by decide +kernel
  obtain ⟨paths, u, h⟩ := Action.succeeds_iff.mp hfirst
  obtain ⟨paths', u', h'⟩ := Action.succeeds_iff.mp (hsucceeds.mp hfirst)
  exact ⟨paths, u, paths', u', h, h', hagree paths u paths' u' h h'⟩

end Context

end ManifestTree
