import ManifestTree.Proofs.Render.Identities
import ManifestTree.Proofs.Render.Pointing

/-!
# When the objects of a resource can be registered

A fresh provider takes the objects of a resource, whatever it is called and wherever it writes, unless the resource has applications for
children and no path of these has an anchor: then it takes none of them, and the anchor is missing from the path of a child
(`registerResource_fails_iff`, `registerResource_of_unanchored`). No two objects of a resource ever have the same path.
-/

namespace ManifestTree

namespace Context

variable {ctx : Context} {r child : Resource}

/-- A bootstrap resource whose children have no anchor on their paths. -/
def Unanchored (ctx : Context) (r : Resource) : Prop :=
  r.isBootstrap = true ∧ ∀ child ∈ r.children, .name anchor ∉ (ctx.directory child).components

/-- Whether there is an anchor on the path of a resource does not depend on the resource. -/
theorem anchor_mem_directory_congr (h : ctx.layout.Plain) (r r' : Resource) :
    .name anchor ∈ (ctx.directory r).components ↔ .name anchor ∈ (ctx.directory r').components := by
  unfold directory
  rw [Layout.anchor_mem_resourcePath_iff h, Layout.anchor_mem_resourcePath_iff h]

/-- When one child has no anchor on its path, none has. -/
theorem unanchored_of_child (h : ctx.layout.Plain) (hchild : child ∈ r.children)
    (hnone : .name anchor ∉ (ctx.directory child).components) : ctx.Unanchored r := by
  constructor
  · by_contra hr
    rw [children_of_not_isBootstrap (Bool.eq_false_iff.mpr hr)] at hchild
    cases hchild
  · intro other _ hother
    exact hnone ((anchor_mem_directory_congr h other child).mp hother)

/-- The objects of a resource can be built when its children have anchors on their paths. -/
theorem built_of_anchored (h : ctx.layout.Plain) (hr : ¬ ctx.Unanchored r) : ∀ o ∈ ctx.objects r, ∃ c, o = .ok c := by
  refine built_of_paths ?_
  intro child hchild
  refine Path.exists_repoRelative_iff.mpr ?_
  by_contra hnone
  exact hr (unanchored_of_child h hchild hnone)

/-- A child without an anchor on its path has no application. -/
theorem offer_childApplication_eq_error (hnone : .name anchor ∉ (ctx.directory child).components) :
    offer (ctx.childApplication child) = .error (.anchorNotFound (ctx.directory child)) := by
  have hpath : ctx.layout.repoRelativePath ctx.environment child = .error (.anchorNotFound (ctx.directory child)) :=
    Path.repoRelative_eq_error_iff.mpr ⟨hnone, rfl⟩
  unfold offer childApplication
  rw [Application.ofResource_eq, hpath]
  rfl

/-- A bootstrap resource whose children have no anchor on their paths: the first of them is the error, and nothing is registered. -/
theorem registerResource_of_unanchored (hr : ctx.Unanchored r) (p : Provider) :
    ∃ child ∈ r.children, ctx.registerResource r p = .error (.anchorNotFound (ctx.directory child)) p := by
  have hobjects : ctx.objects r = r.children.map fun child => offer (ctx.childApplication child) := objects_of_isBootstrap hr.1
  cases hchildren : r.children with
  | nil =>
    rw [hchildren] at hobjects
    exact absurd hobjects (objects_ne_nil ctx r)
  | cons first rest =>
    refine ⟨first, List.mem_cons_self, ?_⟩
    have hfirst := offer_childApplication_eq_error (hr.2 first (hchildren ▸ List.mem_cons_self))
    unfold registerResource
    rw [hobjects, hchildren, List.map_cons, hfirst]
    rfl

/-- A fresh provider takes the objects of a resource unless they are applications for children without an anchor on their paths. -/
theorem registerResource_of_anchored (h : ctx.layout.Plain) (hr : ¬ ctx.Unanchored r) (name : String) (directory : Path) :
    ∃ ms, Registers (ctx.objects r) ms ∧ ctx.registerResource r (.new name directory) = .ok () ⟨name, directory, ms⟩ :=
  registerResource_new_of_built (built_of_anchored h hr) name directory

/-- The resources that cannot be registered with a fresh provider. -/
theorem registerResource_fails_iff (h : ctx.layout.Plain) (name : String) (directory : Path) :
    (∃ e p, ctx.registerResource r (.new name directory) = .error e p) ↔ ctx.Unanchored r := by
  constructor
  · rintro ⟨e, p, hfails⟩
    by_contra hr
    obtain ⟨ms, -, hregister⟩ := registerResource_of_anchored h hr name directory
    rw [hregister] at hfails
    cases hfails
  · intro hr
    obtain ⟨child, -, hfails⟩ := registerResource_of_unanchored hr (.new name directory)
    exact ⟨_, _, hfails⟩

/-- What goes wrong when a resource cannot be registered with a fresh provider: the anchor is missing from the path of a child, and
the provider is as fresh as it was. -/
theorem registerResource_eq_error (h : ctx.layout.Plain) {name : String} {directory : Path} {e : RenderError} {p : Provider}
    (hfails : ctx.registerResource r (.new name directory) = .error e p) :
    (∃ child ∈ r.children, e = .anchorNotFound (ctx.directory child)) ∧ p = .new name directory := by
  have hr := (registerResource_fails_iff h name directory).mp ⟨e, p, hfails⟩
  obtain ⟨child, hchild, hfails'⟩ := registerResource_of_unanchored hr (.new name directory)
  obtain ⟨rfl, rfl⟩ := EStateM.Result.error.inj (hfails.symm.trans hfails')
  exact ⟨⟨child, hchild, rfl⟩, rfl⟩

end Context

end ManifestTree
