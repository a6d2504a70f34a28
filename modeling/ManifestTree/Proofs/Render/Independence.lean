import ManifestTree.Proofs.Document.Erasing
import ManifestTree.Proofs.Render.Registering

/-!
# What does not depend on where a resource is rendered

Neither the root of all manifests, nor a scratch directory, nor the address of the repository has a part in what is rendered, except that
the applications for children say where in which repository these are kept (`registerResource_independent`). What the manifests
of a resource are called and where they are written does not even depend on the environment.
-/

namespace ManifestTree

/-- A document without what the source of an application says about the repository: which path of it, and where it is. -/
def Document.withoutOrigin (d : Document) : Document :=
  d.within "spec" fun spec => spec.within "source" fun source => source.without ["path", "repoURL"]

theorem Document.sorted_withoutOrigin (d : Document) : d.withoutOrigin.sorted = d.sorted.withoutOrigin :=
  sorted_within (sorted_within (sorted_without ["path", "repoURL"])) d

/-- Applications that track different directories are written alike, up to where these are. -/
theorem Application.withoutOrigin_tracking (name namespaceName directory directory' url url' : String) :
    (KubeObject.document (tracking name directory namespaceName url)).withoutOrigin =
      (KubeObject.document (tracking name directory' namespaceName url')).withoutOrigin := by
  rfl

namespace Context

variable {ctx ctx' : Context} {r child : Resource} {m m' : Manifest} {ms ms' : List Manifest}

/-- The application for a child says where the child is kept, in the repository of its context. -/
structure Places (ctx : Context) (child : Resource) (m : Manifest) : Prop where
  repository : m.repositoryUrl? = some ctx.repositoryUrl
  path : ∃ path, ctx.layout.repoRelativePath ctx.environment child = .ok path ∧ m.sourcePath? = some path.display

theorem Tracks.places (h : ctx.Tracks child m) : ctx.Places child m := by
  obtain ⟨path, hpath, hm⟩ := h
  exact ⟨Manifest.repositoryUrl?_of_application hm, path, hpath, Manifest.sourcePath?_of_application hm⟩

/-- The applications for a child in two contexts have the same body, up to where the child is kept. -/
theorem Tracks.withoutOrigin (h : ctx.Tracks child m) (h' : ctx'.Tracks child m') :
    m.body.withoutOrigin = m'.body.withoutOrigin := by
  obtain ⟨path, -, hm⟩ := h
  obtain ⟨path', -, hm'⟩ := h'
  have hbody := Except.ok.inj (Manifest.body_of_manifest? hm)
  have hbody' := Except.ok.inj (Manifest.body_of_manifest? hm')
  rw [← hbody, ← hbody', ← Document.sorted_withoutOrigin, ← Document.sorted_withoutOrigin,
    Application.withoutOrigin_tracking]

/-- In two contexts the manifests of a resource are called alike, in the same order, and written to the same files. -/
theorem files_of_registers (h : Registers (ctx.objects r) ms) (h' : Registers (ctx'.objects r) ms') :
    ms.map (fun m => (m.identity, m.relativePath)) = ms'.map fun m => (m.identity, m.relativePath) := by
  have hfiles : ∀ ms : List Manifest,
      ms.map (fun m => (m.identity, m.relativePath)) = (ms.map Manifest.identity).map fun i => (i, i.relativePath) := by
    intro ms
    rw [List.map_map]
    exact List.map_congr_left fun m _ => by rw [Function.comp_apply, m.relativePath_eq]
  rw [hfiles, hfiles, identities_of_registers h, identities_of_registers h']

/-- In two contexts the applications of a bootstrap resource have the same bodies, up to where its children are kept. -/
theorem bodies_of_tracks {children : List Resource} (h : List.Forall₂ ctx.Tracks children ms)
    (h' : List.Forall₂ ctx'.Tracks children ms') :
    ms.map (fun m => m.body.withoutOrigin) = ms'.map fun m => m.body.withoutOrigin := by
  induction h generalizing ms' with
  | nil =>
    cases h'
    rfl
  | cons hfirst _ ih =>
    cases h' with
    | cons hfirst' hrest' => rw [List.map_cons, List.map_cons, hfirst.withoutOrigin hfirst', ih hrest']

/-- A resource that is no bootstrap resource consists of the same objects in two contexts for one environment. -/
theorem objects_congr (henvironment : ctx.environment = ctx'.environment) (hr : r.isBootstrap = false) :
    ctx.objects r = ctx'.objects r := by
  cases r with
  | applicationsParents | applicationsInfrastructure | applicationsServices => cases hr
  | _ => simp only [objects, serviceObjects, henvironment]

/-- A resource that is no bootstrap resource has manifests in every context. -/
theorem exists_registers_of_not_isBootstrap (ctx : Context) (hr : r.isBootstrap = false) : ∃ ms, Registers (ctx.objects r) ms := by
  refine exists_registers (identifies_objects ctx r) (built_of_paths ?_)
  rw [children_of_not_isBootstrap hr]
  intro child hchild
  cases hchild

/-- What is rendered for a resource does not depend on where. Wherever and for whichever environments it is registered, its manifests
are called alike and written to the same files, in the same order. For one environment they are the same, except that the
applications of a bootstrap resource say where its children are kept: each in the repository of its own context, by the path that its
own layout has for the child. -/
theorem registerResource_independent (ctx ctx' : Context) (r : Resource) (name name' : String) (directory directory' : Path) :
    (∀ p p', ctx.registerResource r (.new name directory) = .ok () p →
      ctx'.registerResource r (.new name' directory') = .ok () p' →
        p.manifests.map (fun m => (m.identity, m.relativePath)) = p'.manifests.map (fun m => (m.identity, m.relativePath))) ∧
      (ctx.environment = ctx'.environment → r.isBootstrap = false → ∃ ms,
        ctx.registerResource r (.new name directory) = .ok () ⟨name, directory, ms⟩ ∧
          ctx'.registerResource r (.new name' directory') = .ok () ⟨name', directory', ms⟩) ∧
      (ctx.environment = ctx'.environment → r.isBootstrap = true → ∀ p p',
        ctx.registerResource r (.new name directory) = .ok () p → ctx'.registerResource r (.new name' directory') = .ok () p' →
          p.manifests.map (fun m => m.body.withoutOrigin) = p'.manifests.map (fun m => m.body.withoutOrigin) ∧
            List.Forall₂ ctx.Places r.children p.manifests ∧ List.Forall₂ ctx'.Places r.children p'.manifests) := by
  refine ⟨?_, ?_, ?_⟩
  · intro p p' h h'
    exact files_of_registers (registers_of_registerResource h) (registers_of_registerResource h')
  · intro henvironment hr
    obtain ⟨ms, hms⟩ := exists_registers_of_not_isBootstrap ctx hr
    have hms' : Registers (ctx'.objects r) ms := objects_congr henvironment hr ▸ hms
    exact ⟨ms, registerResource_new hms name directory, registerResource_new hms' name' directory'⟩
  · intro _ hr p p' h h'
    have htracks := tracks_of_isBootstrap hr (registers_of_registerResource h)
    have htracks' := tracks_of_isBootstrap hr (registers_of_registerResource h')
    refine ⟨bodies_of_tracks htracks htracks', ?_, ?_⟩
    · exact htracks.imp fun _ _ hm => hm.places
    · exact htracks'.imp fun _ _ hm => hm.places

/-- The context of what is committed to a repository. -/
def committed : Context := ⟨.ofRepository (.ofString "/srv"), .local, "repository"⟩

/-- The context of a trial run in a fork of it. -/
def trial : Context := ⟨⟨.ofString "/work/kubernetes/manifests", some "tmp"⟩, .local, "fork"⟩

/-- The applications for all services, as they are committed and in a trial run. -/
theorem registerResource_independent_trial : ∃ p p',
    committed.registerResource .applicationsServices (.new "committed" (.ofString "a")) = .ok () p ∧
      trial.registerResource .applicationsServices (.new "trial" (.ofString "b")) = .ok () p' ∧
        p.manifests.map (fun m => m.body.withoutOrigin) = p'.manifests.map (fun m => m.body.withoutOrigin) ∧
          List.Forall₂ committed.Places Resource.applicationsServices.children p.manifests ∧
            List.Forall₂ trial.Places Resource.applicationsServices.children p'.manifests := by
  have hcommitted : committed.layout.Plain := by
    intro s hs
    cases hs
  have htrial : trial.layout.Plain := by
    intro s hs
    obtain rfl := Option.some.inj hs
    exact isSingle_iff.mpr (by decide)
  have hanchored : ¬ committed.Unanchored .applicationsServices := fun h => h.2 .reactWeb (by decide) (by decide)
  have hanchored' : ¬ trial.Unanchored .applicationsServices := fun h => h.2 .reactWeb (by decide) (by decide)
  obtain ⟨ms, -, h⟩ := registerResource_of_anchored hcommitted hanchored "committed" (.ofString "a")
  obtain ⟨ms', -, h'⟩ := registerResource_of_anchored htrial hanchored' "trial" (.ofString "b")
  have hsame := (registerResource_independent committed trial .applicationsServices "committed" "trial" (.ofString "a")
    (.ofString "b")).2.2 rfl rfl _ _ h h'
  exact ⟨_, _, h, h', hsame⟩

end Context

end ManifestTree
