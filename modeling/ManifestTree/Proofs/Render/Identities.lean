import ManifestTree.Proofs.Manifest.Identity
import ManifestTree.Proofs.Render.Objects

/-!
# What the objects of resources are called

What the objects of a resource are called, and in which order, depends on the resource alone: wherever and for whichever environment
it is rendered, it has the same files (`identities_of_registers`). No two files of a resource have the same name, so all its objects
are registered once they could be built (`registerResource_new_of_built`), and only the applications of a bootstrap resource may fail to
be (`built_of_paths`).
-/

namespace ManifestTree

/-- What an application is called. -/
def Application.identityOf (name : String) : Identity :=
  ⟨KubeObject.apiVersion Application, KubeObject.kind Application, some argocdNamespace, name⟩

/-- What the application that installs a chart is called. -/
def Chart.identity (c : Chart) : Identity := Application.identityOf s!"{c.name}-chart"

namespace Resource

/-- What the objects of a service are called. -/
def serviceIdentities (r : Resource) : List Identity :=
  [⟨KubeObject.apiVersion Deployment, KubeObject.kind Deployment, some r.targetNamespace, r.name⟩,
    ⟨KubeObject.apiVersion Service, KubeObject.kind Service, some r.targetNamespace, r.name⟩]

/-- What the objects of a resource are called, in the order they are registered. -/
def identities (r : Resource) : List Identity :=
  match r with
  | .reactWeb | .graphqlMongo | .graphqlPostgres => r.serviceIdentities
  | .namespaces => managedNamespaceNames.map fun name => ⟨KubeObject.apiVersion Namespace, KubeObject.kind Namespace, none, name⟩
  | .argocd => [Chart.argoCd.identity]
  | .certManager => [Chart.certManager.identity]
  | .linkerd => [Chart.linkerdDefinitions.identity, Chart.linkerdControlPlane.identity]
  | .linkerdViz => [Chart.linkerdViz.identity]
  | .sealedSecrets => [Chart.sealedSecrets.identity]
  | .nginxIngress => [Chart.nginxIngress.identity]
  | .fluvioSys => [Chart.fluvioSys.identity]
  | .applicationsParents | .applicationsInfrastructure | .applicationsServices =>
    r.children.map fun child => Application.identityOf child.name

/-- The files of a resource have different names. -/
theorem fileBytes_pairwise (r : Resource) : r.identities.Pairwise fun i i' => i.fileBytes ≠ i'.fileBytes := by
  cases r <;> decide +kernel

/-- No file name of a resource has a NUL byte or is longer than a hundred bytes. -/
theorem fileBytes_short (r : Resource) : ∀ i ∈ r.identities, (0 : UInt8) ∉ i.fileBytes ∧ i.fileBytes.length ≤ 100 := by
  cases r <;> decide +kernel

end Resource

/-- An object whose manifest is called so, if it could be built. -/
def Identifies (o : Except RenderError Candidate) (i : Identity) : Prop :=
  ∀ c, o = .ok c → ∃ m, c.manifest? = some m ∧ m.identity = i

/-- What an object with a name is called. -/
theorem identifies_ofObject {α : Type} [KubeObject α] {object : α} {name : String}
    (h : (KubeObject.metadata object).name? = some name) : Identifies (.ok (.ofObject object))
      ⟨KubeObject.apiVersion α, KubeObject.kind α, (KubeObject.metadata object).namespaceName?, name⟩ := by
  intro c hc
  obtain rfl := Except.ok.inj hc
  have hname : (Candidate.ofObject object).name? = some name := h
  refine ⟨⟨_, _, _, name, (KubeObject.document object).sorted⟩, ?_, rfl⟩
  unfold Candidate.manifest?
  rw [hname]
  rfl

/-- Manifests are called what their objects are, in this order. -/
theorem map_identity_of_registers {objects : List (Except RenderError Candidate)} {ms : List Manifest} {is : List Identity}
    (h : Registers objects ms) (his : List.Forall₂ Identifies objects is) : ms.map Manifest.identity = is := by
  induction h generalizing is with
  | nil =>
    cases his
    rfl
  | cons hfirst _ ih =>
    cases his with
    | cons hi hrest =>
      obtain ⟨c, hc, hm⟩ := hfirst
      obtain ⟨m', hm', hidentity⟩ := hi c hc
      obtain rfl := Option.some.inj (hm.symm.trans hm')
      rw [List.map_cons, hidentity, ih hrest]

/-- What an application is called follows from the name it was built with. -/
theorem identifies_offer {a : Except RenderError Application} {name : String}
    (h : ∀ app, a = .ok app → ∃ source namespaceName options, app = Application.inSync name source namespaceName options) :
    Identifies (Context.offer a) (Application.identityOf name) := by
  intro c hc
  obtain ⟨app, happ, rfl⟩ := Context.offer_eq_ok hc
  obtain ⟨source, namespaceName, options, rfl⟩ := h app happ
  exact identifies_ofObject rfl _ rfl

namespace Context

variable {ctx : Context} {r : Resource} {ms : List Manifest}

/-- What the application of a chart is called. -/
theorem identifies_chart {α : Type} [ChartValues α] (chart : Chart) (values : α) (namespaceName : String) :
    Identifies (offer (Application.ofChart chart values namespaceName)) chart.identity := by
  refine identifies_offer ?_
  intro app happ
  obtain ⟨source, options, rfl, -, -⟩ := Application.ofChart_eq_ok happ
  exact ⟨source, namespaceName, options, rfl⟩

/-- What the application for a child is called. -/
theorem identifies_child (ctx : Context) (child : Resource) :
    Identifies (offer (ctx.childApplication child)) (Application.identityOf child.name) := by
  refine identifies_offer ?_
  intro app happ
  obtain ⟨path, -, rfl⟩ := Application.ofResource_eq_ok happ
  exact ⟨_, _, [], rfl⟩

/-- What the objects of a service are called. -/
theorem identifies_service (ctx : Context) (s : Settings) :
    List.Forall₂ Identifies (ctx.serviceObjects s) s.resource.serviceIdentities :=
  .cons (identifies_ofObject rfl) (.cons (identifies_ofObject rfl) .nil)

/-- The objects of a resource are called what the resource says. -/
theorem identifies_objects (ctx : Context) (r : Resource) : List.Forall₂ Identifies (ctx.objects r) r.identities := by
  have hchildren : List.Forall₂ Identifies (r.children.map fun child => offer (ctx.childApplication child))
      (r.children.map fun child => Application.identityOf child.name) := by
    rw [List.forall₂_map_left_iff, List.forall₂_map_right_iff, List.forall₂_same]
    exact fun child _ => identifies_child ctx child
  cases r with
  | reactWeb => exact identifies_service ctx .reactWeb
  | graphqlMongo => exact identifies_service ctx .graphqlMongo
  | graphqlPostgres => exact identifies_service ctx .graphqlPostgres
  | namespaces =>
    change List.Forall₂ Identifies ((managedNamespaceNames.map Namespace.ofName).map fun n => .ok (.ofObject n))
      (managedNamespaceNames.map _)
    rw [List.map_map, List.forall₂_map_left_iff, List.forall₂_map_right_iff, List.forall₂_same]
    exact fun name _ => identifies_ofObject rfl
  | argocd => exact .cons (identifies_chart _ _ _) .nil
  | certManager => exact .cons (identifies_chart _ _ _) .nil
  | linkerd => exact .cons (identifies_chart _ _ _) (.cons (identifies_chart _ _ _) .nil)
  | linkerdViz => exact .cons (identifies_chart _ _ _) .nil
  | sealedSecrets => exact .cons (identifies_chart _ _ _) .nil
  | nginxIngress => exact .cons (identifies_chart _ _ _) .nil
  | fluvioSys => exact .cons (identifies_chart _ _ _) .nil
  | applicationsParents | applicationsInfrastructure | applicationsServices => exact hchildren

/-- The manifests of a resource are called what the resource says, in this order. -/
theorem identities_of_registers (h : Registers (ctx.objects r) ms) : ms.map Manifest.identity = r.identities :=
  map_identity_of_registers h (identifies_objects ctx r)

/-- The manifests of a resource have different paths. -/
theorem distinct_of_registers (h : Registers (ctx.objects r) ms) : Distinct ms := by
  refine Manifest.distinct_of_identities (fun m hm => (h.regular m hm).1) ?_
  rw [identities_of_registers h]
  exact r.fileBytes_pairwise

/-! ## Objects that are built -/

/-- Objects that were built have manifests. -/
theorem exists_registers {objects : List (Except RenderError Candidate)} {is : List Identity}
    (h : List.Forall₂ Identifies objects is) (hbuilt : ∀ o ∈ objects, ∃ c, o = .ok c) : ∃ ms, Registers objects ms := by
  induction h with
  | nil => exact ⟨[], .nil⟩
  | cons hfirst _ ih =>
    obtain ⟨c, hc⟩ := hbuilt _ List.mem_cons_self
    obtain ⟨m, hm, -⟩ := hfirst c hc
    obtain ⟨ms, hms⟩ := ih fun o ho => hbuilt o (List.mem_cons_of_mem _ ho)
    exact ⟨m :: ms, .cons ⟨c, hc, hm⟩ hms⟩

/-- A fresh provider takes the manifests of a resource. -/
theorem registerResource_new (hms : Registers (ctx.objects r) ms) (name : String) (directory : Path) :
    ctx.registerResource r (.new name directory) = .ok () ⟨name, directory, ms⟩ := by
  have hdistinct : Distinct ([] ++ ms) := distinct_of_registers hms
  exact Provider.registerAll_of_distinct hms hdistinct

/-- What a fresh provider took for a resource are its manifests. -/
theorem registers_of_registerResource {name : String} {directory : Path} {p : Provider}
    (h : ctx.registerResource r (.new name directory) = .ok () p) : Registers (ctx.objects r) p.manifests := by
  obtain ⟨-, ms, hms, hregisters⟩ := Provider.registerAll_eq_ok h
  rw [hms]
  exact hregisters

/-- A fresh provider takes the objects of a resource when all of them could be built. -/
theorem registerResource_new_of_built (hbuilt : ∀ o ∈ ctx.objects r, ∃ c, o = .ok c) (name : String) (directory : Path) :
    ∃ ms, Registers (ctx.objects r) ms ∧ ctx.registerResource r (.new name directory) = .ok () ⟨name, directory, ms⟩ := by
  obtain ⟨ms, hms⟩ := exists_registers (identifies_objects ctx r) hbuilt
  exact ⟨ms, hms, registerResource_new hms name directory⟩

/-- A resource whose objects could all be built can be registered. -/
theorem registerResource_of_built (hbuilt : ∀ o ∈ ctx.objects r, ∃ c, o = .ok c) :
    ∃ p, ctx.registerResource r (ctx.layout.provider ctx.environment r) = .ok () p := by
  obtain ⟨ms, -, hregister⟩ := registerResource_new_of_built hbuilt s!"render-{r.name}" (ctx.layout.resourcePath ctx.environment r)
  exact ⟨_, hregister⟩

/-- The objects of a resource can be built when its children have repository-relative paths. -/
theorem built_of_paths (h : ∀ child ∈ r.children, ∃ path, ctx.layout.repoRelativePath ctx.environment child = .ok path) :
    ∀ o ∈ ctx.objects r, ∃ c, o = .ok c := by
  have hchildren : ∀ o ∈ r.children.map (fun child => offer (ctx.childApplication child)), ∃ c, o = .ok c := by
    intro o ho
    obtain ⟨child, hchild, rfl⟩ := List.mem_map.mp ho
    obtain ⟨path, hpath⟩ := h child hchild
    unfold childApplication
    rw [Application.ofResource_eq, hpath]
    exact ⟨_, rfl⟩
  intro o ho
  cases r with
  | applicationsParents | applicationsInfrastructure | applicationsServices => exact hchildren o ho
  | namespaces =>
    obtain ⟨n, -, rfl⟩ := List.mem_map.mp ho
    exact ⟨_, rfl⟩
  | reactWeb | graphqlMongo | graphqlPostgres | linkerd =>
    rcases List.mem_cons.mp ho with rfl | ho
    · exact ⟨_, rfl⟩
    · rw [List.mem_singleton.mp ho]
      exact ⟨_, rfl⟩
  | _ =>
    rw [List.mem_singleton.mp ho]
    exact ⟨_, rfl⟩

end Context

end ManifestTree
