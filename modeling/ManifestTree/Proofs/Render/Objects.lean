import ManifestTree.Proofs.Manifest.FileName
import ManifestTree.Proofs.Provider.Contents
import ManifestTree.Render

/-!
# The objects of resources

An object of a resource is no application, or it installs a chart, or it points at the directory of another resource
(`offered_of_mem_objects`). Every object has a kind, a namespace and a name without a slash, and none defines a custom resource
(`objects_regular`). So the manifests registered for a resource all lie in the plain group, under file names that are one directory
entry each (`Registers.regular`).
-/

namespace ManifestTree

/-- An object whose identity makes a plain manifest, and that defines no custom resource. -/
structure Candidate.Regular (c : Candidate) : Prop where
  notDefinition : c.kind ≠ Manifest.definitionKind
  kind : '/' ∉ c.kind.toList
  namespaceName : ∀ n, c.namespaceName? = some n → '/' ∉ n.toList
  name : ∀ n, c.name? = some n → '/' ∉ n.toList

/-- A type of objects whose kind makes plain manifests and defines no custom resources. -/
structure RegularKind (α : Type) [KubeObject α] : Prop where
  notDefinition : KubeObject.kind α ≠ Manifest.definitionKind
  noSlash : '/' ∉ (KubeObject.kind α).toList

/-- An object of a regular kind is regular when its metadata has no slash in namespace and name. -/
theorem RegularKind.ofObject {α : Type} [KubeObject α] (h : RegularKind α) {object : α}
    (hnamespace : ∀ n, (KubeObject.metadata object).namespaceName? = some n → '/' ∉ n.toList)
    (hname : ∀ n, (KubeObject.metadata object).name? = some n → '/' ∉ n.toList) : (Candidate.ofObject object).Regular where
  notDefinition := h.notDefinition
  kind := h.noSlash
  namespaceName := hnamespace
  name := hname

theorem regularKind_application : RegularKind Application := ⟨by decide, by decide⟩

theorem regularKind_deployment : RegularKind Deployment := ⟨by decide, by decide⟩

theorem regularKind_service : RegularKind Service := ⟨by decide, by decide⟩

theorem regularKind_namespace : RegularKind Namespace := ⟨by decide, by decide⟩

theorem Resource.slash_not_mem_name (r : Resource) : '/' ∉ r.name.toList := by
  cases r <;> decide

theorem Resource.slash_not_mem_targetNamespace (r : Resource) : '/' ∉ r.targetNamespace.toList := by
  cases r <;> decide

/-- An object with the metadata of a service is regular when its kind is. -/
theorem Settings.regular_of_metadata {α : Type} [KubeObject α] {object : α} (s : Settings) (h : RegularKind α)
    (hmetadata : KubeObject.metadata object = s.metadata) : (Candidate.ofObject object).Regular := by
  refine h.ofObject ?_ ?_
  · intro n hn
    rw [hmetadata] at hn
    obtain rfl := Option.some.inj hn
    exact s.resource.slash_not_mem_targetNamespace
  · intro n hn
    rw [hmetadata] at hn
    obtain rfl := Option.some.inj hn
    exact s.resource.slash_not_mem_name

namespace Application

/-- An application that installs a chart has the chart's repository as its source, and no directory. -/
theorem ofChart_eq_ok {α : Type} [ChartValues α] {chart : Chart} {values : α} {namespaceName : String} {a : Application}
    (h : ofChart chart values namespaceName = .ok a) : ∃ source options,
      a = inSync s!"{chart.name}-chart" source namespaceName options ∧ source.path? = none ∧ source.directory? = none := by
  unfold ofChart at h
  cases hvalues : valuesYaml values with
  | error e => simp [hvalues, bind, Except.bind] at h
  | ok text =>
    simp only [hvalues, bind, Except.bind, pure, Except.pure, Except.ok.injEq] at h
    exact ⟨_, _, h.symm, rfl, rfl⟩

/-- The application that keeps the manifests in sync that a repository has in a directory. -/
def tracking (name directory namespaceName url : String) : Application :=
  inSync name
    { repositoryUrl := url, path? := directory, targetRevision? := "HEAD", directory? := some ⟨some true⟩ } namespaceName []

/-- The application of a resource tracks the resource's directory by its repository-relative path, as far as it has one. -/
theorem ofResource_eq (l : Layout) (e : Environment) (r : Resource) (namespaceName url : String) :
    ofResource l e r namespaceName url =
      (l.repoRelativePath e r).map fun path => tracking r.name path.display namespaceName url := by
  unfold ofResource
  cases l.repoRelativePath e r with
  | error e => rfl
  | ok path => rfl

/-- An application that points at the directory of a resource tracks that directory's repository-relative path. -/
theorem ofResource_eq_ok {l : Layout} {e : Environment} {r : Resource} {namespaceName url : String} {a : Application}
    (h : ofResource l e r namespaceName url = .ok a) :
    ∃ path, l.repoRelativePath e r = .ok path ∧ a = tracking r.name path.display namespaceName url := by
  rw [ofResource_eq] at h
  cases hpath : l.repoRelativePath e r with
  | error e =>
    rw [hpath] at h
    cases h
  | ok path =>
    rw [hpath] at h
    exact ⟨path, rfl, (Except.ok.inj h).symm⟩

/-- An application built here is regular when its name has no slash. -/
theorem regular_inSync {name namespaceName : String} {source : ApplicationSource} {options : List String}
    (h : '/' ∉ name.toList) : (Candidate.ofObject (inSync name source namespaceName options)).Regular := by
  refine regularKind_application.ofObject ?_ ?_
  · intro n hn
    obtain rfl := Option.some.inj hn
    decide
  · intro n hn
    obtain rfl := Option.some.inj hn
    exact h

end Application

namespace Context

variable {ctx : Context} {c : Candidate}

/-- An offered application was built. -/
theorem offer_eq_ok {a : Except RenderError Application} (h : offer a = .ok c) : ∃ app, a = .ok app ∧ c = .ofObject app := by
  cases a with
  | error e => cases h
  | ok app => exact ⟨app, rfl, (Except.ok.inj h).symm⟩

/-- What an object of a resource can be: no application, an application that installs a chart, or one that points at the directory
of another resource. -/
inductive Offered (ctx : Context) (r : Resource) (c : Candidate) : Prop where
  | plain (regular : c.Regular) (kind : c.kind ≠ KubeObject.kind Application)
  | chart (chart : Chart) (source : ApplicationSource) (namespaceName : String) (options : List String)
      (pinned : chart ∈ Chart.all) (path : source.path? = none) (directory : source.directory? = none)
      (built : c = .ofObject (Application.inSync s!"{chart.name}-chart" source namespaceName options))
  | child (child : Resource) (mem : child ∈ r.children) (built : offer (ctx.childApplication child) = .ok c)

variable {r : Resource}

/-- The objects of a service are no applications. -/
theorem offered_service {s : Settings} (h : .ok c ∈ ctx.serviceObjects s) : Offered ctx r c := by
  have hdeployment : KubeObject.kind Deployment ≠ KubeObject.kind Application := by decide
  have hservice : KubeObject.kind Service ≠ KubeObject.kind Application := by decide
  rcases List.mem_cons.mp h with h | h
  · obtain rfl := Except.ok.inj h
    exact .plain (s.regular_of_metadata regularKind_deployment rfl) hdeployment
  · obtain rfl := Except.ok.inj (List.mem_singleton.mp h)
    exact .plain (s.regular_of_metadata regularKind_service rfl) hservice

/-- The managed namespaces are no applications. -/
theorem offered_namespace {n : Namespace} (h : n ∈ managedNamespaces) : Offered ctx r (.ofObject n) := by
  obtain ⟨name, hname, rfl⟩ := List.mem_map.mp h
  have hall : ∀ name ∈ managedNamespaceNames, '/' ∉ name.toList := by decide
  have hkind : KubeObject.kind Namespace ≠ KubeObject.kind Application := by decide
  refine .plain (regularKind_namespace.ofObject ?_ ?_) hkind
  · intro k hk
    cases hk
  · intro k hk
    obtain rfl := Option.some.inj hk
    exact hall name hname

/-- The application that installs a pinned chart. -/
theorem offered_chart {α : Type} [ChartValues α] {chart : Chart} {values : α} {namespaceName : String}
    (hchart : chart ∈ Chart.all) (h : offer (Application.ofChart chart values namespaceName) = .ok c) : Offered ctx r c := by
  obtain ⟨app, happ, rfl⟩ := offer_eq_ok h
  obtain ⟨source, options, rfl, hpath, hdirectory⟩ := Application.ofChart_eq_ok happ
  exact .chart chart source namespaceName options hchart hpath hdirectory rfl

/-- Every object of every resource is one of these. -/
theorem offered_of_mem_objects (h : .ok c ∈ ctx.objects r) : Offered ctx r c := by
  cases r with
  | reactWeb => exact offered_service h
  | graphqlMongo => exact offered_service h
  | graphqlPostgres => exact offered_service h
  | namespaces =>
    obtain ⟨n, hn, hc⟩ := List.mem_map.mp h
    obtain rfl := Except.ok.inj hc
    exact offered_namespace hn
  | argocd => exact offered_chart (by decide) (List.mem_singleton.mp h).symm
  | certManager => exact offered_chart (by decide) (List.mem_singleton.mp h).symm
  | linkerd =>
    rcases List.mem_cons.mp h with h | h
    · exact offered_chart (by decide) h.symm
    · exact offered_chart (by decide) (List.mem_singleton.mp h).symm
  | linkerdViz => exact offered_chart (by decide) (List.mem_singleton.mp h).symm
  | sealedSecrets => exact offered_chart (by decide) (List.mem_singleton.mp h).symm
  | nginxIngress => exact offered_chart (by decide) (List.mem_singleton.mp h).symm
  | fluvioSys => exact offered_chart (by decide) (List.mem_singleton.mp h).symm
  | applicationsParents | applicationsInfrastructure | applicationsServices =>
    obtain ⟨child, hchild, hc⟩ := List.mem_map.mp h
    exact .child child hchild hc

/-- Every object of every resource is regular. -/
theorem objects_regular (ctx : Context) (r : Resource) (h : .ok c ∈ ctx.objects r) : c.Regular := by
  cases offered_of_mem_objects h with
  | plain regular _ => exact regular
  | chart chart source namespaceName options pinned _ _ built =>
    have hall : ∀ chart ∈ Chart.all, '/' ∉ (s!"{chart.name}-chart").toList := by decide
    rw [built]
    exact Application.regular_inSync (hall chart pinned)
  | child child _ built =>
    obtain ⟨app, happ, rfl⟩ := offer_eq_ok built
    obtain ⟨path, -, rfl⟩ := Application.ofResource_eq_ok happ
    exact Application.regular_inSync child.slash_not_mem_name

/-- Every resource has an object. -/
theorem objects_ne_nil (ctx : Context) (r : Resource) : ctx.objects r ≠ [] := by
  cases r <;> exact List.cons_ne_nil _ _

end Context

/-- A manifest of a regular object is plain, and belongs to the plain group. -/
theorem Candidate.Regular.manifest {c : Candidate} {m : Manifest} (h : c.Regular) (hm : c.manifest? = some m) :
    m.Plain ∧ m.group = Manifest.plainGroup := by
  obtain ⟨name, body, hname, -, rfl⟩ := Candidate.manifest?_eq_some hm
  refine ⟨⟨h.kind, h.namespaceName, h.name name hname⟩, ?_⟩
  unfold Manifest.group
  rw [if_neg]
  simpa [Manifest.isDefinition] using h.notDefinition

/-- The manifests registered for a resource are plain and belong to the plain group. -/
theorem Registers.regular {ctx : Context} {r : Resource} {ms : List Manifest} (h : Registers (ctx.objects r) ms) :
    ∀ m ∈ ms, m.Plain ∧ m.group = Manifest.plainGroup := by
  intro m hm
  obtain ⟨c, hc, hmanifest⟩ := h.exists_object hm
  exact (Context.objects_regular ctx r hc).manifest hmanifest

end ManifestTree
