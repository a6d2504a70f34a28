import Mathlib
import ManifestTree.Proofs.Render.Identities
import ManifestTree.Proofs.StringMap.Entries

/-!
# The parts of a service

A service consists of a deployment and a Kubernetes service, and its container and other services are told where it is by texts. They
are built apart from each other, and for any settings they agree (`fitsTogether`): on labels, names and ports, on the port that the
container is told, and on the address that others are given.
-/

namespace ManifestTree.Settings

variable {s : Settings} {e : Environment}

/-! ## Variables -/

/-- The variables that the container of every service sees. -/
def commonVariables (s : Settings) (e : Environment) : List (String × String) :=
  [("APP_ENVIRONMENT", e.name), ("APP_HOST", s.host), ("APP_PORT", toString s.port.toInt)]

/-- No variable is given twice. -/
theorem unambiguous_variables (s : Settings) (e : Environment) :
    Unambiguous (s.commonVariables e ++ specificVariables s.resource) := by
  have hnames : ∀ r, (["APP_ENVIRONMENT", "APP_HOST", "APP_PORT"] ++ (specificVariables r).map Prod.fst).Nodup := by
    intro r
    cases r <;> decide
  have hmap : (s.commonVariables e ++ specificVariables s.resource).map Prod.fst =
      ["APP_ENVIRONMENT", "APP_HOST", "APP_PORT"] ++ (specificVariables s.resource).map Prod.fst := by
    rw [List.map_append]
    rfl
  have hdistinct := hnames s.resource
  rw [← hmap] at hdistinct
  exact List.pairwise_map.mp hdistinct

/-- The container of a service sees the common variables and its own. -/
theorem mem_containerVariables_iff {v : String × String} : v ∈ (s.containerVariables e).entries ↔
    v ∈ s.commonVariables e ∨ v ∈ specificVariables s.resource := by
  have hmem := StringMap.mem_ofList_iff (e := v) (unambiguous_variables s e)
  rw [List.mem_append] at hmem
  exact hmem

/-! ## Labels -/

/-- The labels that tie pods to their service are among those of its objects. -/
theorem selector_subset_labels (s : Settings) :
    ∀ entry ∈ s.selector.entries, entry ∈ (s.selector.insert managedByLabel managerName).entries := by
  rintro ⟨key, value⟩ hentry
  have hselector : s.selector.entries = [(appLabel, s.resource.name)] := rfl
  have hkey : key = appLabel := by
    rw [hselector, List.mem_singleton] at hentry
    exact congrArg Prod.fst hentry
  have hother : appLabel ≠ managedByLabel := by decide
  rw [StringMap.mem_entries_iff] at hentry ⊢
  rw [StringMap.get?_insert, if_neg (hkey ▸ hother), hentry]

/-! ## Registration -/

/-- The two objects of a service are regular, whatever resource the settings are for. -/
theorem regular_of_mem_serviceObjects {ctx : Context} {c : Candidate} (h : .ok c ∈ ctx.serviceObjects s) : c.Regular := by
  rcases List.mem_cons.mp h with h | h
  · rw [Except.ok.inj h]
    exact s.regular_of_metadata regularKind_deployment rfl
  · rw [Except.ok.inj (List.mem_singleton.mp h)]
    exact s.regular_of_metadata regularKind_service rfl

/-- The two objects of a service have manifests at different paths. -/
theorem exists_manifests (s : Settings) (ctx : Context) : ∃ ms, Registers (ctx.serviceObjects s) ms ∧ Distinct ms := by
  have hfiles : ∀ r : Resource, r.serviceIdentities.Pairwise fun i i' => i.fileBytes ≠ i'.fileBytes := by
    intro r
    cases r <;> decide +kernel
  have hidentifies := Context.identifies_service ctx s
  obtain ⟨ms, hms⟩ := Context.exists_registers hidentifies fun o ho => by
    rcases List.mem_cons.mp ho with rfl | ho
    · exact ⟨_, rfl⟩
    · exact ⟨_, List.mem_singleton.mp ho⟩
  refine ⟨ms, hms, Manifest.distinct_of_identities ?_ ?_⟩
  · intro m hm
    obtain ⟨c, hc, hmanifest⟩ := hms.exists_object hm
    exact ((regular_of_mem_serviceObjects hc).manifest hmanifest).1
  · rw [map_identity_of_registers hms hidentifies]
    exact hfiles s.resource

/-! ## All parts together -/

/-- The parts of a service that agree. Its deployment finds the pods it makes by the labels its Kubernetes service finds them by, and
both objects carry these labels, the same name and the same namespace, and can be registered one after the other. The one container
listens on the port that its service answers on and passes on to, and is told that port; it sees each variable once, and none of
its own in place of a common one. If the resource is a service, its address is made of the name, the namespace and the port of the
Kubernetes service. -/
structure FitsTogether (s : Settings) (e : Environment) : Prop where
  selector : s.service.selector = (s.deployment e).selector
  template : (s.deployment e).template.labels = (s.deployment e).selector
  labelled : ∃ labels, (s.deployment e).metadata.labels? = some labels ∧ s.service.metadata.labels? = some labels ∧
    ∀ entry ∈ (s.deployment e).selector.entries, entry ∈ labels.entries
  named : ∃ name namespaceName,
    ((s.deployment e).metadata.name? = some name ∧ s.service.metadata.name? = some name) ∧
      (s.deployment e).metadata.namespaceName? = some namespaceName ∧ s.service.metadata.namespaceName? = some namespaceName
  registered : ∀ ctx : Context, ctx.environment = e → ∀ name directory, ∃ ms, Registers (ctx.serviceObjects s) ms ∧
    Provider.registerAll (ctx.serviceObjects s) (.new name directory) = .ok () ⟨name, directory, ms⟩
  ports : ∃ container port front told, (s.deployment e).template.containers = [container] ∧ container.ports = [port] ∧
    s.service.ports = [front] ∧ front.port = port.number ∧ front.targetPort = port.number ∧
      ⟨"APP_PORT", told⟩ ∈ container.environment ∧ told.toInt? = some port.number.toInt
  environment : ∀ container ∈ (s.deployment e).template.containers,
    (container.environment.Pairwise fun v v' => v.name < v'.name) ∧
      (container.environment.map fun v => (v.name, v.value)) = (s.containerVariables e).entries ∧
        ∀ v, v ∈ container.environment ↔ (v.name, v.value) ∈ s.commonVariables e ∨
          (v.name, v.value) ∈ specificVariables s.resource
  address : s.resource.isService = true → ∃ name namespaceName front, s.service.metadata.name? = some name ∧
    s.service.metadata.namespaceName? = some namespaceName ∧ s.service.ports = [front] ∧
      s.serviceUrl = s!"http://{name}.{namespaceName}:{front.port.toInt}"

/-- A variable stands in the container exactly when its name has its value. -/
theorem mem_environment_iff {v : EnvironmentVariable} : v ∈ (s.container e).environment ↔
    (v.name, v.value) ∈ (s.containerVariables e).entries := by
  unfold container
  rw [List.mem_map]
  constructor
  · rintro ⟨entry, hentry, rfl⟩
    exact hentry
  · intro hentry
    exact ⟨_, hentry, rfl⟩

/-- The services are those in the namespace of the services. -/
theorem targetNamespace_of_isService {r : Resource} (h : r.isService = true) : r.targetNamespace = applicationsNamespace := by
  cases r <;> first | rfl | exact absurd h (by decide)

/-- The parts of a service agree, whatever it is set to. -/
theorem fitsTogether (s : Settings) (e : Environment) : FitsTogether s e where
  selector := rfl
  template := rfl
  labelled := ⟨_, rfl, rfl, s.selector_subset_labels⟩
  named := ⟨_, _, ⟨rfl, rfl⟩, rfl, rfl⟩
  registered ctx _ name directory := by
    obtain ⟨ms, hms, hdistinct⟩ := s.exists_manifests ctx
    exact ⟨ms, hms, Provider.registerAll_of_distinct (p := .new name directory) hms hdistinct⟩
  ports := by
    refine ⟨s.container e, _, _, toString s.port.toInt, rfl, rfl, rfl, rfl, rfl, ?_, ?_⟩
    · rw [mem_environment_iff, mem_containerVariables_iff]
      exact Or.inl (by simp [commonVariables])
    · exact Int.toInt?_repr _
  environment container hcontainer := by
    obtain rfl : container = s.container e := List.mem_singleton.mp hcontainer
    have hentries : ((s.container e).environment.map fun v => (v.name, v.value)) = (s.containerVariables e).entries := by
      unfold Settings.container
      rw [List.map_map]
      exact List.map_id _
    refine ⟨?_, hentries, ?_⟩
    · have hordered := (s.containerVariables e).ordered
      rw [← hentries, List.pairwise_map] at hordered
      exact hordered
    · intro v
      rw [mem_environment_iff, mem_containerVariables_iff]
  address h := by
    refine ⟨_, _, _, rfl, rfl, rfl, ?_⟩
    rw [targetNamespace_of_isService h]
    rfl

/-- The web front end is a service, with an address. -/
theorem fitsTogether_reactWeb : reactWeb.resource.isService = true ∧ FitsTogether reactWeb .production :=
  ⟨by decide, fitsTogether reactWeb .production⟩

end ManifestTree.Settings
