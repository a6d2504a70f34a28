import ManifestTree.Environment
import ManifestTree.Manifest
import ManifestTree.Object.Core
import ManifestTree.Object.Workload
import ManifestTree.Resource

/-!
# Namespaces, and the services in them

Which namespace each resource runs in, and what a service is set to: from its settings follow the variables its container sees, its
deployment, the Kubernetes service in front of it, and the address it is reached at.
-/

namespace ManifestTree

/-- The label that ties pods to their service. -/
def appLabel : String := "app"

/-- The annotation that asks for a mesh proxy in every pod. -/
def meshInjectionKey : String := "linkerd.io/inject"

/-- The namespace of the services. -/
def applicationsNamespace : String := "applications"

/-- The namespace of Argo CD and of every application. -/
def argocdNamespace : String := "argocd"

/-- The namespaces that are rendered; `kube-system` and `default` always exist. -/
def managedNamespaceNames : List String :=
  [applicationsNamespace, argocdNamespace, "cert-manager", "linkerd", "linkerd-viz", "ingress-nginx", "fluvio-sys"]

/-- The namespace that a resource runs in. -/
def Resource.targetNamespace : Resource → String
  | .reactWeb | .graphqlMongo | .graphqlPostgres => applicationsNamespace
  | .argocd | .applicationsParents | .applicationsInfrastructure | .applicationsServices => argocdNamespace
  | .certManager => "cert-manager"
  | .linkerd => "linkerd"
  | .linkerdViz => "linkerd-viz"
  | .nginxIngress => "ingress-nginx"
  | .fluvioSys => "fluvio-sys"
  | .sealedSecrets => "kube-system"
  | .namespaces => "default"

/-- The label of every object built here. -/
def managedLabels : StringMap := .ofList [(managedByLabel, managerName)]

/-- The namespace of a name. In the namespace of the services every pod gets a mesh proxy. -/
def Namespace.ofName (name : String) : Namespace where
  metadata :=
    { name? := name
      labels? := managedLabels
      annotations? := if name = applicationsNamespace then some (.ofList [(meshInjectionKey, "enabled")]) else none }

/-- The namespaces that are rendered. -/
def managedNamespaces : List Namespace := managedNamespaceNames.map Namespace.ofName

/-- The size, the image and the address of a service. -/
structure Settings where
  resource : Resource
  requestMemory : String
  requestCpu : String
  limitMemory : String
  limitCpu : String
  host : String
  port : Int32
  image : String
  deriving DecidableEq

namespace Settings

/-- The settings that the services have in common, with the port and the image of one. -/
def standard (resource : Resource) (port : Int32) (image : String) : Settings where
  resource := resource
  requestMemory := "70Mi"
  requestCpu := "100m"
  limitMemory := "200Mi"
  limitCpu := "100m"
  host := "0.0.0.0"
  port := port
  image := image

/-- The settings of the web front end. -/
def reactWeb : Settings := standard .reactWeb 3000 "oyelowo/react-web"

/-- The settings of the service on the document database. -/
def graphqlMongo : Settings := standard .graphqlMongo 8000 "oyelowo/graphql-mongo"

/-- The settings of the service on the relational database. -/
def graphqlPostgres : Settings := standard .graphqlPostgres 8000 "oyelowo/graphql-postgres"

/-- The address of a service inside the cluster. -/
def serviceUrl (s : Settings) : String :=
  s!"http://{s.resource.name}.{applicationsNamespace}:{s.port.toInt}"

/-- The variables that only one service sees. -/
def specificVariables : Resource → List (String × String)
  | .graphqlMongo =>
    [("MONGODB_NAME", "db0"), ("MONGODB_USERNAME", "username0"), ("MONGODB_PASSWORD", "password0"),
      ("MONGODB_SERVICE_NAME", "mongo-database"), ("MONGODB_HOST", s!"mongo-database.{applicationsNamespace}"),
      ("MONGODB_PORT", "27017")]
  | .graphqlPostgres =>
    [("POSTGRES_DATABASE_NAME", "db0"), ("POSTGRES_USERNAME", "postgres"), ("POSTGRES_PASSWORD", "1234"),
      ("POSTGRES_HOST", s!"postgres-database.{applicationsNamespace}"), ("POSTGRES_PORT", "5432")]
  | .reactWeb =>
    [("GRAPHQL_MONGO_URL", s!"{graphqlMongo.serviceUrl}/graphql"),
      ("GRAPHQL_POSTGRES_URL", s!"{graphqlPostgres.serviceUrl}/graphql")]
  | .namespaces | .argocd | .certManager | .linkerd | .linkerdViz | .sealedSecrets | .nginxIngress | .fluvioSys
  | .applicationsParents | .applicationsInfrastructure | .applicationsServices => []

/-- The variables that the container of a service sees. -/
def containerVariables (s : Settings) (e : Environment) : StringMap :=
  .ofList ([("APP_ENVIRONMENT", e.name), ("APP_HOST", s.host), ("APP_PORT", toString s.port.toInt)] ++
    specificVariables s.resource)

/-- The labels that tie the pods of a service to it. -/
def selector (s : Settings) : StringMap := .ofList [(appLabel, s.resource.name)]

/-- The metadata of a service's objects. -/
def metadata (s : Settings) : Metadata where
  name? := s.resource.name
  namespaceName? := s.resource.targetNamespace
  labels? := s.selector.insert managedByLabel managerName

/-- Amounts of memory and of processor time. -/
def quantities (memory cpu : String) : StringMap := .ofList [("memory", memory), ("cpu", cpu)]

/-- The container of a service. -/
def container (s : Settings) (e : Environment) : Container where
  name := s.resource.name
  image := s.image
  environment := (s.containerVariables e).entries.map fun v => ⟨v.1, v.2⟩
  ports := [⟨s.port, "http"⟩]
  resources := ⟨quantities s.limitMemory s.limitCpu, quantities s.requestMemory s.requestCpu⟩

/-- The deployment of a service. -/
def deployment (s : Settings) (e : Environment) : Deployment where
  metadata := s.metadata
  replicas := e.replicas
  selector := s.selector
  template := ⟨s.selector, [s.container e]⟩

/-- The Kubernetes service in front of a service's pods. -/
def service (s : Settings) : Service where
  metadata := s.metadata
  ports := [⟨"http", s.port, "TCP", s.port⟩]
  selector := s.selector
  serviceType := "ClusterIP"

end Settings

end ManifestTree
