import ManifestTree.Chart
import ManifestTree.Chart.Values
import ManifestTree.Layout
import ManifestTree.Object.Application
import ManifestTree.Object.Definition
import ManifestTree.Provider
import ManifestTree.Settings

/-!
# Rendering

Which objects a resource consists of (`Context.objects`), and rendering a resource or a whole environment: every resource has a
provider for its own directory, gets its objects registered there and is written. Charts are installed by applications that point at
the chart's repository; the bootstrap resources hold applications that point at the directories of other resources.
-/

namespace ManifestTree

/-- What rendering for one environment needs. -/
structure Context where
  layout : Layout
  environment : Environment
  repositoryUrl : String

namespace Application

/-- The address of the cluster that Argo CD itself runs in. -/
def ownCluster : String := "https://kubernetes.default.svc"

/-- The metadata of every application built here. -/
def metadataOf (name : String) : Metadata where
  name? := name
  namespaceName? := argocdNamespace
  labels? := managedLabels

/-- An application of the default project that is kept in sync with its source. -/
def inSync (name : String) (source : ApplicationSource) (namespaceName : String) (options : List String) : Application where
  metadata := metadataOf name
  spec :=
    { project := "default"
      source := source
      destination := ⟨ownCluster, namespaceName⟩
      syncPolicy? := some ⟨some ⟨true, true⟩, options⟩ }

/-- The application that syncs the directory of a resource into a namespace. The directory has to lie in the repository. -/
def ofResource (l : Layout) (e : Environment) (r : Resource) (namespaceName repositoryUrl : String) :
    Except RenderError Application := do
  let path ← l.repoRelativePath e r
  let source : ApplicationSource :=
    { repositoryUrl := repositoryUrl
      path? := path.display
      targetRevision? := "HEAD"
      directory? := some ⟨some true⟩ }
  return inSync r.name source namespaceName []

/-- The application that installs a chart with some values into a namespace. -/
def ofChart {α : Type} [ChartValues α] (c : Chart) (values : α) (namespaceName : String) :
    Except RenderError Application := do
  let text ← valuesYaml values
  let source : ApplicationSource :=
    { repositoryUrl := c.repositoryUrl
      chart? := c.name
      targetRevision? := c.version
      helm? := some ⟨c.name, text⟩ }
  return inSync s!"{c.name}-chart" source namespaceName ["CreateNamespace=true", "ServerSideApply=true"]

end Application

namespace Context

/-- An application offered for rendering. -/
def offer (a : Except RenderError Application) : Except RenderError Candidate :=
  a.map .ofObject

/-- The objects of a service. -/
def serviceObjects (ctx : Context) (s : Settings) : List (Except RenderError Candidate) :=
  [.ok (.ofObject (s.deployment ctx.environment)), .ok (.ofObject s.service)]

/-- The application that points at the directory of another resource. -/
def childApplication (ctx : Context) (child : Resource) : Except RenderError Application :=
  Application.ofResource ctx.layout ctx.environment child child.targetNamespace ctx.repositoryUrl

/-- The objects of a resource, in the order they are registered. -/
def objects (ctx : Context) (r : Resource) : List (Except RenderError Candidate) :=
  let chart {α : Type} [ChartValues α] (c : Chart) (values : α) := offer (Application.ofChart c values r.targetNamespace)
  match r with
  | .reactWeb => ctx.serviceObjects .reactWeb
  | .graphqlMongo => ctx.serviceObjects .graphqlMongo
  | .graphqlPostgres => ctx.serviceObjects .graphqlPostgres
  | .namespaces => managedNamespaces.map fun n => .ok (.ofObject n)
  | .argocd => [chart .argoCd ArgoCdValues.insecureServer]
  | .certManager => [chart .certManager (CertManagerValues.mk true)]
  | .linkerd =>
    [chart .linkerdDefinitions DefaultValues.mk,
      chart .linkerdControlPlane (LinkerdControlPlaneValues.ofEnvironment ctx.environment)]
  | .linkerdViz => [chart .linkerdViz DefaultValues.mk]
  | .sealedSecrets => [chart .sealedSecrets (SealedSecretsValues.ofEnvironment ctx.environment)]
  | .nginxIngress => [chart .nginxIngress (NginxIngressValues.ofEnvironment ctx.environment)]
  | .fluvioSys => [chart .fluvioSys DefaultValues.mk]
  | .applicationsParents | .applicationsInfrastructure | .applicationsServices =>
    r.children.map fun child => offer (ctx.childApplication child)

/-- Registers the objects of a resource, up to the first that cannot be. -/
def registerResource (ctx : Context) (r : Resource) : EStateM RenderError Provider Unit :=
  Provider.registerAll (ctx.objects r)

end Context

/-- The provider for the directory of a resource. -/
def Layout.provider (l : Layout) (e : Environment) (r : Resource) : Provider :=
  .new s!"render-{r.name}" (l.resourcePath e r)

namespace Context

/-- Renders one resource into its directory and gives the paths written. When its objects cannot be registered nothing is written. -/
def renderResource (ctx : Context) (cwd : Place) (r : Resource) : Action RenderError (List Path) := fun t =>
  match ctx.registerResource r (ctx.layout.provider ctx.environment r) with
  | .ok () p => p.write cwd t
  | .error e _ => .error e t

/-- Renders resources in turn and gives the paths written. -/
def renderAll (ctx : Context) (cwd : Place) : List Resource → Action RenderError (List Path)
  | [] => pure []
  | r :: rest => do
    let first ← ctx.renderResource cwd r
    let others ← ctx.renderAll cwd rest
    return first ++ others

/-- The resources that a selection means: all of them when it is empty. -/
def effective (selection : List Resource) : List Resource :=
  if selection = [] then Resource.all else selection

/-- Renders the selected resources of an environment, or all of them when none is selected. -/
def renderEnvironment (ctx : Context) (cwd : Place) (selection : List Resource) : Action RenderError (List Path) :=
  ctx.renderAll cwd (effective selection)

end Context

/-- The provider for the definitions of all custom resources, with these registered. -/
def definitionsProvider (directory : Path) : EStateM.Result RenderError Provider Unit :=
  Provider.registerAll (CustomResourceDefinition.all.map fun d => .ok (.ofObject d)) (.new "render-crds" directory)

end ManifestTree
