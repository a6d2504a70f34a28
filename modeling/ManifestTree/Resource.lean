import ManifestTree.Document.Decode

/-!
# Resources

The units that manifests are rendered for, each with a directory of its own, and the category that directory is kept under. The
three `argocd-applications-*` resources bootstrap the tree of applications: they are infrastructure, whatever they point at.
-/

namespace ManifestTree

/-- The category of a resource. -/
inductive Category where
  | services
  | infrastructure
  deriving DecidableEq, Repr

namespace Category

/-- Every category. -/
def all : List Category := [.services, .infrastructure]

/-- The name of a category. -/
def name : Category → String
  | .services => "services"
  | .infrastructure => "infrastructure"

/-- The category of a name. -/
def ofName? : String → Option Category
  | "services" => some .services
  | "infrastructure" => some .infrastructure
  | _ => none

/-- Reads a category from a document. -/
def decode : Decoder Category := Decode.choice (all.map name) ofName?

end Category

/-- A unit with a manifest directory of its own. -/
inductive Resource where
  | reactWeb
  | graphqlMongo
  | graphqlPostgres
  | namespaces
  | argocd
  | certManager
  | linkerd
  | linkerdViz
  | sealedSecrets
  | nginxIngress
  | fluvioSys
  | applicationsParents
  | applicationsInfrastructure
  | applicationsServices
  deriving DecidableEq, Repr

namespace Resource

/-- Every resource, in the order they are rendered. -/
def all : List Resource :=
  [.reactWeb, .graphqlMongo, .graphqlPostgres, .namespaces, .argocd, .certManager, .linkerd, .linkerdViz, .sealedSecrets,
   .nginxIngress, .fluvioSys, .applicationsParents, .applicationsInfrastructure, .applicationsServices]

/-- The name of a resource. -/
def name : Resource → String
  | .reactWeb => "react-web"
  | .graphqlMongo => "graphql-mongo"
  | .graphqlPostgres => "graphql-postgres"
  | .namespaces => "namespaces"
  | .argocd => "argocd"
  | .certManager => "cert-manager"
  | .linkerd => "linkerd"
  | .linkerdViz => "linkerd-viz"
  | .sealedSecrets => "sealed-secrets"
  | .nginxIngress => "nginx-ingress"
  | .fluvioSys => "fluvio-sys"
  | .applicationsParents => "argocd-applications-parents"
  | .applicationsInfrastructure => "argocd-applications-children-infrastructure"
  | .applicationsServices => "argocd-applications-children-services"

/-- The resource of a name. -/
def ofName? : String → Option Resource
  | "react-web" => some .reactWeb
  | "graphql-mongo" => some .graphqlMongo
  | "graphql-postgres" => some .graphqlPostgres
  | "namespaces" => some .namespaces
  | "argocd" => some .argocd
  | "cert-manager" => some .certManager
  | "linkerd" => some .linkerd
  | "linkerd-viz" => some .linkerdViz
  | "sealed-secrets" => some .sealedSecrets
  | "nginx-ingress" => some .nginxIngress
  | "fluvio-sys" => some .fluvioSys
  | "argocd-applications-parents" => some .applicationsParents
  | "argocd-applications-children-infrastructure" => some .applicationsInfrastructure
  | "argocd-applications-children-services" => some .applicationsServices
  | _ => none

/-- The category a resource is kept under. -/
def category : Resource → Category
  | .reactWeb | .graphqlMongo | .graphqlPostgres => .services
  | .namespaces | .argocd | .certManager | .linkerd | .linkerdViz | .sealedSecrets | .nginxIngress | .fluvioSys
  | .applicationsParents | .applicationsInfrastructure | .applicationsServices => .infrastructure

/-- Whether a resource is a service. -/
def isService (r : Resource) : Bool := r.category = .services

/-- Whether a resource only bootstraps the tree of applications. -/
def isBootstrap : Resource → Bool
  | .applicationsParents | .applicationsInfrastructure | .applicationsServices => true
  | .reactWeb | .graphqlMongo | .graphqlPostgres | .namespaces | .argocd | .certManager | .linkerd | .linkerdViz
  | .sealedSecrets | .nginxIngress | .fluvioSys => false

/-- Reads a resource from a document. -/
def decode : Decoder Resource := Decode.choice (all.map name) ofName?

/-- The resources that a bootstrap resource has applications for, in the order it lists them; none for any other resource. -/
def children : Resource → List Resource
  | .applicationsParents => [.applicationsInfrastructure, .applicationsServices]
  | .applicationsInfrastructure => all.filter fun r => !r.isService && !r.isBootstrap
  | .applicationsServices => all.filter isService
  | .reactWeb | .graphqlMongo | .graphqlPostgres | .namespaces | .argocd | .certManager | .linkerd | .linkerdViz
  | .sealedSecrets | .nginxIngress | .fluvioSys => []

end Resource

end ManifestTree
