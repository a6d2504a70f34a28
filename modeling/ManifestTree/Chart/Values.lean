import ManifestTree.Document.Yaml
import ManifestTree.Environment
import ManifestTree.Error

/-!
# Values for charts

The part of each chart's values that the infrastructure sets. A value that is not set is not written, so that the chart's own default
stands. Each type has its written form (`document`) and its way back (`decode`).
-/

namespace ManifestTree

/-- The types whose values can be handed to a chart; writing one may fail with a reason. -/
class ChartValues (α : Type) where
  document : α → Except String Document

/-- The values of a chart as the text it is handed. -/
def valuesYaml {α : Type} [ChartValues α] (values : α) : Except RenderError String :=
  match ChartValues.document values with
  | .ok d => .ok d.toYaml
  | .error reason => .error (.yaml reason)

open Document (optionalMember)

/-- Whether a service monitor is installed. -/
structure ServiceMonitor where
  enabled : Bool
  deriving DecidableEq

namespace ServiceMonitor

def document (v : ServiceMonitor) : Document := .map [("enabled", .bool v.enabled)]

def decode : Decoder ServiceMonitor :=
  Decode.record "ServiceMonitor" ["enabled"] fun m => mk <$> m.required "enabled" Decode.bool

end ServiceMonitor

/-- What is measured of a controller. -/
structure Metrics where
  serviceMonitor : ServiceMonitor
  deriving DecidableEq

namespace Metrics

def document (v : Metrics) : Document := .map [("serviceMonitor", v.serviceMonitor.document)]

def decode : Decoder Metrics :=
  Decode.record "Metrics" ["serviceMonitor"] fun m => mk <$> m.required "serviceMonitor" ServiceMonitor.decode

end Metrics

/-- Values of the sealed-secrets chart. -/
structure SealedSecretsValues where
  fullnameOverride? : Option String
  namespaceOverride? : Option String
  metrics? : Option Metrics
  deriving DecidableEq

namespace SealedSecretsValues

def document (v : SealedSecretsValues) : Document :=
  .map (optionalMember "fullnameOverride" .text v.fullnameOverride? ++
    optionalMember "namespaceOverride" .text v.namespaceOverride? ++
    optionalMember "metrics" Metrics.document v.metrics?)

def decode : Decoder SealedSecretsValues :=
  Decode.record "SealedSecretsValues" ["fullnameOverride", "namespaceOverride", "metrics"] fun m =>
    mk <$> m.optional "fullnameOverride" Decode.text <*> m.optional "namespaceOverride" Decode.text <*>
      m.optional "metrics" Metrics.decode

/-- The controller under the name that clients look it up by; it is measured everywhere but locally. -/
def ofEnvironment (e : Environment) : SealedSecretsValues where
  fullnameOverride? := "sealed-secrets-controller"
  namespaceOverride? := "kube-system"
  metrics? := some ⟨⟨e ≠ .local⟩⟩

end SealedSecretsValues

instance : ChartValues SealedSecretsValues := ⟨fun v => .ok v.document⟩

/-- Values of the cert-manager chart. -/
structure CertManagerValues where
  installCrds : Bool
  deriving DecidableEq

namespace CertManagerValues

def document (v : CertManagerValues) : Document := .map [("installCRDs", .bool v.installCrds)]

def decode : Decoder CertManagerValues :=
  Decode.record "CertManagerValues" ["installCRDs"] fun m => mk <$> m.required "installCRDs" Decode.bool

end CertManagerValues

instance : ChartValues CertManagerValues := ⟨fun v => .ok v.document⟩

/-- How the ingress controller is reached. -/
structure NginxService where
  serviceType : String
  deriving DecidableEq

namespace NginxService

def document (v : NginxService) : Document := .map [("type", .text v.serviceType)]

def decode : Decoder NginxService :=
  Decode.record "NginxService" ["type"] fun m => mk <$> m.required "type" Decode.text

end NginxService

/-- Values of the ingress controller's chart. -/
structure NginxIngressValues where
  fullnameOverride? : Option String
  replicaCount? : Option Int32
  service? : Option NginxService
  deriving DecidableEq

namespace NginxIngressValues

def document (v : NginxIngressValues) : Document :=
  .map (optionalMember "fullnameOverride" .text v.fullnameOverride? ++
    optionalMember "replicaCount" (fun n => .int n.toInt) v.replicaCount? ++
    optionalMember "service" NginxService.document v.service?)

def decode : Decoder NginxIngressValues :=
  Decode.record "NginxIngressValues" ["fullnameOverride", "replicaCount", "service"] fun m =>
    mk <$> m.optional "fullnameOverride" Decode.text <*> m.optional "replicaCount" Decode.int32 <*>
      m.optional "service" NginxService.decode

/-- As many controllers as services have copies, behind a load balancer everywhere but locally. -/
def ofEnvironment (e : Environment) : NginxIngressValues where
  fullnameOverride? := "nginx-ingress-controller"
  replicaCount? := e.replicas
  service? := some ⟨match e with
    | .local => "NodePort"
    | .development | .staging | .production => "LoadBalancer"⟩

end NginxIngressValues

instance : ChartValues NginxIngressValues := ⟨fun v => .ok v.document⟩

/-- How certificates are issued. -/
structure LinkerdIssuer where
  scheme : String
  deriving DecidableEq

namespace LinkerdIssuer

def document (v : LinkerdIssuer) : Document := .map [("scheme", .text v.scheme)]

def decode : Decoder LinkerdIssuer :=
  Decode.record "LinkerdIssuer" ["scheme"] fun m => mk <$> m.required "scheme" Decode.text

end LinkerdIssuer

/-- Where identities come from. -/
structure LinkerdIdentity where
  externalCa : Bool
  issuer : LinkerdIssuer
  deriving DecidableEq

namespace LinkerdIdentity

def document (v : LinkerdIdentity) : Document :=
  .map [("externalCa", .bool v.externalCa), ("issuer", v.issuer.document)]

def decode : Decoder LinkerdIdentity :=
  Decode.record "LinkerdIdentity" ["externalCa", "issuer"] fun m =>
    mk <$> m.required "externalCa" Decode.bool <*> m.required "issuer" LinkerdIssuer.decode

end LinkerdIdentity

/-- Values of the chart of the service mesh's control plane. -/
structure LinkerdControlPlaneValues where
  controllerReplicas? : Option Int32
  enablePodAntiAffinity? : Option Bool
  identity? : Option LinkerdIdentity
  deriving DecidableEq

namespace LinkerdControlPlaneValues

def document (v : LinkerdControlPlaneValues) : Document :=
  .map (optionalMember "controllerReplicas" (fun n => .int n.toInt) v.controllerReplicas? ++
    optionalMember "enablePodAntiAffinity" .bool v.enablePodAntiAffinity? ++
    optionalMember "identity" LinkerdIdentity.document v.identity?)

def decode : Decoder LinkerdControlPlaneValues :=
  Decode.record "LinkerdControlPlaneValues" ["controllerReplicas", "enablePodAntiAffinity", "identity"] fun m =>
    mk <$> m.optional "controllerReplicas" Decode.int32 <*> m.optional "enablePodAntiAffinity" Decode.bool <*>
      m.optional "identity" LinkerdIdentity.decode

/-- Three controllers kept apart in production and one elsewhere; the certificate authority is provided from outside. -/
def ofEnvironment (e : Environment) : LinkerdControlPlaneValues where
  controllerReplicas? := some (if e = .production then 3 else 1)
  enablePodAntiAffinity? := some (e = .production)
  identity? := some ⟨true, ⟨"kubernetes.io/tls"⟩⟩

end LinkerdControlPlaneValues

instance : ChartValues LinkerdControlPlaneValues := ⟨fun v => .ok v.document⟩

/-- How Argo CD's server is started. -/
structure ArgoCdServer where
  extraArguments : List String
  deriving DecidableEq

namespace ArgoCdServer

def document (v : ArgoCdServer) : Document :=
  .map (if v.extraArguments = [] then [] else [("extraArgs", .ofTexts v.extraArguments)])

def decode : Decoder ArgoCdServer :=
  Decode.record "ArgoCdServer" ["extraArgs"] fun m => mk <$> m.defaulted "extraArgs" [] Decode.texts

end ArgoCdServer

/-- Values of the Argo CD chart. -/
structure ArgoCdValues where
  fullnameOverride? : Option String
  server? : Option ArgoCdServer
  deriving DecidableEq

namespace ArgoCdValues

def document (v : ArgoCdValues) : Document :=
  .map (optionalMember "fullnameOverride" .text v.fullnameOverride? ++
    optionalMember "server" ArgoCdServer.document v.server?)

def decode : Decoder ArgoCdValues :=
  Decode.record "ArgoCdValues" ["fullnameOverride", "server"] fun m =>
    mk <$> m.optional "fullnameOverride" Decode.text <*> m.optional "server" ArgoCdServer.decode

/-- A server that leaves encryption to the ingress controller. -/
def insecureServer : ArgoCdValues where
  fullnameOverride? := "argocd"
  server? := some ⟨["--insecure"]⟩

end ArgoCdValues

instance : ChartValues ArgoCdValues := ⟨fun v => .ok v.document⟩

/-- No values: the chart as it is. -/
structure DefaultValues where
  deriving DecidableEq

instance : ChartValues DefaultValues := ⟨fun _ => .ok (.map [])⟩

/-- Values given as a document, or as the reason why there is none. -/
instance : ChartValues (Except String Document) := ⟨fun d => d⟩

end ManifestTree
