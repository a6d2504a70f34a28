import ManifestTree.Chart.Values
import ManifestTree.Proofs.Document.Fields

/-!
# Chart values are read back

The values of each chart are written with a member for each value that is set and with no others, so that the chart's own default
stands for the rest, and they are read back. The same holds of every record inside them (`chart_values_round_trip`).
-/

namespace ManifestTree

open Fields (setMembers_cons setMembers_nil)

/-! ## Sealed secrets -/

namespace ServiceMonitor

/-- The fields of a service monitor. -/
def fields (v : ServiceMonitor) : Fields := [("enabled", some (.bool v.enabled))]

theorem codec : Codec document decode := codec_bool.single fun _ => rfl

theorem recordCodec : RecordCodec document decode fields :=
  codec.recordCodec (fun _ => rfl) (fun _ => by simp [fields])

end ServiceMonitor

namespace Metrics

/-- The fields of metrics. -/
def fields (v : Metrics) : Fields := [("serviceMonitor", some v.serviceMonitor.document)]

theorem codec : Codec document decode := ServiceMonitor.codec.single fun _ => rfl

theorem recordCodec : RecordCodec document decode fields :=
  codec.recordCodec (fun _ => rfl) (fun _ => by simp [fields])

end Metrics

namespace SealedSecretsValues

/-- The fields of the sealed-secrets chart's values. -/
def fields (v : SealedSecretsValues) : Fields :=
  [("fullnameOverride", v.fullnameOverride?.map .text), ("namespaceOverride", v.namespaceOverride?.map .text),
    ("metrics", v.metrics?.map Metrics.document)]

theorem codec : Codec document decode := by
  refine MembersCodec.record fun a m form hm => ?_
  have hfullname : m.optional "fullnameOverride" Decode.text = Except.ok a.fullnameOverride? :=
    codec_text.optional hm (by simp [List.lookup_append])
  have hnamespace : m.optional "namespaceOverride" Decode.text = Except.ok a.namespaceOverride? :=
    codec_text.optional hm (by simp [List.lookup_append])
  have hmetrics : m.optional "metrics" Metrics.decode = Except.ok a.metrics? :=
    Metrics.codec.optional hm (by simp [List.lookup_append])
  rw [hfullname, hnamespace, hmetrics]
  rfl

theorem recordCodec : RecordCodec document decode fields := by
  refine codec.recordCodec (fun a => ?_) (fun a => by simp [fields])
  simp [document, fields, setMembers_cons, setMembers_nil]

end SealedSecretsValues

/-! ## Certificates -/

namespace CertManagerValues

/-- The fields of the cert-manager chart's values. -/
def fields (v : CertManagerValues) : Fields := [("installCRDs", some (.bool v.installCrds))]

theorem codec : Codec document decode := codec_bool.single fun _ => rfl

theorem recordCodec : RecordCodec document decode fields :=
  codec.recordCodec (fun _ => rfl) (fun _ => by simp [fields])

end CertManagerValues

/-! ## The ingress controller -/

namespace NginxService

/-- The fields of the ingress controller's service. -/
def fields (v : NginxService) : Fields := [("type", some (.text v.serviceType))]

theorem codec : Codec document decode := codec_text.single fun _ => rfl

theorem recordCodec : RecordCodec document decode fields :=
  codec.recordCodec (fun _ => rfl) (fun _ => by simp [fields])

end NginxService

namespace NginxIngressValues

/-- The fields of the values of the ingress controller's chart. -/
def fields (v : NginxIngressValues) : Fields :=
  [("fullnameOverride", v.fullnameOverride?.map .text), ("replicaCount", v.replicaCount?.map fun n => .int n.toInt),
    ("service", v.service?.map NginxService.document)]

theorem codec : Codec document decode := by
  refine MembersCodec.record fun a m form hm => ?_
  have hfullname : m.optional "fullnameOverride" Decode.text = Except.ok a.fullnameOverride? :=
    codec_text.optional hm (by simp [List.lookup_append])
  have hcount : m.optional "replicaCount" Decode.int32 = Except.ok a.replicaCount? :=
    codec_int32.optional hm (by simp [List.lookup_append])
  have hservice : m.optional "service" NginxService.decode = Except.ok a.service? :=
    NginxService.codec.optional hm (by simp [List.lookup_append])
  rw [hfullname, hcount, hservice]
  rfl

theorem recordCodec : RecordCodec document decode fields := by
  refine codec.recordCodec (fun a => ?_) (fun a => by simp [fields])
  simp [document, fields, setMembers_cons, setMembers_nil]

end NginxIngressValues

/-! ## The service mesh -/

namespace LinkerdIssuer

/-- The fields of an issuer of certificates. -/
def fields (v : LinkerdIssuer) : Fields := [("scheme", some (.text v.scheme))]

theorem codec : Codec document decode := codec_text.single fun _ => rfl

theorem recordCodec : RecordCodec document decode fields :=
  codec.recordCodec (fun _ => rfl) (fun _ => by simp [fields])

end LinkerdIssuer

namespace LinkerdIdentity

/-- The fields of where identities come from. -/
def fields (v : LinkerdIdentity) : Fields := [("externalCa", some (.bool v.externalCa)), ("issuer", some v.issuer.document)]

theorem codec : Codec document decode := by
  refine MembersCodec.record fun a m form hm => ?_
  have hexternal : m.required "externalCa" Decode.bool = Except.ok a.externalCa :=
    codec_bool.required hm (by simp)
  have hissuer : m.required "issuer" LinkerdIssuer.decode = Except.ok a.issuer :=
    LinkerdIssuer.codec.required hm (by simp [lookup_cons])
  rw [hexternal, hissuer]
  rfl

theorem recordCodec : RecordCodec document decode fields :=
  codec.recordCodec (fun _ => rfl) (fun _ => by simp [fields])

end LinkerdIdentity

namespace LinkerdControlPlaneValues

/-- The fields of the values of the control plane's chart. -/
def fields (v : LinkerdControlPlaneValues) : Fields :=
  [("controllerReplicas", v.controllerReplicas?.map fun n => .int n.toInt),
    ("enablePodAntiAffinity", v.enablePodAntiAffinity?.map .bool), ("identity", v.identity?.map LinkerdIdentity.document)]

theorem codec : Codec document decode := by
  refine MembersCodec.record fun a m form hm => ?_
  have hreplicas : m.optional "controllerReplicas" Decode.int32 = Except.ok a.controllerReplicas? :=
    codec_int32.optional hm (by simp [List.lookup_append])
  have haffinity : m.optional "enablePodAntiAffinity" Decode.bool = Except.ok a.enablePodAntiAffinity? :=
    codec_bool.optional hm (by simp [List.lookup_append])
  have hidentity : m.optional "identity" LinkerdIdentity.decode = Except.ok a.identity? :=
    LinkerdIdentity.codec.optional hm (by simp [List.lookup_append])
  rw [hreplicas, haffinity, hidentity]
  rfl

theorem recordCodec : RecordCodec document decode fields := by
  refine codec.recordCodec (fun a => ?_) (fun a => by simp [fields])
  simp [document, fields, setMembers_cons, setMembers_nil]

end LinkerdControlPlaneValues

/-! ## Argo CD -/

namespace ArgoCdServer

/-- The fields of Argo CD's server: its arguments are set when there are any. -/
def fields (v : ArgoCdServer) : Fields :=
  [("extraArgs", if v.extraArguments = [] then none else some (.ofTexts v.extraArguments))]

/-- Arguments are left out when there are none, and no arguments are read where they are left out. -/
theorem codec : Codec document decode := by
  refine MembersCodec.record fun a m form hm => ?_
  have harguments : m.defaulted "extraArgs" [] Decode.texts = Except.ok a.extraArguments := by
    refine codec_texts.defaulted hm ?_
    by_cases h : a.extraArguments = []
    · exact .inr ⟨by simp [h], h⟩
    · exact .inl (by simp [h])
  rw [harguments]
  rfl

theorem recordCodec : RecordCodec document decode fields := by
  refine codec.recordCodec (fun a => ?_) (fun a => by simp [fields])
  unfold document fields
  split
  · rfl
  · rfl

end ArgoCdServer

namespace ArgoCdValues

/-- The fields of the Argo CD chart's values. -/
def fields (v : ArgoCdValues) : Fields :=
  [("fullnameOverride", v.fullnameOverride?.map .text), ("server", v.server?.map ArgoCdServer.document)]

theorem codec : Codec document decode := by
  refine MembersCodec.record fun a m form hm => ?_
  have hfullname : m.optional "fullnameOverride" Decode.text = Except.ok a.fullnameOverride? :=
    codec_text.optional hm (by simp [List.lookup_append])
  have hserver : m.optional "server" ArgoCdServer.decode = Except.ok a.server? :=
    ArgoCdServer.codec.optional hm (by simp [List.lookup_append])
  rw [hfullname, hserver]
  rfl

theorem recordCodec : RecordCodec document decode fields := by
  refine codec.recordCodec (fun a => ?_) (fun a => by simp [fields])
  simp [document, fields, setMembers_cons, setMembers_nil]

end ArgoCdValues

/-! ## All charts -/

/-- The values of a chart: writing them never fails, and what they are written as makes a codec. -/
structure ValuesCodec {α : Type} [ChartValues α] (write : α → Document) (decode : Decoder α) (fields : α → Fields) : Prop
    extends RecordCodec write decode fields where
  /-- What the chart is handed. -/
  handed : ∀ v, ChartValues.document v = .ok (write v)

/-- The values of every chart, and every record inside them, are written with a member for each field that is set and with no others,
and are read back. -/
theorem chart_values_round_trip :
    (ValuesCodec SealedSecretsValues.document SealedSecretsValues.decode SealedSecretsValues.fields ∧
      RecordCodec Metrics.document Metrics.decode Metrics.fields ∧
      RecordCodec ServiceMonitor.document ServiceMonitor.decode ServiceMonitor.fields) ∧
    (ValuesCodec NginxIngressValues.document NginxIngressValues.decode NginxIngressValues.fields ∧
      RecordCodec NginxService.document NginxService.decode NginxService.fields) ∧
    (ValuesCodec LinkerdControlPlaneValues.document LinkerdControlPlaneValues.decode LinkerdControlPlaneValues.fields ∧
      RecordCodec LinkerdIdentity.document LinkerdIdentity.decode LinkerdIdentity.fields ∧
      RecordCodec LinkerdIssuer.document LinkerdIssuer.decode LinkerdIssuer.fields) ∧
    (ValuesCodec ArgoCdValues.document ArgoCdValues.decode ArgoCdValues.fields ∧
      RecordCodec ArgoCdServer.document ArgoCdServer.decode ArgoCdServer.fields) ∧
    ValuesCodec CertManagerValues.document CertManagerValues.decode CertManagerValues.fields :=
  ⟨⟨⟨SealedSecretsValues.recordCodec, fun _ => rfl⟩, Metrics.recordCodec, ServiceMonitor.recordCodec⟩,
    ⟨⟨NginxIngressValues.recordCodec, fun _ => rfl⟩, NginxService.recordCodec⟩,
    ⟨⟨LinkerdControlPlaneValues.recordCodec, fun _ => rfl⟩, LinkerdIdentity.recordCodec, LinkerdIssuer.recordCodec⟩,
    ⟨⟨ArgoCdValues.recordCodec, fun _ => rfl⟩, ArgoCdServer.recordCodec⟩,
    ⟨CertManagerValues.recordCodec, fun _ => rfl⟩⟩

/-- A server without arguments is not the same as no server, and is told apart in the written form. -/
example : (ArgoCdValues.mk none (some ⟨[]⟩)).document = .map [("server", .map [])] ∧ (ArgoCdValues.mk none none).document = .map [] :=
  ⟨rfl, rfl⟩

end ManifestTree
