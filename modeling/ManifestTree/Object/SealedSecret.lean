import ManifestTree.Object.Metadata

/-!
# Sealed secrets

A secret in encrypted form, with a template of the plain secret that the cluster makes of it. Each part has its written
form (`document`) and its way back (`decode`); what is not set is not written.
-/

namespace ManifestTree

open Document (optionalMember)

/-- The metadata that a template gives to the plain secret. -/
structure TemplateMetadata where
  name? : Option String
  namespaceName? : Option String
  labels : StringMap
  deriving DecidableEq

namespace TemplateMetadata

def document (t : TemplateMetadata) : Document :=
  .map (optionalMember "name" .text t.name? ++ optionalMember "namespace" .text t.namespaceName? ++
    if t.labels.isEmpty then [] else [("labels", .ofStringMap t.labels)])

def decode : Decoder TemplateMetadata :=
  Decode.record "SecretTemplateMetadata" ["name", "namespace", "labels"] fun m =>
    mk <$> m.optional "name" Decode.text <*> m.optional "namespace" Decode.text <*>
      m.defaulted "labels" .empty Decode.stringMap

end TemplateMetadata

/-- The plain secret that is made of a sealed one. -/
structure SecretTemplate where
  secretType? : Option String
  metadata? : Option TemplateMetadata
  deriving DecidableEq

namespace SecretTemplate

def document (t : SecretTemplate) : Document :=
  .map (optionalMember "type" .text t.secretType? ++ optionalMember "metadata" TemplateMetadata.document t.metadata?)

def decode : Decoder SecretTemplate :=
  Decode.record "SecretTemplate" ["type", "metadata"] fun m =>
    mk <$> m.optional "type" Decode.text <*> m.optional "metadata" TemplateMetadata.decode

end SecretTemplate

/-- The encrypted values by the names they have in the plain secret, and its template. -/
structure SealedSecretSpec where
  encryptedData : StringMap
  template? : Option SecretTemplate
  deriving DecidableEq

namespace SealedSecretSpec

def document (s : SealedSecretSpec) : Document :=
  .map (("encryptedData", .ofStringMap s.encryptedData) ::
    optionalMember "template" SecretTemplate.document s.template?)

def decode : Decoder SealedSecretSpec :=
  Decode.record "SealedSecretSpec" ["encryptedData", "template"] fun m =>
    mk <$> m.defaulted "encryptedData" .empty Decode.stringMap <*> m.optional "template" SecretTemplate.decode

end SealedSecretSpec

/-- A sealed secret. -/
structure SealedSecret where
  metadata : Metadata
  spec : SealedSecretSpec

instance : KubeObject SealedSecret where
  apiVersion := "bitnami.com/v1alpha1"
  kind := "SealedSecret"
  metadata := SealedSecret.metadata
  members s := [("spec", s.spec.document)]

/-- Reads a sealed secret, with a reader of points in time. Its API version and kind are not looked at. -/
def SealedSecret.decode (times : Decoder Time) : Decoder SealedSecret :=
  Decode.record "SealedSecret" ["metadata", "spec"] fun m =>
    mk <$> m.required "metadata" (Metadata.decode times) <*> m.required "spec" SealedSecretSpec.decode

end ManifestTree
