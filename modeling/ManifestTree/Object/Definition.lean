import ManifestTree.Object.Application
import ManifestTree.Object.SealedSecret

/-!
# Custom resource definitions

A definition tells a cluster the kind of a custom resource and the schema of its objects. The definitions of applications and of
sealed secrets are given here, member by member in step with the types themselves.
-/

namespace ManifestTree

open Document (optionalMember)

/-- The names of a custom kind. -/
structure DefinitionNames where
  kind : String
  plural : String
  singular? : Option String := none
  categories? : Option (List String) := none
  shortNames? : Option (List String) := none
  deriving DecidableEq

/-- The written form of the names. -/
def DefinitionNames.document (n : DefinitionNames) : Document :=
  .map (optionalMember "categories" .ofTexts n.categories? ++
    [("kind", .text n.kind), ("plural", .text n.plural)] ++
    optionalMember "shortNames" .ofTexts n.shortNames? ++
    optionalMember "singular" .text n.singular?)

/-- One version of a custom kind, with the schema of its objects. It is served and stored, and has no subresources. -/
structure DefinitionVersion where
  name : String
  schema : Document

/-- The written form of a version. -/
def DefinitionVersion.document (v : DefinitionVersion) : Document :=
  .map [("additionalPrinterColumns", .list []),
    ("name", .text v.name),
    ("schema", .map [("openAPIV3Schema", v.schema)]),
    ("served", .bool true),
    ("storage", .bool true),
    ("subresources", .map [])]

/-- The definition of a custom resource. -/
structure CustomResourceDefinition where
  metadata : Metadata
  group : String := ""
  names : DefinitionNames := ⟨"", "", none, none, none⟩
  scope : String := ""
  versions : List DefinitionVersion := []

instance : KubeObject CustomResourceDefinition where
  apiVersion := "apiextensions.k8s.io/v1"
  kind := "CustomResourceDefinition"
  metadata := CustomResourceDefinition.metadata
  members d := [("spec", .map [("group", .text d.group),
    ("names", d.names.document),
    ("scope", .text d.scope),
    ("versions", .list (d.versions.map DefinitionVersion.document))])]

namespace Schema

/-- The schema of a simple type. -/
def simple (type : String) : Document := .map [("type", .text type)]

/-- A schema with one more member in front. -/
def withMember (key : String) (value : Document) : Document → Document
  | .map members => .map ((key, value) :: members)
  | d => d

/-- A schema that also allows null. -/
def nullable : Document → Document := withMember "nullable" (.bool true)

/-- A schema with a description. -/
def described (text : String) : Document → Document := withMember "description" (.text text)

/-- A text. -/
def text : Document := simple "string"

/-- A truth value. -/
def bool : Document := simple "boolean"

/-- A list of texts. -/
def texts : Document := .map [("items", text), ("type", .text "array")]

/-- A map of texts. -/
def textMap : Document := .map [("additionalProperties", text), ("type", .text "object")]

/-- A record with some members, of which some have to be there. -/
def record (members : List (String × Document)) (required : List String) : Document :=
  .map ([("properties", .map members)] ++
    (if required = [] then [] else [("required", .ofTexts required)]) ++ [("type", .text "object")])

end Schema

namespace CustomResourceDefinition

/-- The definition of a namespaced kind with one version. Its names are those of the kind in lower case. -/
def namespaced (group kind plural singular specName : String) (spec : Document) : CustomResourceDefinition where
  metadata := { name? := s!"{plural}.{group}" }
  group := group
  names := ⟨kind, plural, some singular, some [], some []⟩
  scope := "Namespaced"
  versions := [
    { name := "v1alpha1"
      schema := Schema.described s!"Auto-generated derived type for {specName} via `CustomResource`"
        (Schema.withMember "title" (.text kind) (Schema.record [("spec", spec)] ["spec"])) }]

open Schema in
/-- The definition of Argo CD applications. -/
def application : CustomResourceDefinition :=
  namespaced "argoproj.io" "Application" "applications" "application" "ApplicationSpec" <|
    described "Argo CD Application, the unit Argo CD syncs from git into the cluster" <| record
      [("destination", record [("namespace", nullable text), ("server", nullable text)] []),
        ("project", text),
        ("source", record
          [("chart", nullable text),
            ("directory", nullable (record [("recurse", nullable bool)] [])),
            ("helm", nullable (record
              [("releaseName", nullable text),
                ("values", described "Inline values.yaml content" (nullable text))] [])),
            ("path", nullable text),
            ("repoURL", text),
            ("targetRevision", nullable text)] ["repoURL"]),
        ("syncPolicy", nullable (record
          [("automated", nullable (record [("prune", nullable bool), ("selfHeal", nullable bool)] [])),
            ("syncOptions", texts)] []))]
      ["destination", "project", "source"]

open Schema in
/-- The definition of sealed secrets. -/
def sealedSecret : CustomResourceDefinition :=
  namespaced "bitnami.com" "SealedSecret" "sealedsecrets" "sealedsecret" "SealedSecretSpec" <|
    described "Bitnami SealedSecret, decrypted in-cluster by the sealed-secrets controller" <| record
      [("encryptedData", described "Encrypted values keyed by the Secret data key"
          (withMember "default" (.map []) textMap)),
        ("template", nullable (record
          [("metadata", nullable (record
              [("labels", textMap), ("name", nullable text), ("namespace", nullable text)] [])),
            ("type", nullable text)] []))]
      []

/-- The definitions of every custom resource there is a type for. -/
def all : List CustomResourceDefinition := [application, sealedSecret]

end CustomResourceDefinition

end ManifestTree
