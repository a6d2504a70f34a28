import ManifestTree.Document.Yaml
import ManifestTree.Error
import ManifestTree.Object.Metadata
import ManifestTree.Text.Lowercase

/-!
# Manifests

A manifest is an object as it is written to a file. Where it is written follows from its identity: definitions of custom resources
have a group directory of their own, so that they can be applied before everything else, and the file name is made of API version,
kind, namespace and name, in lower case.
-/

namespace ManifestTree

/-- An object waiting to be written: its identity and its written form. -/
structure Manifest where
  apiVersion : String
  kind : String
  namespaceName? : Option String
  name : String
  body : Document

namespace Manifest

/-- The kind whose objects define other kinds. -/
def definitionKind : String := "CustomResourceDefinition"

/-- The directory of definitions. -/
def definitionGroup : String := "0-crd"

/-- The directory of all other manifests. -/
def plainGroup : String := "1-manifest"

/-- What stands in a file name for the namespace of an object that has none. -/
def clusterScope : String := "cluster"

/-- Whether a manifest defines a custom resource. -/
def isDefinition (m : Manifest) : Bool := m.kind = definitionKind

/-- The group directory of a manifest. -/
def group (m : Manifest) : String := if m.isDefinition then definitionGroup else plainGroup

/-- An API version as part of a file name. -/
def flatten (apiVersion : String) : String :=
  String.ofList (apiVersion.toList.map fun c => if c = '/' then '_' else c)

/-- The name of a manifest's file. -/
def fileName (m : Manifest) : String :=
  let scope := m.namespaceName?.getD clusterScope
  Lowercase.lowercase s!"{flatten m.apiVersion}-{m.kind}-{scope}-{m.name}.yaml"

/-- Where a manifest is written, seen from the directory of its provider. -/
def relativePath (m : Manifest) : Path :=
  (Path.ofString m.group).joinText m.fileName

end Manifest

/-- An object offered for rendering. It may have no name, and writing it may fail with a reason. -/
structure Candidate where
  apiVersion : String
  kind : String
  namespaceName? : Option String
  name? : Option String
  body : Except String Document

/-- An object as it is offered for rendering, with its members in the order of their names. -/
def Candidate.ofObject {α : Type} [KubeObject α] (object : α) : Candidate where
  apiVersion := KubeObject.apiVersion α
  kind := KubeObject.kind α
  namespaceName? := (KubeObject.metadata object).namespaceName?
  name? := (KubeObject.metadata object).name?
  body := .ok (KubeObject.document object).sorted

end ManifestTree
