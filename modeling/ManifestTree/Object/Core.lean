import ManifestTree.Object.Metadata

/-!
# Plain objects

Config maps and namespaces.
-/

namespace ManifestTree

open Document (optionalMember)

/-- A map of settings that workloads read. -/
structure ConfigMap where
  metadata : Metadata
  data? : Option StringMap

instance : KubeObject ConfigMap where
  apiVersion := "v1"
  kind := "ConfigMap"
  metadata := ConfigMap.metadata
  members c := optionalMember "data" .ofStringMap c.data?

/-- A namespace of a cluster. -/
structure Namespace where
  metadata : Metadata

instance : KubeObject Namespace where
  apiVersion := "v1"
  kind := "Namespace"
  metadata := Namespace.metadata
  members _ := []

end ManifestTree
