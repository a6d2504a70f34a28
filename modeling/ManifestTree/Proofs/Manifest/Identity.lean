import ManifestTree.Proofs.Manifest.FileName
import ManifestTree.Proofs.Provider.Registration

/-!
# What a manifest is called

A manifest's API version, kind, namespace and name make up its file name; what else it says has no part in it
(`encode_fileName`). So manifests of one group are kept apart by what they are called (`distinct_of_identities`).
-/

namespace ManifestTree

/-- What an object is called: its API version and kind, its namespace if it has one, and its name. -/
structure Identity where
  apiVersion : String
  kind : String
  namespaceName? : Option String
  name : String
  deriving DecidableEq

namespace Identity

/-- The letters of a file name before it is put in lower case. -/
def spelled (i : Identity) : List Char :=
  (i.apiVersion.toList.map fun c => if c = '/' then '_' else c) ++ '-' :: (i.kind.toList ++
    '-' :: ((i.namespaceName?.getD Manifest.clusterScope).toList ++ '-' :: (i.name.toList ++ ".yaml".toList)))

/-- The bytes of a file name. -/
def fileBytes (i : Identity) : Name :=
  (Lowercase.lowerAfter [] i.spelled).flatMap String.utf8EncodeChar

/-- Where a manifest that is called so is written, seen from the directory of its provider. -/
def relativePath (i : Identity) : Path := Manifest.relativePath ⟨i.apiVersion, i.kind, i.namespaceName?, i.name, .null⟩

end Identity

namespace Manifest

variable {m m' : Manifest} {ms : List Manifest}

/-- What a manifest is called. -/
def identity (m : Manifest) : Identity := ⟨m.apiVersion, m.kind, m.namespaceName?, m.name⟩

/-- A file is named after what its manifest is called. -/
theorem encode_fileName (m : Manifest) : Utf8.encode m.fileName = m.identity.fileBytes := by
  rw [fileName_eq, Lowercase.lowercase, Utf8.encode, String.toList_ofList, toList_spelledName, flatten, String.toList_ofList]
  rfl

/-- Where a manifest is written follows from what it is called. -/
theorem relativePath_eq (m : Manifest) : m.relativePath = m.identity.relativePath := rfl

/-- Plain manifests with the same path are named the same. -/
theorem fileBytes_of_same (hm : m.Plain) (hm' : m'.Plain) (h : m.relativePath.Same m'.relativePath) :
    m.identity.fileBytes = m'.identity.fileBytes := by
  have hcomponents : m.relativePath.components = m'.relativePath.components := h
  rw [hm.components_relativePath, hm'.components_relativePath] at hcomponents
  have hnames : m.relativeNames = m'.relativeNames := List.map_injective_iff.mpr (fun _ _ => Component.name.inj) hcomponents
  have hfile : [Utf8.encode m.fileName] = [Utf8.encode m'.fileName] := (List.cons.inj hnames).2
  rw [← encode_fileName, ← encode_fileName, (List.cons.inj hfile).1]

/-- Plain manifests that are named differently have different paths. -/
theorem distinct_of_identities (hplain : ∀ m ∈ ms, m.Plain)
    (h : (ms.map identity).Pairwise fun i i' => i.fileBytes ≠ i'.fileBytes) : Distinct ms := by
  rw [List.pairwise_map] at h
  refine List.Pairwise.imp_of_mem ?_ h
  intro m m' hm hm' hne hsame
  exact hne (fileBytes_of_same (hplain m hm) (hplain m' hm') hsame)

end Manifest

end ManifestTree
