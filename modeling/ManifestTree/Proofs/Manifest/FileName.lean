import ManifestTree.Manifest
import ManifestTree.Proofs.Path.Components
import ManifestTree.Proofs.Text.Lowercase
import ManifestTree.Proofs.Text.Utf8

/-!
# The names of manifest files

A manifest whose kind, namespace and name hold no slash has a file name that is one directory entry (`Plain.isName_fileName`),
whatever its API version, and its path is that name below its group (`Plain.components_relativePath`).
-/

namespace ManifestTree

namespace Manifest

/-- A manifest with no slash in its kind, its namespace and its name. -/
structure Plain (m : Manifest) : Prop where
  kind : '/' ∉ m.kind.toList
  namespaceName : ∀ n, m.namespaceName? = some n → '/' ∉ n.toList
  name : '/' ∉ m.name.toList

instance (m : Manifest) : Decidable m.Plain :=
  decidable_of_iff ('/' ∉ m.kind.toList ∧ (∀ n ∈ m.namespaceName?.toList, '/' ∉ n.toList) ∧ '/' ∉ m.name.toList) (by
    constructor
    · rintro ⟨hkind, hnamespace, hname⟩
      exact ⟨hkind, fun n hn => hnamespace n (Option.mem_toList.mpr hn), hname⟩
    · rintro ⟨hkind, hnamespace, hname⟩
      exact ⟨hkind, fun n hn => hnamespace n (Option.mem_toList.mp hn), hname⟩)

/-- A flattened API version has no slash left. -/
theorem slash_not_mem_flatten (apiVersion : String) : '/' ∉ (flatten apiVersion).toList := by
  rw [flatten, String.toList_ofList]
  intro h
  obtain ⟨c, -, hc⟩ := List.mem_map.mp h
  split at hc
  · exact absurd hc (by decide)
  · rename_i hne
    exact hne hc

/-- The file name of a manifest before it is put in lower case. -/
def spelledName (m : Manifest) : String :=
  s!"{flatten m.apiVersion}-{m.kind}-{m.namespaceName?.getD clusterScope}-{m.name}.yaml"

theorem fileName_eq (m : Manifest) : m.fileName = Lowercase.lowercase m.spelledName := rfl

theorem toList_spelledName (m : Manifest) : m.spelledName.toList =
    (flatten m.apiVersion).toList ++ '-' :: (m.kind.toList ++ '-' :: ((m.namespaceName?.getD clusterScope).toList ++
      '-' :: (m.name.toList ++ ".yaml".toList))) := by
  simp [spelledName, toString, String.toList_append]

/-- The file name of a plain manifest is one directory entry. -/
theorem Plain.isName_fileName {m : Manifest} (h : m.Plain) : Path.IsName (Utf8.encode m.fileName) := by
  have hscope : '/' ∉ (m.namespaceName?.getD clusterScope).toList := by
    cases hn : m.namespaceName? with
    | none => decide
    | some n => exact h.namespaceName n hn
  have hslash : '/' ∉ m.spelledName.toList := by
    rw [toList_spelledName]
    simp [slash_not_mem_flatten, h.kind, hscope, h.name]
  have hhyphen : '-' ∈ m.fileName.toList := by
    rw [fileName_eq]
    exact Lowercase.hyphen_mem_lowercase (by simp [toList_spelledName])
  have hbyte : (0x2D : UInt8) ∈ Utf8.encode m.fileName := List.mem_flatMap.mpr ⟨'-', hhyphen, by decide⟩
  refine ⟨Utf8.separator_not_mem_encode ?_, ?_, ?_, ?_⟩
  · rw [fileName_eq]
    exact fun hm => hslash (Lowercase.slash_mem_lowercase hm)
  · exact List.ne_nil_of_mem hbyte
  · intro hdot
    rw [hdot] at hbyte
    exact absurd hbyte (by decide)
  · intro hdotDot
    rw [hdotDot] at hbyte
    exact absurd hbyte (by decide)

/-- The group directory of a manifest is one directory entry. -/
theorem isName_group (m : Manifest) : Path.IsName (Utf8.encode m.group) := by
  unfold group
  split <;> decide

/-- The path of a manifest below a directory: its file name below its group. -/
theorem join_relativePath (directory : Path) (m : Manifest) :
    directory.join m.relativePath = (directory.joinText m.group).joinText m.fileName := by
  have hgroup : (Path.ofString m.group).components = [.name (Utf8.encode m.group)] := Path.components_name m.isName_group
  have hrelative : (Path.ofString m.group).isAbsolute = false := Path.isAbsolute_of_components (by simp [hgroup])
  have hne : (Path.ofString m.group).bytes ≠ [] := m.isName_group.ne_nil
  rw [relativePath, Path.joinText, Path.joinText, Path.joinText, Path.join_assoc hrelative hne]

/-- The names that lead from the directory of a provider to the file of a manifest. -/
def relativeNames (m : Manifest) : List Name := [Utf8.encode m.group, Utf8.encode m.fileName]

/-- The path of a plain manifest: its file name below its group. -/
theorem Plain.components_relativePath {m : Manifest} (h : m.Plain) :
    m.relativePath.components = m.relativeNames.map .name := by
  have hgroup : (Path.ofString m.group).components = [.name (Utf8.encode m.group)] := Path.components_name m.isName_group
  rw [relativePath, Path.components_joinText h.isName_fileName, hgroup]
  rfl

end Manifest

end ManifestTree
