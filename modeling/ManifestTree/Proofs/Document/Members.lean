import ManifestTree.Object.Application
import ManifestTree.Proofs.StringMap.Entries

/-!
# Looking up members

Putting members in the order of their names keeps what each name stands for: the first member of a name stays in front of the others
(`member?_sorted`). So what an application points at is found in its written form (`ApplicationSource.path_document`).
-/

namespace ManifestTree

namespace Document

/-- A member that is put in order is the one its name stands for. -/
theorem lookup_insertMember (key : String) (member : String × Document) (members : List (String × Document)) :
    (insertMember member members).lookup key = if key = member.1 then some member.2 else members.lookup key := by
  induction members with
  | nil => rw [insertMember, lookup_cons]
  | cons x rest ih =>
    unfold insertMember
    by_cases hle : member.1 ≤ x.1
    · rw [if_pos hle, lookup_cons]
    · rw [if_neg hle, lookup_cons, lookup_cons, ih]
      by_cases hx : key = x.1
      · -- The member comes behind others only when these have other names.
        have hne : key ≠ member.1 := by
          intro h
          have heq : member.1 = x.1 := h.symm.trans hx
          exact hle (heq ▸ Std.le_refl member.1)
        rw [if_pos hx, if_neg hne, if_pos hx]
      · rw [if_neg hx, if_neg hx]

/-- Putting members in order keeps what each name stands for. -/
theorem lookup_sortedMembers (key : String) (members : List (String × Document)) :
    (sortedMembers members).lookup key = (members.lookup key).map sorted := by
  induction members with
  | nil => rfl
  | cons x rest ih =>
    obtain ⟨k, d⟩ := x
    rw [sortedMembers, lookup_insertMember, lookup_cons, ih]
    by_cases h : key = k
    · simp [h]
    · simp [h]

/-- A member of a document that was put in order is that member, put in order. -/
theorem member?_sorted (d : Document) (key : String) : d.sorted.member? key = (d.member? key).map sorted := by
  cases d with
  | map members =>
    rw [sorted]
    exact lookup_sortedMembers key members
  | _ => rfl

/-- A member that stands only when there is a value for it. -/
@[simp] theorem lookup_optionalMember {α : Type} (key name : String) (write : α → Document) (value : Option α) :
    (optionalMember name write value).lookup key = if key = name then value.map write else none := by
  cases value with
  | none => simp [optionalMember]
  | some a => exact lookup_cons key (name, write a) []

end Document

/-- The API version of an object's type is found in its written form. -/
theorem KubeObject.apiVersion_document {α : Type} [KubeObject α] (object : α) :
    (document object).member? "apiVersion" = some (.text (apiVersion α)) := by
  simp [document, Document.member?]

/-- The kind of an object's type is found in its written form. -/
theorem KubeObject.kind_document {α : Type} [KubeObject α] (object : α) :
    (document object).member? "kind" = some (.text (kind α)) := by
  simp [document, Document.member?, lookup_cons]

namespace ApplicationSource

/-- The path of a source is found in its written form. -/
theorem path_document (s : ApplicationSource) : s.document.member? "path" = s.path?.map .text := by
  simp [document, Document.member?, List.lookup_append, lookup_cons]

/-- The repository of a source is found in its written form. -/
theorem repositoryUrl_document (s : ApplicationSource) : s.document.member? "repoURL" = some (.text s.repositoryUrl) := by
  simp [document, Document.member?]

/-- The directory options of a source are found in its written form. -/
theorem directory_document (s : ApplicationSource) :
    s.document.member? "directory" = s.directory?.map DirectoryOptions.document := by
  simp [document, Document.member?, List.lookup_append, lookup_cons]

end ApplicationSource

/-- The specification of an application is found in its written form. -/
theorem Application.spec_document (a : Application) : (KubeObject.document a).member? "spec" = some a.spec.document := by
  simp [KubeObject.document, KubeObject.members, Document.member?, lookup_cons]

/-- The source of an application is found in its specification. -/
theorem ApplicationSpec.source_document (s : ApplicationSpec) : s.document.member? "source" = some s.source.document := by
  simp [document, Document.member?, lookup_cons]

end ManifestTree
