import ManifestTree.Object.Metadata
import ManifestTree.Proofs.Document.NullFree

/-!
# Metadata is read back

The metadata of an object is read back from its written form as soon as points in time are (`Metadata.codec`), with all that the cluster
keeps in it: owners, and the fields that managers have set. Nothing in the written form is null but what was given among these fields
(`Metadata.nullFree_document`).
-/

namespace ManifestTree

/-! ## Points in time -/

theorem Time.codec {times : Decoder Time} (htimes : ∀ t : Time, times t.document = .ok t) : Codec Time.document times :=
  .of_sorted (fun _ => rfl) htimes (fun _ => rfl)

@[simp] theorem Time.nullFree_document (t : Time) : t.document.NullFree := .text t.text

/-! ## Owners -/

theorem OwnerReference.codec : Codec OwnerReference.document OwnerReference.decode := by
  refine MembersCodec.object fun a m form hm => ?_
  have hversion : m.filled "apiVersion" "" Decode.text = Except.ok a.apiVersion :=
    codec_text.filled hm (by simp)
  have hblocks : m.optional "blockOwnerDeletion" Decode.bool = Except.ok a.blocksDeletion? :=
    codec_bool.optional hm (by simp [lookup_cons, List.lookup_append])
  have hcontrols : m.optional "controller" Decode.bool = Except.ok a.controls? :=
    codec_bool.optional hm (by simp [lookup_cons, List.lookup_append])
  have hkind : m.filled "kind" "" Decode.text = Except.ok a.kind :=
    codec_text.filled hm (by simp [lookup_cons, List.lookup_append])
  have hname : m.filled "name" "" Decode.text = Except.ok a.name :=
    codec_text.filled hm (by simp [lookup_cons, List.lookup_append])
  have huid : m.filled "uid" "" Decode.text = Except.ok a.uid :=
    codec_text.filled hm (by simp [lookup_cons, List.lookup_append])
  rw [hversion, hblocks, hcontrols, hkind, hname, huid]
  rfl

@[simp] theorem OwnerReference.nullFree_document (o : OwnerReference) : o.document.NullFree := by
  simp [document]

/-! ## Managers -/

theorem FieldSet.codec : Codec FieldSet.document FieldSet.decode := by
  refine .of_sorted (fun f => f.ordered) (fun f => ?_) (fun f => f.notNull)
  obtain ⟨document, hordered, hnull⟩ := f
  rw [decode, dif_pos hnull]
  exact congrArg Except.ok ((FieldSet.mk.injEq ..).mpr hordered)

theorem ManagedFields.codec {times : Decoder Time} (htimes : ∀ t : Time, times t.document = .ok t) :
    Codec ManagedFields.document (ManagedFields.decode times) := by
  refine MembersCodec.object fun a m form hm => ?_
  have hversion : m.optional "apiVersion" Decode.text = Except.ok a.apiVersion? :=
    codec_text.optional hm (by simp [List.lookup_append])
  have htype : m.optional "fieldsType" Decode.text = Except.ok a.fieldsType? :=
    codec_text.optional hm (by simp [List.lookup_append])
  have hfields : m.optional "fieldsV1" FieldSet.decode = Except.ok a.fields? :=
    FieldSet.codec.optional hm (by simp [List.lookup_append])
  have hmanager : m.optional "manager" Decode.text = Except.ok a.manager? :=
    codec_text.optional hm (by simp [List.lookup_append])
  have hoperation : m.optional "operation" Decode.text = Except.ok a.operation? :=
    codec_text.optional hm (by simp [List.lookup_append])
  have hsubresource : m.optional "subresource" Decode.text = Except.ok a.subresource? :=
    codec_text.optional hm (by simp [List.lookup_append])
  have htime : m.optional "time" times = Except.ok a.time? :=
    (Time.codec htimes).optional hm (by simp [List.lookup_append])
  rw [hversion, htype, hfields, hmanager, hoperation, hsubresource, htime]
  rfl

@[simp] theorem ManagedFields.nullFree_document (f : ManagedFields) :
    f.document.NullFree ↔ ∀ fields, f.fields? = some fields → fields.document.NullFree := by
  simp [document]

/-! ## Metadata -/

namespace Metadata

theorem codec {times : Decoder Time} (htimes : ∀ t : Time, times t.document = .ok t) : Codec document (decode times) := by
  refine MembersCodec.object fun a m form hm => ?_
  have hannotations : m.optional "annotations" Decode.stringMap = Except.ok a.annotations? :=
    codec_stringMap.optional hm (by simp [List.lookup_append])
  have hcreation : m.optional "creationTimestamp" times = Except.ok a.creationTimestamp? :=
    (Time.codec htimes).optional hm (by simp [List.lookup_append])
  have hperiod : m.optional "deletionGracePeriodSeconds" Decode.int64 = Except.ok a.deletionGracePeriodSeconds? :=
    codec_int64.optional hm (by simp [List.lookup_append])
  have hdeletion : m.optional "deletionTimestamp" times = Except.ok a.deletionTimestamp? :=
    (Time.codec htimes).optional hm (by simp [List.lookup_append])
  have hfinalizers : m.optional "finalizers" Decode.texts = Except.ok a.finalizers? :=
    codec_texts.optional hm (by simp [List.lookup_append])
  have hgenerateName : m.optional "generateName" Decode.text = Except.ok a.generateName? :=
    codec_text.optional hm (by simp [List.lookup_append])
  have hgeneration : m.optional "generation" Decode.int64 = Except.ok a.generation? :=
    codec_int64.optional hm (by simp [List.lookup_append])
  have hlabels : m.optional "labels" Decode.stringMap = Except.ok a.labels? :=
    codec_stringMap.optional hm (by simp [List.lookup_append])
  have hmanaged : m.optional "managedFields" (Decode.list (ManagedFields.decode times)) = Except.ok a.managedFields? :=
    (ManagedFields.codec htimes).list.optional hm (by simp [List.lookup_append])
  have hname : m.optional "name" Decode.text = Except.ok a.name? :=
    codec_text.optional hm (by simp [List.lookup_append])
  have hnamespace : m.optional "namespace" Decode.text = Except.ok a.namespaceName? :=
    codec_text.optional hm (by simp [List.lookup_append])
  have howners : m.optional "ownerReferences" (Decode.list OwnerReference.decode) = Except.ok a.ownerReferences? :=
    OwnerReference.codec.list.optional hm (by simp [List.lookup_append])
  have hresourceVersion : m.optional "resourceVersion" Decode.text = Except.ok a.resourceVersion? :=
    codec_text.optional hm (by simp [List.lookup_append])
  have hselfLink : m.optional "selfLink" Decode.text = Except.ok a.selfLink? :=
    codec_text.optional hm (by simp [List.lookup_append])
  have huid : m.optional "uid" Decode.text = Except.ok a.uid? :=
    codec_text.optional hm (by simp [List.lookup_append])
  rw [hannotations, hcreation, hperiod, hdeletion, hfinalizers, hgenerateName, hgeneration, hlabels, hmanaged, hname, hnamespace,
    howners, hresourceVersion, hselfLink, huid]
  rfl

/-- Nothing is null in the fields that managers have set. -/
def NullFreeFields (m : Metadata) : Prop :=
  ∀ entries, m.managedFields? = some entries → ∀ entry ∈ entries, ∀ fields, entry.fields? = some fields → fields.document.NullFree

/-- Null is written only where it was given, in the fields that managers have set. -/
theorem nullFree_document (m : Metadata) : m.document.NullFree ↔ m.NullFreeFields := by
  simp [document, NullFreeFields]

end Metadata

end ManifestTree
