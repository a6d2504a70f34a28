import ManifestTree.Document.Order
import ManifestTree.Object.Time

/-!
# Objects and their metadata

Every Kubernetes object has an API version and a kind, which its type fixes, and metadata, which names it. The objects built here have
names, labels and annotations; the rest is what a cluster keeps in the metadata: when an object was made and is to go, what owns it, and
which fields were set by whom. `KubeObject` holds all these together with the members that a type adds, and `KubeObject.document` writes
them.
-/

namespace ManifestTree

open Document (optionalMember)

/-! ## Owners -/

/-- An object that owns another one. -/
structure OwnerReference where
  apiVersion : String
  blocksDeletion? : Option Bool
  controls? : Option Bool
  kind : String
  name : String
  uid : String
  deriving DecidableEq

namespace OwnerReference

/-- The written form of an owner; what names it is always written. -/
def document (o : OwnerReference) : Document :=
  .map (("apiVersion", .text o.apiVersion) :: optionalMember "blockOwnerDeletion" .bool o.blocksDeletion? ++
    optionalMember "controller" .bool o.controls? ++ [("kind", .text o.kind), ("name", .text o.name), ("uid", .text o.uid)])

/-- Reads an owner. What would name it is empty where it is left out. -/
def decode : Decoder OwnerReference :=
  Decode.object "OwnerReference" ["apiVersion", "blockOwnerDeletion", "controller", "kind", "name", "uid"] fun m =>
    mk <$> m.filled "apiVersion" "" Decode.text <*> m.optional "blockOwnerDeletion" Decode.bool <*>
      m.optional "controller" Decode.bool <*> m.filled "kind" "" Decode.text <*> m.filled "name" "" Decode.text <*>
      m.filled "uid" "" Decode.text

end OwnerReference

/-! ## Managers -/

/-- The fields that a manager has set, as they were given. Null would stand for no fields. -/
structure FieldSet where
  document : Document
  ordered : document.sorted = document
  notNull : document.isNull = false

/-- Reads the fields that a manager has set, whatever they are. -/
def FieldSet.decode : Decoder FieldSet := fun d =>
  if h : d.isNull = false then .ok ⟨d.sorted, d.sorted_sorted, d.isNull_sorted.trans h⟩
  else .error (.invalidType d "a set of fields")

/-- What a manager has set in an object, and when. -/
structure ManagedFields where
  apiVersion? : Option String := none
  fieldsType? : Option String := none
  fields? : Option FieldSet := none
  manager? : Option String := none
  operation? : Option String := none
  subresource? : Option String := none
  time? : Option Time := none

namespace ManagedFields

def document (f : ManagedFields) : Document :=
  .map (optionalMember "apiVersion" .text f.apiVersion? ++
    optionalMember "fieldsType" .text f.fieldsType? ++
    optionalMember "fieldsV1" FieldSet.document f.fields? ++
    optionalMember "manager" .text f.manager? ++
    optionalMember "operation" .text f.operation? ++
    optionalMember "subresource" .text f.subresource? ++
    optionalMember "time" Time.document f.time?)

/-- Reads what a manager has set, with a reader of points in time. -/
def decode (times : Decoder Time) : Decoder ManagedFields :=
  Decode.object "ManagedFieldsEntry" ["apiVersion", "fieldsType", "fieldsV1", "manager", "operation", "subresource", "time"] fun m =>
    mk <$> m.optional "apiVersion" Decode.text <*> m.optional "fieldsType" Decode.text <*>
      m.optional "fieldsV1" FieldSet.decode <*> m.optional "manager" Decode.text <*> m.optional "operation" Decode.text <*>
      m.optional "subresource" Decode.text <*> m.optional "time" times

end ManagedFields

/-! ## Metadata -/

/-- The metadata of an object. -/
structure Metadata where
  annotations? : Option StringMap := none
  creationTimestamp? : Option Time := none
  deletionGracePeriodSeconds? : Option Int64 := none
  deletionTimestamp? : Option Time := none
  finalizers? : Option (List String) := none
  generateName? : Option String := none
  generation? : Option Int64 := none
  labels? : Option StringMap := none
  managedFields? : Option (List ManagedFields) := none
  name? : Option String := none
  namespaceName? : Option String := none
  ownerReferences? : Option (List OwnerReference) := none
  resourceVersion? : Option String := none
  selfLink? : Option String := none
  uid? : Option String := none

namespace Metadata

/-- The written form of metadata; what is not set is not written. -/
def document (m : Metadata) : Document :=
  .map (optionalMember "annotations" .ofStringMap m.annotations? ++
    optionalMember "creationTimestamp" Time.document m.creationTimestamp? ++
    optionalMember "deletionGracePeriodSeconds" .ofInt64 m.deletionGracePeriodSeconds? ++
    optionalMember "deletionTimestamp" Time.document m.deletionTimestamp? ++
    optionalMember "finalizers" .ofTexts m.finalizers? ++
    optionalMember "generateName" .text m.generateName? ++
    optionalMember "generation" .ofInt64 m.generation? ++
    optionalMember "labels" .ofStringMap m.labels? ++
    optionalMember "managedFields" (.ofList ManagedFields.document) m.managedFields? ++
    optionalMember "name" .text m.name? ++
    optionalMember "namespace" .text m.namespaceName? ++
    optionalMember "ownerReferences" (.ofList OwnerReference.document) m.ownerReferences? ++
    optionalMember "resourceVersion" .text m.resourceVersion? ++
    optionalMember "selfLink" .text m.selfLink? ++
    optionalMember "uid" .text m.uid?)

/-- Reads metadata, with a reader of points in time. A list is no metadata. -/
def decode (times : Decoder Time) : Decoder Metadata :=
  Decode.object "ObjectMeta" ["annotations", "creationTimestamp", "deletionGracePeriodSeconds", "deletionTimestamp", "finalizers",
      "generateName", "generation", "labels", "managedFields", "name", "namespace", "ownerReferences", "resourceVersion", "selfLink",
      "uid"] fun m =>
    mk <$> m.optional "annotations" Decode.stringMap <*> m.optional "creationTimestamp" times <*>
      m.optional "deletionGracePeriodSeconds" Decode.int64 <*> m.optional "deletionTimestamp" times <*>
      m.optional "finalizers" Decode.texts <*> m.optional "generateName" Decode.text <*>
      m.optional "generation" Decode.int64 <*> m.optional "labels" Decode.stringMap <*>
      m.optional "managedFields" (Decode.list (ManagedFields.decode times)) <*> m.optional "name" Decode.text <*>
      m.optional "namespace" Decode.text <*> m.optional "ownerReferences" (Decode.list OwnerReference.decode) <*>
      m.optional "resourceVersion" Decode.text <*> m.optional "selfLink" Decode.text <*> m.optional "uid" Decode.text

end Metadata

/-! ## Objects -/

/-- The label of the tool that manages an object. -/
def managedByLabel : String := "app.kubernetes.io/managed-by"

/-- The tool that manages every object built here. -/
def managerName : String := "manifestor"

/-- The types of Kubernetes objects. `members` are those that come besides the API version, the kind and the metadata. -/
class KubeObject (α : Type) where
  apiVersion : String
  kind : String
  metadata : α → Metadata
  members : α → List (String × Document)

/-- The written form of an object. -/
def KubeObject.document {α : Type} [KubeObject α] (object : α) : Document :=
  .map (("apiVersion", .text (apiVersion α)) :: ("kind", .text (kind α)) ::
    ("metadata", (metadata object).document) :: members object)

end ManifestTree
