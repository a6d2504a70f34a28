import ManifestTree.Proofs.Document.Codec

/-!
# Documents without null

Whether something is null in a document is asked of its parts: of the items of a list (`nullFree_list`) and of the members of a map
(`nullFree_map`), of which those that are not set are not there (`nullFreeMembers_optionalMember`). It makes no difference how the
members are arranged (`Arrangement.nullFree_arrange`).
-/

namespace ManifestTree

open Document (optionalMember)

namespace Document

/-- A document in which nothing is null. -/
inductive NullFree : Document → Prop
  | bool (b : Bool) : NullFree (.bool b)
  | int (n : Int) : NullFree (.int n)
  | float (x : Decimal) : NullFree (.float x)
  | text (s : String) : NullFree (.text s)
  | list {items : List Document} (each : ∀ d ∈ items, NullFree d) : NullFree (.list items)
  | map {members : List (String × Document)} (each : ∀ x ∈ members, NullFree x.2) : NullFree (.map members)

attribute [simp] NullFree.bool NullFree.int NullFree.float NullFree.text

/-- Members in which nothing is null. -/
def NullFreeMembers (members : List (String × Document)) : Prop := ∀ x ∈ members, x.2.NullFree

@[simp] theorem nullFree_list {items : List Document} : (list items).NullFree ↔ ∀ d ∈ items, d.NullFree :=
  ⟨fun h => by cases h; assumption, .list⟩

@[simp] theorem nullFree_map {members : List (String × Document)} : (map members).NullFree ↔ NullFreeMembers members :=
  ⟨fun h => by cases h; assumption, .map⟩

@[simp] theorem nullFreeMembers_nil : NullFreeMembers [] := List.forall_mem_nil _

@[simp] theorem nullFreeMembers_cons {x : String × Document} {members : List (String × Document)} :
    NullFreeMembers (x :: members) ↔ x.2.NullFree ∧ NullFreeMembers members :=
  List.forall_mem_cons

@[simp] theorem nullFreeMembers_append {members members' : List (String × Document)} :
    NullFreeMembers (members ++ members') ↔ NullFreeMembers members ∧ NullFreeMembers members' :=
  List.forall_mem_append

@[simp] theorem nullFreeMembers_ite {p : Prop} [Decidable p] {members members' : List (String × Document)} :
    NullFreeMembers (if p then members else members') ↔ (p → NullFreeMembers members) ∧ (¬ p → NullFreeMembers members') := by
  split <;> simp [*]

/-- A member that is not set is not there to be null. -/
@[simp] theorem nullFreeMembers_optionalMember {α : Type} {key : String} {write : α → Document} {value? : Option α} :
    NullFreeMembers (optionalMember key write value?) ↔ ∀ a, value? = some a → (write a).NullFree := by
  cases value? with
  | none => simp [optionalMember]
  | some a => simp [optionalMember]

@[simp] theorem nullFree_ofInt64 (n : Int64) : (ofInt64 n).NullFree := .int n.toInt

@[simp] theorem nullFree_ofList {α : Type} {write : α → Document} {items : List α} :
    (ofList write items).NullFree ↔ ∀ a ∈ items, (write a).NullFree := by
  simp [ofList]

@[simp] theorem nullFree_ofTexts (texts : List String) : (ofTexts texts).NullFree := by
  simp [ofTexts]

@[simp] theorem nullFree_ofStringMap (m : StringMap) : (ofStringMap m).NullFree :=
  .map (List.forall_mem_map.mpr fun e _ => .text e.2)

theorem nullFreeMembers_insertMember {x : String × Document} {members : List (String × Document)} :
    NullFreeMembers (insertMember x members) ↔ x.2.NullFree ∧ NullFreeMembers members := by
  rw [← nullFreeMembers_cons]
  exact forall_congr' fun y => imp_congr_left (insertMember_perm x members).mem_iff

mutual

/-- Putting members in order makes nothing null, and nothing that is null anything else. -/
theorem nullFree_sorted : ∀ d : Document, d.sorted.NullFree ↔ d.NullFree
  | .null | .bool _ | .int _ | .float _ | .text _ => Iff.rfl
  | .list items => by
    rw [sorted, nullFree_list, nullFree_list]
    exact nullFree_sortedItems items
  | .map members => by
    rw [sorted, nullFree_map, nullFree_map]
    exact nullFreeMembers_sortedMembers members

theorem nullFree_sortedItems : ∀ items : List Document, (∀ d ∈ sortedItems items, d.NullFree) ↔ ∀ d ∈ items, d.NullFree
  | [] => Iff.rfl
  | d :: rest => by
    rw [sortedItems, List.forall_mem_cons, List.forall_mem_cons, nullFree_sorted d, nullFree_sortedItems rest]

theorem nullFreeMembers_sortedMembers :
    ∀ members : List (String × Document), NullFreeMembers (sortedMembers members) ↔ NullFreeMembers members
  | [] => Iff.rfl
  | (_, d) :: rest => by
    rw [sortedMembers, nullFreeMembers_insertMember, nullFreeMembers_cons, nullFree_sorted d, nullFreeMembers_sortedMembers rest]

end

end Document

theorem Arrangement.nullFree_arrange (form : Arrangement) (d : Document) : (form.arrange d).NullFree ↔ d.NullFree := by
  cases form with
  | asWritten => rfl
  | inOrder => exact d.nullFree_sorted

end ManifestTree
