import ManifestTree.Document

/-!
# Members in order

A document that was put in order (`sorted`) has the same members in every map as before (`sortedMembers_perm`), now in the order of
their names (`ordered_sortedMembers`), and it stays as it is when it is put in order once more (`sorted_sorted`).
-/

namespace ManifestTree.Document

variable {member : String × Document} {members : List (String × Document)}

theorem insertMember_perm (member : String × Document) (members : List (String × Document)) :
    (insertMember member members).Perm (member :: members) := by
  induction members with
  | nil => exact .refl _
  | cons x rest ih =>
    unfold insertMember
    split
    · exact .refl _
    · exact (ih.cons x).trans (.swap member x rest)

/-- Putting members in order keeps each of them, put in order itself. -/
theorem sortedMembers_perm (members : List (String × Document)) :
    (sortedMembers members).Perm (members.map fun x => (x.1, x.2.sorted)) := by
  induction members with
  | nil => exact .refl _
  | cons x rest ih =>
    rw [sortedMembers, List.map_cons]
    exact (insertMember_perm _ _).trans (ih.cons _)

theorem mem_insertMember {x : String × Document} : x ∈ insertMember member members ↔ x = member ∨ x ∈ members :=
  (insertMember_perm member members).mem_iff.trans List.mem_cons

/-- Members in the order of their names. -/
def Ordered (members : List (String × Document)) : Prop := members.Pairwise fun x y => x.1 ≤ y.1

/-- A member that is put before the first one of a greater name keeps the order. -/
theorem Ordered.insertMember (h : Ordered members) (member : String × Document) : Ordered (insertMember member members) := by
  induction members with
  | nil => exact List.pairwise_singleton _ _
  | cons x rest ih =>
    obtain ⟨hx, hrest⟩ := List.pairwise_cons.mp h
    unfold Document.insertMember
    by_cases hle : member.1 ≤ x.1
    · rw [if_pos hle]
      refine List.pairwise_cons.mpr ⟨?_, h⟩
      intro y hy
      rcases List.mem_cons.mp hy with rfl | hy
      · exact hle
      · exact Std.le_trans hle (hx y hy)
    · rw [if_neg hle]
      refine List.pairwise_cons.mpr ⟨?_, ih hrest⟩
      intro y hy
      rcases mem_insertMember.mp hy with rfl | hy
      · exact Std.le_of_not_ge hle
      · exact hx y hy

/-- The members of a map that was put in order are in the order of their names. -/
theorem ordered_sortedMembers (members : List (String × Document)) : Ordered (sortedMembers members) := by
  induction members with
  | nil => exact List.Pairwise.nil
  | cons x rest ih =>
    obtain ⟨k, d⟩ := x
    rw [sortedMembers]
    exact ih.insertMember (k, d.sorted)

/-- In front of all members of greater names there is nothing to pass. -/
theorem insertMember_of_le (h : ∀ x ∈ members, member.1 ≤ x.1) : insertMember member members = member :: members := by
  cases members with
  | nil => rfl
  | cons x rest => rw [insertMember, if_pos (h x List.mem_cons_self)]

/-- Members that are in order, each of them in order itself, stay as they are. -/
theorem sortedMembers_eq_self (hordered : Ordered members) (h : ∀ x ∈ members, x.2.sorted = x.2) :
    sortedMembers members = members := by
  induction members with
  | nil => rfl
  | cons x rest ih =>
    obtain ⟨hx, hrest⟩ := List.pairwise_cons.mp hordered
    have hsorted := ih hrest fun y hy => h y (List.mem_cons_of_mem _ hy)
    rw [sortedMembers, hsorted, h x List.mem_cons_self, insertMember_of_le hx]

mutual

/-- A document that was put in order is in order. -/
theorem sorted_sorted : ∀ d : Document, d.sorted.sorted = d.sorted
  | .null | .bool _ | .int _ | .float _ | .text _ => rfl
  | .list items => by
    rw [sorted, sorted, sortedItems_sortedItems items]
  | .map members => by
    have hmembers := sorted_of_mem_sortedMembers members
    rw [sorted, sorted, sortedMembers_eq_self (ordered_sortedMembers members) hmembers]

theorem sortedItems_sortedItems : ∀ items : List Document, sortedItems (sortedItems items) = sortedItems items
  | [] => rfl
  | d :: rest => by
    rw [sortedItems, sortedItems, sorted_sorted d, sortedItems_sortedItems rest]

theorem sorted_of_mem_sortedMembers : ∀ members : List (String × Document), ∀ x ∈ sortedMembers members, x.2.sorted = x.2
  | [] => fun _ h => absurd h List.not_mem_nil
  | (_, d) :: rest => fun x h => by
    rcases mem_insertMember.mp h with rfl | h
    · exact sorted_sorted d
    · exact sorted_of_mem_sortedMembers rest x h

end

/-- Only null is null when it is put in order. -/
theorem isNull_sorted (d : Document) : d.sorted.isNull = d.isNull := by
  cases d <;> rfl

end ManifestTree.Document
