import ManifestTree.Document.Order

/-!
# Leaving members out

Documents are compared up to some of their members by leaving these out (`without`), also deeper inside (`within`). It makes no difference
whether this is done before or after the members of every map are put in the order of their names (`sorted_without`,
`sorted_within`).
-/

namespace ManifestTree.Document

variable {p : String × Document → Bool} {member : String × Document} {members : List (String × Document)}

/-- A map without the members of some names. A document that is no map has no members. -/
def without (keys : List String) : Document → Document
  | .map members => .map (members.filter fun x => x.1 ∉ keys)
  | d => d

/-- A member with its document changed, if it has a name. -/
def changeMember (key : String) (change : Document → Document) (x : String × Document) : String × Document :=
  if x.1 = key then (x.1, change x.2) else x

/-- A map with the members of a name changed. -/
def within (key : String) (change : Document → Document) : Document → Document
  | .map members => .map (members.map (changeMember key change))
  | d => d

/-! ## Leaving out and putting in -/

/-- A member that is left out may as well not be put in. -/
theorem filter_insertMember_of_false (h : p member = false) : (insertMember member members).filter p = members.filter p := by
  induction members with
  | nil => rw [insertMember, List.filter_cons_of_neg (by simp [h])]
  | cons x rest ih =>
    unfold insertMember
    split
    · rw [List.filter_cons_of_neg (by simp [h])]
    · rw [List.filter_cons, List.filter_cons, ih]

/-- A member that is not left out is put in where it would be among those that are left. -/
theorem filter_insertMember_of_true (h : p member = true) (hordered : Ordered members) :
    (insertMember member members).filter p = insertMember member (members.filter p) := by
  induction members with
  | nil => rw [insertMember, List.filter_cons_of_pos h, List.filter_nil, insertMember]
  | cons x rest ih =>
    obtain ⟨hx, hrest⟩ := List.pairwise_cons.mp hordered
    by_cases hle : member.1 ≤ x.1
    · have hall : ∀ y ∈ (x :: rest).filter p, member.1 ≤ y.1 := by
        intro y hy
        rcases List.mem_cons.mp (List.mem_filter.mp hy).1 with rfl | hy
        · exact hle
        · exact Std.le_trans hle (hx y hy)
      rw [insertMember_of_le hall, insertMember, if_pos hle, List.filter_cons_of_pos h]
    · rw [insertMember, if_neg hle]
      by_cases hp : p x = true
      · rw [List.filter_cons_of_pos hp, List.filter_cons_of_pos hp, ih hrest, insertMember, if_neg hle]
      · rw [List.filter_cons_of_neg hp, List.filter_cons_of_neg hp, ih hrest]

/-! ## Leaving out and putting in order -/

/-- Members whose names are not left out, in order. -/
theorem sortedMembers_filter (keep : String → Bool) (members : List (String × Document)) :
    sortedMembers (members.filter fun x => keep x.1) = (sortedMembers members).filter fun x => keep x.1 := by
  induction members with
  | nil => rfl
  | cons x rest ih =>
    obtain ⟨k, d⟩ := x
    cases hk : keep k with
    | true =>
      rw [List.filter_cons_of_pos (by simp [hk]), sortedMembers, ih, sortedMembers,
        filter_insertMember_of_true (by simp [hk]) (ordered_sortedMembers rest)]
    | false =>
      rw [List.filter_cons_of_neg (by simp [hk]), ih, sortedMembers, filter_insertMember_of_false (by simp [hk])]

/-- Members may be left out before or after a document is put in order. -/
theorem sorted_without (keys : List String) (d : Document) : (d.without keys).sorted = d.sorted.without keys := by
  cases d with
  | map members =>
    rw [without, sorted, sorted, without]
    exact congrArg map (sortedMembers_filter (fun k => decide (k ∉ keys)) members)
  | _ => rfl

theorem changeMember_fst (key : String) (change : Document → Document) (x : String × Document) :
    (changeMember key change x).1 = x.1 := by
  unfold changeMember
  split <;> rfl

/-- A member may be changed before or after it is put among others. -/
theorem map_insertMember (key : String) (change : Document → Document) (member : String × Document)
    (members : List (String × Document)) : (insertMember member members).map (changeMember key change) =
      insertMember (changeMember key change member) (members.map (changeMember key change)) := by
  induction members with
  | nil => rfl
  | cons x rest ih =>
    by_cases hle : member.1 ≤ x.1
    · have hle' : (changeMember key change member).1 ≤ (changeMember key change x).1 := by
        rwa [changeMember_fst, changeMember_fst]
      rw [insertMember, if_pos hle, List.map_cons, List.map_cons, insertMember, if_pos hle']
    · have hle' : ¬ (changeMember key change member).1 ≤ (changeMember key change x).1 := by
        rwa [changeMember_fst, changeMember_fst]
      rw [insertMember, if_neg hle, List.map_cons, ih, List.map_cons, insertMember, if_neg hle']

/-- Members, one of them changed, in order. -/
theorem sortedMembers_map {key : String} {change : Document → Document} (h : ∀ d, (change d).sorted = change d.sorted)
    (members : List (String × Document)) :
    sortedMembers (members.map (changeMember key change)) = (sortedMembers members).map (changeMember key change) := by
  induction members with
  | nil => rfl
  | cons x rest ih =>
    obtain ⟨k, d⟩ := x
    rw [List.map_cons, sortedMembers, sortedMembers, map_insertMember, ih]
    by_cases hk : k = key
    · simp only [changeMember, hk, if_true, h]
    · simp only [changeMember, hk, if_false]

/-- A member may be changed before or after a document is put in order, when that is so for the change. -/
theorem sorted_within {key : String} {change : Document → Document} (h : ∀ d, (change d).sorted = change d.sorted)
    (d : Document) : (d.within key change).sorted = d.sorted.within key change := by
  cases d with
  | map members =>
    rw [within, sorted, sorted, within]
    exact congrArg map (sortedMembers_map h members)
  | _ => rfl

end ManifestTree.Document
