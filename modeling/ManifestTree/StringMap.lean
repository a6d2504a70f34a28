/-!
# Maps from names to texts

Labels, annotations and the like: at most one text per name, kept in the order of the names, so that equal maps are equal values.
-/

namespace ManifestTree

/-- A map from names to texts. -/
structure StringMap where
  entries : List (String × String)
  ordered : entries.Pairwise (·.1 < ·.1)
  deriving DecidableEq

namespace StringMap

/-- The entries with one name set, put where the order of names wants it. -/
def setEntry (key value : String) : List (String × String) → List (String × String)
  | [] => [(key, value)]
  | (k, v) :: rest =>
    if key < k then (key, value) :: (k, v) :: rest
    else if key = k then (key, value) :: rest
    else (k, v) :: setEntry key value rest

/-- An entry of the map with one name set is the one that was set, or was there before. -/
theorem mem_setEntry {key value : String} {entries : List (String × String)} {e : String × String}
    (h : e ∈ setEntry key value entries) : e = (key, value) ∨ e ∈ entries := by
  induction entries with
  | nil => simpa [setEntry] using h
  | cons x rest ih =>
    obtain ⟨k, v⟩ := x
    simp only [setEntry] at h
    split at h
    · simpa using h
    · split at h
      · rcases List.mem_cons.mp h with h | h
        · exact Or.inl h
        · exact Or.inr (List.mem_cons_of_mem _ h)
      · rcases List.mem_cons.mp h with h | h
        · exact Or.inr (List.mem_cons.mpr (Or.inl h))
        · rcases ih h with h | h
          · exact Or.inl h
          · exact Or.inr (List.mem_cons_of_mem _ h)

/-- Setting a name keeps the order of the names. -/
theorem pairwise_setEntry (key value : String) {entries : List (String × String)}
    (h : entries.Pairwise (·.1 < ·.1)) : (setEntry key value entries).Pairwise (·.1 < ·.1) := by
  induction entries with
  | nil => simp [setEntry]
  | cons x rest ih =>
    obtain ⟨k, v⟩ := x
    obtain ⟨hall, hrest⟩ := List.pairwise_cons.mp h
    simp only [setEntry]
    split
    · rename_i hlt
      refine List.pairwise_cons.mpr ⟨fun e he => ?_, h⟩
      rcases List.mem_cons.mp he with rfl | he
      · exact hlt
      · exact String.lt_trans hlt (hall e he)
    · rename_i hnlt
      split
      · rename_i heq
        subst heq
        exact List.pairwise_cons.mpr ⟨hall, hrest⟩
      · rename_i hne
        refine List.pairwise_cons.mpr ⟨fun e he => ?_, ih hrest⟩
        rcases mem_setEntry he with rfl | he
        · exact Std.lt_of_le_of_ne (Std.not_lt.mp hnlt) (Ne.symm hne)
        · exact hall e he

/-- The map without entries. -/
def empty : StringMap := ⟨[], .nil⟩

/-- The map with one name set. -/
def insert (m : StringMap) (key value : String) : StringMap :=
  ⟨setEntry key value m.entries, pairwise_setEntry key value m.ordered⟩

/-- The map of some entries; of two for one name the later one stands. -/
def ofList (entries : List (String × String)) : StringMap :=
  entries.foldl (fun m e => m.insert e.1 e.2) empty

/-- Whether a map has no entries. -/
def isEmpty (m : StringMap) : Bool := m.entries.isEmpty

/-- The text of a name. -/
def get? (m : StringMap) (key : String) : Option String := m.entries.lookup key

end StringMap

end ManifestTree
