import ManifestTree.StringMap

/-!
# What stands in a map

A map with one name set has the new text there and is otherwise as it was (`get?_insert`), so a map of some entries has for each name
the last of them (`get?_ofList`). Of entries with different names it has exactly these (`mem_ofList_iff`), and from its own entries it
is built again (`ofList_entries`).
-/

namespace ManifestTree

/-- What a name stands for with one more entry in front. -/
theorem lookup_cons {β : Type} (key : String) (x : String × β) (rest : List (String × β)) :
    (x :: rest).lookup key = if key = x.1 then some x.2 else rest.lookup key := by
  rw [List.lookup_cons]
  by_cases h : key = x.1
  · simp [h]
  · rw [beq_eq_false_iff_ne.mpr h, if_neg h]

/-- Entries of which no two have the same name. -/
def Unambiguous {β : Type} (entries : List (String × β)) : Prop := entries.Pairwise fun e e' => e.1 ≠ e'.1

instance {β : Type} (entries : List (String × β)) : Decidable (Unambiguous entries) :=
  inferInstanceAs (Decidable (List.Pairwise _ _))

/-- Where names are unambiguous, each entry is what its name stands for. -/
theorem Unambiguous.lookup_eq_some_iff {β : Type} {entries : List (String × β)} (h : Unambiguous entries) {key : String} {v : β} :
    entries.lookup key = some v ↔ (key, v) ∈ entries := by
  induction entries with
  | nil => simp
  | cons x rest ih =>
    obtain ⟨hfirst, hrest⟩ := List.pairwise_cons.mp h
    rw [lookup_cons, List.mem_cons, ← ih hrest]
    by_cases hkey : key = x.1
    · have hnone : rest.lookup key ≠ some v := fun hlookup => hfirst (key, v) ((ih hrest).mp hlookup) hkey.symm
      rw [if_pos hkey, or_iff_left hnone, Option.some.injEq, Prod.ext_iff]
      simp [hkey, eq_comm]
    · have hne : (key, v) ≠ x := fun heq => hkey (congrArg Prod.fst heq)
      rw [if_neg hkey, or_iff_right hne]

theorem Unambiguous.reverse {β : Type} {entries : List (String × β)} (h : Unambiguous entries) : Unambiguous entries.reverse :=
  List.pairwise_reverse.mpr (List.Pairwise.imp Ne.symm h)

namespace StringMap

variable {entries : List (String × String)} {e : String × String} {key value : String}

/-- Maps with the same entries are the same. -/
theorem eq_of_entries {m m' : StringMap} (h : m.entries = m'.entries) : m = m' := by
  cases m
  cases m'
  cases h
  rfl

/-- The names of a map are unambiguous. -/
theorem unambiguous_entries (m : StringMap) : Unambiguous m.entries := by
  refine m.ordered.imp ?_
  intro e e' hlt heq
  exact String.lt_irrefl _ (heq ▸ hlt)

theorem lookup_setEntry (key value k : String) (entries : List (String × String)) :
    (setEntry key value entries).lookup k = if k = key then some value else entries.lookup k := by
  induction entries with
  | nil => exact lookup_cons k (key, value) []
  | cons x rest ih =>
    obtain ⟨k', v'⟩ := x
    simp only [setEntry]
    split
    · rw [lookup_cons]
    · split
      · rename_i heq
        subst heq
        rw [lookup_cons, lookup_cons]
        by_cases hk : k = key <;> simp [hk]
      · rename_i hne
        rw [lookup_cons, lookup_cons, ih]
        by_cases hk : k = k'
        · simp [hk, Ne.symm hne]
        · simp [hk]

/-- What a map with one name set has for each name. -/
theorem get?_insert (m : StringMap) (key value k : String) :
    (m.insert key value).get? k = if k = key then some value else m.get? k :=
  lookup_setEntry key value k m.entries

/-- What a map of some entries has for each name: the last entry for it. -/
theorem get?_ofList (entries : List (String × String)) (k : String) : (ofList entries).get? k = entries.reverse.lookup k := by
  have hfold : ∀ m : StringMap, (entries.foldl (fun m e => m.insert e.1 e.2) m).get? k =
      (entries.reverse.lookup k).or (m.get? k) := by
    induction entries with
    | nil => simp
    | cons x rest ih =>
      intro m
      rw [List.foldl_cons, ih, get?_insert, List.reverse_cons, List.lookup_append, Option.or_assoc, lookup_cons]
      by_cases hk : k = x.1 <;> simp [hk]
  have hempty : empty.get? k = none := rfl
  rw [ofList, hfold, hempty, Option.or_none]

theorem mem_entries_iff (m : StringMap) : (key, value) ∈ m.entries ↔ m.get? key = some value :=
  m.unambiguous_entries.lookup_eq_some_iff.symm

/-- A map of unambiguous entries has exactly these. -/
theorem mem_ofList_iff (h : Unambiguous entries) : e ∈ (ofList entries).entries ↔ e ∈ entries := by
  rw [show e = (e.1, e.2) from rfl, mem_entries_iff, get?_ofList, h.reverse.lookup_eq_some_iff, List.mem_reverse]

/-- A name after all others is put at the end. -/
theorem setEntry_of_lt (h : ∀ e ∈ entries, e.1 < key) : setEntry key value entries = entries ++ [(key, value)] := by
  induction entries with
  | nil => rfl
  | cons x rest ih =>
    obtain ⟨k, v⟩ := x
    have hk : k < key := h (k, v) List.mem_cons_self
    have hne : key ≠ k := fun heq => String.lt_irrefl _ (heq ▸ hk)
    rw [setEntry, if_neg (String.lt_asymm hk), if_neg hne, ih fun e he => h e (List.mem_cons_of_mem _ he)]
    rfl

/-- A map is built again from its entries. -/
theorem ofList_entries (m : StringMap) : ofList m.entries = m := by
  have hfold : ∀ (rest : List (String × String)) (m' : StringMap), (m'.entries ++ rest).Pairwise (·.1 < ·.1) →
      (rest.foldl (fun m e => m.insert e.1 e.2) m').entries = m'.entries ++ rest := by
    intro rest
    induction rest with
    | nil => simp
    | cons x rest ih =>
      intro m' hordered
      have hbefore : ∀ e ∈ m'.entries, e.1 < x.1 := fun e he =>
        (List.pairwise_append.mp hordered).2.2 e he x List.mem_cons_self
      have hinsert : (m'.insert x.1 x.2).entries = m'.entries ++ [x] := setEntry_of_lt hbefore
      have hassoc : m'.entries ++ x :: rest = (m'.insert x.1 x.2).entries ++ rest := by rw [hinsert, List.append_assoc]; rfl
      rw [hassoc] at hordered ⊢
      exact ih _ hordered
  exact eq_of_entries (hfold m.entries empty m.ordered)

end StringMap

end ManifestTree
