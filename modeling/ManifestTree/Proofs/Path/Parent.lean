import ManifestTree.Proofs.Path.Components
import Mathlib.Data.List.TakeWhile

/-!
# The parent of a path

The parent of a path is written as the path was, up to the part before its last one, yet by components it is the path without
its last component (`components_of_parent?`). Every path that asks for something below where it starts has one
(`exists_parent?`).
-/

namespace ManifestTree.Path

/-- An idle part asks for nothing. -/
theorem stepOf_eq_none_iff {part : Name} : stepOf part = none ↔ isIdle part = true := by
  unfold stepOf isIdle
  split
  · simp_all
  · split <;> simp_all

/-- Parts are the ones kept by `trimIdle` and idle ones behind them. -/
theorem exists_idle_of_trimIdle (parts : List Name) :
    ∃ idle, parts = trimIdle parts ++ idle ∧ ∀ part ∈ idle, isIdle part = true := by
  refine ⟨(parts.reverse.takeWhile isIdle).reverse, ?_, ?_⟩
  · rw [trimIdle, ← List.reverse_append, List.takeWhile_append_dropWhile, List.reverse_reverse]
  · intro part hp
    exact List.mem_takeWhile_imp (List.mem_reverse.mp hp)

/-- Idle parts at the end ask for nothing. -/
theorem filterMap_trimIdle (parts : List Name) : (trimIdle parts).filterMap stepOf = parts.filterMap stepOf := by
  obtain ⟨idle, hsplit, hidle⟩ := exists_idle_of_trimIdle parts
  have hnone : idle.filterMap stepOf = [] :=
    List.filterMap_eq_nil_iff.mpr fun part hp => stepOf_eq_none_iff.mpr (hidle part hp)
  conv_rhs => rw [hsplit, List.filterMap_append, hnone, List.append_nil]

/-- The parts that are kept are parts. -/
theorem mem_of_mem_trimIdle {part : Name} {parts : List Name} (h : part ∈ trimIdle parts) : part ∈ parts := by
  obtain ⟨idle, hsplit, -⟩ := exists_idle_of_trimIdle parts
  rw [hsplit]
  exact List.mem_append_left _ h

/-- The last part that is kept asks for something. -/
theorem stepOf_getLast_trimIdle {parts : List Name} (h : trimIdle parts ≠ []) :
    ∃ c, stepOf ((trimIdle parts).getLast h) = some c := by
  have hdrop : parts.reverse.dropWhile isIdle ≠ [] := fun e => h (by rw [trimIdle, e]; rfl)
  have hlast : (trimIdle parts).getLast h = (parts.reverse.dropWhile isIdle).head hdrop := by
    simp [trimIdle]
  have hbusy : isIdle ((trimIdle parts).getLast h) = false := by
    rw [hlast]
    exact List.head_dropWhile_not isIdle hdrop
  cases hs : stepOf ((trimIdle parts).getLast h) with
  | none => simp [stepOf_eq_none_iff.mp hs] at hbusy
  | some c => exact ⟨c, rfl⟩

/-- The path that is written with a first part and some more; alone, an empty first part is the root. -/
def ofParts (first : Name) : List Name → Path
  | [] => if first = [] then ⟨[separator]⟩ else ⟨first⟩
  | part :: parts => ⟨unsplit (first :: part :: parts)⟩

/-- The path written with the first part of another and some of the parts behind it asks for what these parts ask for. -/
theorem components_ofParts {p : Path} {first : Name} {rest kept : List Name} (h : split p.bytes = first :: rest)
    (hne : rest ≠ []) (hkept : ∀ part ∈ kept, part ∈ rest) :
    (ofParts first kept).components = (lead? p.isAbsolute first).toList ++ kept.filterMap stepOf := by
  have hsep : ∀ part ∈ first :: rest, separator ∉ part := fun part hp => separator_not_mem_of_mem_split (h ▸ hp)
  cases kept with
  | nil =>
    by_cases hf : first = []
    · have habs : p.isAbsolute = true := (isAbsolute_iff h).mpr ⟨hf, hne⟩
      rw [ofParts, if_pos hf, habs]
      rfl
    · have habs : p.isAbsolute = false := by
        rw [← Bool.not_eq_true, isAbsolute_iff h]
        simp [hf]
      have hs : split (⟨first⟩ : Path).bytes = [first] := split_of_not_mem (hsep first (by simp))
      have habs' : (⟨first⟩ : Path).isAbsolute = false := by
        rw [← Bool.not_eq_true, isAbsolute_iff hs]
        simp
      rw [ofParts, if_neg hf, components_of_split hs, habs, habs']
  | cons part kept =>
    have hs : split (⟨unsplit (first :: part :: kept)⟩ : Path).bytes = first :: part :: kept :=
      split_unsplit (fun x hx => by
        rcases List.mem_cons.mp hx with rfl | hx
        · exact hsep _ (by simp)
        · exact hsep x (List.mem_cons_of_mem _ (hkept x hx))) (by simp)
    have habs : (⟨unsplit (first :: part :: kept)⟩ : Path).isAbsolute = p.isAbsolute := by
      rw [Bool.eq_iff_iff, isAbsolute_iff hs, isAbsolute_iff h]
      simp [hne]
    rw [ofParts, components_of_split hs, habs]

/-- The parent of a path has its components without the last one. -/
theorem components_of_parent? {p d : Path} (h : p.parent? = some d) : d.components = p.components.dropLast := by
  obtain ⟨first, rest, hs⟩ := exists_split p.bytes
  have hcomponents : p.components = (lead? p.isAbsolute first).toList ++ (trimIdle rest).filterMap stepOf := by
    rw [components_of_split hs, filterMap_trimIdle]
  simp only [parent?, hs] at h
  cases htrim : trimIdle rest with
  | nil =>
    rw [htrim] at h hcomponents
    simp only [Option.ite_none_left_eq_some, Option.some.injEq] at h
    rw [hcomponents, ← h.2, components_empty]
    cases lead? p.isAbsolute first <;> rfl
  | cons part parts =>
    rw [htrim] at h
    have hne : trimIdle rest ≠ [] := by simp [htrim]
    have hrest : rest ≠ [] := fun e => hne (by simp [e, trimIdle])
    obtain ⟨c, hc⟩ := stepOf_getLast_trimIdle hne
    have hlast : (part :: parts).filterMap stepOf = (trimIdle (part :: parts).dropLast).filterMap stepOf ++ [c] := by
      have hsplit : part :: parts = (part :: parts).dropLast ++ [(part :: parts).getLast (by simp)] :=
        (List.dropLast_concat_getLast (by simp)).symm
      have hc' : stepOf ((part :: parts).getLast (by simp)) = some c := by simpa [htrim] using hc
      rw [filterMap_trimIdle]
      conv_lhs => rw [hsplit]
      rw [List.filterMap_append, List.filterMap_cons_some hc']
      rfl
    have hkept : ∀ x ∈ trimIdle (part :: parts).dropLast, x ∈ rest := fun x hx =>
      mem_of_mem_trimIdle (htrim ▸ List.dropLast_subset _ (mem_of_mem_trimIdle hx))
    have hd : d = ofParts first (trimIdle (part :: parts).dropLast) := by
      cases hk : trimIdle (part :: parts).dropLast with
      | nil => simpa [hk, ofParts] using h.symm
      | cons x xs => simpa [hk, ofParts] using h.symm
    rw [hcomponents, htrim, hlast, ← List.append_assoc, List.dropLast_concat, hd,
      components_ofParts hs hrest hkept]

/-- A path that ends in a name has a parent. -/
theorem exists_parent? {p : Path} {cs : List Component} {n : Name} (h : p.components = cs ++ [.name n]) :
    ∃ d, p.parent? = some d ∧ d.components = cs := by
  suffices hsome : p.parent? ≠ none by
    obtain ⟨d, hd⟩ := Option.ne_none_iff_exists'.mp hsome
    exact ⟨d, hd, by rw [components_of_parent? hd, h, List.dropLast_concat]⟩
  intro hnone
  obtain ⟨first, rest, hs⟩ := exists_split p.bytes
  have hcomponents : p.components = (lead? p.isAbsolute first).toList ++ (trimIdle rest).filterMap stepOf := by
    rw [components_of_split hs, filterMap_trimIdle]
  simp only [parent?, hs] at hnone
  cases htrim : trimIdle rest with
  | nil =>
    rw [htrim] at hnone hcomponents
    have hfirst : first = [] := by simpa using hnone
    have hlead : lead? p.isAbsolute first = none ∨ lead? p.isAbsolute first = some .root := by
      cases p.isAbsolute <;> simp [lead?, hfirst, stepOf, dot]
    have hlast : p.components.getLast? = some (.name n) := by rw [h, List.getLast?_concat]
    rw [hcomponents] at hlast
    rcases hlead with hl | hl <;> simp [hl] at hlast
  | cons part parts =>
    rw [htrim] at hnone
    cases hk : trimIdle (part :: parts).dropLast <;> simp [hk] at hnone

/-! ## How a parent is written -/

theorem unsplit_cons (part next : Name) (rest : List Name) :
    unsplit (part :: next :: rest) = part ++ separator :: unsplit (next :: rest) := rfl

/-- Parts from the start on are written as the start of all of them. -/
theorem unsplit_isPrefix (parts more : List Name) : unsplit parts <+: unsplit (parts ++ more) := by
  induction parts with
  | nil => exact List.nil_prefix
  | cons part rest ih =>
    cases rest with
    | nil =>
      cases more with
      | nil => exact List.prefix_refl _
      | cons next more => exact List.prefix_append _ _
    | cons next rest =>
      rw [List.cons_append, List.cons_append, unsplit_cons, unsplit_cons, List.prefix_append_right_inj,
        List.cons_prefix_cons]
      exact ⟨rfl, ih⟩

/-- A path is written as its parts. -/
theorem unsplit_split (bs : List UInt8) : unsplit (split bs) = bs := by
  induction bs with
  | nil => rfl
  | cons b rest ih =>
    obtain ⟨first, more, hs⟩ := exists_split rest
    rw [hs] at ih
    by_cases hb : b = separator
    · rw [split, if_pos hb, hs, unsplit_cons, ih, hb]
      rfl
    · rw [split, if_neg hb, hs]
      cases more with
      | nil => exact congrArg (b :: ·) ih
      | cons next more => exact congrArg (b :: ·) ih

theorem trimIdle_isPrefix (parts : List Name) : trimIdle parts <+: parts := by
  obtain ⟨idle, hsplit, -⟩ := exists_idle_of_trimIdle parts
  exact ⟨idle, hsplit.symm⟩

/-- A parent is written as the path is, up to some point. -/
theorem bytes_prefix_of_parent? {p d : Path} (h : p.parent? = some d) : d.bytes <+: p.bytes := by
  obtain ⟨first, rest, hs⟩ := exists_split p.bytes
  have hbytes : unsplit (first :: rest) = p.bytes := by rw [← hs, unsplit_split]
  rw [← hbytes]
  simp only [parent?, hs] at h
  cases htrim : trimIdle rest with
  | nil =>
    simp only [htrim, Option.ite_none_left_eq_some, Option.some.injEq] at h
    rw [← h.2]
    exact List.nil_prefix
  | cons part parts =>
    have hkept : trimIdle (part :: parts).dropLast <+: rest :=
      (trimIdle_isPrefix _).trans ((List.dropLast_prefix _).trans (htrim ▸ trimIdle_isPrefix rest))
    obtain ⟨more, hmore⟩ := hkept
    rw [htrim] at h
    cases hk : trimIdle (part :: parts).dropLast with
    | nil =>
      obtain ⟨next, later, hrest⟩ : ∃ next later, rest = next :: later :=
        List.exists_cons_of_ne_nil fun e => by simp [e, trimIdle] at htrim
      simp only [hk, Option.some.injEq] at h
      rw [← h, hrest, unsplit_cons]
      by_cases hfirst : first = []
      · simp [hfirst]
      · simp [hfirst]
    | cons x xs =>
      simp only [hk, Option.some.injEq] at h
      rw [← h, ← hmore, hk]
      exact unsplit_isPrefix (first :: x :: xs) more

end ManifestTree.Path
