import ManifestTree.Path
import Mathlib.Data.List.Basic

/-!
# Paths by their components

How writing paths one after the other acts on their components: a path is cut at its separators, what stands on both sides of
a separator is cut on its own (`split_append_separator`), so joining appends components (`components_join`), leaving out the
last one is going to the parent (`components_of_parent?`), and components written out again are the same components
(`components_ofComponents`).
-/

namespace ManifestTree.Path

/-! ## Cutting at separators -/

theorem split_ne_nil (bs : List UInt8) : split bs ≠ [] := by
  cases bs with
  | nil => simp [split]
  | cons b rest =>
    simp only [split]
    split
    · simp
    · split <;> simp

/-- The parts of a path, the first one apart from the rest. -/
theorem exists_split (bs : List UInt8) : ∃ first rest, split bs = first :: rest :=
  List.exists_cons_of_ne_nil (split_ne_nil bs)

/-- What stands before a separator and what stands after it are cut on their own. -/
theorem split_append_separator (a b : List UInt8) : split (a ++ separator :: b) = split a ++ split b := by
  induction a with
  | nil => simp [split]
  | cons c a ih =>
    by_cases hc : c = separator
    · simp [split, hc, ih]
    · obtain ⟨first, rest, h⟩ := exists_split a
      simp [split, hc, ih, h]

/-- No part holds a separator. -/
theorem separator_not_mem_of_mem_split {part : Name} {bs : List UInt8} (h : part ∈ split bs) : separator ∉ part := by
  induction bs generalizing part with
  | nil =>
    simp only [split, List.mem_singleton] at h
    simp [h]
  | cons b bs ih =>
    obtain ⟨first, rest, hs⟩ := exists_split bs
    by_cases hb : b = separator
    · simp only [split, if_pos hb, List.mem_cons] at h
      rcases h with rfl | h
      · simp
      · exact ih h
    · simp only [split, if_neg hb, hs, List.mem_cons] at h
      rcases h with rfl | h
      · have hf : separator ∉ first := ih (by simp [hs])
        simp [hf, Ne.symm hb]
      · exact ih (by simp [hs, h])

/-- Bytes without a separator are one part. -/
theorem split_of_not_mem {part : Name} (h : separator ∉ part) : split part = [part] := by
  induction part with
  | nil => rfl
  | cons b rest ih =>
    have hb : b ≠ separator := fun e => h (by simp [e])
    have hrest : split rest = [rest] := ih fun hm => h (List.mem_cons_of_mem _ hm)
    simp [split, hb, hrest]

/-- Parts without separators are found again in what they are written as. -/
theorem split_unsplit {parts : List Name} (h : ∀ part ∈ parts, separator ∉ part) (hne : parts ≠ []) :
    split (unsplit parts) = parts := by
  induction parts with
  | nil => exact absurd rfl hne
  | cons part rest ih =>
    have hpart : split part = [part] := split_of_not_mem (h part (by simp))
    cases rest with
    | nil => exact hpart
    | cons next rest =>
      have hrest := ih (fun x hx => h x (List.mem_cons_of_mem _ hx)) (by simp)
      simp only [unsplit]
      rw [split_append_separator, hpart, hrest]
      rfl

/-- A path is absolute when its first part is empty and not the only one. -/
theorem isAbsolute_iff {p : Path} {first : Name} {rest : List Name} (h : split p.bytes = first :: rest) :
    p.isAbsolute = true ↔ first = [] ∧ rest ≠ [] := by
  obtain ⟨bytes⟩ := p
  cases bytes with
  | nil =>
    simp only [split, List.cons.injEq] at h
    simp [isAbsolute, ← h.2]
  | cons b bs =>
    obtain ⟨f, r, hs⟩ := exists_split bs
    by_cases hb : b = separator
    · simp only [split, if_pos hb, hs, List.cons.injEq] at h
      simp [isAbsolute, hb, ← h.1, ← h.2]
    · simp only [split, if_neg hb, hs, List.cons.injEq] at h
      simp [isAbsolute, hb, ← h.1]

/-! ## Names -/

/-- What can name an entry of a directory. -/
structure IsName (n : Name) : Prop where
  noSeparator : separator ∉ n
  ne_nil : n ≠ []
  ne_dot : n ≠ dot
  ne_dotDot : n ≠ dotDot

instance (n : Name) : Decidable (IsName n) :=
  decidable_of_iff (separator ∉ n ∧ n ≠ [] ∧ n ≠ dot ∧ n ≠ dotDot)
    ⟨fun ⟨h₁, h₂, h₃, h₄⟩ => ⟨h₁, h₂, h₃, h₄⟩, fun ⟨h₁, h₂, h₃, h₄⟩ => ⟨h₁, h₂, h₃, h₄⟩⟩

theorem stepOf_of_isName {n : Name} (h : IsName n) : stepOf n = some (.name n) := by
  simp [stepOf, h.ne_nil, h.ne_dot, h.ne_dotDot]

/-- A part asks for nothing, for the directory above, or for an entry by a name. -/
theorem stepOf_eq_some {part : Name} {c : Component} (hs : separator ∉ part) (h : stepOf part = some c) :
    c = .up ∨ (c = .name part ∧ IsName part) := by
  unfold stepOf at h
  split at h
  · exact absurd h (by simp)
  · rename_i h1
    rw [not_or] at h1
    split at h
    · exact Or.inl (Option.some.inj h).symm
    · rename_i h2
      exact Or.inr ⟨(Option.some.inj h).symm, hs, h1.1, h1.2, h2⟩

/-! ## Components -/

/-- What the first part of a path asks for. -/
def lead? (absolute : Bool) (first : Name) : Option Component :=
  if absolute then some .root else if first = dot then some .here else stepOf first

theorem components_of_split {p : Path} {first : Name} {rest : List Name} (h : split p.bytes = first :: rest) :
    p.components = (lead? p.isAbsolute first).toList ++ rest.filterMap stepOf := by
  simp [components, h, lead?]

theorem components_empty : (⟨[]⟩ : Path).components = [] := rfl

theorem bytes_ofString (s : String) : (ofString s).bytes = Utf8.encode s := rfl

/-- Components as a path has them: all names are names, and only the first one can be the root or the directory itself. -/
structure Written (cs : List Component) : Prop where
  names : ∀ n, .name n ∈ cs → IsName n
  root : .root ∉ cs.tail
  here : .here ∉ cs.tail

theorem mem_filterMap_stepOf {parts : List Name} (hs : ∀ part ∈ parts, separator ∉ part) {c : Component}
    (hc : c ∈ parts.filterMap stepOf) : c = .up ∨ ∃ n, c = .name n ∧ IsName n := by
  obtain ⟨part, hpart, h⟩ := List.mem_filterMap.mp hc
  rcases stepOf_eq_some (hs part hpart) h with h | ⟨h, hn⟩
  · exact Or.inl h
  · exact Or.inr ⟨part, h, hn⟩

theorem eq_of_stepOf_eq_name {part n : Name} (h : stepOf part = some (.name n)) : n = part := by
  unfold stepOf at h
  split at h
  · simp at h
  · split at h
    · simp at h
    · exact (Component.name.inj (Option.some.inj h)).symm

/-- The names of a path are parts of it. -/
theorem mem_split_of_mem_components {p : Path} {n : Name} (h : .name n ∈ p.components) : n ∈ split p.bytes := by
  obtain ⟨first, rest, hs⟩ := exists_split p.bytes
  rw [components_of_split hs] at h
  rw [hs]
  rcases List.mem_append.mp h with h | h
  · unfold lead? at h
    split at h
    · simp at h
    · split at h
      · simp at h
      · rw [eq_of_stepOf_eq_name (Option.mem_toList.mp h)]
        exact List.mem_cons_self
  · obtain ⟨part, hpart, h⟩ := List.mem_filterMap.mp h
    rw [eq_of_stepOf_eq_name h]
    exact List.mem_cons_of_mem _ hpart

/-- The components of a path are written as a path has them. -/
theorem written_components (p : Path) : Written p.components := by
  obtain ⟨first, rest, h⟩ := exists_split p.bytes
  have hsep : ∀ part ∈ first :: rest, separator ∉ part := fun part hp => separator_not_mem_of_mem_split (h ▸ hp)
  have hrest : ∀ c ∈ rest.filterMap stepOf, c = .up ∨ ∃ n, c = .name n ∧ IsName n := fun c hc =>
    mem_filterMap_stepOf (fun part hp => hsep part (List.mem_cons_of_mem _ hp)) hc
  have htail : ∀ c ∈ p.components.tail, c ∈ rest.filterMap stepOf := by
    rw [components_of_split h]
    cases lead? p.isAbsolute first with
    | none => exact fun c hc => List.mem_of_mem_tail hc
    | some l => exact fun c hc => hc
  refine ⟨?_, ?_, ?_⟩
  · intro n hn
    rw [components_of_split h, List.mem_append] at hn
    rcases hn with hn | hn
    · rw [Option.mem_toList, lead?] at hn
      split at hn
      · simp at hn
      · split at hn
        · simp at hn
        · rcases stepOf_eq_some (hsep first (by simp)) hn with h | ⟨h, hname⟩
          · simp at h
          · exact (Component.name.inj h) ▸ hname
    · rcases hrest _ hn with h | ⟨m, h, hname⟩
      · simp at h
      · exact (Component.name.inj h) ▸ hname
  · intro hr
    rcases hrest _ (htail _ hr) with h | ⟨n, h, -⟩ <;> simp at h
  · intro hh
    rcases hrest _ (htail _ hh) with h | ⟨n, h, -⟩ <;> simp at h

/-- Behind a separator every part is read as any part after the first. -/
theorem components_append_separator (a b : List UInt8) :
    (⟨a ++ separator :: b⟩ : Path).components =
      (⟨a ++ [separator]⟩ : Path).components ++ (split b).filterMap stepOf := by
  obtain ⟨first, rest, h⟩ := exists_split a
  have hab : split (a ++ separator :: b) = first :: (rest ++ split b) := by rw [split_append_separator, h]; rfl
  have ha : split (a ++ [separator]) = first :: (rest ++ [[]]) := by rw [split_append_separator, h]; rfl
  have habs : (⟨a ++ separator :: b⟩ : Path).isAbsolute = (⟨a ++ [separator]⟩ : Path).isAbsolute := by
    cases a <;> rfl
  rw [components_of_split hab, components_of_split ha, habs]
  simp [stepOf]

/-- A separator at the end of a path that is not empty makes no difference. -/
theorem components_separator_end {a : List UInt8} (ha : a ≠ []) :
    (⟨a ++ [separator]⟩ : Path).components = (⟨a⟩ : Path).components := by
  obtain ⟨first, rest, h⟩ := exists_split a
  have hend : split (a ++ [separator]) = first :: (rest ++ [[]]) := by rw [split_append_separator, h]; rfl
  have habs : (⟨a ++ [separator]⟩ : Path).isAbsolute = (⟨a⟩ : Path).isAbsolute := by
    obtain ⟨b, bs, rfl⟩ := List.exists_cons_of_ne_nil ha
    rfl
  have hplain : split (⟨a⟩ : Path).bytes = first :: rest := h
  rw [components_of_split hend, components_of_split hplain, habs]
  simp [stepOf]

/-- All parts of a relative path that does not start at the directory itself are read alike. -/
theorem filterMap_split_of_relative {q : Path} (hq : q.isAbsolute = false) (hh : q.components.head? ≠ some .here) :
    (split q.bytes).filterMap stepOf = q.components := by
  obtain ⟨first, rest, h⟩ := exists_split q.bytes
  have hfirst : first ≠ dot := by
    rintro rfl
    rw [components_of_split h, hq] at hh
    simp [lead?] at hh
  rw [components_of_split h, h, hq]
  cases hs : stepOf first <;> simp [lead?, hfirst, hs]

/-- Joining appends the components of a path that is relative and does not start at the directory itself. -/
theorem components_join {p q : Path} (hq : q.isAbsolute = false) (hh : q.components.head? ≠ some .here) :
    (p.join q).components = p.components ++ q.components := by
  have hparts := filterMap_split_of_relative hq hh
  obtain ⟨bytes⟩ := p
  rw [join, if_neg (by simp [hq])]
  by_cases hempty : bytes = []
  · subst hempty
    simp [components_empty]
  by_cases hend : bytes.getLast? = some separator
  · rw [if_pos (Or.inr hend)]
    obtain ⟨a, rfl⟩ := List.getLast?_eq_some_iff.mp hend
    rw [List.append_assoc, List.singleton_append, components_append_separator, hparts]
  · rw [if_neg (by simp [hempty, hend]), components_append_separator, components_separator_end hempty, hparts]

/-! ## Paths of one component -/

/-- The path that is written as one name asks for that name. -/
theorem components_name {n : Name} (h : IsName n) : (⟨n⟩ : Path).components = [.name n] := by
  have hs : split (⟨n⟩ : Path).bytes = [n] := split_of_not_mem h.noSeparator
  have habs : (⟨n⟩ : Path).isAbsolute = false := by
    rw [← Bool.not_eq_true, isAbsolute_iff hs]
    simp
  rw [components_of_split hs, habs]
  simp [lead?, h.ne_dot, stepOf_of_isName h]

/-- Only an absolute path asks for the root. -/
theorem root_mem_components_iff {p : Path} : .root ∈ p.components ↔ p.isAbsolute = true := by
  obtain ⟨first, rest, hs⟩ := exists_split p.bytes
  have hrest : .root ∉ rest.filterMap stepOf := by
    intro hr
    have hsep : ∀ part ∈ rest, separator ∉ part := fun part hp =>
      separator_not_mem_of_mem_split (hs ▸ List.mem_cons_of_mem _ hp)
    rcases mem_filterMap_stepOf hsep hr with h | ⟨n, h, -⟩ <;> simp at h
  have hfirst : stepOf first ≠ some .root := by
    intro hr
    have hsep : separator ∉ first := separator_not_mem_of_mem_split (hs ▸ List.mem_cons_self)
    rcases stepOf_eq_some hsep hr with h | ⟨h, -⟩ <;> simp at h
  rw [components_of_split hs, List.mem_append, Option.mem_toList]
  by_cases hdot : first = dot
  · cases p.isAbsolute <;> simp [lead?, hrest, hdot]
  · cases p.isAbsolute <;> simp [lead?, hrest, hfirst, hdot]

/-- A path that does not ask for the root is relative. -/
theorem isAbsolute_of_components {p : Path} (h : .root ∉ p.components) : p.isAbsolute = false := by
  rw [← Bool.not_eq_true, ← root_mem_components_iff]
  exact h

/-- An absolute path starts at the root. -/
theorem head?_components_of_isAbsolute {p : Path} (h : p.isAbsolute = true) : p.components.head? = some .root := by
  obtain ⟨first, rest, hs⟩ := exists_split p.bytes
  simp [components_of_split hs, lead?, h]

/-- Whatever is appended to an absolute path, it stays absolute. -/
theorem isAbsolute_join {p : Path} (h : p.isAbsolute = true) (q : Path) : (p.join q).isAbsolute = true := by
  unfold join
  split
  · assumption
  · obtain ⟨bytes⟩ := p
    cases bytes with
    | nil => simp [isAbsolute] at h
    | cons b rest =>
      have hb : (⟨b :: rest⟩ : Path).isAbsolute = decide (some b = some separator) := rfl
      rw [hb] at h
      split
      · exact h
      · exact h

/-- A path with a separator at its end, unless it is empty: what a relative path is written behind. -/
def opened (p : Path) : List UInt8 :=
  if p.bytes = [] ∨ p.bytes.getLast? = some separator then p.bytes else p.bytes ++ [separator]

theorem join_of_relative {q : Path} (hq : q.isAbsolute = false) (p : Path) : p.join q = ⟨p.opened ++ q.bytes⟩ := by
  unfold join opened
  rw [if_neg (by simp [hq])]
  split
  · rfl
  · rw [List.append_assoc]
    rfl

theorem opened_append {bs : List UInt8} (hne : bs ≠ []) (a : List UInt8) :
    opened ⟨a ++ bs⟩ = a ++ opened ⟨bs⟩ := by
  have hlast : (a ++ bs).getLast? = bs.getLast? := List.getLast?_append_of_ne_nil a hne
  unfold opened
  simp only [hlast, List.append_eq_nil_iff, hne, and_false, false_or]
  split
  · rfl
  · rw [List.append_assoc]

/-- What is appended to a path in two steps, first something relative, can be put together before. -/
theorem join_assoc {q : Path} (hq : q.isAbsolute = false) (hne : q.bytes ≠ []) (p r : Path) :
    (p.join q).join r = p.join (q.join r) := by
  cases hr : r.isAbsolute with
  | true => simp [join, hr]
  | false =>
    have hhead : (q.opened ++ r.bytes).head? = q.bytes.head? := by
      obtain ⟨b, rest, hbytes⟩ := List.exists_cons_of_ne_nil hne
      unfold opened
      split <;> simp [hbytes]
    have hjoined : (⟨q.opened ++ r.bytes⟩ : Path).isAbsolute = false := by
      rw [isAbsolute, hhead]
      exact hq
    rw [join_of_relative hq, join_of_relative hr, join_of_relative hr q, join_of_relative hjoined, opened_append hne,
      List.append_assoc]

/-- A path of one named component, appended. -/
theorem components_join_name {p q : Path} {n : Name} (hq : q.components = [.name n]) :
    (p.join q).components = p.components ++ [.name n] := by
  rw [components_join (isAbsolute_of_components (by simp [hq])) (by simp [hq]), hq]

/-- A name, appended. -/
theorem components_joinText {p : Path} {s : String} (h : IsName (Utf8.encode s)) :
    (p.joinText s).components = p.components ++ [.name (Utf8.encode s)] :=
  components_join_name (components_name h)

/-- A component written alone is that component. -/
theorem components_toPath {c : Component} (h : ∀ n, c = .name n → IsName n) : c.toPath.components = [c] := by
  cases c with
  | root => rfl
  | here => rfl
  | up => rfl
  | name n => exact components_name (h n rfl)

/-- Components written out in turn are found again. -/
theorem components_ofComponents {cs : List Component} (h : Written cs) : (ofComponents cs).components = cs := by
  have grows : ∀ (cs : List Component) (p : Path), (∀ c ∈ cs, c = .up ∨ ∃ n, c = .name n ∧ IsName n) →
      (cs.foldl (fun p c => p.join c.toPath) p).components = p.components ++ cs := by
    intro cs
    induction cs with
    | nil => simp
    | cons c cs ih =>
      intro p hcs
      have hc : c.toPath.components = [c] := components_toPath fun n hn => by
        rcases hcs c (by simp) with h | ⟨m, h, hm⟩
        · simp [h] at hn
        · exact (Component.name.inj (h.symm.trans hn)) ▸ hm
      have hroot : c ≠ .root ∧ c ≠ .here := by
        rcases hcs c (by simp) with h | ⟨m, h, -⟩ <;> simp [h]
      have hjoin : (p.join c.toPath).components = p.components ++ [c] := by
        rw [components_join (isAbsolute_of_components (by simp [hc, Ne.symm hroot.1])) (by simp [hc, hroot.2]), hc]
      rw [List.foldl_cons, ih _ fun x hx => hcs x (List.mem_cons_of_mem _ hx), hjoin, List.append_assoc]
      rfl
  cases cs with
  | nil => rfl
  | cons c cs =>
    have hc : c.toPath.components = [c] := components_toPath fun n hn => h.names n (by simp [hn])
    have hfirst : (⟨[]⟩ : Path).join c.toPath = c.toPath := by
      unfold join
      split
      · rfl
      · simp
    have hrest : ∀ x ∈ cs, x = .up ∨ ∃ n, x = .name n ∧ IsName n := by
      intro x hx
      cases x with
      | root => exact absurd hx h.root
      | here => exact absurd hx h.here
      | up => exact Or.inl rfl
      | name n => exact Or.inr ⟨n, rfl, h.names n (List.mem_cons_of_mem _ hx)⟩
    rw [ofComponents, List.foldl_cons, hfirst, grows cs _ hrest, hc]
    rfl

end ManifestTree.Path
