import ManifestTree.FileTree.Actions
import ManifestTree.Proofs.Path.Components

/-!
# Where paths lead

`lead` follows components without looking at a tree. A walk that succeeds ends where the components lead (`walk_eq_lead`): with
directories and regular files alone, a tree can only stop a walk, not divert it. On the way down a missing directory means that
nothing stands at the end either (`lookup_place_of_notFound`). Trees that agree above the place of a path let it be followed alike
(`locate_congr`).
-/

namespace ManifestTree

/-- The place that components lead to from a place, if everything they pass is a directory. -/
def lead : Place → List Component → Place
  | p, [] => p
  | _, .root :: rest => lead [] rest
  | p, .here :: rest => lead p rest
  | p, .up :: rest => lead p.dropLast rest
  | p, .name n :: rest => lead (p ++ [n]) rest

theorem lead_append (p : Place) (cs ds : List Component) : lead p (cs ++ ds) = lead (lead p cs) ds := by
  induction cs generalizing p with
  | nil => rfl
  | cons c cs ih => cases c <;> exact ih _

/-- What is left after the first component leads on from where that one leads. -/
theorem lead_cons (p : Place) (c : Component) (cs : List Component) : lead p (c :: cs) = lead (lead p [c]) cs :=
  lead_append p [c] cs

/-- Names lead down one after the other. -/
theorem lead_names (p : Place) (ns : List Name) : lead p (ns.map .name) = p ++ ns := by
  induction ns generalizing p with
  | nil => simp [lead]
  | cons n ns ih =>
    rw [List.map_cons, lead, ih, List.append_assoc]
    rfl

/-- Components that only go down: neither back to the root nor up. -/
structure GoesDown (cs : List Component) : Prop where
  root : .root ∉ cs
  up : .up ∉ cs

theorem GoesDown.tail {c : Component} {cs : List Component} (h : GoesDown (c :: cs)) : GoesDown cs :=
  ⟨fun hr => h.root (List.mem_cons_of_mem _ hr), fun hu => h.up (List.mem_cons_of_mem _ hu)⟩

/-- Going down leads to a place below the start. -/
theorem prefix_lead {cs : List Component} (h : GoesDown cs) (p : Place) : p <+: lead p cs := by
  induction cs generalizing p with
  | nil => exact List.prefix_refl p
  | cons c cs ih =>
    cases c with
    | root => exact absurd (List.mem_cons_self) h.root
    | up => exact absurd (List.mem_cons_self) h.up
    | here => exact ih h.tail p
    | name n => exact (List.prefix_append p [n]).trans (ih h.tail (p ++ [n]))

/-- The places that components pass from a place on: where the first few of them lead. -/
def Passes (p : Place) (cs : List Component) (q : Place) : Prop := ∃ ds, ds ≠ [] ∧ ds <+: cs ∧ q = lead p ds

theorem passes_first (p : Place) (c : Component) (cs : List Component) : Passes p (c :: cs) (lead p [c]) :=
  ⟨[c], by simp, List.cons_prefix_cons.mpr ⟨rfl, List.nil_prefix⟩, rfl⟩

/-- What is passed behind the first component is passed. -/
theorem Passes.cons {p q : Place} {c : Component} {cs : List Component} (h : Passes (lead p [c]) cs q) :
    Passes p (c :: cs) q := by
  obtain ⟨ds, -, hds, rfl⟩ := h
  exact ⟨c :: ds, by simp, List.cons_prefix_cons.mpr ⟨rfl, hds⟩, (lead_cons p c ds).symm⟩

/-- Behind components that go on with names, what is passed lies on the names below them. -/
theorem Passes.of_append_names {p q : Place} {cs : List Component} {ns : List Name} (h : Passes p (cs ++ ns.map .name) q) :
    Passes p cs q ∨ ∃ ms, ms <+: ns ∧ q = lead p cs ++ ms := by
  obtain ⟨ds, hne, hds, rfl⟩ := h
  rcases List.prefix_or_prefix_of_prefix hds (List.prefix_append cs _) with hshort | ⟨es, rfl⟩
  · exact Or.inl ⟨ds, hne, hshort, rfl⟩
  · rw [List.prefix_append_right_inj] at hds
    obtain ⟨ms, hms, rfl⟩ := List.prefix_map_iff.mp hds
    exact Or.inr ⟨ms, hms, by rw [lead_append, lead_names]⟩

/-- On the way down only places above its end are passed. -/
theorem Passes.prefix_lead {p q : Place} {cs : List Component} (hcs : GoesDown cs) (h : Passes p cs q) : q <+: lead p cs := by
  obtain ⟨ds, -, ⟨es, rfl⟩, rfl⟩ := h
  have hes : GoesDown es := ⟨fun hr => hcs.root (List.mem_append_right _ hr), fun hu => hcs.up (List.mem_append_right _ hu)⟩
  rw [lead_append]
  exact ManifestTree.prefix_lead hes _

namespace Path

/-- The place that a path leads to from a working directory. -/
def place (cwd : Place) (p : Path) : Place := lead cwd p.components

/-- A path that never goes up. -/
def Descends (p : Path) : Prop := .up ∉ p.components

instance (p : Path) : Decidable p.Descends := inferInstanceAs (Decidable (¬ _))

/-- A path without `..` goes down, from the root or from where it is followed. -/
theorem Descends.cases {p : Path} (h : p.Descends) :
    (∃ cs, p.components = .root :: cs ∧ GoesDown cs) ∨ GoesDown p.components := by
  have hwritten := written_components p
  unfold Descends at h
  cases hp : p.components with
  | nil => exact Or.inr ⟨by simp, by simp⟩
  | cons c cs =>
    rw [hp] at h hwritten
    have htail : GoesDown cs := ⟨hwritten.root, fun hu => h (List.mem_cons_of_mem _ hu)⟩
    by_cases hc : c = .root
    · exact Or.inl ⟨cs, by rw [hc], htail⟩
    · refine Or.inr ⟨?_, h⟩
      intro hr
      rcases List.mem_cons.mp hr with hr | hr
      · exact hc hr.symm
      · exact htail.root hr

/-- What stands before the last name of a path without `..` goes down, from the root or from where it is followed. -/
theorem Descends.cases_concat {p : Path} {cs : List Component} {n : Name} (h : p.Descends) (hp : p.components = cs ++ [.name n]) :
    (∃ ds, cs = .root :: ds ∧ GoesDown ds) ∨ GoesDown cs := by
  rcases h.cases with ⟨ds, hroot, hds⟩ | hgoes
  · rw [hp] at hroot
    cases cs with
    | nil => cases hroot
    | cons c cs =>
      obtain ⟨rfl, rfl⟩ := List.cons.inj hroot
      exact Or.inl ⟨cs, rfl, fun hr => hds.root (by simp [hr]), fun hu => hds.up (by simp [hu])⟩
  · rw [hp] at hgoes
    exact Or.inr ⟨fun hr => hgoes.root (by simp [hr]), fun hu => hgoes.up (by simp [hu])⟩

/-- A path without `..` passes only places above its own. -/
theorem Descends.prefix_place {p : Path} (h : p.Descends) {cwd q : Place} (hq : Passes cwd p.components q) :
    q <+: p.place cwd := by
  rw [place]
  rcases h.cases with ⟨cs, hroot, hcs⟩ | hcs
  · obtain ⟨ds, hne, hds, rfl⟩ := hq
    rw [hroot] at hds ⊢
    obtain ⟨c, ds, rfl⟩ := List.exists_cons_of_ne_nil hne
    obtain ⟨rfl, hrest⟩ := List.cons_prefix_cons.mp hds
    by_cases hnil : ds = []
    · rw [hnil]
      exact List.nil_prefix
    · exact Passes.prefix_lead (p := []) hcs ⟨ds, hnil, hrest, rfl⟩
  · exact hq.prefix_lead hcs

/-- The place of a path that goes on with some names. -/
theorem place_of_names {p q : Path} {ns : List Name} (h : q.components = p.components ++ ns.map .name) (cwd : Place) :
    q.place cwd = p.place cwd ++ ns := by
  rw [place, h, lead_append, lead_names, place]

/-- Going on with names does not go up. -/
theorem descends_of_names {p q : Path} {ns : List Name} (h : q.components = p.components ++ ns.map .name)
    (hp : p.Descends) : q.Descends := by
  unfold Descends
  rw [h, List.mem_append, not_or]
  exact ⟨hp, by simp⟩

end Path

namespace FileTree

variable {t t' : FileTree} {p q cwd : Place} {cs ds : List Component}

/-- What is found from a place where a directory stands. -/
def fromDirectory (t : FileTree) (p : Place) (found : Except FileError Place) : Except FileError Place :=
  match t.lookup p with
  | none => .error .notFound
  | some (.file _) => .error .notDirectory
  | some .directory => found

/-- One step of a walk. -/
def advance (t : FileTree) (p : Place) : Component → Except FileError Place
  | .root => .ok []
  | .here => t.fromDirectory p (.ok p)
  | .up => t.fromDirectory p (.ok p.dropLast)
  | .name n => t.fromDirectory p (if longestName < n.length then .error .nameTooLong else .ok (p ++ [n]))

theorem fromDirectory_bind (t : FileTree) (p : Place) (found : Except FileError Place) (f : Place → Except FileError Place) :
    (t.fromDirectory p found).bind f = t.fromDirectory p (found.bind f) := by
  unfold fromDirectory
  cases t.lookup p with
  | none => rfl
  | some e => cases e <;> rfl

theorem walk_nil (t : FileTree) (p : Place) : t.walk p [] = .ok p := rfl

/-- A walk is one step and then the walk from there. -/
theorem walk_cons (t : FileTree) (p : Place) (c : Component) (cs : List Component) :
    t.walk p (c :: cs) = (t.advance p c).bind fun q => t.walk q cs := by
  cases c with
  | root => rfl
  | here => exact (fromDirectory_bind t p (.ok p) fun q => t.walk q cs).symm
  | up => exact (fromDirectory_bind t p (.ok p.dropLast) fun q => t.walk q cs).symm
  | name n =>
    rw [advance, fromDirectory_bind]
    change t.fromDirectory p (if longestName < n.length then .error .nameTooLong else t.walk (p ++ [n]) cs) = _
    by_cases hn : longestName < n.length
    · rw [if_pos hn, if_pos hn]
      rfl
    · rw [if_neg hn, if_neg hn]
      rfl

/-- A step that succeeds leads where its component does, and except for the root it starts from a directory. -/
theorem advance_eq_ok {c : Component} (h : t.advance p c = .ok q) :
    q = lead p [c] ∧ (c ≠ .root → t.lookup p = some .directory) := by
  cases hp : t.lookup p with
  | none => cases c <;> simp_all [advance, fromDirectory, lead]
  | some e =>
    cases e with
    | file s => cases c <;> simp_all [advance, fromDirectory, lead]
    | directory =>
      cases c with
      | name n =>
        by_cases hn : longestName < n.length
        · simp [advance, fromDirectory, hp, hn] at h
        · simpa [advance, fromDirectory, hp, hn, lead, eq_comm] using h
      | _ => simp_all [advance, fromDirectory, lead]

/-- From a directory every step leads on, unless its name is too long. -/
theorem advance_of_directory {c : Component} (hp : t.lookup p = some .directory)
    (hc : ∀ n, c = .name n → n.length ≤ longestName) : t.advance p c = .ok (lead p [c]) := by
  cases c with
  | name n =>
    have hn : ¬ longestName < n.length := Nat.not_lt.mpr (hc n rfl)
    simp [advance, fromDirectory, hp, hn, lead]
  | _ => simp [advance, fromDirectory, hp, lead]

/-- A step is the same in a tree that has kept its directories. -/
theorem advance_of_directories {c : Component} (hkeep : ∀ r, t.lookup r = some .directory → t'.lookup r = some .directory)
    (h : t.advance p c = .ok q) : t'.advance p c = .ok q := by
  obtain ⟨hq, hstart⟩ := advance_eq_ok h
  by_cases hc : c = .root
  · rw [hc] at h ⊢
    exact h
  · have hp := hstart hc
    rw [advance_of_directory (hkeep p hp), hq]
    intro n hn
    by_contra hlong
    rw [hn] at h
    simp [advance, fromDirectory, hp, Nat.lt_of_not_le hlong] at h

/-- A step that misses something starts where nothing stands. -/
theorem lookup_of_advance_notFound {c : Component} (h : t.advance p c = .error .notFound) : t.lookup p = none := by
  cases hp : t.lookup p with
  | none => rfl
  | some e =>
    cases e with
    | file s => cases c <;> simp [advance, fromDirectory, hp] at h
    | directory =>
      cases c with
      | name n => by_cases hn : longestName < n.length <;> simp [advance, fromDirectory, hp, hn] at h
      | _ => simp [advance, fromDirectory, hp] at h

/-- A walk goes on from where its first part ends. -/
theorem walk_append (t : FileTree) (p : Place) (cs ds : List Component) :
    t.walk p (cs ++ ds) = (t.walk p cs).bind fun q => t.walk q ds := by
  induction cs generalizing p with
  | nil => rfl
  | cons c cs ih =>
    rw [List.cons_append, walk_cons, walk_cons]
    cases t.advance p c with
    | error e => rfl
    | ok q => exact ih q

/-- A walk that succeeds ends where its components lead. -/
theorem walk_eq_lead (h : t.walk p cs = .ok q) : q = lead p cs := by
  induction cs generalizing p with
  | nil =>
    rw [walk_nil, Except.ok.injEq] at h
    exact h.symm
  | cons c cs ih =>
    rw [walk_cons] at h
    cases hc : t.advance p c with
    | error e => simp [hc, Except.bind] at h
    | ok d =>
      rw [hc] at h
      rw [ih h, (advance_eq_ok hc).1, ← lead_cons]

/-- A walk ends where it ended in a tree that has kept its directories. -/
theorem walk_of_directories (hkeep : ∀ r, t.lookup r = some .directory → t'.lookup r = some .directory)
    (h : t.walk p cs = .ok q) : t'.walk p cs = .ok q := by
  induction cs generalizing p with
  | nil => exact h
  | cons c cs ih =>
    rw [walk_cons] at h ⊢
    cases hc : t.advance p c with
    | error e => simp [hc, Except.bind] at h
    | ok d =>
      rw [hc] at h
      rw [advance_of_directories hkeep hc]
      exact ih h

/-- Below a place where nothing stands nothing stands. -/
theorem lookup_of_prefix_none (h : t.lookup p = none) (hpq : p <+: q) : t.lookup q = none := by
  obtain ⟨s, rfl⟩ := hpq
  by_cases hs : s = []
  · simpa [hs] using h
  · exact lookup_append_of_not_directory (by simp [h]) hs

/-- Above a place where something stands directories stand. -/
theorem lookup_of_prefix_some (h : t.lookup q ≠ none) (hpq : p <+: q) (hne : p ≠ q) : t.lookup p = some .directory := by
  obtain ⟨s, rfl⟩ := hpq
  by_contra hp
  exact h (lookup_append_of_not_directory hp fun hs => hne (by simp [hs]))

/-- A walk down that misses a directory leads to nothing. -/
theorem lookup_lead_of_walk_notFound (hcs : GoesDown cs) (h : t.walk p cs = .error .notFound) :
    t.lookup (lead p cs) = none := by
  induction cs generalizing p with
  | nil => simp [walk_nil] at h
  | cons c cs ih =>
    rw [walk_cons] at h
    cases hc : t.advance p c with
    | error e =>
      obtain rfl : e = .notFound := by simpa [hc, Except.bind] using h
      exact lookup_of_prefix_none (lookup_of_advance_notFound hc) (prefix_lead hcs p)
    | ok d =>
      rw [hc] at h
      rw [lead_cons, ← (advance_eq_ok hc).1]
      exact ih hcs.tail h

theorem locate_of_ne_nil (h : cs ≠ []) : t.locate cwd cs = t.walk cwd cs := by
  cases cs with
  | nil => exact absurd rfl h
  | cons c cs => rfl

/-- A path that ends in a name is located below an existing directory. -/
theorem locate_name {n : Name} (h : t.locate cwd (cs ++ [.name n]) = .ok q) :
    q = lead cwd cs ++ [n] ∧ t.lookup (lead cwd cs) = some .directory := by
  rw [locate_of_ne_nil (by simp), walk_append] at h
  cases hcs : t.walk cwd cs with
  | error e => simp [hcs, Except.bind] at h
  | ok d =>
    rw [hcs] at h
    change t.walk d [.name n] = .ok q at h
    rw [← walk_eq_lead hcs]
    refine ⟨by simpa [lead] using walk_eq_lead h, ?_⟩
    rw [walk_cons] at h
    cases hn : t.advance d (.name n) with
    | error e => simp [hn, Except.bind] at h
    | ok d' => exact (advance_eq_ok hn).2 (by simp)

/-- A path without `..` that cannot be followed to its end leads to nothing. -/
theorem lookup_place_of_notFound {path : Path} (hne : path.components ≠ []) (hdown : path.Descends)
    (h : t.locate cwd path.components = .error .notFound) : t.lookup (path.place cwd) = none := by
  rw [locate_of_ne_nil hne] at h
  rw [Path.place]
  rcases hdown.cases with ⟨ds, hroot, hds⟩ | hds
  · rw [hroot, walk_cons] at h
    rw [hroot]
    exact lookup_lead_of_walk_notFound (p := []) hds h
  · exact lookup_lead_of_walk_notFound hds h

/-! ## Trees that agree on the way -/

theorem advance_congr (h : t'.lookup p = t.lookup p) (c : Component) : t'.advance p c = t.advance p c := by
  cases c <;> simp only [advance, fromDirectory, h]

/-- A walk down depends only on what stands at its end and above. -/
theorem walk_congr (hcs : GoesDown cs) (hsame : ∀ q, q <+: lead p cs → t'.lookup q = t.lookup q) :
    t'.walk p cs = t.walk p cs := by
  induction cs generalizing p with
  | nil => rfl
  | cons c cs ih =>
    rw [walk_cons, walk_cons, advance_congr (hsame p (prefix_lead hcs p))]
    cases hc : t.advance p c with
    | error e => rfl
    | ok d =>
      rw [lead_cons, ← (advance_eq_ok hc).1] at hsame
      exact ih hcs.tail hsame

/-- A path without `..` that ends in a name is followed alike in trees that agree above its place. -/
theorem locate_congr {path : Path} {n : Name} (hpath : path.components = cs ++ [.name n]) (hdown : path.Descends)
    (hsame : ∀ q, q <+: lead cwd cs → t'.lookup q = t.lookup q) :
    t'.locate cwd path.components = t.locate cwd path.components := by
  have hwalk : t'.walk cwd cs = t.walk cwd cs := by
    rcases hdown.cases_concat hpath with ⟨ds, rfl, hds⟩ | hcs
    · rw [walk_cons, walk_cons]
      exact walk_congr (p := []) hds hsame
    · exact walk_congr hcs hsame
  rw [hpath, locate_of_ne_nil (by simp), locate_of_ne_nil (by simp), walk_append, walk_append, hwalk]
  cases hcs : t.walk cwd cs with
  | error e => rfl
  | ok d =>
    change t'.walk d [.name n] = t.walk d [.name n]
    rw [walk_cons, walk_cons, walk_eq_lead hcs, advance_congr (hsame _ (List.prefix_refl _))]
    rfl

end FileTree

end ManifestTree
