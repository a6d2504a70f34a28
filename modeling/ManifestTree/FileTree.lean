import ManifestTree.Path

/-!
# File trees

A tree of directories and regular files. A place is the list of names that leads to it from the root, and `lookup` says what stands
there; the root is always a directory (`lookup_root`), and whatever stands anywhere stands in a directory (`closed`). Each change is
pinned down by what it does to `lookup`: `lookup_insert` and `lookup_prune`.
-/

namespace ManifestTree

/-- A place in a file tree: the names from the root down to it. -/
abbrev Place := List Name

/-- What stands at a place. -/
inductive Entry where
  | directory
  | file (text : String)
  deriving DecidableEq

/-- A file with its text, or a directory with what it holds by name. -/
inductive Node where
  | file (text : String)
  | directory (children : List (Name × Node))

/-- What a directory holds: a node for each name. -/
abbrev Children := List (Name × Node)

/-- What a node is, without what it holds. -/
def Node.entry : Node → Entry
  | .file s => .file s
  | .directory _ => .directory

/-- A new node: a file with its text, or a directory that holds nothing. -/
def Entry.node : Entry → Node
  | .file s => .file s
  | .directory => .directory []

/-- What a name stands for in a directory. -/
def Children.get? (n : Name) : List (Name × Node) → Option Node
  | [] => none
  | (m, x) :: rest => if m = n then some x else Children.get? n rest

/-- What stands at a place, seen from a node. -/
def Node.at? : Node → Place → Option Node
  | node, [] => some node
  | .file _, _ :: _ => none
  | .directory d, n :: rest => (Children.get? n d).bind fun node => node.at? rest

mutual

/-- Everything strictly below a node, each with the names that lead to it. -/
def Node.descendants : Node → List (Place × Entry)
  | .file _ => []
  | .directory d => Children.descendants d

/-- Everything that a directory holds, and everything below that. -/
def Children.descendants : List (Name × Node) → List (Place × Entry)
  | [] => []
  | (n, node) :: rest =>
    ([n], node.entry) :: (node.descendants.map fun (p, e) => (n :: p, e)) ++ Children.descendants rest

end

namespace Children

/-- What a directory holds, with one name set. -/
def put (n : Name) (x : Node) : Children → Children
  | [] => [(n, x)]
  | (m, y) :: rest => if m = n then (n, x) :: rest else (m, y) :: put n x rest

/-- What a directory holds, without one name. -/
def remove (n : Name) (d : Children) : Children := d.filter (·.1 ≠ n)

/-- What a directory holds, with a change made to the directory at a place below it. Where there is none, nothing changes. -/
def alter (f : Children → Children) : Place → Children → Children
  | [], d => f d
  | n :: rest, d =>
    match get? n d with
    | some (.directory inner) => put n (.directory (alter f rest inner)) d
    | _ => d

/-- What a name stands for once one was set. -/
theorem get?_put (n m : Name) (x : Node) (d : Children) :
    get? m (put n x d) = if m = n then some x else get? m d := by
  induction d with
  | nil => simp [put, get?, eq_comm]
  | cons c rest ih =>
    obtain ⟨k, y⟩ := c
    by_cases hk : k = n
    · subst hk
      by_cases h : m = k <;> simp [put, get?, h, eq_comm]
    · simp only [put, if_neg hk, get?, ih]
      by_cases h : m = n
      · simp [h, hk]
      · simp [h]

/-- What a name stands for once one was removed. -/
theorem get?_remove (n m : Name) (d : Children) :
    get? m (remove n d) = if m = n then none else get? m d := by
  induction d with
  | nil => simp [remove, get?]
  | cons c rest ih =>
    obtain ⟨k, y⟩ := c
    rw [remove] at ih
    by_cases hk : k = n
    · subst hk
      rw [remove, List.filter_cons_of_neg (by simp), ih]
      by_cases h : m = k
      · simp [h]
      · simp [get?, h, Ne.symm h]
    · rw [remove, List.filter_cons_of_pos (by simp [hk]), get?, ih]
      by_cases h : m = n
      · simp [h, hk]
      · simp [get?, h]

end Children

namespace Node

/-- A place below another is looked for from there. -/
theorem at?_append (node : Node) (p q : Place) : node.at? (p ++ q) = (node.at? p).bind fun x => x.at? q := by
  induction p generalizing node with
  | nil => simp [at?]
  | cons n rest ih =>
    cases node with
    | file s => simp [at?]
    | directory d => cases h : Children.get? n d <;> simp [at?, h, ih]

/-- Nothing stands below a file. -/
theorem at?_file (s : String) {p : Place} (h : p ≠ []) : (Node.file s).at? p = none := by
  cases p with
  | nil => exact absurd rfl h
  | cons n rest => simp [at?]

/-- What stands in a directory that was changed: what the change puts there. -/
theorem at?_alter_append (f : Children → Children) {p : Place} {d inner : Children}
    (h : (directory d).at? p = some (.directory inner)) (q : Place) :
    (directory (Children.alter f p d)).at? (p ++ q) = (directory (f inner)).at? q := by
  induction p generalizing d with
  | nil =>
    simp only [at?, Option.some.injEq, directory.injEq] at h
    simp [Children.alter, h]
  | cons n rest ih =>
    simp only [at?, Option.bind_eq_some_iff] at h
    obtain ⟨node, hn, h⟩ := h
    cases node with
    | file s => cases rest <;> simp [at?] at h
    | directory e => simp [Children.alter, hn, at?, Children.get?_put, ih h]

/-- A change of the directory at a place is not seen at a place outside it. -/
theorem entry_at?_alter (f : Children → Children) {p r : Place} (d : Children) (h : ¬ p <+: r) :
    ((directory (Children.alter f p d)).at? r).map entry = ((directory d).at? r).map entry := by
  induction p generalizing d r with
  | nil => exact absurd (List.nil_prefix) h
  | cons n rest ih =>
    cases r with
    | nil => simp [at?, entry]
    | cons m r =>
      simp only [Children.alter]
      split
      · rename_i inner hn
        by_cases hm : m = n
        · subst hm
          have hr : ¬ rest <+: r := fun hr => h (List.cons_prefix_cons.mpr ⟨rfl, hr⟩)
          simp [at?, Children.get?_put, hn, ih inner hr]
        · simp [at?, Children.get?_put, hm]
      · rfl

/-- Where no directory stands nothing is changed. -/
theorem alter_of_not_directory (f : Children → Children) {p : Place} {d : Children}
    (h : ∀ inner, (directory d).at? p ≠ some (.directory inner)) : Children.alter f p d = d := by
  induction p generalizing d with
  | nil => exact absurd rfl (h d)
  | cons n rest ih =>
    simp only [Children.alter]
    split
    · rename_i inner hn
      have : Children.alter f rest inner = inner := ih fun x hx => h x (by simp [at?, hn, hx])
      rw [this]
      clear ih h this
      induction d with
      | nil => simp [Children.get?] at hn
      | cons c d ih =>
        obtain ⟨k, y⟩ := c
        by_cases hk : k = n
        · simp only [Children.get?, if_pos hk, Option.some.injEq] at hn
          simp [Children.put, hk, hn]
        · simp only [Children.get?, if_neg hk] at hn
          simp [Children.put, hk, ih hn]
    · rfl

end Node

/-- A tree of directories and regular files: what its root holds. -/
structure FileTree where
  children : Children

namespace FileTree

/-- What stands at a place. -/
def lookup (t : FileTree) (p : Place) : Option Entry := ((Node.directory t.children).at? p).map Node.entry

/-- The tree that holds the root alone. -/
def empty : FileTree := ⟨[]⟩

/-- Whether an entry may be put at a place: below an existing directory, and not over a directory. -/
def Free (t : FileTree) (p : Place) : Prop :=
  p ≠ [] ∧ t.lookup p.dropLast = some .directory ∧ t.lookup p ≠ some .directory

instance (t : FileTree) (p : Place) : Decidable (t.Free p) :=
  inferInstanceAs (Decidable (_ ∧ _ ∧ _))

/-- An entry put at a place that is free for it; at any other place the tree is left as it is. -/
def insert (t : FileTree) (q : Place) (e : Entry) : FileTree :=
  if h : t.Free q then ⟨Children.alter (Children.put (q.getLast h.1) e.node) q.dropLast t.children⟩ else t

/-- The tree without a place and everything below it. The root itself stays. -/
def prune (t : FileTree) (q : Place) : FileTree :=
  if h : q = [] then empty else ⟨Children.alter (Children.remove (q.getLast h)) q.dropLast t.children⟩

/-- The root is a directory. -/
theorem lookup_root (t : FileTree) : t.lookup [] = some .directory := by
  simp [lookup, Node.at?, Node.entry]

/-- What stands at a place where a directory stands: the directory with what it holds. -/
theorem at?_of_lookup_directory {t : FileTree} {p : Place} (h : t.lookup p = some .directory) :
    ∃ inner, (Node.directory t.children).at? p = some (.directory inner) := by
  obtain ⟨node, hnode, he⟩ := Option.map_eq_some_iff.mp h
  cases node with
  | file s => simp [Node.entry] at he
  | directory inner => exact ⟨inner, hnode⟩

/-- Nothing stands below a place where no directory stands. -/
theorem lookup_append_of_not_directory {t : FileTree} {p q : Place} (h : t.lookup p ≠ some .directory) (hq : q ≠ []) :
    t.lookup (p ++ q) = none := by
  simp only [lookup] at h ⊢
  rw [Node.at?_append]
  cases hp : (Node.directory t.children).at? p with
  | none => simp
  | some node =>
    cases node with
    | file s => simp [Node.at?_file s hq]
    | directory d => simp [hp, Node.entry] at h

/-- Whatever stands anywhere stands in a directory. -/
theorem closed (t : FileTree) (p : Place) (n : Name) (h : t.lookup (p ++ [n]) ≠ none) : t.lookup p = some .directory := by
  by_cases hp : t.lookup p = some .directory
  · exact hp
  · exact absurd (lookup_append_of_not_directory hp (by simp)) h

/-- What stands at a place after an entry was put: the entry at its place, and everywhere else what stood there. -/
theorem lookup_insert (t : FileTree) {q : Place} (e : Entry) (h : t.Free q) (p : Place) :
    (t.insert q e).lookup p = if p = q then some e else t.lookup p := by
  obtain ⟨hq, hparent, hfree⟩ := h
  obtain ⟨inner, hinner⟩ := at?_of_lookup_directory hparent
  have hsplit : q.dropLast ++ [q.getLast hq] = q := List.dropLast_concat_getLast hq
  have hdef : (t.insert q e).lookup p = ((Node.directory
      (Children.alter (Children.put (q.getLast hq) e.node) q.dropLast t.children)).at? p).map Node.entry := by
    simp [insert, lookup, show t.Free q from ⟨hq, hparent, hfree⟩]
  rw [hdef]
  by_cases hp : q.dropLast <+: p
  · obtain ⟨s, rfl⟩ := hp
    have hlookup : t.lookup (q.dropLast ++ s) = ((Node.directory inner).at? s).map Node.entry := by
      simp [lookup, Node.at?_append, hinner]
    rw [Node.at?_alter_append _ hinner, hlookup]
    cases s with
    | nil =>
      have hne : q.dropLast ++ [] ≠ q := fun h => by
        rw [List.append_nil, ← hsplit] at h
        simp at h
      rw [if_neg hne]
      simp [Node.at?, Node.entry]
    | cons m s =>
      have hiff : q.dropLast ++ m :: s = q ↔ m = q.getLast hq ∧ s = [] := by
        have := List.append_cancel_left_eq q.dropLast (m :: s) [q.getLast hq]
        rw [hsplit] at this
        simp [this]
      by_cases hm : m = q.getLast hq
      · cases s with
        | nil =>
          rw [if_pos (hiff.mpr ⟨hm, rfl⟩)]
          cases e <;> simp [Node.at?, Children.get?_put, hm, Entry.node, Node.entry]
        | cons k s =>
          rw [if_neg fun h => by simpa using (hiff.mp h).2]
          have hbelow : t.lookup (q ++ k :: s) = none := lookup_append_of_not_directory hfree (by simp)
          have hq' : q ++ k :: s = q.dropLast ++ m :: k :: s := by
            have := congrArg (· ++ k :: s) hsplit
            simpa [hm] using this.symm
          rw [hq', hlookup] at hbelow
          rw [hbelow]
          cases e <;> simp [Node.at?, Children.get?_put, Children.get?, hm, Entry.node]
      · rw [if_neg fun h => hm (hiff.mp h).1]
        simp [Node.at?, Children.get?_put, hm]
  · rw [Node.entry_at?_alter _ _ hp, if_neg fun h => hp (by rw [h]; exact List.dropLast_prefix q)]
    rfl

/-- What stands at a place after another was pruned: nothing at the pruned place or below it, and what stood there elsewhere. -/
theorem lookup_prune (t : FileTree) (q p : Place) (hp : p ≠ []) :
    (t.prune q).lookup p = if q <+: p then none else t.lookup p := by
  by_cases hq : q = []
  · subst hq
    obtain ⟨n, s, rfl⟩ := List.exists_cons_of_ne_nil hp
    simp [prune, empty, lookup, Node.at?, Children.get?]
  have hsplit : q.dropLast ++ [q.getLast hq] = q := List.dropLast_concat_getLast hq
  have hdef : (t.prune q).lookup p = ((Node.directory
      (Children.alter (Children.remove (q.getLast hq)) q.dropLast t.children)).at? p).map Node.entry := by
    simp [prune, lookup, hq]
  by_cases hparent : t.lookup q.dropLast = some .directory
  · obtain ⟨inner, hinner⟩ := at?_of_lookup_directory hparent
    rw [hdef]
    by_cases hpre : q.dropLast <+: p
    · obtain ⟨s, rfl⟩ := hpre
      have hlookup : t.lookup (q.dropLast ++ s) = ((Node.directory inner).at? s).map Node.entry := by
        simp [lookup, Node.at?_append, hinner]
      rw [Node.at?_alter_append _ hinner, hlookup]
      have hiff : q <+: q.dropLast ++ s ↔ [q.getLast hq] <+: s := by
        have : q.dropLast ++ [q.getLast hq] <+: q.dropLast ++ s ↔ [q.getLast hq] <+: s := List.prefix_append_right_inj _
        rwa [hsplit] at this
      simp only [hiff]
      cases s with
      | nil => simp [Node.at?, Node.entry]
      | cons m s =>
        by_cases hm : m = q.getLast hq
        · simp [Node.at?, Children.get?_remove, hm]
        · simp [Node.at?, Children.get?_remove, hm, Ne.symm hm]
    · rw [Node.entry_at?_alter _ _ hpre, if_neg fun h => hpre ((List.dropLast_prefix q).trans h)]
      rfl
  · rw [hdef, Node.alter_of_not_directory _ fun inner h => hparent (by simp [lookup, h, Node.entry])]
    by_cases hpre : q <+: p
    · obtain ⟨s, rfl⟩ := hpre
      rw [if_pos (List.prefix_append q s)]
      have hq' : q ++ s = q.dropLast ++ (q.getLast hq :: s) := by
        have := congrArg (· ++ s) hsplit
        simpa using this.symm
      rw [hq']
      exact lookup_append_of_not_directory hparent (by simp)
    · rw [if_neg hpre]
      rfl

/-- Everything strictly below a place, each with the names that lead to it from there. -/
def below (t : FileTree) (q : Place) : List (Place × Entry) :=
  match (Node.directory t.children).at? q with
  | some node => node.descendants
  | none => []

end FileTree

end ManifestTree
