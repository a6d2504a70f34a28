import ManifestTree.Config
import ManifestTree.Proofs.Path.Components
import ManifestTree.Proofs.Text.Utf8

/-!
# The directories of resources, by components

A resource's directory is four names below the root of all manifests (`components_resourcePath`), as long as a scratch name
asks for one directory. Configurations read from variables have such scratch names (`plain_of_read`).
-/

namespace ManifestTree

/-- A text that asks for one named directory, as a scratch name has to. -/
def IsSingle (s : String) : Prop := ∃ n, (Path.ofString s).components = [.name n]

theorem isSingle_iff {s : String} : IsSingle s ↔ Config.isSingleName (Path.ofString s) = true := by
  unfold IsSingle Config.isSingleName
  constructor
  · rintro ⟨n, h⟩
    simp [h]
  · intro h
    split at h
    · exact ⟨_, by assumption⟩
    · simp at h

/-- The name that a text asks for; nothing for a text that asks for more or for less than one name. -/
def nameOf (s : String) : Name :=
  match (Path.ofString s).components with
  | [.name n] => n
  | _ => []

theorem IsSingle.components {s : String} (h : IsSingle s) : (Path.ofString s).components = [.name (nameOf s)] := by
  obtain ⟨n, h⟩ := h
  simp [nameOf, h]

theorem isSingle_of_isName {s : String} (h : Path.IsName (Utf8.encode s)) : IsSingle s :=
  ⟨_, Path.components_name h⟩

theorem nameOf_of_isName {s : String} (h : Path.IsName (Utf8.encode s)) : nameOf s = Utf8.encode s := by
  simp [nameOf, Path.ofString, Path.components_name h]

theorem Environment.isName (e : Environment) : Path.IsName (Utf8.encode e.name) := by
  cases e <;> decide

theorem Category.isName (c : Category) : Path.IsName (Utf8.encode c.name) := by
  cases c <;> decide

theorem Resource.isName (r : Resource) : Path.IsName (Utf8.encode r.name) := by
  cases r <;> decide

theorem Layout.isName_generatedName : Path.IsName (Utf8.encode Layout.generatedName) := by
  decide

/-- Different resources have different names. -/
theorem Resource.name_injective {r r' : Resource} (h : r.name = r'.name) : r = r' := by
  have left : ∀ r : Resource, ofName? r.name = some r := fun r => by cases r <;> rfl
  have := left r'
  rw [← h, left r] at this
  exact Option.some.inj this

namespace Layout

/-- A layout whose scratch name, if it has one, asks for one directory. -/
def Plain (l : Layout) : Prop := ∀ s, l.scratch? = some s → IsSingle s

/-- The name of the directory below `generated`. -/
def segmentName (l : Layout) (e : Environment) : Name := nameOf (l.segment e)

/-- The names that lead from the root of all manifests to the directory of an environment. -/
def environmentNames (l : Layout) (e : Environment) : List Name :=
  [Utf8.encode generatedName, l.segmentName e]

/-- The names that lead from the root of all manifests to the directory of a resource. -/
def resourceNames (l : Layout) (e : Environment) (r : Resource) : List Name :=
  l.environmentNames e ++ [Utf8.encode r.category.name, Utf8.encode r.name]

/-- The segment of a plain layout asks for one directory. -/
theorem Plain.segment {l : Layout} (h : l.Plain) (e : Environment) : IsSingle (l.segment e) := by
  unfold Layout.segment
  cases hs : l.scratch? with
  | none => exact isSingle_of_isName e.isName
  | some s => exact h s hs

/-- Without a scratch name the segment is the environment's. -/
theorem segmentName_of_none {l : Layout} (h : l.scratch? = none) (e : Environment) :
    l.segmentName e = Utf8.encode e.name := by
  rw [segmentName, segment, h]
  exact nameOf_of_isName e.isName

/-- With a scratch name the segment is the scratch directory's, whatever the environment. -/
theorem segmentName_of_some {l : Layout} {s : String} (h : l.scratch? = some s) (e : Environment) :
    l.segmentName e = nameOf s := by
  rw [segmentName, segment, h]
  rfl

/-- The segment of a plain layout is a name. -/
theorem Plain.isName_segmentName {l : Layout} (h : l.Plain) (e : Environment) : Path.IsName (l.segmentName e) :=
  (Path.written_components (Path.ofString (l.segment e))).names _ (by simp [(h.segment e).components, segmentName])

/-- An environment's directory is two names below the root of all manifests. -/
theorem components_environmentDirectory {l : Layout} (h : l.Plain) (e : Environment) :
    (l.environmentDirectory e).components = l.root.components ++ (l.environmentNames e).map .name := by
  have hsegment := (h.segment e).components
  rw [environmentDirectory, Path.joinText, Path.components_join_name hsegment, Path.components_joinText isName_generatedName]
  simp [environmentNames, segmentName]

/-- A resource's directory is four names below the root of all manifests. -/
theorem components_resourcePath {l : Layout} (h : l.Plain) (e : Environment) (r : Resource) :
    (l.resourcePath e r).components = l.root.components ++ (l.resourceNames e r).map .name := by
  rw [resourcePath, Path.components_joinText r.isName, categoryDirectory, Path.components_joinText r.category.isName,
    components_environmentDirectory h]
  simp [resourceNames]

/-- Resources with the same names below the root are the same, in the same segment. -/
theorem resourceNames_inj {l l' : Layout} {e e' : Environment} {r r' : Resource} :
    l.resourceNames e r = l'.resourceNames e' r' ↔ l.segmentName e = l'.segmentName e' ∧ r = r' := by
  constructor
  · intro h
    simp only [resourceNames, environmentNames, List.cons_append, List.nil_append, List.cons.injEq, true_and, and_true] at h
    exact ⟨h.1, Resource.name_injective (Utf8.encode_injective h.2.2)⟩
  · rintro ⟨hs, rfl⟩
    simp [resourceNames, environmentNames, hs]

end Layout

namespace Config

/-- What a configuration that was read consists of. -/
theorem read_eq_ok {repository : Path} {cwd : Except FileError Path} {vars : Variables} {c : Config}
    (h : Config.read repository cwd vars = .ok c) :
    readRoot repository cwd (vars.text? "MANIFESTS_ROOT") = .ok c.manifestsRoot ∧
      readTemporaryDirectory (vars.text? "TEMPORARY_DIR") = .ok c.temporaryDirectory? := by
  unfold Config.read at h
  cases hr : readRoot repository cwd (vars.text? "MANIFESTS_ROOT") with
  | error e => simp [hr, bind, Except.bind] at h
  | ok root =>
    cases ht : readTemporaryDirectory (vars.text? "TEMPORARY_DIR") with
    | error e => simp [hr, ht, bind, Except.bind] at h
    | ok name =>
      simp only [hr, ht, bind, Except.bind, pure, Except.pure, Except.ok.injEq] at h
      simp [← h]

/-- A scratch name that was read asks for one directory. -/
theorem isSingle_of_readTemporaryDirectory {given : Option String} {s : String}
    (h : readTemporaryDirectory given = .ok (some s)) : IsSingle s := by
  unfold readTemporaryDirectory at h
  split at h
  · simp at h
  · split at h
    · simp at h
    · split at h
      · rename_i hsingle
        obtain rfl : _ = s := by simpa using h
        exact isSingle_iff.mpr hsingle
      · simp at h

/-- The layout of a configuration that was read is plain. -/
theorem plain_of_read {repository : Path} {cwd : Except FileError Path} {vars : Variables} {c : Config}
    (h : Config.read repository cwd vars = .ok c) : c.layout.Plain := by
  intro s hs
  have htemporary := (read_eq_ok h).2
  rw [show c.temporaryDirectory? = some s from hs] at htemporary
  exact isSingle_of_readTemporaryDirectory htemporary

/-- The root of a configuration that was read is absolute, if the repository and the working directory are. -/
theorem isAbsolute_manifestsRoot {repository : Path} {cwd : Except FileError Path} {vars : Variables} {c : Config}
    (hrepository : repository.isAbsolute = true) (hcwd : ∀ p, cwd = .ok p → p.isAbsolute = true)
    (h : Config.read repository cwd vars = .ok c) : c.manifestsRoot.isAbsolute = true := by
  have hroot := (read_eq_ok h).1
  unfold readRoot at hroot
  split at hroot
  · rw [← Except.ok.inj hroot]
    exact Path.isAbsolute_join (Path.isAbsolute_join hrepository _) _
  · dsimp only at hroot
    split at hroot
    · rename_i habs
      rw [← Except.ok.inj hroot]
      exact habs
    · split at hroot
      · rename_i directory
        rw [← Except.ok.inj hroot]
        exact Path.isAbsolute_join (hcwd directory rfl) _
      · cases hroot

/-- An absolute root that a variable names is the root. -/
theorem manifestsRoot_of_variable {repository : Path} {cwd : Except FileError Path} {vars : Variables} {c : Config}
    {s : String} (h : Config.read repository cwd vars = .ok c) (hs : vars.text? "MANIFESTS_ROOT" = some s)
    (habs : (Path.ofString s).isAbsolute = true) : c.manifestsRoot = Path.ofString s := by
  have hroot := (read_eq_ok h).1
  rw [hs] at hroot
  simp only [readRoot, habs, if_true, Except.ok.injEq] at hroot
  exact hroot.symm

end Config

/-- Variables that name a root and a scratch directory. -/
def variablesOf (root scratch : String) : Variables := fun key =>
  if key = "MANIFESTS_ROOT" then some (Utf8.encode root)
  else if key = "TEMPORARY_DIR" then some (Utf8.encode scratch)
  else none

end ManifestTree
