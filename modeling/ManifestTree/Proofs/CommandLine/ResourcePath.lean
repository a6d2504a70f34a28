import ManifestTree.CommandLine
import ManifestTree.Proofs.Render.GeneratedTree
import ManifestTree.Proofs.Render.Registering

/-!
# Where a resource is said to be

Three parts of the program say where a resource is kept, each on its own: the `path` command prints its directory, rendering writes
there, and the application for the resource tells Argo CD its repository-relative path. They agree (`located_of_read`), whatever the
variables say and however the root is written: also on whether there is a repository-relative path at all.
-/

namespace ManifestTree

namespace Application

variable {l : Layout} {e : Environment} {r : Resource} {namespaceName url : String}

/-- A resource has an application exactly when there is an anchor on the path of its directory. -/
theorem exists_ofResource_iff :
    (∃ a, ofResource l e r namespaceName url = .ok a) ↔ .name anchor ∈ (l.resourcePath e r).components := by
  have hpath : (∃ path, l.repoRelativePath e r = .ok path) ↔ .name anchor ∈ (l.resourcePath e r).components :=
    Path.exists_repoRelative_iff
  rw [← hpath]
  constructor
  · rintro ⟨a, ha⟩
    obtain ⟨path, hpath, -⟩ := ofResource_eq_ok ha
    exact ⟨path, hpath⟩
  · rintro ⟨path, hpath⟩
    exact ⟨_, by rw [ofResource_eq, hpath]; rfl⟩

/-- A resource without an application has no repository-relative path, for the same reason. -/
theorem ofResource_eq_error {error : RenderError} (h : ofResource l e r namespaceName url = .error error) :
    l.repoRelativePath e r = .error error := by
  rw [ofResource_eq] at h
  cases hpath : l.repoRelativePath e r with
  | error error' =>
    rw [hpath] at h
    exact congrArg _ (Except.error.inj h)
  | ok path =>
    rw [hpath] at h
    cases h

end Application

namespace Context

variable {ctx : Context} {r b : Resource} {m : Manifest} {path : Path}

/-- The manifest that is the application for a child has the child's name. -/
theorem Tracks.name (h : ctx.Tracks r m) : m.name = r.name := by
  obtain ⟨path, -, hm⟩ := h
  obtain ⟨name, body, hname, -, rfl⟩ := Candidate.manifest?_eq_some hm
  exact (Option.some.inj hname).symm

/-- The manifest that is the application for a child has the child's repository-relative path in its body. -/
theorem Tracks.sourcePath? (h : ctx.Tracks r m) (hpath : ctx.layout.repoRelativePath ctx.environment r = .ok path) :
    m.sourcePath? = some path.display := by
  obtain ⟨path', hpath', hm⟩ := h
  obtain rfl : path' = path := Except.ok.inj (hpath'.symm.trans hpath)
  exact Manifest.sourcePath?_of_application hm

/-- A resource with a repository-relative path: its parent can be registered, and the body it registers for the resource has that
path. -/
theorem registerResource_of_parent (h : ctx.layout.Plain) (hchild : r ∈ b.children)
    (hpath : ctx.layout.repoRelativePath ctx.environment r = .ok path) (name : String) (directory : Path) :
    ∃ ms, ctx.registerResource b (.new name directory) = .ok () ⟨name, directory, ms⟩ ∧ (∃ m ∈ ms, m.name = r.name) ∧
      ∀ m ∈ ms, m.name = r.name → m.sourcePath? = some path.display := by
  have hanchor : .name anchor ∈ (ctx.directory r).components := Path.exists_repoRelative_iff.mp ⟨path, hpath⟩
  have hanchored : ¬ ctx.Unanchored b := fun hb => hb.2 r hchild hanchor
  have hbootstrap : b.isBootstrap = true := by
    by_contra hb
    rw [children_of_not_isBootstrap (Bool.eq_false_iff.mpr hb)] at hchild
    cases hchild
  obtain ⟨ms, hms, hregister⟩ := registerResource_of_anchored h hanchored name directory
  have htracks := tracks_of_isBootstrap hbootstrap hms
  refine ⟨ms, hregister, ?_, ?_⟩
  · obtain ⟨m, hm, hown⟩ := exists_left_of_mem htracks.flip hchild
    exact ⟨m, hm, Tracks.name hown⟩
  · intro m hm hname
    obtain ⟨child, -, hown⟩ := exists_left_of_mem htracks hm
    obtain rfl : child = r := Resource.name_injective (hown.name.symm.trans hname)
    exact hown.sourcePath? hpath

end Context

namespace CommandLine

variable {i : Invocation} {c : Config} {e : Environment} {r : Resource}

/-- A command is carried out in the configuration that was read. -/
theorem execute_of_read (hread : Config.read i.repository i.workingDirectory i.givenVariables = .ok c) (command : Command)
    (t : FileTree) : i.execute command t = command.execute c (placeOf i.workingDirectory) t := by
  unfold Invocation.execute
  rw [hread]

/-- What is printed for a resource that has a repository-relative path. -/
theorem execute_relative_of_ok (hread : Config.read i.repository i.workingDirectory i.givenVariables = .ok c) {path : Path}
    (hpath : c.layout.repoRelativePath e r = .ok path) (t : FileTree) : i.execute (.path r e true) t = .ok [path.display] t := by
  have hrelative : (c.layout.resourcePath e r).repoRelative = .ok path := hpath
  rw [execute_of_read hread]
  simp only [Command.execute, if_true, hrelative]

/-- What is reported for a resource that has none. -/
theorem execute_relative_of_error (hread : Config.read i.repository i.workingDirectory i.givenVariables = .ok c)
    {error : RenderError} (hpath : c.layout.repoRelativePath e r = .error error) (t : FileTree) :
    i.execute (.path r e true) t = .error (.ofError error) t := by
  have hrelative : (c.layout.resourcePath e r).repoRelative = .error error := hpath
  rw [execute_of_read hread]
  simp only [Command.execute, if_true, hrelative]

/-- A resource that is said to be in one place: its directory is what `path` prints and where it is rendered. What `path --relative`
prints is the source of its application, and of the one that its parent registers for it; and there is the one when there is the
other. -/
structure Located (i : Invocation) (c : Config) (e : Environment) (r : Resource) : Prop where
  shown : ∀ t, i.execute (.path r e false) t = .ok [(c.layout.resourcePath e r).display] t
  rendered : ∀ cwd t paths t', (c.context e).renderResource cwd r t = .ok paths t' → ∀ path ∈ paths,
    ∃ g ∈ Manifest.groupNames, ∃ file, Path.IsName (Utf8.encode file) ∧
      path = ((c.layout.resourcePath e r).joinText g).joinText file
  succeeds : ∀ namespaceName url t, Action.succeeds (i.execute (.path r e true)) t = true ↔
    ∃ a, Application.ofResource c.layout e r namespaceName url = .ok a
  refused : ∀ namespaceName url error, Application.ofResource c.layout e r namespaceName url = .error error →
    error = .anchorNotFound (c.layout.resourcePath e r) ∧ ∀ t, i.execute (.path r e true) t = .error (.ofError error) t
  told : ∀ namespaceName url a, Application.ofResource c.layout e r namespaceName url = .ok a →
    ∃ text, a.sourcePath? = some text ∧ (∀ t, i.execute (.path r e true) t = .ok [text] t) ∧
      ∀ b, r ∈ b.children → ∀ name directory, ∃ ms,
        (c.context e).registerResource b (.new name directory) = .ok () ⟨name, directory, ms⟩ ∧
          (∃ m ∈ ms, m.name = r.name) ∧ ∀ m ∈ ms, m.name = r.name → m.sourcePath? = some text

/-- The `path` command, rendering and the applications agree on where a resource is. -/
theorem located_of_read (hread : Config.read i.repository i.workingDirectory i.givenVariables = .ok c) (e : Environment)
    (r : Resource) : Located i c e r where
  shown t := by
    rw [execute_of_read hread]
    simp only [Command.execute, Bool.false_eq_true, if_false]
  rendered := by
    intro cwd t paths t' hrender path hpath
    obtain ⟨rfl, hregisters⟩ := Context.renderResource_paths hrender
    exact Context.exists_file_of_mem_writtenPaths hregisters hpath
  succeeds := by
    intro namespaceName url t
    constructor
    · intro h
      obtain ⟨lines, t', hrun⟩ := Action.succeeds_iff.mp h
      cases ha : Application.ofResource c.layout e r namespaceName url with
      | ok a => exact ⟨a, rfl⟩
      | error error =>
        rw [execute_relative_of_error hread (Application.ofResource_eq_error ha)] at hrun
        cases hrun
    · rintro ⟨a, ha⟩
      obtain ⟨path, hpath, -⟩ := Application.ofResource_eq_ok ha
      exact Action.succeeds_iff.mpr ⟨_, t, execute_relative_of_ok hread hpath t⟩
  refused := by
    intro namespaceName url error ha
    have hpath : (c.layout.resourcePath e r).repoRelative = .error error := Application.ofResource_eq_error ha
    exact ⟨(Path.repoRelative_eq_error_iff.mp hpath).2, execute_relative_of_error hread hpath⟩
  told := by
    intro namespaceName url a ha
    obtain ⟨path, hpath, rfl⟩ := Application.ofResource_eq_ok ha
    have htext : (Application.tracking r.name path.display namespaceName url).sourcePath? = some path.display := rfl
    refine ⟨path.display, htext, execute_relative_of_ok hread hpath, ?_⟩
    intro b hb name directory
    have hplain : (c.context e).layout.Plain := Config.plain_of_read hread
    have hpath' : (c.context e).layout.repoRelativePath (c.context e).environment r = .ok path := hpath
    exact Context.registerResource_of_parent hplain hb hpath' name directory

/-- A relative root, below a working directory that is no text and through a directory above, with a scratch directory. -/
theorem located_of_read_no_text :
    let i : Invocation := ⟨.ofString "/", .ok ⟨[0x2F, 0xFF]⟩, [], variablesOf "../kubernetes/manifests" "tmp"⟩
    let c : Config := ⟨(⟨[0x2F, 0xFF]⟩ : Path).joinText "../kubernetes/manifests", some "tmp", Config.defaultRepositoryUrl⟩
    Config.read i.repository i.workingDirectory i.givenVariables = .ok c ∧ Located i c .local .reactWeb ∧
      ∃ a, Application.ofResource c.layout .local .reactWeb "default" c.repositoryUrl = .ok a := by
  intro i c
  have hread : Config.read i.repository i.workingDirectory i.givenVariables = .ok c := by rfl
  exact ⟨hread, located_of_read hread .local .reactWeb, Application.exists_ofResource_iff.mpr (by decide)⟩

end CommandLine

end ManifestTree
