import ManifestTree.Proofs.Document.Members
import ManifestTree.Proofs.Layout.RepositoryPath
import ManifestTree.Proofs.Path.Text
import ManifestTree.Proofs.Render.Rendering

/-!
# What applications point at

An application with a directory as its source names that directory from the repository's `kubernetes` directory on. Seen from the
directory that holds the repository, the applications of a bootstrap resource point at the directories of its children, one each and
in their order, and no other resource has such applications (`directories_of_resource`).
-/

namespace ManifestTree

namespace Manifest

/-- The source of a manifest that is an application. -/
def source? (m : Manifest) : Option Document :=
  if m.kind = KubeObject.kind Application then (m.body.member? "spec").bind fun spec => spec.member? "source" else none

/-- Whether a manifest is an application whose source is a directory. -/
def hasDirectory (m : Manifest) : Bool :=
  m.source?.any fun source => (source.member? "path").isSome || (source.member? "directory").isSome

/-- The path that a manifest names as its source, if it is an application and names one. -/
def sourcePath? (m : Manifest) : Option String :=
  match m.source?.bind fun source => source.member? "path" with
  | some (.text path) => some path
  | _ => none

/-- The repository that a manifest names as its source, if it is an application and names one. -/
def repositoryUrl? (m : Manifest) : Option String :=
  match m.source?.bind fun source => source.member? "repoURL" with
  | some (.text url) => some url
  | _ => none

/-- A manifest that points at a directory, seen from the directory that holds the repository. -/
def PointsAt (holder : Path) (m : Manifest) (directory : Path) : Prop :=
  ∃ path, m.sourcePath? = some path ∧ (holder.join (.ofString path)).Same directory

instance (holder : Path) (m : Manifest) (directory : Path) : Decidable (m.PointsAt holder directory) :=
  match h : m.sourcePath? with
  | none => .isFalse fun ⟨path, hpath, _⟩ => by rw [h] at hpath; cases hpath
  | some path => decidable_of_iff ((holder.join (.ofString path)).Same directory)
      ⟨fun hsame => ⟨path, h, hsame⟩, fun ⟨path', hpath', hsame⟩ => by
        rw [h] at hpath'
        rw [Option.some.inj hpath']
        exact hsame⟩

variable {m : Manifest} {c : Candidate}

theorem kind_of_manifest? (h : c.manifest? = some m) : m.kind = c.kind := by
  obtain ⟨name, body, -, -, rfl⟩ := Candidate.manifest?_eq_some h
  rfl

theorem body_of_manifest? (h : c.manifest? = some m) : c.body = .ok m.body := by
  obtain ⟨name, body, -, hbody, rfl⟩ := Candidate.manifest?_eq_some h
  exact hbody

/-- The source of an application's manifest. -/
theorem source?_of_application {a : Application} (h : (Candidate.ofObject a).manifest? = some m) :
    m.source? = some a.spec.source.document.sorted := by
  have hbody : m.body = (KubeObject.document a).sorted := (Except.ok.inj (body_of_manifest? h)).symm
  have hkind : m.kind = KubeObject.kind Application := kind_of_manifest? h
  rw [source?, if_pos hkind, hbody, Document.member?_sorted, Application.spec_document]
  rw [Option.map_some, Option.bind_some, Document.member?_sorted, ApplicationSpec.source_document]
  rfl

theorem sourcePath?_of_application {a : Application} (h : (Candidate.ofObject a).manifest? = some m) :
    m.sourcePath? = a.spec.source.path? := by
  rw [sourcePath?, source?_of_application h, Option.bind_some, Document.member?_sorted, ApplicationSource.path_document]
  cases a.spec.source.path? with
  | none => rfl
  | some path => rfl

theorem repositoryUrl?_of_application {a : Application} (h : (Candidate.ofObject a).manifest? = some m) :
    m.repositoryUrl? = some a.spec.source.repositoryUrl := by
  rw [repositoryUrl?, source?_of_application h, Option.bind_some, Document.member?_sorted,
    ApplicationSource.repositoryUrl_document]
  rfl

theorem hasDirectory_of_application {a : Application} (h : (Candidate.ofObject a).manifest? = some m) :
    m.hasDirectory = (a.spec.source.path?.isSome || a.spec.source.directory?.isSome) := by
  rw [hasDirectory, source?_of_application h, Option.any_some, Document.member?_sorted, Document.member?_sorted,
    ApplicationSource.path_document, ApplicationSource.directory_document]
  simp only [Option.isSome_map]

/-- A manifest that is no application has no directory as its source. -/
theorem hasDirectory_of_kind (h : c.manifest? = some m) (hkind : c.kind ≠ KubeObject.kind Application) :
    m.hasDirectory = false := by
  rw [hasDirectory, source?, if_neg (by rw [kind_of_manifest? h]; exact hkind)]
  rfl

/-- A manifest that names a path as its source has a directory as its source. -/
theorem hasDirectory_of_sourcePath? {path : String} (hpath : m.sourcePath? = some path) : m.hasDirectory = true := by
  unfold sourcePath? at hpath
  unfold hasDirectory
  cases hsource : m.source? with
  | none => simp [hsource] at hpath
  | some source =>
    rw [hsource, Option.bind_some] at hpath
    cases hmember : source.member? "path" with
    | none => simp [hmember] at hpath
    | some d => simp [hmember]

theorem PointsAt.hasDirectory {holder directory : Path} (h : m.PointsAt holder directory) : m.hasDirectory = true := by
  obtain ⟨path, hpath, -⟩ := h
  exact hasDirectory_of_sourcePath? hpath

end Manifest

/-! ## Layouts inside a repository -/

/-- A layout whose root is text and lies in a repository that a directory holds: the repository is the last `kubernetes` on the way
to the root, and the scratch directory, if there is one, is a single directory that is not called `kubernetes` too. -/
structure Layout.HeldBy (holder : Path) (l : Layout) : Prop where
  text : ∃ s, l.root = Path.ofString s
  descends : l.root.Descends
  anchored : ∃ rest, l.root.components = holder.components ++ .name anchor :: rest ∧ .name anchor ∉ rest
  plain : l.Plain
  scratch : ∀ s, l.scratch? = some s → nameOf s ≠ anchor

namespace Layout

variable {l : Layout} {holder : Path}

theorem HeldBy.segmentName_ne (h : l.HeldBy holder) (e : Environment) : l.segmentName e ≠ anchor := by
  cases hs : l.scratch? with
  | none =>
    rw [segmentName_of_none hs]
    exact (anchor_ne_environment e).symm
  | some s =>
    rw [segmentName_of_some hs]
    exact h.scratch s hs

/-- The directories of resources are text. -/
theorem HeldBy.isText_resourcePath (h : l.HeldBy holder) (e : Environment) (r : Resource) : (l.resourcePath e r).IsText := by
  obtain ⟨s, hs⟩ := h.text
  have hroot : l.root.IsText := hs ▸ Path.isText_ofString s
  exact (((hroot.joinText _).joinText _).joinText _).joinText _

/-- Every resource has a repository-relative path. Its text, read from the directory that holds the repository, is the resource's
directory. -/
theorem HeldBy.repoRelativePath (h : l.HeldBy holder) (e : Environment) (r : Resource) :
    ∃ path, l.repoRelativePath e r = .ok path ∧ (holder.join (.ofString path.display)).Same (l.resourcePath e r) := by
  obtain ⟨rest, hroot, hrest⟩ := h.anchored
  obtain ⟨path, hpath, hcomponents⟩ := repoRelativePath_of_ne h.plain hroot hrest (h.segmentName_ne e) r
  have htext : path.IsText := (h.isText_resourcePath e r).repoRelative hpath
  refine ⟨path, hpath, ?_⟩
  rw [Path.ofString_display htext, Path.Same, Path.components_join_of_name hcomponents, components_resourcePath h.plain, hroot,
    List.append_assoc]
  rfl

end Layout

/-! ## The applications of resources -/

namespace Context

variable {ctx : Context} {holder : Path} {r r' : Resource} {m : Manifest} {ms : List Manifest}

theorem HeldBy.sound (h : ctx.layout.HeldBy holder) : ctx.Sound := ⟨h.descends, h.plain⟩

/-- A manifest points at the directory of at most one resource. -/
theorem pointsAt_injective (h : ctx.layout.HeldBy holder) (hr : m.PointsAt holder (ctx.directory r))
    (hr' : m.PointsAt holder (ctx.directory r')) : r = r' := by
  obtain ⟨path, hpath, hsame⟩ := hr
  obtain ⟨path', hpath', hsame'⟩ := hr'
  obtain rfl : path = path' := Option.some.inj (hpath.symm.trans hpath')
  have hdirectories : (ctx.directory r).components = (ctx.directory r').components := hsame.symm.trans hsame'
  have hplaces : ctx.place [] r = ctx.place [] r' := by
    rw [place, place, Path.place, Path.place, hdirectories]
  exact place_injective (HeldBy.sound h) hplaces

/-- A manifest that is the application for a child: it tracks the child's repository-relative path in the context's repository. -/
def Tracks (ctx : Context) (child : Resource) (m : Manifest) : Prop :=
  ∃ path, ctx.layout.repoRelativePath ctx.environment child = .ok path ∧
    (Candidate.ofObject (Application.tracking child.name path.display child.targetNamespace ctx.repositoryUrl)).manifest? = some m

/-- The application for a child points at the child's directory. -/
theorem Tracks.pointsAt {child : Resource} (hm : ctx.Tracks child m) (h : ctx.layout.HeldBy holder) :
    m.PointsAt holder (ctx.directory child) := by
  obtain ⟨path, hpath, hmanifest⟩ := hm
  obtain ⟨path', hpath', hsame⟩ := h.repoRelativePath ctx.environment child
  obtain rfl : path = path' := Except.ok.inj (hpath.symm.trans hpath')
  exact ⟨path.display, Manifest.sourcePath?_of_application hmanifest, hsame⟩

/-- A bootstrap resource consists of an application for each child. -/
theorem objects_of_isBootstrap (h : r.isBootstrap = true) :
    ctx.objects r = r.children.map fun child => offer (ctx.childApplication child) := by
  cases r with
  | applicationsParents | applicationsInfrastructure | applicationsServices => rfl
  | _ => cases h

theorem children_of_not_isBootstrap (h : r.isBootstrap = false) : r.children = [] := by
  cases r with
  | applicationsParents | applicationsInfrastructure | applicationsServices => cases h
  | _ => rfl

/-- The manifests of a bootstrap resource are the applications for its children, in their order. -/
theorem tracks_of_isBootstrap (hr : r.isBootstrap = true) (hms : Registers (ctx.objects r) ms) :
    List.Forall₂ ctx.Tracks r.children ms := by
  unfold Registers at hms
  rw [objects_of_isBootstrap hr, List.forall₂_map_left_iff] at hms
  refine hms.imp ?_
  intro child m hm
  obtain ⟨c, hbuilt, hc⟩ := hm
  obtain ⟨app, happ, rfl⟩ := offer_eq_ok hbuilt
  obtain ⟨path, hpath, rfl⟩ := Application.ofResource_eq_ok happ
  exact ⟨path, hpath, hc⟩

/-- An object of a resource that is not a bootstrap resource has no directory as its source. -/
theorem hasDirectory_of_not_isBootstrap {c : Candidate} (hr : r.isBootstrap = false) (hc : .ok c ∈ ctx.objects r)
    (hm : c.manifest? = some m) : m.hasDirectory = false := by
  cases offered_of_mem_objects hc with
  | plain _ kind => exact Manifest.hasDirectory_of_kind hm kind
  | chart chart source namespaceName options _ path directory built =>
    rw [built] at hm
    have hdirectory := Manifest.hasDirectory_of_application hm
    rw [hdirectory]
    simp [Application.inSync, path, directory]
  | child child mem _ =>
    rw [children_of_not_isBootstrap hr] at mem
    cases mem

/-- The applications among a resource's manifests that have a directory as their source point at its children, one each. -/
theorem directories_of_resource (h : ctx.layout.HeldBy holder) (hms : Registers (ctx.objects r) ms) :
    List.Forall₂ (fun child m => m.PointsAt holder (ctx.directory child)) r.children (ms.filter (·.hasDirectory)) := by
  cases hr : r.isBootstrap with
  | true =>
    have hpoints : List.Forall₂ (fun child m => m.PointsAt holder (ctx.directory child)) r.children ms := by
      refine (tracks_of_isBootstrap hr hms).imp ?_
      intro child m hm
      exact hm.pointsAt h
    have hall : ∀ m ∈ ms, m.hasDirectory = true := by
      intro m hm
      obtain ⟨child, -, hchild⟩ := exists_left_of_mem hpoints hm
      exact hchild.hasDirectory
    rw [List.filter_eq_self.mpr hall]
    exact hpoints
  | false =>
    have hnone : ms.filter (·.hasDirectory) = [] := by
      refine List.filter_eq_nil_iff.mpr ?_
      intro m hm
      obtain ⟨c, hc, hmanifest⟩ := hms.exists_object hm
      rw [hasDirectory_of_not_isBootstrap hr hc hmanifest]
      simp
    rw [hnone, children_of_not_isBootstrap hr]
    exact .nil

end Context

end ManifestTree
