import Mathlib.Data.List.Forall2
import Mathlib.Logic.Relation
import ManifestTree.Proofs.Render.Pointing
import ManifestTree.Proofs.Render.Success

/-!
# The tree of applications

Rendering a whole environment closes the tree of applications: the applications that have a directory as their source point at the
directories of all resources but the one the tree starts from, each exactly once, and these directories hold what was rendered for
their resources (`renderEnvironment_closed`). Following the applications from the start reaches every other resource.
-/

namespace ManifestTree

namespace Context

/-- Everything written for an environment, resource by resource. -/
def written (ctx : Context) : List Manifest := Resource.all.flatMap ctx.registered

/-- Whether an application in the directory of one resource points at the directory of another. -/
def Leads (ctx : Context) (holder : Path) (r r' : Resource) : Prop :=
  ∃ m ∈ ctx.registered r, m.PointsAt holder (ctx.directory r')

/-- The tree of applications that rendering a whole environment leaves behind. -/
structure Closed (ctx : Context) (cwd : Place) (holder : Path) (t : FileTree) (paths : List Path) : Prop where
  rendered : ∀ r, Rendered ctx cwd t r
  given : paths = Resource.all.flatMap ctx.writtenPaths
  pointed : ∀ r, ctx.written.countP (fun m => decide (m.PointsAt holder (ctx.directory r))) =
    if r = .applicationsParents then 0 else 1
  nothing_else : ∀ m ∈ ctx.written, m.hasDirectory = true →
    ∃ r, r ≠ .applicationsParents ∧ m.PointsAt holder (ctx.directory r)
  directories : ∀ m ∈ ctx.written, ∀ text, m.sourcePath? = some text → ∃ r,
    (holder.join (.ofString text)).Same (ctx.directory r) ∧ t.lookup ((holder.join (.ofString text)).place cwd) = some .directory ∧
      (∃ path ∈ ctx.writtenPaths r, (holder.join (.ofString text)).place cwd <+: path.place cwd ∧
        ∃ m ∈ ctx.registered r, t.lookup (path.place cwd) = some (.file m.body.toYaml)) ∧
      ∀ path ∈ paths, (holder.join (.ofString text)).place cwd <+: path.place cwd → path ∈ ctx.writtenPaths r
  reached : ∀ r, Relation.TransGen (ctx.Leads holder) .applicationsParents r ↔ r ≠ .applicationsParents

variable {ctx : Context} {cwd : Place} {holder : Path} {r r' : Resource} {rs : List Resource} {t t' : FileTree}

/-! ## Counting applications -/

/-- The applications among the manifests of some resources that have a directory as their source point at the children of these. -/
theorem directories_of_resources (h : ctx.layout.HeldBy holder)
    (hrs : ∀ r ∈ rs, Registers (ctx.objects r) (ctx.registered r)) :
    List.Forall₂ (fun child m => m.PointsAt holder (ctx.directory child)) (rs.flatMap Resource.children)
      ((rs.flatMap ctx.registered).filter (·.hasDirectory)) := by
  induction rs with
  | nil => exact .nil
  | cons r rest ih =>
    rw [List.flatMap_cons, List.flatMap_cons, List.filter_append]
    exact List.rel_append (directories_of_resource h (hrs r List.mem_cons_self))
      (ih fun r' hr' => hrs r' (List.mem_cons_of_mem _ hr'))

/-- All applications written that have a directory as their source point at the children of all resources. -/
theorem directories_of_written (h : ctx.layout.HeldBy holder) (hall : ∀ r, Registers (ctx.objects r) (ctx.registered r)) :
    List.Forall₂ (fun child m => m.PointsAt holder (ctx.directory child)) (Resource.all.flatMap Resource.children)
      (ctx.written.filter (·.hasDirectory)) :=
  directories_of_resources h fun r _ => hall r

/-- Of applications that point at some resources, as many point at one as it is among these. -/
theorem countP_pointsAt (h : ctx.layout.HeldBy holder) {ms : List Manifest}
    (hms : List.Forall₂ (fun child m => m.PointsAt holder (ctx.directory child)) rs ms) (r : Resource) :
    ms.countP (fun m => decide (m.PointsAt holder (ctx.directory r))) = rs.count r := by
  induction hms with
  | nil => rfl
  | @cons child m _ _ hfirst _ ih =>
    rw [List.countP_cons, List.count_cons, ih]
    have hiff : m.PointsAt holder (ctx.directory r) ↔ child = r := by
      constructor
      · exact pointsAt_injective h hfirst
      · rintro rfl
        exact hfirst
    simp [hiff]

/-- Every resource but the one the tree starts from is the child of one resource, once. -/
theorem count_children (r : Resource) :
    (Resource.all.flatMap Resource.children).count r = if r = .applicationsParents then 0 else 1 := by
  cases r <;> decide

/-- Each resource but the one the tree starts from is pointed at once. -/
theorem countP_written (h : ctx.layout.HeldBy holder) (hall : ∀ r, Registers (ctx.objects r) (ctx.registered r)) (r : Resource) :
    ctx.written.countP (fun m => decide (m.PointsAt holder (ctx.directory r))) =
      if r = .applicationsParents then 0 else 1 := by
  have hdirectories := countP_pointsAt h (directories_of_written h hall) r
  rw [← count_children r, ← hdirectories, List.countP_filter]
  refine List.countP_congr ?_
  intro m _
  simp only [Bool.and_eq_true, decide_eq_true_eq]
  constructor
  · exact fun hm => ⟨hm, hm.hasDirectory⟩
  · exact fun hm => hm.1

/-- Every application that has a directory as its source points at a resource other than the one the tree starts from. -/
theorem exists_pointsAt (h : ctx.layout.HeldBy holder) (hall : ∀ r, Registers (ctx.objects r) (ctx.registered r))
    {m : Manifest} (hm : m ∈ ctx.written) (hdirectory : m.hasDirectory = true) :
    ∃ r, r ≠ .applicationsParents ∧ m.PointsAt holder (ctx.directory r) := by
  obtain ⟨r, hr, hpoints⟩ := exists_left_of_mem (directories_of_written h hall) (List.mem_filter.mpr ⟨hm, hdirectory⟩)
  refine ⟨r, ?_, hpoints⟩
  rintro rfl
  exact absurd hr (by decide)

/-! ## Following applications -/

/-- A resource has an application that points at each of its children. -/
theorem leads_of_mem_children (h : ctx.layout.HeldBy holder) (hr : Registers (ctx.objects r) (ctx.registered r))
    (hchild : r' ∈ r.children) : ctx.Leads holder r r' := by
  obtain ⟨m, hm, hpoints⟩ := exists_left_of_mem (directories_of_resource h hr).flip hchild
  exact ⟨m, (List.mem_filter.mp hm).1, hpoints⟩

/-- Every resource but the one the tree starts from is a child of that one, or of one of its children. -/
theorem mem_children (hr : r ≠ .applicationsParents) :
    r ∈ Resource.applicationsParents.children ∨ ∃ parent ∈ Resource.applicationsParents.children, r ∈ parent.children := by
  cases r with
  | applicationsParents => exact absurd rfl hr
  | applicationsInfrastructure | applicationsServices => exact Or.inl (by decide)
  | _ => exact Or.inr (by decide)

theorem mem_all (r : Resource) : r ∈ Resource.all := by
  cases r <;> decide

/-- What is reached from the start of the tree: every other resource, and not the start itself. -/
theorem reached_iff (h : ctx.layout.HeldBy holder) (hall : ∀ r, Registers (ctx.objects r) (ctx.registered r)) (r : Resource) :
    Relation.TransGen (ctx.Leads holder) .applicationsParents r ↔ r ≠ .applicationsParents := by
  constructor
  · rintro hreached rfl
    obtain ⟨before, -, m, hm, hpoints⟩ := Relation.TransGen.tail'_iff.mp hreached
    have hwritten : m ∈ ctx.written := List.mem_flatMap.mpr ⟨before, mem_all before, hm⟩
    obtain ⟨r, hr, hpoints'⟩ := exists_pointsAt h hall hwritten hpoints.hasDirectory
    exact hr (pointsAt_injective h hpoints' hpoints)
  · intro hr
    rcases mem_children hr with hchild | ⟨parent, hparent, hchild⟩
    · exact .single (leads_of_mem_children h (hall _) hchild)
    · exact .tail (.single (leads_of_mem_children h (hall _) hparent)) (leads_of_mem_children h (hall _) hchild)

/-! ## The directories pointed at -/

/-- The directory that an application points at stands, and holds manifests written for one resource and no other. -/
theorem directory_of_pointsAt (hctx : ctx.Sound) (hall : ∀ r, Rendered ctx cwd t r) {m : Manifest} {text : String}
    (hpoints : m.PointsAt holder (ctx.directory r)) (htext : m.sourcePath? = some text) :
    (holder.join (.ofString text)).Same (ctx.directory r) ∧ t.lookup ((holder.join (.ofString text)).place cwd) = some .directory ∧
      (∃ path ∈ ctx.writtenPaths r, (holder.join (.ofString text)).place cwd <+: path.place cwd ∧
        ∃ m ∈ ctx.registered r, t.lookup (path.place cwd) = some (.file m.body.toYaml)) ∧
      ∀ path ∈ Resource.all.flatMap ctx.writtenPaths, (holder.join (.ofString text)).place cwd <+: path.place cwd →
        path ∈ ctx.writtenPaths r := by
  obtain ⟨text', htext', hsame⟩ := hpoints
  obtain rfl : text = text' := Option.some.inj (htext.symm.trans htext')
  have hplace : (holder.join (.ofString text)).place cwd = ctx.place cwd r := by
    rw [place, Path.place, Path.place, hsame]
  rw [hplace]
  refine ⟨hsame, (hall r).lookup_place, ?_, ?_⟩
  · obtain ⟨first, rest, hregistered⟩ := List.exists_cons_of_ne_nil (registered_ne_nil (hall r).objects)
    have hfirst : first ∈ ctx.registered r := hregistered ▸ List.mem_cons_self
    have hfile := place_join_relativePath cwd (hall r).objects hfirst
    refine ⟨(ctx.directory r).join first.relativePath, List.mem_map.mpr ⟨first, hfirst, rfl⟩, ?_, first, hfirst, ?_⟩
    · rw [hfile, groupPlace, List.append_assoc]
      exact List.prefix_append _ _
    · rw [hfile]
      exact (hall r).manifests.files first hfirst
  · intro path hpath hbelow
    obtain ⟨r', -, hr'⟩ := List.mem_flatMap.mp hpath
    obtain ⟨m', hm', hpath'⟩ := List.mem_map.mp hr'
    have habove : ctx.place cwd r' <+: path.place cwd := by
      rw [← hpath', place_join_relativePath cwd (hall r').objects hm', groupPlace, List.append_assoc]
      exact List.prefix_append _ _
    rw [eq_of_places_above hctx habove hbelow] at hr'
    exact hr'

/-- The tree of applications is closed over what is rendered. On every tree on which a whole environment can be rendered, each
resource but the one the tree starts from is pointed at by exactly one application with a directory as its source; there are no
other such applications; each directory pointed at holds the manifests written for its resource and no others that were written;
and following the applications from the start reaches all other resources. -/
theorem renderEnvironment_closed {paths : List Path} (h : ctx.layout.HeldBy holder)
    (hrender : ctx.renderEnvironment cwd [] t = .ok paths t') : Closed ctx cwd holder t' paths := by
  have hctx : ctx.Sound := HeldBy.sound h
  obtain ⟨hpaths, hrendered⟩ := renderEnvironment_eq_ok hctx hrender
  have hall : ∀ r, Rendered ctx cwd t' r := fun r => hrendered r (mem_all r)
  have hobjects : ∀ r, Registers (ctx.objects r) (ctx.registered r) := fun r => (hall r).objects
  refine ⟨hall, hpaths, countP_written h hobjects, ?_, ?_, reached_iff h hobjects⟩
  · intro m hm hdirectory
    exact exists_pointsAt h hobjects hm hdirectory
  · intro m hm text htext
    obtain ⟨r, -, hpoints⟩ := exists_pointsAt h hobjects hm (Manifest.hasDirectory_of_sourcePath? htext)
    refine ⟨r, ?_⟩
    rw [hpaths]
    exact directory_of_pointsAt hctx hall hpoints htext

/-- The context of a repository in the root directory. -/
def topmost : Context := ⟨.ofRepository (.ofString "/"), .local, "repository"⟩

/-- The tree of applications of a repository in the root directory, rendered into an empty tree. -/
theorem renderEnvironment_closed_empty_tree : topmost.layout.HeldBy (.ofString "/") ∧
    ∃ paths t', topmost.renderEnvironment [] [] .empty = .ok paths t' ∧ Closed topmost [] (.ofString "/") t' paths := by
  have hheld : topmost.layout.HeldBy (.ofString "/") := by
    refine ⟨⟨"/kubernetes/manifests", by decide⟩, by decide, ?_, ?_, ?_⟩
    · exact ⟨[.name (Utf8.encode "manifests")], by decide, by decide⟩
    · intro s hs
      cases hs
    · intro s hs
      cases hs
  have hbuilt : ∀ r ∈ Resource.all, ∀ o ∈ topmost.objects r, ∃ c, o = .ok c := by
    intro r _
    refine built_of_paths ?_
    intro child _
    obtain ⟨path, hpath, -⟩ := hheld.repoRelativePath topmost.environment child
    exact ⟨path, hpath⟩
  have hfits : ∀ r ∈ Resource.all, (topmost.directory r).Fits 128 := by decide +kernel
  obtain ⟨paths, t', hrender⟩ := renderAll_of_free (HeldBy.sound hheld) hbuilt hfits (free_empty (by decide) [] Resource.all)
  exact ⟨hheld, paths, t', hrender, renderEnvironment_closed hheld hrender⟩

end Context

end ManifestTree
