import ManifestTree.Proofs.Layout.Directories
import ManifestTree.Proofs.Path.Anchor

/-!
# Repository-relative paths of resources

Argo CD is told a resource's directory from the repository's `kubernetes` directory on. Seen from the directory that holds the
repository this is the resource's directory again, unless the scratch directory is itself called `kubernetes`: then the cut is
made there, inside the repository (`join_repoRelativePath_iff`, `join_repoRelativePath_scratch_anchor`).
-/

namespace ManifestTree

/-- The name of the anchor. -/
def anchor : Name := Utf8.encode anchorName

theorem isName_anchor : Path.IsName anchor := by
  decide

namespace Layout

/-- No name below the segment is the anchor's. -/
theorem anchor_ne_category (c : Category) : anchor ≠ Utf8.encode c.name := by
  cases c <;> decide

theorem anchor_ne_resource (r : Resource) : anchor ≠ Utf8.encode r.name := by
  cases r <;> decide

theorem anchor_ne_environment (e : Environment) : anchor ≠ Utf8.encode e.name := by
  cases e <;> decide

/-- Only the segment can have the anchor's name among the names below the root. -/
theorem anchor_mem_resourceNames {l : Layout} {e : Environment} {r : Resource} (h : anchor ∈ l.resourceNames e r) :
    l.segmentName e = anchor := by
  have hgenerated : anchor ≠ Utf8.encode generatedName := by decide
  simp only [resourceNames, environmentNames, List.cons_append, List.nil_append, List.mem_cons, List.not_mem_nil,
    or_false] at h
  rcases h with h | h | h | h
  · exact absurd h hgenerated
  · exact h.symm
  · exact absurd h (anchor_ne_category _)
  · exact absurd h (anchor_ne_resource _)

/-- An anchor on the path of a resource is one on the path of the root, or it is the segment, whatever the resource. -/
theorem anchor_mem_resourcePath_iff {l : Layout} (h : l.Plain) {e : Environment} {r : Resource} :
    .name anchor ∈ (l.resourcePath e r).components ↔ .name anchor ∈ l.root.components ∨ l.segmentName e = anchor := by
  rw [components_resourcePath h, List.mem_append]
  refine or_congr_right ⟨?_, ?_⟩
  · intro hm
    obtain ⟨n, hn, heq⟩ := List.mem_map.mp hm
    obtain rfl : n = anchor := Component.name.inj heq
    exact anchor_mem_resourceNames hn
  · intro hsegment
    simp [resourceNames, environmentNames, hsegment]

/-- A root with an anchor: the resource's directory is told from that anchor on, when the segment is not called like it. -/
theorem repoRelativePath_of_ne {l : Layout} (h : l.Plain) {e : Environment} {before rest : List Component}
    (hroot : l.root.components = before ++ .name anchor :: rest) (hrest : .name anchor ∉ rest)
    (hsegment : l.segmentName e ≠ anchor) (r : Resource) :
    ∃ rel, l.repoRelativePath e r = .ok rel ∧
      rel.components = .name anchor :: (rest ++ (l.resourceNames e r).map .name) := by
  have hpath : (l.resourcePath e r).components =
      before ++ .name anchor :: (rest ++ (l.resourceNames e r).map .name) := by
    rw [components_resourcePath h, hroot, List.append_assoc, List.cons_append]
  have hlast : .name anchor ∉ rest ++ (l.resourceNames e r).map .name := by
    intro hm
    rcases List.mem_append.mp hm with hm | hm
    · exact hrest hm
    · obtain ⟨n, hn, heq⟩ := List.mem_map.mp hm
      obtain rfl : n = anchor := Component.name.inj heq
      exact hsegment (anchor_mem_resourceNames hn)
  exact Path.repoRelative_eq_ok hpath hlast

/-- A segment that is called like the anchor is where the cut is made. -/
theorem repoRelativePath_of_eq {l : Layout} (h : l.Plain) {e : Environment} (hsegment : l.segmentName e = anchor)
    (r : Resource) :
    ∃ rel, l.repoRelativePath e r = .ok rel ∧
      rel.components = [.name anchor, .name (Utf8.encode r.category.name), .name (Utf8.encode r.name)] := by
  have hpath : (l.resourcePath e r).components = (l.root.components ++ [.name (Utf8.encode generatedName)]) ++
      .name anchor :: [.name (Utf8.encode r.category.name), .name (Utf8.encode r.name)] := by
    rw [components_resourcePath h, List.append_assoc]
    simp [resourceNames, environmentNames, hsegment]
  have hrest : Component.name anchor ∉ [.name (Utf8.encode r.category.name), .name (Utf8.encode r.name)] := by
    simp [anchor_ne_category, anchor_ne_resource]
  exact Path.repoRelative_eq_ok hpath hrest

end Layout

/-- A path that starts with a name, appended to another. -/
theorem Path.components_join_of_name {p q : Path} {n : Name} {cs : List Component} (h : q.components = .name n :: cs) :
    (p.join q).components = p.components ++ .name n :: cs := by
  have hroot : .root ∉ q.components := by
    have := (written_components q).root
    rw [h] at this ⊢
    simpa using this
  rw [components_join (isAbsolute_of_components hroot) (by simp [h]), h]

/-- The scratch directory of a configuration, if it has one, is not called like the anchor. -/
def Config.ScratchIsNotAnchor (c : Config) : Prop :=
  ∀ s, c.temporaryDirectory? = some s → nameOf s ≠ anchor

theorem Config.scratchIsNotAnchor_iff (c : Config) (e : Environment) :
    c.ScratchIsNotAnchor ↔ c.layout.segmentName e ≠ anchor := by
  cases hs : c.temporaryDirectory? with
  | none =>
    have hname : c.layout.segmentName e = Utf8.encode e.name := Layout.segmentName_of_none hs e
    simp [ScratchIsNotAnchor, hs, hname, Ne.symm (Layout.anchor_ne_environment e)]
  | some s =>
    have hname : c.layout.segmentName e = nameOf s := Layout.segmentName_of_some hs e
    simp [ScratchIsNotAnchor, hs, hname]

/-- The components of the root of all manifests in a checkout. -/
theorem Layout.components_manifestsRoot (P : Path) :
    (Layout.manifestsRoot P).components = P.components ++ .name anchor :: [.name (Utf8.encode "manifests")] := by
  have hmanifests : Path.IsName (Utf8.encode "manifests") := by decide
  rw [Layout.manifestsRoot, Path.components_joinText hmanifests, Path.components_joinText isName_anchor]
  simp [anchor]

/-- A root that is named by a variable is the root of a checkout when what the variable says is. -/
theorem Config.same_manifestsRoot {repository P : Path} {cwd : Except FileError Path} {vars : Variables} {c : Config} {s : String}
    (hP : P.isAbsolute = true) (hread : Config.read repository cwd vars = .ok c) (hs : vars.text? "MANIFESTS_ROOT" = some s)
    (hsame : (Path.ofString s).Same (Layout.manifestsRoot P)) : c.manifestsRoot.Same (Layout.manifestsRoot P) := by
  have hhead : (Path.ofString s).components.head? = some .root := by
    rw [hsame, Layout.components_manifestsRoot, List.head?_append, Path.head?_components_of_isAbsolute hP]
    rfl
  have habs : (Path.ofString s).isAbsolute = true := Path.root_mem_components_iff.mp (List.mem_of_head? hhead)
  rwa [Config.manifestsRoot_of_variable hread hs habs]

/-- In every configuration whose root is `kubernetes/manifests` below some path, the repository-relative path of a
resource exists and starts with `kubernetes`; joining it onto that path gives the resource's directory exactly when the scratch
directory is not itself called `kubernetes`. -/
theorem join_repoRelativePath_iff {repository P : Path} {cwd : Except FileError Path} {vars : Variables} {c : Config}
    (hread : Config.read repository cwd vars = .ok c) (hroot : c.manifestsRoot.Same (Layout.manifestsRoot P))
    (e : Environment) (r : Resource) :
    ∃ rel, c.layout.repoRelativePath e r = .ok rel ∧ rel.components.head? = some (.name anchor) ∧
      ((P.join rel).Same (c.layout.resourcePath e r) ↔ c.ScratchIsNotAnchor) := by
  have hplain := Config.plain_of_read hread
  have hcomponents : c.layout.root.components = P.components ++ .name anchor :: [.name (Utf8.encode "manifests")] := by
    rw [show c.layout.root = c.manifestsRoot from rfl, hroot, Layout.components_manifestsRoot]
  rw [Config.scratchIsNotAnchor_iff c e]
  by_cases hsegment : c.layout.segmentName e = anchor
  · obtain ⟨rel, hrel, hnames⟩ := Layout.repoRelativePath_of_eq hplain hsegment r
    refine ⟨rel, hrel, by rw [hnames]; rfl, ?_⟩
    rw [Path.Same, Path.components_join_of_name hnames, Layout.components_resourcePath hplain, hcomponents]
    simp [hsegment, Layout.resourceNames, Layout.environmentNames]
  · obtain ⟨rel, hrel, hnames⟩ := Layout.repoRelativePath_of_ne hplain hcomponents (by decide) hsegment r
    refine ⟨rel, hrel, by rw [hnames]; rfl, ?_⟩
    rw [Path.Same, Path.components_join_of_name hnames, Layout.components_resourcePath hplain, hcomponents]
    simp [hsegment]

/-- A checkout below a directory that is called `kubernetes` too, with a scratch directory written with a separator. -/
theorem join_repoRelativePath_iff_nested :
    let P : Path := .ofString "/srv/kubernetes/checkout"
    let vars := variablesOf "/srv/kubernetes/checkout/kubernetes/manifests/" "tmp-diff/"
    let c : Config := ⟨.ofString "/srv/kubernetes/checkout/kubernetes/manifests/", some "tmp-diff/", Config.defaultRepositoryUrl⟩
    P.isAbsolute = true ∧ Config.read (.ofString "/") (.ok (.ofString "/")) vars = .ok c ∧
      c.manifestsRoot.Same (Layout.manifestsRoot P) ∧
      ∃ rel, c.layout.repoRelativePath .staging .linkerd = .ok rel ∧ rel.components.head? = some (.name anchor) ∧
        ((P.join rel).Same (c.layout.resourcePath .staging .linkerd) ↔ c.ScratchIsNotAnchor) := by
  intro P vars c
  have hread : Config.read (.ofString "/") (.ok (.ofString "/")) vars = .ok c := by rfl
  have hroot : c.manifestsRoot.Same (Layout.manifestsRoot P) := Config.same_manifestsRoot (by decide) hread (by rfl) (by decide)
  exact ⟨by decide, hread, hroot, join_repoRelativePath_iff hread hroot .staging .linkerd⟩

/-- With a scratch directory called `kubernetes` the law of left inverses fails: the path told is cut inside `generated`. -/
theorem join_repoRelativePath_scratch_anchor :
    ∃ c, Config.read (.ofString "/") (.ok (.ofString "/"))
        (variablesOf "/srv/repo/kubernetes/manifests" "kubernetes") = .ok c ∧
      ∃ rel, c.layout.repoRelativePath .local .reactWeb = .ok rel ∧ rel = .ofString "kubernetes/services/react-web" ∧
        ¬ ((Path.ofString "/srv/repo").join rel).Same (c.layout.resourcePath .local .reactWeb) :=
  ⟨⟨.ofString "/srv/repo/kubernetes/manifests", some "kubernetes", Config.defaultRepositoryUrl⟩, by rfl,
    .ofString "kubernetes/services/react-web", by rfl, rfl, by decide⟩

end ManifestTree
