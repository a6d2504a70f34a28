import ManifestTree.Proofs.Render.GeneratedTree

/-!
# Scratch renders and committed output

A scratch directory takes the place of the environment's, so that a trial run leaves committed output alone. It does so for every
environment that has another name than the scratch directory, whichever environment is rendered (`spared_of_ne`); only a root that goes
up again can make directories there, since the ones it passes are made. But any single name is accepted, also that of an environment:
then each resource has one directory in both layouts, and a trial run replaces what is committed for that environment
(`scratch_render_spares_committed`).
-/

namespace ManifestTree

namespace Context

variable {ctx : Context} {cwd : Place} {r : Resource} {rs : List Resource}

/-- Where rendering some resources may change a tree, however the root of all manifests is written: in their directories, and by
making directories that the paths of their groups pass. -/
def reach (ctx : Context) (cwd : Place) (rs : List Resource) : Footprint where
  inside q := ∃ r ∈ rs, ctx.place cwd r <+: q
  above q := ∃ r ∈ rs, ∃ g, Passes cwd ((ctx.directory r).components ++ [Utf8.encode g].map .name) q

/-- A provider of plain manifests for the directory of a resource reaches no further than the resource does. -/
theorem provider_within_reach {p : Provider} (hr : r ∈ rs) (hdirectory : p.directory = ctx.directory r)
    (hplain : ∀ m ∈ p.manifests, m.Plain) : (Footprint.provider cwd p).Within (ctx.reach cwd rs) where
  inside q hq := by
    have hplace : p.directory.place cwd = ctx.place cwd r := by
      rw [hdirectory]
      rfl
    rcases hq with ⟨g, -, hgroup⟩ | ⟨m, hm, hfile⟩
    · rw [hplace] at hgroup
      exact ⟨r, hr, (List.prefix_append _ _).trans hgroup⟩
    · rw [Provider.place_of_plain cwd p.directory (hplain m hm), hplace] at hfile
      exact ⟨r, hr, hfile ▸ List.prefix_append _ _⟩
  above := fun q ⟨m, hm, hq⟩ => by
    rw [Provider.way_of_plain p.directory (hplain m hm), hdirectory] at hq
    exact Or.inl ⟨r, hr, m.group, hq⟩

/-- Rendering an environment changes nothing outside the directories of its resources but missing directories on their paths. -/
theorem renderEnvironment_reaches (ctx : Context) (cwd : Place) (selection : List Resource) :
    Action.Keeps (ctx.reach cwd (effective selection)) (ctx.renderEnvironment cwd selection) := by
  refine renderAll_keeps_of_each ?_
  intro r hr
  refine renderResource_keeps_of_write ?_
  intro p hdirectory hplain
  exact (Provider.write_reaches p cwd).mono (provider_within_reach hr hdirectory hplain)

end Context

namespace Layout

/-- The place of an environment's directory is two names below that of the root. -/
theorem place_environmentDirectory {l : Layout} (h : l.Plain) (cwd : Place) (e : Environment) :
    (l.environmentDirectory e).place cwd = l.root.place cwd ++ l.environmentNames e :=
  Path.place_of_names (components_environmentDirectory h e) cwd

end Layout

/-- Nothing at a place and below it is different, except for missing directories that were made because the path of a root passes them
before it goes up again. -/
def Spared (root : Path) (cwd p : Place) (t t' : FileTree) : Prop :=
  ∀ q, p <+: q → t'.lookup q = t.lookup q ∨
    (¬ root.Descends ∧ Passes cwd root.components q ∧ t.lookup q = none ∧ t'.lookup q = some .directory)

namespace Config

variable {repository : Path} {directory : Except FileError Path} {vars : Variables} {c : Config} {s : String}
  {e e' : Environment} {cwd : Place}

/-- Where the committed output of a configuration is kept: below the same root, without a scratch directory. -/
def committed (c : Config) : Layout := ⟨c.manifestsRoot, none⟩

theorem plain_committed (c : Config) : c.committed.Plain := by
  intro s hs
  cases hs

/-- Names that lead below the directory of an environment lead into a scratch directory only when both have one name. -/
theorem nameOf_eq_of_below (hscratch : c.temporaryDirectory? = some s) {rest : List Name}
    (h : c.committed.environmentNames e' <+: c.layout.environmentNames e ++ rest) : nameOf s = Utf8.encode e'.name := by
  have hscratchName : c.layout.segmentName e = nameOf s := Layout.segmentName_of_some hscratch e
  have hcommittedName : c.committed.segmentName e' = Utf8.encode e'.name := Layout.segmentName_of_none rfl e'
  rw [Layout.environmentNames, Layout.environmentNames, hscratchName, hcommittedName] at h
  obtain ⟨-, hsegment⟩ := List.cons_prefix_cons.mp h
  exact (List.cons_prefix_cons.mp hsegment).1.symm

/-- A scratch render spares the committed output of every environment that has another name than the scratch directory. -/
theorem spared_of_ne (hread : Config.read repository directory vars = .ok c) (hscratch : c.temporaryDirectory? = some s)
    (hne : nameOf s ≠ Utf8.encode e'.name) (e : Environment) (cwd : Place) (selection : List Resource) (t : FileTree) :
    Spared c.manifestsRoot cwd ((c.committed.environmentDirectory e').place cwd) t
      (Action.after ((c.context e).renderEnvironment cwd selection) t) := by
  intro q hq
  have hcommitted : (c.committed.environmentDirectory e').place cwd =
      c.manifestsRoot.place cwd ++ c.committed.environmentNames e' := Layout.place_environmentDirectory (plain_committed c) cwd e'
  rw [hcommitted] at hq
  have hnames : ∀ r, ((c.context e).directory r).components =
      c.manifestsRoot.components ++ (c.layout.resourceNames e r).map .name := Layout.components_resourcePath (plain_of_read hread) e
  rcases Context.renderEnvironment_reaches (c.context e) cwd selection t q with
    ⟨r, -, hin⟩ | hsame | ⟨⟨r, -, g, hpasses⟩, hnone, hmade⟩
  · -- both directories lie above the place, so the names below the root agree as far as both go
    have hplace : (c.context e).place cwd r = c.manifestsRoot.place cwd ++ c.layout.resourceNames e r :=
      Path.place_of_names (hnames r) cwd
    rw [hplace] at hin
    have hboth : c.manifestsRoot.place cwd ++ c.committed.environmentNames e' <+:
        c.manifestsRoot.place cwd ++ c.layout.resourceNames e r := by
      refine List.prefix_of_prefix_length_le hq hin ?_
      rw [List.length_append, List.length_append]
      exact Nat.add_le_add_left (show 2 ≤ 4 by omega) _
    rw [List.prefix_append_right_inj] at hboth
    exact absurd (nameOf_eq_of_below hscratch hboth) hne
  · exact Or.inl hsame
  · rw [hnames, List.append_assoc, ← List.map_append] at hpasses
    rcases hpasses.of_append_names with hroot | ⟨names, hprefix, rfl⟩
    · refine Or.inr ⟨?_, hroot, hnone, hmade⟩
      intro hdescends
      have hle := (hq.trans (hdescends.prefix_place hroot)).length_le
      rw [List.length_append] at hle
      exact absurd hle (Nat.not_le.mpr (Nat.lt_add_of_pos_right (show 0 < 2 by omega)))
    · have hbelow := (List.prefix_append_right_inj _).mp hq
      rw [Layout.resourceNames, List.append_assoc] at hprefix
      exact absurd (nameOf_eq_of_below hscratch (hbelow.trans hprefix)) hne

/-- A scratch directory with the name of an environment: each resource has the same directory in both layouts. -/
theorem same_resourcePath_of_eq (hread : Config.read repository directory vars = .ok c) (hscratch : c.temporaryDirectory? = some s)
    (heq : nameOf s = Utf8.encode e'.name) (e : Environment) (r : Resource) :
    (c.layout.resourcePath e r).Same (c.committed.resourcePath e' r) := by
  rw [Path.Same, Layout.components_resourcePath (plain_of_read hread),
    Layout.components_resourcePath (plain_committed c)]
  have hsegment : c.layout.segmentName e = c.committed.segmentName e' := by
    rw [Layout.segmentName_of_some hscratch, Layout.segmentName_of_none rfl, heq]
  rw [Layout.resourceNames_inj.mpr ⟨hsegment, rfl⟩]
  rfl

/-- What a scratch directory keeps apart. Whatever the root, the environment rendered, the selection and the tree: the committed output
of an environment is spared when the scratch directory has another name. When it has the environment's name, the directories of
the scratch layout are the committed ones, and below a root without `..` a successful render leaves in them what it rendered. -/
theorem scratch_render_spares_committed (hread : Config.read repository directory vars = .ok c)
    (hscratch : c.temporaryDirectory? = some s) (e e' : Environment) (cwd : Place) :
    (nameOf s ≠ Utf8.encode e'.name → ∀ selection t,
        Spared c.manifestsRoot cwd ((c.committed.environmentDirectory e').place cwd) t
          (Action.after ((c.context e).renderEnvironment cwd selection) t)) ∧
      (nameOf s = Utf8.encode e'.name → (∀ r, (c.layout.resourcePath e r).Same (c.committed.resourcePath e' r)) ∧
        (c.manifestsRoot.Descends → ∀ selection t paths t', (c.context e).renderEnvironment cwd selection t = .ok paths t' →
          ∀ r ∈ Context.effective selection, Holds t'
            (groupPlace ((c.committed.resourcePath e' r).place cwd) Manifest.plainGroup) ((c.context e).registered r))) := by
  refine ⟨fun hne selection t => spared_of_ne hread hscratch hne e cwd selection t, fun heq => ⟨?_, ?_⟩⟩
  · exact same_resourcePath_of_eq hread hscratch heq e
  · intro hdescends selection t paths t' hrender r hr
    have hctx : (c.context e).Sound := ⟨hdescends, plain_of_read hread⟩
    have hholds := ((Context.renderEnvironment_eq_ok hctx hrender).2 r hr).manifests
    have hplace : (c.context e).place cwd r = (c.committed.resourcePath e' r).place cwd := by
      have hsame : (c.layout.resourcePath e r).components = (c.committed.resourcePath e' r).components :=
        same_resourcePath_of_eq hread hscratch heq e r
      rw [Path.place, ← hsame]
      rfl
    rw [← hplace]
    exact hholds

-- A root that passes through an environment's directory on its way makes what it passes there.
example : (Action.after ((Config.context ⟨.ofString "/m/generated/staging/x/../../..", some "scratch", defaultRepositoryUrl⟩
    .production).renderEnvironment [] [.argocd]) .empty).lookup
      [Utf8.encode "m", Utf8.encode "generated", Utf8.encode "staging", Utf8.encode "x"] = some .directory := by
  decide +kernel

/-- A configuration with a scratch directory. -/
def withScratch (name : String) : Config := ⟨.ofString "/srv", some name, defaultRepositoryUrl⟩

theorem read_withScratch_other :
    Config.read (.ofString "/") (.ok (.ofString "/")) (variablesOf "/srv" "scratch") = .ok (withScratch "scratch") := by rfl

theorem read_withScratch_staging :
    Config.read (.ofString "/") (.ok (.ofString "/")) (variablesOf "/srv" "staging") = .ok (withScratch "staging") := by rfl

/-- A scratch directory with a name of its own, and one environment rendered beside another. -/
theorem scratch_render_spares_committed_other : nameOf "scratch" ≠ Utf8.encode Environment.staging.name ∧
    Spared (.ofString "/srv") [] (((withScratch "scratch").committed.environmentDirectory .staging).place []) .empty
      (Action.after (((withScratch "scratch").context .production).renderEnvironment [] [.argocd]) .empty) := by
  have hne : nameOf "scratch" ≠ Utf8.encode Environment.staging.name := by decide
  exact ⟨hne, (scratch_render_spares_committed read_withScratch_other rfl .production .staging []).1 hne [.argocd] .empty⟩

/-- The directory of the manifests that are committed for a resource and an environment. -/
def committedGroup : Path := ((withScratch "staging").committed.resourcePath .staging .argocd).joinText Manifest.plainGroup

/-- A tree in which that directory holds a file. -/
def committedTree : FileTree :=
  Action.after (FileTree.writeFile [] (committedGroup.joinText "argocd.yaml") "committed")
    (Action.after (FileTree.makeDirectories [] committedGroup) .empty)

/-- A scratch render does not always spare committed output: with an accepted scratch directory called `staging`, rendering the
production environment removes a committed file of the staging environment. -/
theorem scratch_render_removes_committed :
    Config.read (.ofString "/") (.ok (.ofString "/")) (variablesOf "/srv" "staging") = .ok (withScratch "staging") ∧
      ∃ q, ((withScratch "staging").committed.environmentDirectory .staging).place [] <+: q ∧
        committedTree.lookup q = some (.file "committed") ∧
          (Action.after (((withScratch "staging").context .production).renderEnvironment [] [.argocd]) committedTree).lookup q =
            none := by
  refine ⟨read_withScratch_staging, (committedGroup.joinText "argocd.yaml").place [], ?_, ?_, ?_⟩
  · decide +kernel
  · decide +kernel
  · decide +kernel

end Config

end ManifestTree
