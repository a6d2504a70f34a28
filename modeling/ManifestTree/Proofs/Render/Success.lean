import ManifestTree.Proofs.Provider.Success
import ManifestTree.Proofs.Render.Identities
import ManifestTree.Proofs.Render.Rendering

/-!
# When resources can be rendered

A resource can be rendered exactly when its objects can be built, the operating system takes its paths, and no file stands on the way
to its group directories (`renderResource_succeeds_iff`). Rendering another one leaves all this as it is (`Free.next`, `Free.before`),
so resources can be rendered in turn exactly when each of them can be rendered to begin with (`renderAll_succeeds_iff`).
-/

namespace ManifestTree

namespace Context

variable {ctx : Context} {cwd : Place} {r : Resource} {rs : List Resource} {t t' : FileTree} {g : String} {m : Manifest}

/-! ## Paths that fit -/

/-- The groups of a directory fit when there is room for them. -/
theorem fits_group {directory : Path} (h : directory.Fits 128) (hg : g ∈ Manifest.groupNames) :
    (directory.joinText g).Fits 0 := by
  have hall : ∀ g ∈ Manifest.groupNames, (0 : UInt8) ∉ Utf8.encode g ∧ (Utf8.encode g).length ≤ 10 := by decide
  obtain ⟨hnul, hlength⟩ := hall g hg
  have hlong : 10 ≤ FileTree.longestName := by decide
  refine Path.Fits.join (h.mono ?_) hnul (Provider.components_joinText_group hg) ?_
  · rw [Path.bytes_ofString]
    omega
  · intro n hn
    rw [List.mem_singleton.mp hn]
    exact hlength.trans hlong

/-- The file of a manifest fits when there is room for its group and a name of a hundred bytes. -/
theorem fits_file {directory : Path} (h : directory.Fits 128) (hm : m.Plain) (hgroup : m.group = Manifest.plainGroup)
    (hnul : (0 : UInt8) ∉ m.identity.fileBytes) (hshort : m.identity.fileBytes.length ≤ 100) :
    (directory.join m.relativePath).Fits 0 := by
  have hfile : (Path.ofString m.fileName).bytes = m.identity.fileBytes := by
    rw [Path.bytes_ofString, Manifest.encode_fileName]
  have hplain : (Path.ofString m.group).bytes = (Path.ofString Manifest.plainGroup).bytes := by rw [hgroup]
  have hgroupLength : (Path.ofString Manifest.plainGroup).bytes.length = 10 := by decide
  have hgroupNul : (0 : UInt8) ∉ (Path.ofString Manifest.plainGroup).bytes := by decide
  have hrelative : m.relativePath = (Path.ofString m.group).join (Path.ofString m.fileName) := rfl
  have hlength : m.relativePath.bytes.length ≤ 10 + (1 + 100) := by
    have hjoin := Path.length_bytes_join (Path.ofString m.group) (Path.ofString m.fileName)
    rw [hfile, hplain, hgroupLength] at hjoin
    rw [hrelative]
    omega
  have hlong : 100 ≤ FileTree.longestName := by decide
  refine Path.Fits.join (h.mono (by omega)) ?_ (Provider.components_join_relativePath directory hm) ?_
  · rw [hrelative]
    refine Path.noNul_join ?_ ?_
    · rw [hplain]
      exact hgroupNul
    · rw [hfile]
      exact hnul
  · intro n hn
    rcases List.mem_cons.mp hn with rfl | hn
    · have hgroupName : (Utf8.encode m.group).length = 10 := by
        rw [hgroup]
        exact hgroupLength
      omega
    · rw [List.mem_singleton.mp hn, Manifest.encode_fileName]
      exact hshort.trans hlong

/-! ## Ways that are free -/

/-- A tree in which no file stands on the way to the groups of some resources, and in which these ways start somewhere. -/
structure Free (ctx : Context) (cwd : Place) (rs : List Resource) (t : FileTree) : Prop where
  starts : t.Starts cwd ctx.layout.root
  passable : ∀ r ∈ rs, ∀ g ∈ Manifest.groupNames, t.Passable (groupPlace (ctx.place cwd r) g)

/-- All ways are free in an empty tree when they start at its root. -/
theorem free_empty (h : ctx.layout.root.isAbsolute = true) (cwd : Place) (rs : List Resource) : Free ctx cwd rs .empty where
  starts := Or.inl h
  passable _ _ _ _ := FileTree.passable_empty _

/-- The group directories of a resource that was rendered stand, or nothing stands there. -/
theorem Rendered.lookup_group (h : Rendered ctx cwd t r) (hg : g ∈ Manifest.groupNames) :
    t.lookup (groupPlace (ctx.place cwd r) g) = none ∨ t.lookup (groupPlace (ctx.place cwd r) g) = some .directory := by
  rcases Manifest.groupNames_cases hg with rfl | rfl
  · exact Or.inl h.definitions
  · have hgroup := h.manifests.directory
    rw [if_neg (registered_ne_nil h.objects)] at hgroup
    exact Or.inr hgroup

/-- The only places above a group directory that lie in the groups of a directory at the same depth are such groups themselves. -/
theorem exists_group_of_inside {d d' q : Place} (hlength : d.length = d'.length) (hin : (Footprint.groups d).inside q)
    (hq : q <+: groupPlace d' g) : ∃ g' ∈ Manifest.groupNames, q = groupPlace d g' := by
  obtain ⟨g', hg', hbelow⟩ := Footprint.inside_groups_iff.mp hin
  have hle := hq.length_le
  have hle' := hbelow.length_le
  refine ⟨g', hg', (hbelow.eq_of_length ?_).symm⟩
  simp only [groupPlace, List.length_append, List.length_cons, List.length_nil] at hle hle' ⊢
  omega

/-- Rendering a resource leaves all ways free that were free before. -/
theorem Free.next {paths : List Path} (hfree : Free ctx cwd rs t) (hctx : ctx.Sound)
    (h : ctx.renderResource cwd r t = .ok paths t') : Free ctx cwd rs t' := by
  have hrendered := (renderResource_eq_ok hctx h).2
  have hkeeps := (renderResource_keeps hctx cwd r).of_ok h
  have hstarts : ∀ s : FileTree, s.Starts cwd (ctx.directory r) ↔ s.Starts cwd ctx.layout.root := fun s =>
    Provider.starts_iff_of_names (components_directory hctx r)
  refine ⟨(hstarts t').mp (Provider.starts_of_confined (hctx.directory r) ((hstarts t).mpr hfree.starts) hkeeps), ?_⟩
  intro r' hr' g hg
  refine (hfree.passable r' hr' g hg).of_lookup ?_
  intro q hq
  rcases hkeeps q with hin | hsame | ⟨-, -, hdirectory⟩
  · obtain ⟨g', hg', rfl⟩ := exists_group_of_inside (length_place_congr hctx cwd r r') hin hq
    exact Or.inr (hrendered.lookup_group hg')
  · exact Or.inl hsame
  · exact Or.inr (Or.inr hdirectory)

/-- Rendering a resource makes no way free that was not free before, besides its own. -/
theorem Free.before {paths : List Path} (hfree : Free ctx cwd rs t') (hown : Free ctx cwd [r] t) (hctx : ctx.Sound)
    (h : ctx.renderResource cwd r t = .ok paths t') : Free ctx cwd rs t := by
  refine ⟨hown.starts, ?_⟩
  intro r' hr' g hg q hq text hfile
  rcases (renderResource_keeps hctx cwd r).of_ok h q with hin | hsame | ⟨-, hnone, -⟩
  · obtain ⟨g', hg', rfl⟩ := exists_group_of_inside (length_place_congr hctx cwd r r') hin hq
    exact hown.passable r List.mem_cons_self g' hg' _ (List.prefix_refl _) text hfile
  · exact hfree.passable r' hr' g hg q hq text (hsame.trans hfile)
  · rw [hnone] at hfile
    cases hfile

/-! ## Rendering one resource -/

/-- A resource whose objects can be built, and whose paths the operating system takes. -/
structure Renderable (ctx : Context) (r : Resource) : Prop where
  built : ∀ o ∈ ctx.objects r, ∃ c, o = .ok c
  fits : Provider.PathsFit (ctx.directory r) (ctx.registered r)

/-- A resource whose objects can be built is renderable when its directory has room for its files. -/
theorem renderable_of_fits (hbuilt : ∀ o ∈ ctx.objects r, ∃ c, o = .ok c) (hfits : (ctx.directory r).Fits 128) :
    ctx.Renderable r := by
  obtain ⟨p, hregister⟩ := registerResource_of_built hbuilt
  obtain ⟨-, -, hregisters, -⟩ := registerResource_eq_ok hregister
  refine ⟨hbuilt, fun g hg => fits_group hfits hg, ?_⟩
  intro m hm
  obtain ⟨hplain, hgroup⟩ := hregisters.regular m hm
  have hidentity : m.identity ∈ r.identities := by
    rw [← identities_of_registers hregisters]
    exact List.mem_map_of_mem hm
  obtain ⟨hnul, hshort⟩ := r.fileBytes_short m.identity hidentity
  exact fits_file hfits hplain hgroup hnul hshort

/-- A resource can be rendered exactly when it is renderable and its ways are free. -/
theorem renderResource_succeeds_iff (hctx : ctx.Sound) :
    Action.succeeds (ctx.renderResource cwd r) t = true ↔ ctx.Renderable r ∧ Free ctx cwd [r] t := by
  cases hregister : ctx.registerResource r (ctx.layout.provider ctx.environment r) with
  | error e p =>
    refine iff_of_false ?_ ?_
    · rw [Action.succeeds_iff]
      rintro ⟨paths, t', h⟩
      rw [renderResource_eq_error hregister] at h
      cases h
    · rintro ⟨hrenderable, -⟩
      obtain ⟨p', hok⟩ := registerResource_of_built hrenderable.built
      rw [hregister] at hok
      cases hok
  | ok u p =>
    obtain ⟨hdirectory, hmanifests, hregisters, -⟩ := registerResource_eq_ok hregister
    have hplain : ∀ m ∈ p.manifests, m.Plain := fun m hm => (hregisters.regular m (hmanifests ▸ hm)).1
    have hwrite : Action.succeeds (p.write cwd) t = true ↔ Provider.PathsFit p.directory p.manifests ∧
        t.Starts cwd p.directory ∧ ∀ g ∈ Manifest.groupNames, t.Passable (groupPlace (p.directory.place cwd) g) :=
      Provider.write_succeeds_iff hplain (hdirectory ▸ hctx.directory r) (hmanifests ▸ registered_ne_nil hregisters)
    have hstarts : t.Starts cwd (ctx.directory r) ↔ t.Starts cwd ctx.layout.root :=
      Provider.starts_iff_of_names (components_directory hctx r)
    rw [hdirectory, hmanifests, hstarts] at hwrite
    rw [Action.succeeds_iff, renderResource_eq_write hregister, ← Action.succeeds_iff, hwrite]
    constructor
    · rintro ⟨hfits, hstart, hpass⟩
      refine ⟨⟨?_, hfits⟩, hstart, ?_⟩
      · intro o ho
        obtain ⟨m, -, c, hc, -⟩ := exists_left_of_mem (List.Forall₂.flip hregisters) ho
        exact ⟨c, hc⟩
      · intro r' hr'
        rw [List.mem_singleton.mp hr']
        exact hpass
    · rintro ⟨hrenderable, hfree⟩
      exact ⟨hrenderable.fits, hfree.starts, hfree.passable r List.mem_cons_self⟩

/-- Rendering a resource makes no other one possible or impossible to render. -/
theorem succeeds_after (hctx : ctx.Sound) {paths : List Path} (h : ctx.renderResource cwd r t = .ok paths t') (r' : Resource) :
    Action.succeeds (ctx.renderResource cwd r') t' = true ↔ Action.succeeds (ctx.renderResource cwd r') t = true := by
  have hown : Free ctx cwd [r] t := ((renderResource_succeeds_iff hctx).mp (Action.succeeds_iff.mpr ⟨paths, t', h⟩)).2
  rw [renderResource_succeeds_iff hctx, renderResource_succeeds_iff hctx]
  refine and_congr_right ?_
  intro _
  constructor
  · intro hfree
    exact hfree.before hown hctx h
  · intro hfree
    exact hfree.next hctx h

/-! ## Rendering resources in turn -/

/-- Resources can be rendered in turn exactly when each of them can be rendered to begin with. -/
theorem renderAll_succeeds_iff (hctx : ctx.Sound) :
    Action.succeeds (ctx.renderAll cwd rs) t = true ↔ ∀ r ∈ rs, Action.succeeds (ctx.renderResource cwd r) t = true := by
  induction rs generalizing t with
  | nil => simp [Action.succeeds, renderAll, pure, EStateM.pure]
  | cons r rest ih =>
    rw [Action.succeeds_iff, renderAll_cons]
    constructor
    · rintro ⟨paths, t', h⟩
      obtain ⟨first, s, hfirst, h⟩ := Action.bind_eq_ok.mp h
      obtain ⟨others, s', hrest, -⟩ := Action.bind_eq_ok.mp h
      intro r' hr'
      rcases List.mem_cons.mp hr' with rfl | hr'
      · exact Action.succeeds_iff.mpr ⟨first, s, hfirst⟩
      · exact (succeeds_after hctx hfirst r').mp (ih.mp (Action.succeeds_iff.mpr ⟨others, s', hrest⟩) r' hr')
    · intro h
      obtain ⟨first, s, hfirst⟩ := Action.succeeds_iff.mp (h r List.mem_cons_self)
      have hrest : ∀ r' ∈ rest, Action.succeeds (ctx.renderResource cwd r') s = true := by
        intro r' hr'
        exact (succeeds_after hctx hfirst r').mpr (h r' (List.mem_cons_of_mem r hr'))
      obtain ⟨others, t', hothers⟩ := Action.succeeds_iff.mp (ih.mpr hrest)
      refine ⟨first ++ others, t', Action.bind_eq_ok.mpr ⟨first, s, hfirst, ?_⟩⟩
      exact Action.bind_eq_ok.mpr ⟨others, t', hothers, rfl⟩

/-- Rendering resources in turn makes no other one possible or impossible to render. -/
theorem succeeds_after_all (hctx : ctx.Sound) {paths : List Path} (h : ctx.renderAll cwd rs t = .ok paths t') (r' : Resource) :
    Action.succeeds (ctx.renderResource cwd r') t' = true ↔ Action.succeeds (ctx.renderResource cwd r') t = true := by
  induction rs generalizing paths t with
  | nil =>
    obtain ⟨-, rfl⟩ := EStateM.Result.ok.inj h
    exact Iff.rfl
  | cons r rest ih =>
    rw [renderAll_cons] at h
    obtain ⟨first, s, hfirst, h⟩ := Action.bind_eq_ok.mp h
    obtain ⟨others, s', hrest, hpaths⟩ := Action.bind_eq_ok.mp h
    obtain ⟨-, rfl⟩ := EStateM.Result.ok.inj hpaths
    exact (ih hrest).trans (succeeds_after hctx hfirst r')

/-- Resources whose objects can be built and whose paths fit can be rendered in turn when their ways are free. -/
theorem renderAll_of_free (hctx : ctx.Sound) (hbuilt : ∀ r ∈ rs, ∀ o ∈ ctx.objects r, ∃ c, o = .ok c)
    (hfits : ∀ r ∈ rs, (ctx.directory r).Fits 128) (hfree : Free ctx cwd rs t) :
    ∃ paths t', ctx.renderAll cwd rs t = .ok paths t' := by
  rw [← Action.succeeds_iff, renderAll_succeeds_iff hctx]
  intro r hr
  refine (renderResource_succeeds_iff hctx).mpr ⟨renderable_of_fits (hbuilt r hr) (hfits r hr), hfree.starts, ?_⟩
  intro r' hr'
  rw [List.mem_singleton.mp hr']
  exact hfree.passable r hr

end Context

end ManifestTree
