import ManifestTree.Proofs.Layout.Directories
import ManifestTree.Proofs.Provider.Writing
import ManifestTree.Proofs.Render.Objects

/-!
# What rendering leaves behind

Rendering a resource replaces what its two group directories hold by the manifests registered for it (`renderResource_eq_ok`), and
rendering resources in turn does so for each of them (`renderAll_eq_ok`): the directories of different resources do not lie in one
another, so what is rendered later leaves alone what was rendered before (`lookup_of_other_place`). Whether it succeeds or fails,
nothing else changes but missing directories on the way (`renderAll_keeps`).
-/

namespace ManifestTree

namespace Context

/-- The directory of a resource. -/
def directory (ctx : Context) (r : Resource) : Path := ctx.layout.resourcePath ctx.environment r

/-- The place of a resource's directory. -/
def place (ctx : Context) (cwd : Place) (r : Resource) : Place := (ctx.directory r).place cwd

/-- The manifests registered for a resource; none when its objects cannot be registered. -/
def registered (ctx : Context) (r : Resource) : List Manifest :=
  match ctx.registerResource r (ctx.layout.provider ctx.environment r) with
  | .ok _ p => p.manifests
  | .error _ _ => []

/-- The paths of a resource's manifests, in the order they were registered. -/
def writtenPaths (ctx : Context) (r : Resource) : List Path :=
  (ctx.registered r).map fun m => (ctx.directory r).join m.relativePath

/-- A context whose manifests are kept without `..`, below a segment that is one directory. -/
structure Sound (ctx : Context) : Prop where
  descends : ctx.layout.root.Descends
  plain : ctx.layout.Plain

/-- What rendering leaves in the directory of a resource: a manifest for each of its objects and nothing besides. -/
structure Rendered (ctx : Context) (cwd : Place) (t : FileTree) (r : Resource) : Prop where
  objects : Registers (ctx.objects r) (ctx.registered r)
  manifests : Holds t (groupPlace (ctx.place cwd r) Manifest.plainGroup) (ctx.registered r)
  definitions : t.lookup (groupPlace (ctx.place cwd r) Manifest.definitionGroup) = none

/-- Where rendering some resources may change a tree. -/
def footprint (ctx : Context) (cwd : Place) (rs : List Resource) : Footprint where
  inside q := ∃ r ∈ rs, (Footprint.groups (ctx.place cwd r)).inside q
  above q := ∃ r ∈ rs, (Footprint.groups (ctx.place cwd r)).above q

variable {ctx : Context} {cwd : Place} {r : Resource} {rs : List Resource} {t t' : FileTree}

/-! ## The directories of resources -/

theorem components_directory (h : ctx.Sound) (r : Resource) : (ctx.directory r).components =
    ctx.layout.root.components ++ (ctx.layout.resourceNames ctx.environment r).map .name :=
  Layout.components_resourcePath h.plain ctx.environment r

theorem Sound.directory (h : ctx.Sound) (r : Resource) : (ctx.directory r).Descends :=
  Path.descends_of_names (components_directory h r) h.descends

/-- The directory of a resource is four names below the place of all manifests. -/
theorem place_eq (h : ctx.Sound) (cwd : Place) (r : Resource) :
    ctx.place cwd r = ctx.layout.root.place cwd ++ ctx.layout.resourceNames ctx.environment r :=
  Path.place_of_names (components_directory h r) cwd

theorem length_place (h : ctx.Sound) (cwd : Place) (r : Resource) :
    (ctx.place cwd r).length = (ctx.layout.root.place cwd).length + 4 := by
  rw [place_eq h, List.length_append]
  rfl

theorem length_place_congr (h : ctx.Sound) (cwd : Place) (r r' : Resource) :
    (ctx.place cwd r).length = (ctx.place cwd r').length := by
  rw [length_place h, length_place h]

/-- Different resources of a context have different directories. -/
theorem place_injective (h : ctx.Sound) {r' : Resource} (heq : ctx.place cwd r = ctx.place cwd r') : r = r' := by
  rw [place_eq h, place_eq h, List.append_cancel_left_eq] at heq
  exact (Layout.resourceNames_inj.mp heq).2

/-- Places at the same depth above one place are the same. -/
theorem eq_of_common_below {p p' q : Place} (hp : p <+: q) (hp' : p' <+: q) (hlength : p.length = p'.length) : p = p' :=
  (List.prefix_of_prefix_length_le hp hp' hlength.le).eq_of_length hlength

/-- Only one resource has its directory above a place. -/
theorem eq_of_places_above (h : ctx.Sound) {r' : Resource} {q : Place} (hr : ctx.place cwd r <+: q)
    (hr' : ctx.place cwd r' <+: q) : r = r' :=
  place_injective h (eq_of_common_below hr hr' (length_place_congr h cwd r r'))

/-- The directory of a resource lies above whatever lies in its groups. -/
theorem prefix_of_inside {d q : Place} (h : (Footprint.groups d).inside q) : d <+: q := by
  rcases h with h | h
  · exact (List.prefix_append d _).trans h
  · exact (List.prefix_append d _).trans h

/-- What is changed for some resources is not seen outside their groups and above none of their directories. -/
theorem lookup_eq_outside {q : Place} (h : Confined (ctx.footprint cwd rs) t t')
    (hq : ∀ r ∈ rs, ¬ ((Footprint.groups (ctx.place cwd r)).inside q ∨ q <+: ctx.place cwd r)) : t'.lookup q = t.lookup q := by
  refine h.lookup_eq ?_ ?_
  · rintro ⟨r, hr, hin⟩
    exact hq r hr (Or.inl hin)
  · rintro ⟨r, hr, habove⟩
    exact hq r hr (Or.inr habove)

/-- What is changed for some resources is not seen in the groups of a directory at the same depth that is none of theirs. -/
theorem lookup_of_other_place {d : Place} (h : Confined (ctx.footprint cwd rs) t t') (hne : ∀ r ∈ rs, ctx.place cwd r ≠ d)
    (hlength : ∀ r ∈ rs, (ctx.place cwd r).length = d.length) (g : String) (q : Place) :
    t'.lookup (groupPlace d g ++ q) = t.lookup (groupPlace d g ++ q) := by
  have hd : d <+: groupPlace d g ++ q := (List.prefix_append d _).trans (List.prefix_append _ q)
  refine lookup_eq_outside h ?_
  rintro r hr (hin | habove)
  · exact hne r hr (eq_of_common_below (prefix_of_inside hin) hd (hlength r hr))
  · have hle := habove.length_le
    have hlen := hlength r hr
    simp only [groupPlace, List.length_append, List.length_cons, List.length_nil] at hle
    omega

/-- What is left in a resource's directory depends only on its groups. -/
theorem Rendered.congr (h : Rendered ctx cwd t r) (hsame : ∀ g q,
    t'.lookup (groupPlace (ctx.place cwd r) g ++ q) = t.lookup (groupPlace (ctx.place cwd r) g ++ q)) :
    Rendered ctx cwd t' r where
  objects := h.objects
  manifests := h.manifests.congr (hsame _)
  definitions := by
    have hgroup := hsame Manifest.definitionGroup []
    rw [List.append_nil] at hgroup
    rw [hgroup]
    exact h.definitions

/-- What is changed for other resources leaves a resource rendered. -/
theorem Rendered.of_others (h : Rendered ctx cwd t r) (hctx : ctx.Sound) (hothers : Confined (ctx.footprint cwd rs) t t')
    (hr : r ∉ rs) : Rendered ctx cwd t' r := by
  refine h.congr fun g q => lookup_of_other_place hothers ?_ ?_ g q
  · intro r' hr' heq
    exact hr (place_injective hctx heq ▸ hr')
  · intro r' _
    exact length_place_congr hctx cwd r' r

/-- A manifest registered for a resource is written to its file in the plain group. -/
theorem place_join_relativePath (cwd : Place) (h : Registers (ctx.objects r) (ctx.registered r)) {m : Manifest}
    (hm : m ∈ ctx.registered r) : ((ctx.directory r).join m.relativePath).place cwd =
      groupPlace (ctx.place cwd r) Manifest.plainGroup ++ [Utf8.encode m.fileName] := by
  obtain ⟨hplain, hgroup⟩ := h.regular m hm
  rw [Path.place_of_names (Provider.components_join_relativePath _ hplain), Manifest.relativeNames, hgroup, groupPlace,
    List.append_assoc]
  rfl

/-- Every path of a resource is a file name below one of the groups of its directory. -/
theorem exists_file_of_mem_writtenPaths (h : Registers (ctx.objects r) (ctx.registered r)) {path : Path}
    (hpath : path ∈ ctx.writtenPaths r) : ∃ g ∈ Manifest.groupNames, ∃ file,
      Path.IsName (Utf8.encode file) ∧ path = ((ctx.directory r).joinText g).joinText file := by
  obtain ⟨m, hm, rfl⟩ := List.mem_map.mp hpath
  exact ⟨m.group, m.group_mem_groupNames, m.fileName, (h.regular m hm).1.isName_fileName, m.join_relativePath _⟩

/-- The paths of a resource lead to the files of its manifests, in the order these were registered. -/
theorem place_writtenPaths (cwd : Place) (h : Registers (ctx.objects r) (ctx.registered r)) :
    (ctx.writtenPaths r).map (fun p => p.place cwd) = (ctx.registered r).map fun m =>
      groupPlace (ctx.place cwd r) Manifest.plainGroup ++ [Utf8.encode m.fileName] := by
  unfold writtenPaths
  rw [List.map_map]
  refine List.map_congr_left ?_
  intro m hm
  rw [Function.comp_apply, place_join_relativePath cwd h hm]

/-- Every resource has a manifest. -/
theorem registered_ne_nil (h : Registers (ctx.objects r) (ctx.registered r)) : ctx.registered r ≠ [] := by
  intro hnil
  have hlength := List.Forall₂.length_eq h
  rw [hnil, List.length_nil, List.length_eq_zero_iff] at hlength
  exact objects_ne_nil ctx r hlength

/-- Directories stand above the directory of a resource that was rendered. -/
theorem Rendered.lookup_above (h : Rendered ctx cwd t r) {q : Place} (hq : q <+: ctx.place cwd r) :
    t.lookup q = some .directory := h.manifests.lookup_above (registered_ne_nil h.objects) hq

/-- The directory of a resource that was rendered stands. -/
theorem Rendered.lookup_place (h : Rendered ctx cwd t r) : t.lookup (ctx.place cwd r) = some .directory :=
  h.lookup_above (List.prefix_refl _)

/-- Wherever a resource was rendered, its groups and what is above them look the same. -/
theorem Rendered.lookup_eq (h : Rendered ctx cwd t r) (h' : Rendered ctx cwd t' r) {q : Place}
    (hq : (Footprint.groups (ctx.place cwd r)).inside q ∨ q <+: ctx.place cwd r) : t'.lookup q = t.lookup q := by
  rcases hq with hin | habove
  · obtain ⟨g, hg, s, rfl⟩ := Footprint.inside_groups_iff.mp hin
    rcases Manifest.groupNames_cases hg with rfl | rfl
    · rw [FileTree.lookup_of_prefix_none h.definitions (List.prefix_append _ s),
        FileTree.lookup_of_prefix_none h'.definitions (List.prefix_append _ s)]
    · exact h.manifests.lookup_eq h'.manifests s
  · rw [h.lookup_above habove, h'.lookup_above habove]

/-! ## Rendering one resource -/

/-- A resource whose objects could be registered: each has its manifest, all of them plain and at different paths. -/
theorem registerResource_eq_ok {p : Provider} (h : ctx.registerResource r (ctx.layout.provider ctx.environment r) = .ok () p) :
    p.directory = ctx.directory r ∧ p.manifests = ctx.registered r ∧ Registers (ctx.objects r) (ctx.registered r) ∧
      Distinct (ctx.registered r) := by
  have hregistered : ctx.registered r = p.manifests := by
    unfold registered
    rw [h]
  obtain ⟨hdirectory, ms, hms, hregisters⟩ := Provider.registerAll_eq_ok h
  have hdistinct := Provider.registerAll_distinct h .nil
  rw [hregistered]
  refine ⟨hdirectory, rfl, ?_, hdistinct⟩
  rw [hms]
  exact hregisters

/-- The manifests of one group are all of them in their own group and none in the other. -/
theorem ofGroup_of_regular {ms : List Manifest} (h : ∀ m ∈ ms, m.Plain ∧ m.group = Manifest.plainGroup) :
    ofGroup Manifest.plainGroup ms = ms ∧ ofGroup Manifest.definitionGroup ms = [] := by
  constructor
  · refine List.filter_eq_self.mpr ?_
    intro m hm
    exact decide_eq_true (h m hm).2
  · refine List.filter_eq_nil_iff.mpr ?_
    intro m hm hgroup
    rw [(h m hm).2] at hgroup
    exact absurd hgroup (by decide)

/-- A resource whose objects could be registered is rendered by writing them. -/
theorem renderResource_eq_write {p : Provider} (h : ctx.registerResource r (ctx.layout.provider ctx.environment r) = .ok () p) :
    ctx.renderResource cwd r t = p.write cwd t := by
  unfold renderResource
  rw [h]

/-- A resource whose objects could not be registered is not rendered, and nothing is done. -/
theorem renderResource_eq_error {p : Provider} {e : RenderError}
    (h : ctx.registerResource r (ctx.layout.provider ctx.environment r) = .error e p) :
    ctx.renderResource cwd r t = .error e t := by
  unfold renderResource
  rw [h]

/-- A resource that was rendered, wherever it is kept: each of its objects was registered, and a path for each is given. -/
theorem renderResource_paths {paths : List Path} (h : ctx.renderResource cwd r t = .ok paths t') :
    paths = ctx.writtenPaths r ∧ Registers (ctx.objects r) (ctx.registered r) := by
  cases hregister : ctx.registerResource r (ctx.layout.provider ctx.environment r) with
  | error e p => simp [renderResource_eq_error hregister] at h
  | ok u p =>
    rw [renderResource_eq_write hregister] at h
    obtain ⟨hdirectory, hmanifests, hregisters, -⟩ := registerResource_eq_ok hregister
    refine ⟨?_, hregisters⟩
    rw [Provider.write_paths h, hdirectory, hmanifests]
    rfl

/-- A resource that was rendered: its paths, and what its directory holds now. -/
theorem renderResource_eq_ok {paths : List Path} (hctx : ctx.Sound) (h : ctx.renderResource cwd r t = .ok paths t') :
    paths = ctx.writtenPaths r ∧ Rendered ctx cwd t' r := by
  refine ⟨(renderResource_paths h).1, ?_⟩
  cases hregister : ctx.registerResource r (ctx.layout.provider ctx.environment r) with
  | error e p => simp [renderResource_eq_error hregister] at h
  | ok u p =>
    rw [renderResource_eq_write hregister] at h
    obtain ⟨hdirectory, hmanifests, hregisters, hdistinct⟩ := registerResource_eq_ok hregister
    have hregular := hregisters.regular
    obtain ⟨hplain, hdefinitions⟩ := ofGroup_of_regular hregular
    have hholds := Provider.write_eq_ok (hdirectory ▸ hctx.directory r)
      (fun m hm => (hregular m (hmanifests ▸ hm)).1) (hmanifests ▸ hdistinct) h
    rw [hdirectory, hmanifests] at hholds
    have hmanifestGroup := hholds Manifest.plainGroup (by decide)
    have hdefinitionGroup := hholds Manifest.definitionGroup (by decide)
    rw [hplain] at hmanifestGroup
    rw [hdefinitions] at hdefinitionGroup
    exact ⟨hregisters, hmanifestGroup, hdefinitionGroup.directory⟩

/-- Rendering a resource goes no further than writing its plain manifests does: when its objects cannot be registered it does
nothing. -/
theorem renderResource_keeps_of_write {f : Footprint} {cwd : Place} (h : ∀ p : Provider, p.directory = ctx.directory r →
    (∀ m ∈ p.manifests, m.Plain) → Action.Keeps f (p.write cwd)) : Action.Keeps f (ctx.renderResource cwd r) := by
  intro t
  cases hregister : ctx.registerResource r (ctx.layout.provider ctx.environment r) with
  | error e p =>
    rw [Action.after_of_error (renderResource_eq_error hregister)]
    exact Confined.refl _ t
  | ok u p =>
    obtain ⟨hdirectory, hmanifests, hregisters, -⟩ := registerResource_eq_ok hregister
    rw [Action.after_congr (renderResource_eq_write hregister)]
    exact h p hdirectory (fun m hm => (hregisters.regular m (hmanifests ▸ hm)).1) t

/-- Rendering a resource changes nothing outside its group directories but missing directories on the way to them. -/
theorem renderResource_keeps (hctx : ctx.Sound) (cwd : Place) (r : Resource) :
    Action.Keeps (.groups (ctx.place cwd r)) (ctx.renderResource cwd r) := by
  refine renderResource_keeps_of_write ?_
  intro p hdirectory hplain
  have hwrite := Provider.write_keeps (hdirectory ▸ hctx.directory r) hplain cwd
  rw [hdirectory] at hwrite
  exact hwrite

/-! ## Rendering resources in turn -/

theorem renderAll_cons (ctx : Context) (cwd : Place) (r : Resource) (rest : List Resource) :
    ctx.renderAll cwd (r :: rest) = (ctx.renderResource cwd r >>= fun first =>
      ctx.renderAll cwd rest >>= fun others => pure (first ++ others)) := rfl

/-- Rendering resources in turn goes no further than rendering each of them does. -/
theorem renderAll_keeps_of_each {f : Footprint} {cwd : Place} (h : ∀ r ∈ rs, Action.Keeps f (ctx.renderResource cwd r)) :
    Action.Keeps f (ctx.renderAll cwd rs) := by
  induction rs with
  | nil => exact .pure _
  | cons r rest ih =>
    rw [renderAll_cons]
    refine .bind (h r List.mem_cons_self) ?_
    intro _
    exact .bind (ih fun r' hr' => h r' (List.mem_cons_of_mem r hr')) fun _ => .pure _

theorem groups_within_footprint (hr : r ∈ rs) : (Footprint.groups (ctx.place cwd r)).Within (ctx.footprint cwd rs) where
  inside _ hin := ⟨r, hr, hin⟩
  above _ habove := Or.inl ⟨r, hr, habove⟩

/-- More resources have a wider footprint. -/
theorem footprint_mono {rs' : List Resource} (h : rs ⊆ rs') : (ctx.footprint cwd rs).Within (ctx.footprint cwd rs') where
  inside := fun _ ⟨r, hr, hin⟩ => ⟨r, h hr, hin⟩
  above := fun _ ⟨r, hr, habove⟩ => Or.inl ⟨r, h hr, habove⟩

/-- Rendering one resource stays within its own footprint. -/
theorem renderResource_keeps_footprint (hctx : ctx.Sound) (cwd : Place) (r : Resource) :
    Action.Keeps (ctx.footprint cwd [r]) (ctx.renderResource cwd r) :=
  (renderResource_keeps hctx cwd r).mono (groups_within_footprint List.mem_cons_self)

/-- Rendering resources in turn changes nothing outside their group directories but missing directories on the way to them. -/
theorem renderAll_keeps (hctx : ctx.Sound) (cwd : Place) (rs : List Resource) :
    Action.Keeps (ctx.footprint cwd rs) (ctx.renderAll cwd rs) :=
  renderAll_keeps_of_each fun r hr => (renderResource_keeps hctx cwd r).mono (groups_within_footprint hr)

/-- Resources that were rendered in turn: their paths, and what each of their directories holds at the end. -/
theorem renderAll_eq_ok {paths : List Path} (hctx : ctx.Sound) (h : ctx.renderAll cwd rs t = .ok paths t') :
    paths = rs.flatMap ctx.writtenPaths ∧ ∀ r ∈ rs, Rendered ctx cwd t' r := by
  induction rs generalizing paths t with
  | nil =>
    cases h
    exact ⟨rfl, by simp⟩
  | cons r rest ih =>
    rw [renderAll_cons] at h
    obtain ⟨first, s, hfirst, h⟩ := Action.bind_eq_ok.mp h
    obtain ⟨others, s', hrest, hpaths⟩ := Action.bind_eq_ok.mp h
    obtain ⟨rfl, rfl⟩ := EStateM.Result.ok.inj hpaths
    obtain ⟨hfirstPaths, hrendered⟩ := renderResource_eq_ok hctx hfirst
    obtain ⟨hothers, hall⟩ := ih hrest
    refine ⟨by rw [hfirstPaths, hothers, List.flatMap_cons], ?_⟩
    intro r' hr'
    by_cases hmem : r' ∈ rest
    · exact hall r' hmem
    · -- A resource that is not rendered again keeps what the first rendering left.
      obtain rfl : r' = r := by
        rcases List.mem_cons.mp hr' with hr' | hr'
        · exact hr'
        · exact absurd hr' hmem
      exact hrendered.of_others hctx ((renderAll_keeps hctx cwd rest).of_ok hrest) hmem

/-- An environment that was rendered: the paths, and what the directory of each selected resource holds. -/
theorem renderEnvironment_eq_ok {selection : List Resource} {paths : List Path} (hctx : ctx.Sound)
    (h : ctx.renderEnvironment cwd selection t = .ok paths t') :
    paths = (effective selection).flatMap ctx.writtenPaths ∧ ∀ r ∈ effective selection, Rendered ctx cwd t' r :=
  renderAll_eq_ok hctx h

theorem renderEnvironment_keeps (hctx : ctx.Sound) (cwd : Place) (selection : List Resource) :
    Action.Keeps (ctx.footprint cwd (effective selection)) (ctx.renderEnvironment cwd selection) :=
  renderAll_keeps hctx cwd (effective selection)

end Context

end ManifestTree
