import ManifestTree.Proofs.CommandLine.ResourcePath
import ManifestTree.Proofs.FileTree.Commuting
import ManifestTree.Proofs.Provider.Replacing
import ManifestTree.Proofs.Render.Selections

/-!
# Definitions beside rendered manifests

The definitions of custom resources are written below `crds`, and everything rendered lies below `generated`, so the two commands do
not see each other: in either order they succeed together, leave the same tree behind and print the same (`crds_beside_render`). This
does not depend on the scratch name, which comes below `generated`. What `crds` prints are the paths of the definitions that are there
afterwards (`DefinitionsShown`).
-/

namespace ManifestTree

/-! ## The definitions -/

/-- The manifests of all definitions, in the order they are registered. -/
def definitionManifests : List Manifest := CustomResourceDefinition.all.filterMap fun d => (Candidate.ofObject d).manifest?

/-- The provider for a directory with all definitions. -/
def definitionsIn (directory : Path) : Provider := ⟨"render-crds", directory, definitionManifests⟩

theorem registers_definitions :
    Registers (CustomResourceDefinition.all.map fun d => .ok (.ofObject d)) definitionManifests :=
  .cons ⟨_, rfl, rfl⟩ (.cons ⟨_, rfl, rfl⟩ .nil)

/-- Every definition is plain, and it is kept in the group of definitions. -/
theorem definition_regular : ∀ m ∈ definitionManifests, m.Plain ∧ m.isDefinition = true := by decide +kernel

/-- The files of the definitions have different names. -/
theorem distinct_definitions : Distinct definitionManifests :=
  Manifest.distinct_of_identities (fun m hm => (definition_regular m hm).1) (by decide +kernel)

theorem definitionManifests_ne_nil : definitionManifests ≠ [] := List.cons_ne_nil _ _

/-- All definitions can be registered. -/
theorem definitionsProvider_eq (directory : Path) : definitionsProvider directory = .ok () (definitionsIn directory) :=
  Provider.registerAll_of_distinct (p := .new "render-crds" directory) registers_definitions distinct_definitions

namespace Provider

variable {cwd : Place} {directory : Path} {t t' : FileTree}

/-- Writing manifests settles what is in the groups. -/
theorem write_settles {p : Provider} (hdown : p.directory.Descends) (hplain : ∀ m ∈ p.manifests, m.Plain)
    (hdistinct : Distinct p.manifests) (hne : p.manifests ≠ []) :
    Action.Settles (.groups (p.directory.place cwd)) (p.write cwd) where
  inside t paths t' s paths' s' h h' q hq := by
    obtain ⟨g, hg, r, rfl⟩ := Footprint.inside_groups_iff.mp hq
    exact (write_eq_ok hdown hplain hdistinct h g hg).lookup_eq (write_eq_ok hdown hplain hdistinct h' g hg) r
  above t paths t' h := (replaced_of_write hdown hplain hdistinct h).above hne

end Provider

/-! ## Apart from what is rendered -/

namespace Layout

/-- The name of the directory of definitions below the root of all manifests. -/
def definitionsName : Name := Utf8.encode "crds"

/-- The directory of definitions. -/
def definitions (l : Layout) : Path := CommandLine.definitionsDirectory l none

variable {l : Layout}

theorem components_definitions (l : Layout) : l.definitions.components = l.root.components ++ [definitionsName].map .name :=
  Path.components_joinText (p := l.root) (s := "crds") (by decide)

theorem descends_definitions (h : l.root.Descends) : l.definitions.Descends :=
  Path.descends_of_names (components_definitions l) h

theorem place_definitions (l : Layout) (cwd : Place) : l.definitions.place cwd = l.root.place cwd ++ [definitionsName] :=
  Path.place_of_names (components_definitions l) cwd

/-- Writing the definitions changes nothing outside their groups but missing directories above these. -/
theorem definitions_keep (h : l.root.Descends) (cwd : Place) :
    Action.Keeps (.groups (l.definitions.place cwd)) ((definitionsIn l.definitions).write cwd) :=
  Provider.write_keeps (p := definitionsIn l.definitions) (descends_definitions h) (fun m hm => (definition_regular m hm).1) cwd

/-- Writing the definitions settles what is in their groups. -/
theorem definitions_settle (h : l.root.Descends) (cwd : Place) :
    Action.Settles (.groups (l.definitions.place cwd)) ((definitionsIn l.definitions).write cwd) :=
  Provider.write_settles (p := definitionsIn l.definitions) (descends_definitions h) (fun m hm => (definition_regular m hm).1)
    distinct_definitions definitionManifests_ne_nil

end Layout

namespace Context

variable {ctx : Context} {cwd : Place} {rs : List Resource} {r : Resource} {t t' : FileTree}

/-- Nothing lies both where definitions are kept and where everything generated is. -/
theorem not_definitions_and_generated {d q : Place} (h : d ++ [Layout.definitionsName] <+: q)
    (h' : d ++ [Utf8.encode Layout.generatedName] <+: q) : False := by
  have heq := eq_of_common_below h h' (by simp)
  rw [List.append_cancel_left_eq] at heq
  exact absurd heq (by decide)

/-- The directory of a resource lies below everything generated. -/
theorem generated_prefix_place (hctx : ctx.Sound) (cwd : Place) (r : Resource) :
    ctx.layout.root.place cwd ++ [Utf8.encode Layout.generatedName] <+: ctx.place cwd r := by
  rw [place_eq hctx, List.prefix_append_right_inj]
  exact ⟨_, rfl⟩

theorem definitions_prefix_group (ctx : Context) (cwd : Place) (g : String) :
    ctx.layout.root.place cwd ++ [Layout.definitionsName] <+: groupPlace (ctx.layout.definitions.place cwd) g := by
  rw [groupPlace, Layout.place_definitions]
  exact List.prefix_append _ _

/-- Definitions and rendered manifests are kept apart. -/
theorem definitions_apart (hctx : ctx.Sound) (cwd : Place) (rs : List Resource) :
    (Footprint.groups (ctx.layout.definitions.place cwd)).Apart (ctx.footprint cwd rs) where
  left q hq := by
    obtain ⟨g, -, hq⟩ := Footprint.inside_groups_iff.mp hq
    have hbelow := (definitions_prefix_group ctx cwd g).trans hq
    constructor
    · rintro ⟨r, -, hin⟩
      exact not_definitions_and_generated hbelow ((generated_prefix_place hctx cwd r).trans (prefix_of_inside hin))
    · rintro ⟨r, -, habove⟩
      exact not_definitions_and_generated (hbelow.trans habove) (generated_prefix_place hctx cwd r)
  right q := by
    rintro ⟨r, -, hin⟩
    have hbelow := (generated_prefix_place hctx cwd r).trans (prefix_of_inside hin)
    constructor
    · intro hq
      obtain ⟨g, -, hq⟩ := Footprint.inside_groups_iff.mp hq
      exact not_definitions_and_generated ((definitions_prefix_group ctx cwd g).trans hq) hbelow
    · intro habove
      have hown : q <+: ctx.layout.root.place cwd ++ [Layout.definitionsName] := Layout.place_definitions ctx.layout cwd ▸ habove
      exact not_definitions_and_generated (List.prefix_refl _) (hbelow.trans hown)

/-- Rendering resources settles what is in their directories. -/
theorem renderAll_settles (hctx : ctx.Sound) (cwd : Place) (rs : List Resource) :
    Action.Settles (ctx.footprint cwd rs) (ctx.renderAll cwd rs) where
  inside := by
    rintro t paths t' s paths' s' h h' q ⟨r, hr, hq⟩
    exact ((renderAll_eq_ok hctx h).2 r hr).lookup_eq ((renderAll_eq_ok hctx h').2 r hr) (Or.inl hq)
  above := by
    rintro t paths t' h q ⟨r, hr, hq⟩
    exact ((renderAll_eq_ok hctx h).2 r hr).lookup_above hq

/-! ## Success in either order -/

theorem definitions_starts_iff : t.Starts cwd ctx.layout.definitions ↔ t.Starts cwd ctx.layout.root :=
  Provider.starts_iff_of_names (Layout.components_definitions ctx.layout)

/-- When definitions can be written. -/
theorem writeDefinitions_succeeds_iff (hctx : ctx.Sound) :
    Action.succeeds ((definitionsIn ctx.layout.definitions).write cwd) t = true ↔
      Provider.PathsFit ctx.layout.definitions definitionManifests ∧ t.Starts cwd ctx.layout.root ∧
        ∀ g ∈ Manifest.groupNames, t.Passable (groupPlace (ctx.layout.definitions.place cwd) g) := by
  rw [← definitions_starts_iff]
  exact Provider.write_succeeds_iff (p := definitionsIn ctx.layout.definitions) (fun m hm => (definition_regular m hm).1)
    (Layout.descends_definitions hctx.descends) definitionManifests_ne_nil

/-- The way to the definitions does not lead through what is rendered. -/
theorem passable_definitions_iff (hctx : ctx.Sound) (h : Confined (ctx.footprint cwd rs) t t') (g : String) :
    t'.Passable (groupPlace (ctx.layout.definitions.place cwd) g) ↔ t.Passable (groupPlace (ctx.layout.definitions.place cwd) g) := by
  refine h.passable_iff ?_
  rintro q hq ⟨r, -, hin⟩
  exact not_definitions_and_generated (definitions_prefix_group ctx cwd g)
    (((generated_prefix_place hctx cwd r).trans (prefix_of_inside hin)).trans hq)

/-- The way to a resource does not lead through the definitions. -/
theorem passable_resource_iff (hctx : ctx.Sound) (h : Confined (.groups (ctx.layout.definitions.place cwd)) t t') (g : String) :
    t'.Passable (groupPlace (ctx.place cwd r) g) ↔ t.Passable (groupPlace (ctx.place cwd r) g) := by
  refine h.passable_iff ?_
  intro q hq hin
  obtain ⟨g', -, hin⟩ := Footprint.inside_groups_iff.mp hin
  refine not_definitions_and_generated (((definitions_prefix_group ctx cwd g').trans hin).trans hq) ?_
  exact (generated_prefix_place hctx cwd r).trans (List.prefix_append _ _)

/-- Trees in which the same ways start and are passable are free alike for a resource. -/
theorem free_iff (hstarts : t'.Starts cwd ctx.layout.root ↔ t.Starts cwd ctx.layout.root)
    (hpass : ∀ g, t'.Passable (groupPlace (ctx.place cwd r) g) ↔ t.Passable (groupPlace (ctx.place cwd r) g)) :
    Free ctx cwd [r] t' ↔ Free ctx cwd [r] t := by
  have hfree : ∀ s, Free ctx cwd [r] s ↔ s.Starts cwd ctx.layout.root ∧
      ∀ g ∈ Manifest.groupNames, s.Passable (groupPlace (ctx.place cwd r) g) := by
    intro s
    constructor
    · intro h
      exact ⟨h.starts, h.passable r List.mem_cons_self⟩
    · rintro ⟨hstart, hways⟩
      refine ⟨hstart, ?_⟩
      intro r' hr'
      rw [List.mem_singleton.mp hr']
      exact hways
  simp only [hfree, hstarts, hpass]

/-- The definitions, once they were written, leave it as possible to render as it was. -/
theorem renderAll_succeeds_after_definitions (hctx : ctx.Sound) {paths : List Path}
    (h : (definitionsIn ctx.layout.definitions).write cwd t = .ok paths t') :
    Action.succeeds (ctx.renderAll cwd rs) t' = true ↔ Action.succeeds (ctx.renderAll cwd rs) t = true := by
  have hkeeps := (Layout.definitions_keep hctx.descends cwd).of_ok h
  have hstarts : t.Starts cwd ctx.layout.root :=
    ((writeDefinitions_succeeds_iff hctx).mp (Action.succeeds_iff.mpr ⟨paths, t', h⟩)).2.1
  have hstarts' : t'.Starts cwd ctx.layout.root := definitions_starts_iff.mp
    (Provider.starts_of_confined (Layout.descends_definitions hctx.descends) (definitions_starts_iff.mpr hstarts) hkeeps)
  have hfree : ∀ r, Free ctx cwd [r] t' ↔ Free ctx cwd [r] t := fun r => free_iff (iff_of_true hstarts' hstarts) fun g =>
    passable_resource_iff hctx hkeeps g
  simp only [renderAll_succeeds_iff hctx, renderResource_succeeds_iff hctx, hfree]

/-- A selection always means some resource. -/
theorem effective_ne_nil (selection : List Resource) : effective selection ≠ [] := by
  unfold effective
  split
  · exact List.cons_ne_nil _ _
  · assumption

/-- Resources, once they were rendered, leave it as possible to write the definitions as it was. -/
theorem definitions_succeed_after_renderAll (hctx : ctx.Sound) (hne : rs ≠ []) {paths : List Path}
    (h : ctx.renderAll cwd rs t = .ok paths t') :
    Action.succeeds ((definitionsIn ctx.layout.definitions).write cwd) t' = true ↔
      Action.succeeds ((definitionsIn ctx.layout.definitions).write cwd) t = true := by
  have hkeeps := (renderAll_keeps hctx cwd rs).of_ok h
  obtain ⟨r, hr⟩ := List.exists_mem_of_ne_nil rs hne
  have hfirst := (renderAll_succeeds_iff hctx).mp (Action.succeeds_iff.mpr ⟨paths, t', h⟩) r hr
  have hstarts : t.Starts cwd ctx.layout.root := ((renderResource_succeeds_iff hctx).mp hfirst).2.starts
  have hstarts' : t'.Starts cwd ctx.layout.root := by
    refine hstarts.of_confined hctx.descends hkeeps ?_
    rintro q hq ⟨r', -, hin⟩
    have hle := (((generated_prefix_place hctx cwd r').trans (prefix_of_inside hin)).trans hq).length_le
    simp only [List.length_append, List.length_singleton] at hle
    omega
  simp only [writeDefinitions_succeeds_iff hctx, passable_definitions_iff hctx hkeeps, hstarts, hstarts']

end Context

namespace CommandLine

variable {c : Config} {cwd : Place} {e : Environment} {selection : List Resource} {lines : List String} {i : Invocation}
  {t t' : FileTree}

/-! ## The commands -/

/-- Definitions are written by their provider; a failure names the directory. -/
theorem writeDefinitions_cases {directory : Path} {p : Provider} (h : definitionsProvider directory = .ok () p) (cwd : Place)
    (t : FileTree) :
    (∃ paths t', p.write cwd t = .ok paths t' ∧ writeDefinitions cwd directory t = .ok paths t') ∨
      ∃ e t', p.write cwd t = .error e t' ∧
        writeDefinitions cwd directory t = .error (.within s!"Failed to write CRDs to {directory.display}" e) t' := by
  unfold writeDefinitions
  rw [h]
  dsimp only
  cases p.write cwd t with
  | ok paths t' => exact Or.inl ⟨paths, t', rfl, rfl⟩
  | error e t' => exact Or.inr ⟨e, t', rfl, rfl⟩

theorem writeDefinitions_eq_ok {directory : Path} {paths : List Path} :
    writeDefinitions cwd directory t = .ok paths t' ↔ (definitionsIn directory).write cwd t = .ok paths t' := by
  rcases writeDefinitions_cases (definitionsProvider_eq directory) cwd t with ⟨paths', s, hwrite, hrun⟩ | ⟨e, s, hwrite, hrun⟩
  · simp [hwrite, hrun]
  · simp [hwrite, hrun]

/-- What writing the definitions leaves behind is what their provider does. -/
theorem after_writeDefinitions (cwd : Place) (directory : Path) (t : FileTree) :
    Action.after (writeDefinitions cwd directory) t = Action.after ((definitionsIn directory).write cwd) t := by
  rcases writeDefinitions_cases (definitionsProvider_eq directory) cwd t with ⟨paths, s, hwrite, hrun⟩ | ⟨e, s, hwrite, hrun⟩
  · rw [Action.after_of_ok hrun, Action.after_of_ok hwrite]
  · rw [Action.after_of_error hrun, Action.after_of_error hwrite]

/-- What `crds` does: it writes the definitions and prints their paths. -/
theorem execute_crds (c : Config) (cwd : Place) : (Command.crds none).execute c cwd =
    (writeDefinitions cwd c.layout.definitions >>= fun paths => pure (paths.map Path.display)) := rfl

theorem execute_crds_eq_ok : (Command.crds none).execute c cwd t = .ok lines t' ↔
    ∃ paths, (definitionsIn c.layout.definitions).write cwd t = .ok paths t' ∧ lines = paths.map Path.display := by
  rw [execute_crds, Action.bind_eq_ok]
  constructor
  · rintro ⟨paths, s, hpaths, hlines⟩
    obtain ⟨rfl, rfl⟩ := EStateM.Result.ok.inj hlines
    exact ⟨paths, writeDefinitions_eq_ok.mp hpaths, rfl⟩
  · rintro ⟨paths, h, rfl⟩
    exact ⟨paths, t', writeDefinitions_eq_ok.mpr h, rfl⟩

/-- What `crds` changes lies in the groups of the definitions, but for missing directories above these. -/
theorem execute_crds_keeps (hdown : c.layout.root.Descends) (cwd : Place) :
    Action.Keeps (.groups (c.layout.definitions.place cwd)) ((Command.crds none).execute c cwd) := by
  rw [execute_crds]
  refine .bind ?_ fun _ => .pure _
  intro t
  rw [after_writeDefinitions]
  exact Layout.definitions_keep hdown cwd t

/-- What `render` does: it renders the selected resources and prints nothing. -/
theorem execute_render_eq_ok : (Command.render e selection).execute c cwd t = .ok lines t' ↔
    ∃ paths, (c.context e).renderAll cwd (Context.effective selection) t = .ok paths t' ∧ lines = [] := by
  have hrun : ∀ r, (c.context e).renderAll cwd (Context.effective selection) t = r →
      (Context.mk c.layout e c.repositoryUrl).renderEnvironment cwd selection t = r := fun _ h => h
  unfold Command.execute
  dsimp only
  cases hrender : (c.context e).renderAll cwd (Context.effective selection) t with
  | ok paths s =>
    rw [hrun _ hrender]
    simp [and_comm, eq_comm]
  | error error s =>
    rw [hrun _ hrender]
    simp

/-! ## Both commands in turn -/

/-- Two commands carried out in turn, the second if the first succeeds, and the lines that they print. -/
def Invocation.executeBoth (i : Invocation) (first second : Command) : Action Failure (List String) := do
  let lines ← i.execute first
  let more ← i.execute second
  return lines ++ more

/-- Printed lines that show the definitions in a directory: they are the paths of the definitions, in the order these are registered,
and the files in the groups of the directory are the ones that these paths lead to. -/
structure DefinitionsShown (cwd : Place) (directory : Path) (lines : List String) (t : FileTree) : Prop where
  printed : lines = definitionManifests.map fun m => (directory.join m.relativePath).display
  files : ∀ q, (Footprint.groups (directory.place cwd)).inside q → ∀ text, t.lookup q = some (.file text) ↔
    ∃ m ∈ definitionManifests, (directory.join m.relativePath).place cwd = q ∧ m.body.toYaml = text

/-- What writing the definitions shows, and still shows after changes apart from them. -/
theorem shown_of_write {directory : Path} {paths : List Path} {s : FileTree} {f : Footprint} (hdown : directory.Descends)
    (h : (definitionsIn directory).write cwd t = .ok paths s) (hapart : (Footprint.groups (directory.place cwd)).Apart f)
    (hafter : Confined f s t') : DefinitionsShown cwd directory (paths.map Path.display) t' where
  printed := by
    rw [Provider.write_paths h, List.map_map]
    rfl
  files q hq text := by
    have hreplaced := Provider.replaced_of_write (p := definitionsIn directory) hdown (fun m hm => (definition_regular m hm).1)
      distinct_definitions h
    rw [hafter.lookup_eq (hapart.left q hq).1 (hapart.left q hq).2, hreplaced.file_iff (Footprint.inside_groups_iff.mp hq)]
    refine exists_congr fun m => and_congr_right fun hm => ?_
    have hplace : (directory.join m.relativePath).place cwd = directory.place cwd ++ m.relativeNames :=
      Provider.place_of_plain cwd directory (definition_regular m hm).1
    rw [hplace]
    rfl

theorem executeBoth_eq_ok (hread : Config.read i.repository i.workingDirectory i.givenVariables = .ok c) {first second : Command} :
    i.executeBoth first second t = .ok lines t' ↔ ∃ shown s more, first.execute c (placeOf i.workingDirectory) t = .ok shown s ∧
      second.execute c (placeOf i.workingDirectory) s = .ok more t' ∧ lines = shown ++ more := by
  unfold Invocation.executeBoth
  rw [Action.bind_eq_ok]
  simp only [execute_of_read hread]
  constructor
  · rintro ⟨shown, s, hfirst, h⟩
    obtain ⟨more, s', hsecond, hlines⟩ := Action.bind_eq_ok.mp h
    rw [execute_of_read hread] at hsecond
    obtain ⟨rfl, rfl⟩ := EStateM.Result.ok.inj hlines
    exact ⟨shown, s, more, hfirst, hsecond, rfl⟩
  · rintro ⟨shown, s, more, hfirst, hsecond, rfl⟩
    rw [← execute_of_read hread] at hsecond
    exact ⟨shown, s, hfirst, Action.bind_eq_ok.mpr ⟨more, t', hsecond, rfl⟩⟩

theorem crds_then_render_eq_ok (hread : Config.read i.repository i.workingDirectory i.givenVariables = .ok c) :
    i.executeBoth (.crds none) (.render e selection) t = .ok lines t' ↔ ∃ paths s paths',
      (definitionsIn c.layout.definitions).write (placeOf i.workingDirectory) t = .ok paths s ∧
        (c.context e).renderAll (placeOf i.workingDirectory) (Context.effective selection) s = .ok paths' t' ∧
          lines = paths.map Path.display := by
  rw [executeBoth_eq_ok hread]
  constructor
  · rintro ⟨shown, s, more, hcrds, hrender, rfl⟩
    obtain ⟨paths, hwrite, rfl⟩ := execute_crds_eq_ok.mp hcrds
    obtain ⟨paths', hrendered, rfl⟩ := execute_render_eq_ok.mp hrender
    exact ⟨paths, s, paths', hwrite, hrendered, List.append_nil _⟩
  · rintro ⟨paths, s, paths', hwrite, hrendered, rfl⟩
    exact ⟨_, s, [], execute_crds_eq_ok.mpr ⟨paths, hwrite, rfl⟩, execute_render_eq_ok.mpr ⟨paths', hrendered, rfl⟩,
      (List.append_nil _).symm⟩

theorem render_then_crds_eq_ok (hread : Config.read i.repository i.workingDirectory i.givenVariables = .ok c) :
    i.executeBoth (.render e selection) (.crds none) t = .ok lines t' ↔ ∃ paths s paths',
      (c.context e).renderAll (placeOf i.workingDirectory) (Context.effective selection) t = .ok paths' s ∧
        (definitionsIn c.layout.definitions).write (placeOf i.workingDirectory) s = .ok paths t' ∧
          lines = paths.map Path.display := by
  rw [executeBoth_eq_ok hread]
  constructor
  · rintro ⟨shown, s, more, hrender, hcrds, rfl⟩
    obtain ⟨paths', hrendered, rfl⟩ := execute_render_eq_ok.mp hrender
    obtain ⟨paths, hwrite, rfl⟩ := execute_crds_eq_ok.mp hcrds
    exact ⟨paths, s, paths', hrendered, hwrite, List.nil_append _⟩
  · rintro ⟨paths, s, paths', hrendered, hwrite, rfl⟩
    exact ⟨[], s, _, execute_render_eq_ok.mpr ⟨paths', hrendered, rfl⟩, execute_crds_eq_ok.mpr ⟨paths, hwrite, rfl⟩,
      (List.nil_append _).symm⟩

/-- To write the definitions and then render succeeds when each does alone. -/
theorem crds_then_render_succeeds_iff (hread : Config.read i.repository i.workingDirectory i.givenVariables = .ok c)
    (hctx : (c.context e).Sound) : Action.succeeds (i.executeBoth (.crds none) (.render e selection)) t = true ↔
      Action.succeeds ((definitionsIn (c.context e).layout.definitions).write (placeOf i.workingDirectory)) t = true ∧
        Action.succeeds ((c.context e).renderAll (placeOf i.workingDirectory) (Context.effective selection)) t = true := by
  rw [Action.succeeds_iff, ← exists_inTurn_iff fun _ _ h => Context.renderAll_succeeds_after_definitions hctx h]
  constructor
  · rintro ⟨lines, u, hboth⟩
    obtain ⟨paths, s, paths', hwrite, hrender, -⟩ := (crds_then_render_eq_ok hread).mp hboth
    exact ⟨paths, s, paths', u, hwrite, hrender⟩
  · rintro ⟨paths, s, paths', u, hwrite, hrender⟩
    exact ⟨_, u, (crds_then_render_eq_ok hread).mpr ⟨paths, s, paths', hwrite, hrender, rfl⟩⟩

/-- To render and then write the definitions succeeds when each does alone. -/
theorem render_then_crds_succeeds_iff (hread : Config.read i.repository i.workingDirectory i.givenVariables = .ok c)
    (hctx : (c.context e).Sound) : Action.succeeds (i.executeBoth (.render e selection) (.crds none)) t = true ↔
      Action.succeeds ((c.context e).renderAll (placeOf i.workingDirectory) (Context.effective selection)) t = true ∧
        Action.succeeds ((definitionsIn (c.context e).layout.definitions).write (placeOf i.workingDirectory)) t = true := by
  have hne := Context.effective_ne_nil selection
  rw [Action.succeeds_iff, ← exists_inTurn_iff fun _ _ h => Context.definitions_succeed_after_renderAll hctx hne h]
  constructor
  · rintro ⟨lines, u, hboth⟩
    obtain ⟨paths, s, paths', hrender, hwrite, -⟩ := (render_then_crds_eq_ok hread).mp hboth
    exact ⟨paths', s, paths, u, hrender, hwrite⟩
  · rintro ⟨paths', s, paths, u, hrender, hwrite⟩
    exact ⟨_, u, (render_then_crds_eq_ok hread).mpr ⟨paths, s, paths', hrender, hwrite, rfl⟩⟩

/-- Writing the definitions and rendering do not interfere. In either order both succeed or not, and they leave the same tree behind.
Whatever the scratch name, `crds` changes nothing outside the two groups below `crds` but missing directories above them, and when it
succeeds it prints the paths of the definitions that are there, in the order of registration; they are still there when something was
rendered before or after. -/
theorem crds_beside_render (hread : Config.read i.repository i.workingDirectory i.givenVariables = .ok c)
    (hdown : c.manifestsRoot.Descends) (e : Environment) (selection : List Resource) (t : FileTree) :
    let cwd := placeOf i.workingDirectory
    let directory := c.manifestsRoot.joinText "crds"
    let crds := Command.crds none
    let render := Command.render e selection
    (Action.succeeds (i.executeBoth crds render) t = true ↔ Action.succeeds (i.executeBoth render crds) t = true) ∧
      (∀ lines u lines' u', i.executeBoth crds render t = .ok lines u → i.executeBoth render crds t = .ok lines' u' →
        u'.lookup = u.lookup ∧ DefinitionsShown cwd directory lines u ∧ DefinitionsShown cwd directory lines' u') ∧
      Confined (.groups (directory.place cwd)) t (Action.after (i.execute crds) t) ∧
      ∀ lines u, i.execute crds t = .ok lines u → DefinitionsShown cwd directory lines u := by
  intro cwd directory crds render
  have hctx : (c.context e).Sound := ⟨hdown, Config.plain_of_read hread⟩
  have hdirectory : directory.Descends := Layout.descends_definitions (l := c.layout) hdown
  have hapart := Context.definitions_apart hctx cwd (Context.effective selection)
  have hkeepsRender := Context.renderAll_keeps hctx cwd (Context.effective selection)
  have hkeepsCrds := Layout.definitions_keep (l := c.layout) hdown cwd
  refine ⟨?_, ?_, ?_, ?_⟩
  · rw [crds_then_render_succeeds_iff hread hctx, render_then_crds_succeeds_iff hread hctx, and_comm]
  · intro lines u lines' u' h h'
    obtain ⟨paths, s, paths', hwrite, hrender, rfl⟩ := (crds_then_render_eq_ok hread).mp h
    obtain ⟨given, s', given', hrender', hwrite', rfl⟩ := (render_then_crds_eq_ok hread).mp h'
    have hpaths : given = paths := (Provider.write_paths hwrite').trans (Provider.write_paths hwrite).symm
    have hpaths' : given' = paths' := ((Context.renderAll_eq_ok hctx hrender').1).trans (Context.renderAll_eq_ok hctx hrender).1.symm
    rw [hpaths'] at hrender'
    refine ⟨?_, shown_of_write hdirectory hwrite hapart (hkeepsRender.of_ok hrender),
      shown_of_write hdirectory hwrite' hapart (Confined.refl _ u')⟩
    rw [hpaths] at hwrite'
    exact lookup_eq_of_settles hapart hkeepsCrds hkeepsRender (Layout.definitions_settle hdown cwd)
      (Context.renderAll_settles hctx cwd _) hwrite hrender hrender' hwrite'
  · rw [Action.after_congr (execute_of_read hread crds t)]
    exact execute_crds_keeps hdown cwd t
  · intro lines u h
    rw [execute_of_read hread] at h
    obtain ⟨paths, hwrite, rfl⟩ := execute_crds_eq_ok.mp h
    exact shown_of_write hdirectory hwrite hapart (Confined.refl _ u)

/-- A scratch directory that is called like the directory of definitions. -/
theorem crds_beside_render_same_name :
    let i : Invocation := ⟨.ofString "/", .ok (.ofString "/"), [], variablesOf "/srv" "crds"⟩
    let c : Config := ⟨.ofString "/srv", some "crds", Config.defaultRepositoryUrl⟩
    Config.read i.repository i.workingDirectory i.givenVariables = .ok c ∧ c.manifestsRoot.Descends ∧ ∃ lines u lines' u',
      i.executeBoth (.crds none) (.render .local [.argocd]) .empty = .ok lines u ∧
        i.executeBoth (.render .local [.argocd]) (.crds none) .empty = .ok lines' u' ∧ u'.lookup = u.lookup ∧
          DefinitionsShown [] (.ofString "/srv/crds") lines u ∧ DefinitionsShown [] (.ofString "/srv/crds") lines' u' := by
  intro i c
  have hread : Config.read i.repository i.workingDirectory i.givenVariables = .ok c := by rfl
  have hdown : c.manifestsRoot.Descends := by decide
  obtain ⟨hsucceeds, hsame, -⟩ := crds_beside_render hread hdown .local [.argocd] .empty
  have hfirst : Action.succeeds (i.executeBoth (.crds none) (.render .local [.argocd])) .empty = true := by decide +kernel
  obtain ⟨lines, u, h⟩ := Action.succeeds_iff.mp hfirst
  obtain ⟨lines', u', h'⟩ := Action.succeeds_iff.mp (hsucceeds.mp hfirst)
  exact ⟨hread, hdown, lines, u, lines', u', h, h', hsame lines u lines' u' h h'⟩

end CommandLine

end ManifestTree
