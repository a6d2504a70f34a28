import ManifestTree.Proofs.Render.Rendering

/-!
# Runs of rendering calls

A run is any sequence of calls that succeeded, each on the tree that the one before left behind. The calls may differ in their
environments, scratch names, selections and repositories; only the root of all manifests is the same for all of them. At the end
every resource directory shows the last call that rendered into it, and a directory that no call rendered into is as it was
(`last_render_wins`). Two layouts may share a directory: a scratch name can be that of an environment, and environments share a
scratch directory.
-/

namespace ManifestTree

/-- A call that renders one resource, or the selected resources of an environment. -/
inductive Call where
  | resource (ctx : Context) (r : Resource)
  | environment (ctx : Context) (selection : List Resource)

namespace Call

/-- What a call renders for. -/
def context : Call → Context
  | .resource ctx _ => ctx
  | .environment ctx _ => ctx

/-- The resources that a call renders, in turn. -/
def resources : Call → List Resource
  | .resource _ r => [r]
  | .environment _ selection => Context.effective selection

/-- Carrying out a call. -/
def action (cwd : Place) : Call → Action RenderError (List Path)
  | .resource ctx r => ctx.renderResource cwd r
  | .environment ctx selection => ctx.renderEnvironment cwd selection

/-- Whether a call renders into a directory. -/
def RendersInto (c : Call) (directory : Path) : Prop := ∃ r ∈ c.resources, (c.context.directory r).Same directory

end Call

/-- A layout with a given root, whose scratch name, if it has one, asks for one directory. -/
structure Layout.Below (root : Path) (l : Layout) : Prop where
  root : l.root.Same root
  plain : l.Plain

/-- Calls that succeeded one after the other, each with the paths it gave. -/
inductive Run (cwd : Place) (t : FileTree) : List (Call × List Path) → FileTree → Prop
  | nil : Run cwd t [] t
  | snoc {t' t'' : FileTree} {done : List (Call × List Path)} {c : Call} {paths : List Path} :
      Run cwd t done t' → c.action cwd t' = .ok paths t'' → Run cwd t (done ++ [(c, paths)]) t''

variable {root : Path} {cwd : Place} {t t' : FileTree} {l l' : Layout} {e e' : Environment} {r r' : Resource}

/-! ## The directories of layouts with one root -/

theorem place_resourcePath (hl : l.Below root) (cwd : Place) (e : Environment) (r : Resource) :
    (l.resourcePath e r).place cwd = root.place cwd ++ l.resourceNames e r := by
  rw [Path.place_of_names (Layout.components_resourcePath hl.plain e r), Path.place, Path.place, hl.root]

/-- Below one root, resource directories are the same when the names below the root are. -/
theorem same_resourcePath_iff (hl : l.Below root) (hl' : l'.Below root) :
    (l.resourcePath e r).Same (l'.resourcePath e' r') ↔ l.resourceNames e r = l'.resourceNames e' r' := by
  have hroots : l.root.components = l'.root.components := hl.root.trans hl'.root.symm
  unfold Path.Same
  rw [Layout.components_resourcePath hl.plain, Layout.components_resourcePath hl'.plain, hroots, List.append_cancel_left_eq]
  constructor
  · intro h
    exact List.map_injective_iff.mpr (fun _ _ hn => Component.name.inj hn) h
  · intro h
    rw [h]

/-- Below one root, resource directories are the same when their places are. -/
theorem same_resourcePath_iff_place (hl : l.Below root) (hl' : l'.Below root) (cwd : Place) :
    (l.resourcePath e r).Same (l'.resourcePath e' r') ↔
      (l.resourcePath e r).place cwd = (l'.resourcePath e' r').place cwd := by
  rw [same_resourcePath_iff hl hl', place_resourcePath hl, place_resourcePath hl', List.append_cancel_left_eq]

/-- A directory that two layouts share is that of one resource. -/
theorem resource_eq_of_same (hl : l.Below root) (hl' : l'.Below root)
    (h : (l.resourcePath e r).Same (l'.resourcePath e' r')) : r = r' :=
  (Layout.resourceNames_inj.mp ((same_resourcePath_iff hl hl').mp h)).2

/-! ## One call -/

namespace Call

variable {c : Call} {paths : List Path}

theorem sound (hroot : root.Descends) (hc : c.context.layout.Below root) : c.context.Sound where
  descends := by
    unfold Path.Descends
    rw [hc.root]
    exact hroot
  plain := hc.plain

/-- A call that succeeded: its paths, and what the directories of its resources hold. -/
theorem action_eq_ok (hc : c.context.Sound) (h : c.action cwd t = .ok paths t') :
    paths = c.resources.flatMap c.context.writtenPaths ∧ ∀ r ∈ c.resources, Context.Rendered c.context cwd t' r := by
  cases c with
  | resource ctx r =>
    obtain ⟨hpaths, hrendered⟩ := Context.renderResource_eq_ok hc h
    refine ⟨by simpa [resources] using hpaths, ?_⟩
    intro r' hr'
    rw [List.mem_singleton.mp hr']
    exact hrendered
  | environment ctx selection => exact Context.renderEnvironment_eq_ok hc h

/-- A call changes nothing but the groups of its resources, and missing directories on the way to them. -/
theorem action_keeps (hc : c.context.Sound) (cwd : Place) :
    Action.Keeps (c.context.footprint cwd c.resources) (c.action cwd) := by
  cases c with
  | resource ctx r =>
    exact (Context.renderResource_keeps hc cwd r).mono (Context.groups_within_footprint (List.mem_singleton_self r))
  | environment ctx selection => exact Context.renderEnvironment_keeps hc cwd selection

/-- A call leaves the groups of a resource directory that it does not render into as they were. -/
theorem lookup_of_not_rendersInto (hroot : root.Descends) (hc : c.context.layout.Below root) (hl : l.Below root)
    (hnot : ¬ c.RendersInto (l.resourcePath e r)) (h : c.action cwd t = .ok paths t') (g : String) (q : Place) :
    t'.lookup (groupPlace ((l.resourcePath e r).place cwd) g ++ q) =
      t.lookup (groupPlace ((l.resourcePath e r).place cwd) g ++ q) := by
  have hkeeps := (action_keeps (sound hroot hc) cwd).of_ok h
  refine Context.lookup_of_other_place hkeeps ?_ ?_ g q
  · intro r' hr' hplace
    exact hnot ⟨r', hr', (same_resourcePath_iff_place hc hl cwd).mpr hplace⟩
  · intro r' _
    rw [Context.length_place (sound hroot hc), place_resourcePath hl, List.length_append]
    rw [Path.place, hc.root]
    rfl

/-- A call that renders into a resource directory leaves that resource rendered there. -/
theorem rendered_of_rendersInto (hroot : root.Descends) (hc : c.context.layout.Below root) (hl : l.Below root)
    (hinto : c.RendersInto (l.resourcePath e r)) (h : c.action cwd t = .ok paths t') :
    Context.Rendered c.context cwd t' r ∧ c.context.place cwd r = (l.resourcePath e r).place cwd := by
  obtain ⟨r', hr', hsame⟩ := hinto
  obtain rfl : r' = r := resource_eq_of_same hc hl hsame
  exact ⟨(action_eq_ok (sound hroot hc) h).2 r' hr', (same_resourcePath_iff_place hc hl cwd).mp hsame⟩

end Call

/-! ## Runs -/

/-- What the last of some calls on a resource directory leaves there: exactly its manifests of that resource. -/
structure Shows (t : FileTree) (d : Place) (c : Call) (r : Resource) : Prop where
  objects : Registers (c.context.objects r) (c.context.registered r)
  manifests : Holds t (groupPlace d Manifest.plainGroup) (c.context.registered r)
  definitions : t.lookup (groupPlace d Manifest.definitionGroup) = none

variable {calls : List (Call × List Path)}

/-- What a call left in a resource directory stays through a call that does not render into it. -/
theorem Shows.keep {c c' : Call} {paths : List Path} (hroot : root.Descends) (hc : c.context.layout.Below root)
    (hl : l.Below root) (hnot : ¬ c.RendersInto (l.resourcePath e r)) (hcall : c.action cwd t = .ok paths t')
    (h : Shows t ((l.resourcePath e r).place cwd) c' r) : Shows t' ((l.resourcePath e r).place cwd) c' r := by
  have hsame := Call.lookup_of_not_rendersInto hroot hc hl hnot hcall
  refine ⟨h.objects, h.manifests.congr (hsame _), ?_⟩
  have hgroup := hsame Manifest.definitionGroup []
  rw [List.append_nil] at hgroup
  rw [hgroup]
  exact h.definitions

/-- In a run the last call that renders into a resource directory decides what that shows at the end. -/
theorem Run.shows {before after : List (Call × List Path)} {c : Call} {paths : List Path} (hrun : Run cwd t calls t')
    (hroot : root.Descends) (hcalls : ∀ x ∈ calls, x.1.context.layout.Below root) (hl : l.Below root)
    (hsplit : calls = before ++ (c, paths) :: after) (hinto : c.RendersInto (l.resourcePath e r))
    (hlast : ∀ x ∈ after, ¬ x.1.RendersInto (l.resourcePath e r)) : Shows t' ((l.resourcePath e r).place cwd) c r := by
  induction hrun generalizing after with
  | nil => simp at hsplit
  | @snoc t' t'' done c' paths' _ hcall ih =>
    have hc' : c'.context.layout.Below root := hcalls (c', paths') (by simp)
    rcases List.eq_nil_or_concat after with rfl | ⟨rest, x, rfl⟩
    · obtain ⟨-, hlastCall⟩ := List.append_inj' hsplit rfl
      obtain rfl : c' = c := congrArg Prod.fst (List.cons.inj hlastCall).1
      obtain ⟨hrendered, hplace⟩ := Call.rendered_of_rendersInto hroot hc' hl hinto hcall
      rw [← hplace]
      exact ⟨hrendered.objects, hrendered.manifests, hrendered.definitions⟩
    · rw [List.concat_eq_append, ← List.cons_append, ← List.append_assoc] at hsplit
      obtain ⟨hdone, hlastCall⟩ := List.append_inj' hsplit rfl
      obtain rfl := (List.cons.inj hlastCall).1
      refine (ih (fun x hx => hcalls x (List.mem_append_left _ hx)) hdone ?_).keep hroot hc' hl ?_ hcall
      · intro x hx
        exact hlast x (by simp [hx])
      · exact hlast (c', paths') (by simp)

/-- A resource directory that no call of a run renders into is at the end as it was at the start. -/
theorem Run.lookup_eq (hrun : Run cwd t calls t') (hroot : root.Descends)
    (hcalls : ∀ x ∈ calls, x.1.context.layout.Below root) (hl : l.Below root)
    (hnone : ∀ x ∈ calls, ¬ x.1.RendersInto (l.resourcePath e r)) (g : String) (q : Place) :
    t'.lookup (groupPlace ((l.resourcePath e r).place cwd) g ++ q) =
      t.lookup (groupPlace ((l.resourcePath e r).place cwd) g ++ q) := by
  induction hrun with
  | nil => rfl
  | @snoc t' t'' done c paths _ hcall ih =>
    have hlast := Call.lookup_of_not_rendersInto hroot (hcalls (c, paths) (by simp)) hl (hnone (c, paths) (by simp)) hcall g q
    rw [hlast]
    exact ih (fun x hx => hcalls x (List.mem_append_left _ hx)) fun x hx => hnone x (List.mem_append_left _ hx)

/-- The paths that the calls of a run gave: those of the manifests registered for their resources, in turn. -/
theorem Run.paths (hrun : Run cwd t calls t') (hroot : root.Descends) (hcalls : ∀ x ∈ calls, x.1.context.layout.Below root) :
    ∀ x ∈ calls, x.2 = x.1.resources.flatMap x.1.context.writtenPaths ∧
      ∀ r ∈ x.1.resources, (x.1.context.writtenPaths r).map (fun p => p.place cwd) = (x.1.context.registered r).map fun m =>
        groupPlace (x.1.context.place cwd r) Manifest.plainGroup ++ [Utf8.encode m.fileName] := by
  induction hrun with
  | nil => simp
  | @snoc t' t'' done c paths _ hcall ih =>
    intro x hx
    rcases List.mem_append.mp hx with hx | hx
    · exact ih (fun y hy => hcalls y (List.mem_append_left _ hy)) x hx
    · obtain rfl := List.mem_singleton.mp hx
      have hsound := Call.sound hroot (hcalls (c, paths) (by simp))
      obtain ⟨hpaths, hrendered⟩ := Call.action_eq_ok hsound hcall
      exact ⟨hpaths, fun r hr => Context.place_writtenPaths cwd (hrendered r hr).objects⟩

/-- The last render wins. After any run of successful calls below one root, a resource directory that some call rendered into holds
exactly the manifests that the last of these registered for the resource, and no definitions; the groups of a directory that no call
rendered into are as they were; and every call gave the paths of its manifests, resource by resource in the order of registration. -/
theorem last_render_wins (hroot : root.Descends) (hcalls : ∀ x ∈ calls, x.1.context.layout.Below root)
    (hrun : Run cwd t calls t') :
    (∀ l : Layout, l.Below root → ∀ e r,
      (∀ before c paths after, calls = before ++ (c, paths) :: after → c.RendersInto (l.resourcePath e r) →
        (∀ x ∈ after, ¬ x.1.RendersInto (l.resourcePath e r)) → Shows t' ((l.resourcePath e r).place cwd) c r) ∧
      ((∀ x ∈ calls, ¬ x.1.RendersInto (l.resourcePath e r)) → ∀ g ∈ Manifest.groupNames, ∀ q,
        t'.lookup (groupPlace ((l.resourcePath e r).place cwd) g ++ q) =
          t.lookup (groupPlace ((l.resourcePath e r).place cwd) g ++ q))) ∧
    ∀ x ∈ calls, x.2 = x.1.resources.flatMap x.1.context.writtenPaths ∧
      ∀ r ∈ x.1.resources, (x.1.context.writtenPaths r).map (fun p => p.place cwd) = (x.1.context.registered r).map fun m =>
        groupPlace (x.1.context.place cwd r) Manifest.plainGroup ++ [Utf8.encode m.fileName] := by
  refine ⟨fun l hl e r => ⟨?_, ?_⟩, hrun.paths hroot hcalls⟩
  · intro before c paths after hsplit hinto hlast
    exact hrun.shows hroot hcalls hl hsplit hinto hlast
  · intro hnone g _ q
    exact hrun.lookup_eq hroot hcalls hl hnone g q

/-- A call for an environment. -/
def ordinaryCall : Call := .resource ⟨⟨Path.ofString "/srv", none⟩, .local, "repository"⟩ .argocd

/-- A call for another environment, into a scratch directory with the first one's name. -/
def scratchCall : Call := .environment ⟨⟨Path.ofString "/srv", some "local"⟩, .production, "repository"⟩ [.argocd]

/-- The tree that both calls leave behind, one after the other. -/
def sharedTree : FileTree := Action.after (scratchCall.action []) (Action.after (ordinaryCall.action []) .empty)

/-- The first environment's directory shows what the second one rendered there. -/
theorem last_render_wins_shared_directory :
    Shows sharedTree ((Layout.resourcePath ⟨Path.ofString "/srv", none⟩ .local .argocd).place []) scratchCall .argocd := by
  obtain ⟨paths, hfirst⟩ := Action.exists_of_succeeds (show Action.succeeds (ordinaryCall.action []) .empty = true by
    decide +kernel)
  obtain ⟨paths', hsecond⟩ := Action.exists_of_succeeds (show Action.succeeds (scratchCall.action [])
    (Action.after (ordinaryCall.action []) .empty) = true by decide +kernel)
  have hrun : Run [] .empty ([] ++ [(ordinaryCall, paths)] ++ [(scratchCall, paths')]) sharedTree :=
    .snoc (.snoc .nil hfirst) hsecond
  have hordinary : ordinaryCall.context.layout.Below (Path.ofString "/srv") := ⟨rfl, fun s hs => by cases hs⟩
  have hscratch : scratchCall.context.layout.Below (Path.ofString "/srv") := by
    refine ⟨rfl, ?_⟩
    intro s hs
    obtain rfl := Option.some.inj hs
    exact isSingle_iff.mpr (by decide)
  have hcalls : ∀ x ∈ [] ++ [(ordinaryCall, paths)] ++ [(scratchCall, paths')],
      x.1.context.layout.Below (Path.ofString "/srv") := by
    intro x hx
    rcases List.mem_cons.mp hx with rfl | hx
    · exact hordinary
    · rw [List.mem_singleton.mp hx]
      exact hscratch
  have hwins := last_render_wins (by decide) hcalls hrun
  refine (hwins.1 _ hordinary .local .argocd).1 [(ordinaryCall, paths)] scratchCall paths' [] rfl ?_ (by simp)
  exact ⟨.argocd, by decide, by decide +kernel⟩

end ManifestTree
