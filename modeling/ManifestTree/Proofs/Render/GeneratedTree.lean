import ManifestTree.Proofs.Render.Rendering

/-!
# Rendering stays in the generated tree

For every configuration that variables give, rendering an environment changes nothing but what lies in the two groups of the selected
resources, four names below an absolute root, and makes missing directories above these; that holds whether it succeeds or fails
(`renderEnvironment_stays`). Other resources, other segments and whatever else stands in a resource's directory are left as they
were.
-/

namespace ManifestTree

/-- What may be different after rendering some resources, and what is as it was. -/
structure Stays (ctx : Context) (cwd : Place) (rs : List Resource) (t t' : FileTree) : Prop where
  changed : ∀ q, t'.lookup q ≠ t.lookup q →
    (∃ r ∈ rs, ∃ g ∈ Manifest.groupNames, groupPlace (ctx.place cwd r) g <+: q) ∨
      ((∃ r ∈ rs, q <+: ctx.place cwd r) ∧ t.lookup q = none ∧ t'.lookup q = some .directory)
  otherResources : ∀ r, r ∉ rs → ∀ q, ctx.place cwd r <+: q → t'.lookup q = t.lookup q
  otherSegments : ∀ name, name ≠ ctx.layout.segmentName ctx.environment → ∀ q,
    ctx.layout.root.place cwd ++ [Utf8.encode Layout.generatedName, name] <+: q → t'.lookup q = t.lookup q
  otherEntries : ∀ r name, (∀ g ∈ Manifest.groupNames, name ≠ Utf8.encode g) → ∀ q,
    ctx.place cwd r ++ [name] <+: q → t'.lookup q = t.lookup q
  otherFiles : ∀ q text, t.lookup q = some (.file text) →
    (∀ r ∈ rs, ∀ g ∈ Manifest.groupNames, ¬ groupPlace (ctx.place cwd r) g <+: q) → t'.lookup q = some (.file text)

namespace Context

variable {ctx : Context} {cwd : Place} {rs : List Resource} {t t' : FileTree}

/-- The segment of a resource directory lies above it. -/
theorem segment_prefix_place (hctx : ctx.Sound) (r : Resource) : ctx.layout.root.place cwd ++
    [Utf8.encode Layout.generatedName, ctx.layout.segmentName ctx.environment] <+: ctx.place cwd r := by
  rw [place_eq hctx, List.prefix_append_right_inj]
  exact ⟨[Utf8.encode r.category.name, Utf8.encode r.name], rfl⟩

/-- A place that lies in no directory of the resources, nor above one, keeps what stands there. -/
theorem lookup_eq_of_apart (h : Confined (ctx.footprint cwd rs) t t') {q : Place}
    (hbelow : ∀ r ∈ rs, ¬ ctx.place cwd r <+: q) (habove : ∀ r ∈ rs, ¬ q <+: ctx.place cwd r) :
    t'.lookup q = t.lookup q := by
  refine lookup_eq_outside h ?_
  rintro r hr (hin | hup)
  · exact hbelow r hr (prefix_of_inside hin)
  · exact habove r hr hup

/-- What stays within the footprint of some resources leaves everything else alone. -/
theorem stays_of_confined (hctx : ctx.Sound) (h : Confined (ctx.footprint cwd rs) t t') : Stays ctx cwd rs t t' where
  changed q hq := by
    rcases h q with ⟨r, hr, hin⟩ | hsame | ⟨⟨r, hr, hup⟩, hnone, hdirectory⟩
    · obtain ⟨g, hg, hprefix⟩ := Footprint.inside_groups_iff.mp hin
      exact Or.inl ⟨r, hr, g, hg, hprefix⟩
    · exact absurd hsame hq
    · exact Or.inr ⟨⟨r, hr, hup⟩, hnone, hdirectory⟩
  otherResources r hr q hq := by
    refine lookup_eq_of_apart h ?_ ?_
    · intro r' hr' hbelow
      exact hr (eq_of_places_above hctx hbelow hq ▸ hr')
    · intro r' hr' habove
      exact hr (eq_of_places_above hctx (List.prefix_refl _) (hq.trans habove) ▸ hr')
  otherSegments name hname q hq := by
    have hsegment : ∀ r' p, ctx.place cwd r' <+: p →
        ¬ ctx.layout.root.place cwd ++ [Utf8.encode Layout.generatedName, name] <+: p := by
      intro r' p hplace hp
      have heq := eq_of_common_below hp ((segment_prefix_place hctx r').trans hplace) (by simp)
      rw [List.append_cancel_left_eq] at heq
      exact hname (List.cons.inj (List.cons.inj heq).2).1
    refine lookup_eq_of_apart h ?_ ?_
    · intro r' _ hbelow
      exact hsegment r' q hbelow hq
    · intro r' _ habove
      exact hsegment r' _ (List.prefix_refl _) (hq.trans habove)
  otherEntries r name hname q hq := by
    have hplace : ctx.place cwd r <+: q := (List.prefix_append _ _).trans hq
    refine h.lookup_eq ?_ ?_
    · rintro ⟨r', hr', hin⟩
      obtain ⟨g, hg, hprefix⟩ := Footprint.inside_groups_iff.mp hin
      have heq := eq_of_common_below hq hprefix (by simp [groupPlace, length_place hctx])
      rw [groupPlace] at heq
      exact hname g hg (List.cons.inj (List.append_inj' heq rfl).2).1
    · rintro ⟨r', hr', hup⟩
      have hle := (hq.trans hup).length_le
      rw [List.length_append, length_place hctx, length_place hctx] at hle
      simp at hle
  otherFiles q text hq hoff := by
    rcases h q with ⟨r, hr, hin⟩ | hsame | ⟨-, hnone, -⟩
    · obtain ⟨g, hg, hprefix⟩ := Footprint.inside_groups_iff.mp hin
      exact absurd hprefix (hoff r hr g hg)
    · rw [hsame, hq]
    · rw [hq] at hnone
      cases hnone

end Context

namespace Config

/-- What rendering an environment needs, as a configuration gives it. -/
def context (c : Config) (e : Environment) : Context := ⟨c.layout, e, c.repositoryUrl⟩

variable {repository : Path} {cwd : Except FileError Path} {vars : Variables} {c : Config}

/-- Rendering never leaves the generated tree. Whatever the variables say, as long as they make a configuration, its root is
absolute; and if the root has no `..`, the directory of each resource is `generated`, one name for the segment, the category and
the resource's own name below it, and rendering any selection on any tree, successful or not, changes only what lies in the groups
of selected resources, besides making missing directories above them. -/
theorem renderEnvironment_stays (hrepository : repository.isAbsolute = true) (hcwd : ∀ p, cwd = .ok p → p.isAbsolute = true)
    (hread : Config.read repository cwd vars = .ok c) :
    c.manifestsRoot.isAbsolute = true ∧
      (c.manifestsRoot.Descends → ∀ e here,
        (∃ segment, Path.IsName segment ∧ (Path.ofString (c.layout.segment e)).components = [.name segment] ∧
          ∀ r, (c.layout.resourcePath e r).components = c.manifestsRoot.components ++
            [.name (Utf8.encode Layout.generatedName), .name segment, .name (Utf8.encode r.category.name),
              .name (Utf8.encode r.name)]) ∧
        ∀ selection t, Stays (c.context e) here (Context.effective selection) t
          (Action.after ((c.context e).renderEnvironment here selection) t)) := by
  refine ⟨isAbsolute_manifestsRoot hrepository hcwd hread, fun hroot e here => ⟨?_, fun selection t => ?_⟩⟩
  · have hplain := plain_of_read hread
    refine ⟨c.layout.segmentName e, hplain.isName_segmentName e, (hplain.segment e).components, ?_⟩
    intro r
    exact Layout.components_resourcePath hplain e r
  · have hctx : (c.context e).Sound := ⟨hroot, plain_of_read hread⟩
    exact Context.stays_of_confined hctx (Context.renderEnvironment_keeps hctx here selection t)

/-- A root that is relative and written with a dot, and a scratch directory written with a separator. -/
theorem renderEnvironment_stays_relative_root :
    let c : Config := ⟨.ofString "/work/out/./manifests", some "tmp/", defaultRepositoryUrl⟩
    Config.read (.ofString "/") (.ok (.ofString "/work")) (variablesOf "out/./manifests" "tmp/") = .ok c ∧
      c.manifestsRoot.isAbsolute = true ∧ c.manifestsRoot.Descends ∧
        Stays (c.context .local) [] [.argocd] .empty (Action.after ((c.context .local).renderEnvironment [] [.argocd]) .empty) := by
  intro c
  have hread : Config.read (.ofString "/") (.ok (.ofString "/work")) (variablesOf "out/./manifests" "tmp/") = .ok c := by rfl
  have hcwd : ∀ p, Except.ok (.ofString "/work") = (.ok p : Except FileError Path) → p.isAbsolute = true := by
    intro p hp
    rw [← Except.ok.inj hp]
    decide
  obtain ⟨habsolute, hstays⟩ := renderEnvironment_stays (by decide) hcwd hread
  exact ⟨hread, habsolute, by decide, (hstays (by decide) .local []).2 [.argocd] .empty⟩

end Config

end ManifestTree
