import ManifestTree.Object.Core
import ManifestTree.Proofs.Manifest.Spelling
import ManifestTree.Proofs.Provider.Calls

/-!
# Which objects collide

A provider tells objects apart by the paths of their files. Objects with RFC 1123 names that are not called the same may still have
one path: the fields of a file name are separated by hyphens, and the names have hyphens, too. Such objects are refused as if they
were registered twice (`configMaps_collide`). They are taken side by side, in either order, exactly when the texts of their fields are
different or one of them alone is a definition (`registration_of_dnsNamed`).
-/

namespace ManifestTree.Provider

variable {p : Provider} {c c' : Candidate} {m m' : Manifest}

/-- An object is said to be registered twice when it has the path of one that was taken, and only then. -/
theorem refusal?_eq_registeredTwice_iff (hm : c.manifest? = some m) {kind name provider : String} :
    p.refusal? c = some (.registeredTwice kind name provider) ↔
      (kind = m.kind ∧ name = m.name ∧ provider = p.name) ∧ ∃ other ∈ p.manifests, other.relativePath.Same m.relativePath := by
  rw [refusal?_eq_some_iff]
  constructor
  · rintro (_ | _ | ⟨hm', hother, hsame⟩)
    obtain rfl := Option.some.inj (hm.symm.trans hm')
    exact ⟨⟨rfl, rfl, rfl⟩, _, hother, hsame⟩
  · rintro ⟨⟨rfl, rfl, rfl⟩, other, hother, hsame⟩
    exact .registeredTwice hm hother hsame

/-- What comes of registering two objects in turn: both are taken when their paths are different, and otherwise the second is refused as
registered twice. -/
structure InTurn (p : Provider) (c c' : Candidate) (m m' : Manifest) : Prop where
  apart : ¬ m.relativePath.Same m'.relativePath →
    registerAll [.ok c, .ok c'] p = .ok () { p with manifests := p.manifests ++ [m, m'] }
  together : m.relativePath.Same m'.relativePath →
    registerAll [.ok c, .ok c'] p = .error (.registeredTwice m'.kind m'.name p.name) { p with manifests := p.manifests ++ [m] }

/-- Two objects whose paths a provider does not hold are registered in turn. -/
theorem inTurn_of_new (hm : c.manifest? = some m) (hm' : c'.manifest? = some m')
    (hnew : ∀ other ∈ p.manifests, ¬ other.relativePath.Same m.relativePath)
    (hnew' : ∀ other ∈ p.manifests, ¬ other.relativePath.Same m'.relativePath) : InTurn p c c' m m' := by
  have hfirst := register_of_new hm hnew
  constructor
  · intro hapart
    have hnext : ∀ other ∈ p.manifests ++ [m], ¬ other.relativePath.Same m'.relativePath := by
      intro other hother
      rcases List.mem_append.mp hother with hother | hother
      · exact hnew' other hother
      · rw [List.mem_singleton.mp hother]
        exact hapart
    have hsecond : register c' { p with manifests := p.manifests ++ [m] } = _ := register_of_new hm' hnext
    refine Action.bind_eq_ok.mpr ⟨(), _, hfirst, Action.bind_eq_ok.mpr ⟨(), _, hsecond, ?_⟩⟩
    simp [registerAll, pure, EStateM.pure]
  · intro htogether
    have hrefused : Refused { p with manifests := p.manifests ++ [m] } c' (.registeredTwice m'.kind m'.name p.name) :=
      .registeredTwice hm' (List.mem_append_right _ List.mem_cons_self) htogether
    refine Action.bind_eq_error.mpr (Or.inr ⟨(), _, hfirst, ?_⟩)
    exact Action.bind_eq_error.mpr (Or.inl hrefused.register_eq)

/-- Objects with RFC 1123 names. Two of them have the same path when both are definitions or neither is, and their fields give the
same path; for kinds without a slash this means the same text, and where the hyphens are spread over the fields in the same way, the
same fields. A provider that holds neither path takes both, in either order, when the paths differ, and refuses the second when they
do not. And it says that an object is registered twice exactly when it holds the path of the object. -/
theorem registration_of_dnsNamed (hm : c.manifest? = some m) (hm' : c'.manifest? = some m') (hnamed : m.identity.DnsNamed)
    (hnamed' : m'.identity.DnsNamed) :
    (m.relativePath.Same m'.relativePath ↔ m.isDefinition = m'.isDefinition ∧
        (Path.ofString (m.identity.fields.text ++ ".yaml")).Same (Path.ofString (m'.identity.fields.text ++ ".yaml"))) ∧
      ('/' ∉ m.kind.toList → '/' ∉ m'.kind.toList →
        (m.relativePath.Same m'.relativePath ↔
            m.isDefinition = m'.isDefinition ∧ m.identity.fields.text = m'.identity.fields.text) ∧
          (m.identity.fields.SameHyphens m'.identity.fields → (m.relativePath.Same m'.relativePath ↔
            m.isDefinition = m'.isDefinition ∧ m.identity.fields = m'.identity.fields))) ∧
      (∀ p : Provider, (∀ other ∈ p.manifests, ¬ other.relativePath.Same m.relativePath) →
        (∀ other ∈ p.manifests, ¬ other.relativePath.Same m'.relativePath) → InTurn p c c' m m' ∧ InTurn p c' c m' m) ∧
      ∀ (p : Provider) (kind name provider : String), p.refusal? c = some (.registeredTwice kind name provider) ↔
        (kind = m.kind ∧ name = m.name ∧ provider = p.name) ∧
          ∃ other ∈ p.manifests, other.relativePath.Same m.relativePath := by
  have hfile := Manifest.fileName_of_dnsNamed hnamed
  have hfile' := Manifest.fileName_of_dnsNamed hnamed'
  refine ⟨?_, ?_, ?_, ?_⟩
  · rw [← hfile, ← hfile']
    exact Manifest.same_iff m m'
  · intro hkind hkind'
    have htext : m.relativePath.Same m'.relativePath ↔
        m.isDefinition = m'.isDefinition ∧ m.identity.fields.text = m'.identity.fields.text := by
      rw [(Manifest.plain_of_dnsNamed hnamed hkind).same_iff (Manifest.plain_of_dnsNamed hnamed' hkind'), hfile, hfile',
        String.append_left_inj]
    refine ⟨htext, ?_⟩
    intro hhyphens
    rw [htext]
    refine and_congr_right fun _ => ⟨Identity.Fields.eq_of_text hhyphens, ?_⟩
    intro hfields
    rw [hfields]
  · intro p hnew hnew'
    exact ⟨inTurn_of_new hm hm' hnew hnew', inTurn_of_new hm' hm hnew' hnew⟩
  · intro p kind name provider
    exact refusal?_eq_registeredTwice_iff hm

/-- A config map offered to a provider. -/
def configMapCandidate (namespaceName name : String) : Candidate :=
  Candidate.ofObject (⟨{ name? := some name, namespaceName? := some namespaceName }, none⟩ : ConfigMap)

/-- The manifest of a config map. -/
def configMapManifest (namespaceName name : String) : Manifest where
  apiVersion := KubeObject.apiVersion ConfigMap
  kind := KubeObject.kind ConfigMap
  namespaceName? := some namespaceName
  name := name
  body := (KubeObject.document (⟨{ name? := some name, namespaceName? := some namespaceName }, none⟩ : ConfigMap)).sorted

theorem manifest?_configMapCandidate (namespaceName name : String) :
    (configMapCandidate namespaceName name).manifest? = some (configMapManifest namespaceName name) := rfl

theorem dnsNamed_configMapManifest {namespaceName name : String} (hnamespace : namespaceName.toList.all Identity.isLabelChar = true)
    (hname : name.toList.all Identity.isLabelChar = true) : (configMapManifest namespaceName name).identity.DnsNamed where
  namespaceName _ h := Option.some.inj h ▸ List.all_eq_true.mp hnamespace
  name c hc := Or.inl (List.all_eq_true.mp hname c hc)

/-- A new provider holds no path. -/
theorem holdsNone_new (name : String) (directory : Path) (m : Manifest) :
    ∀ other ∈ (new name directory).manifests, ¬ other.relativePath.Same m.relativePath :=
  fun _ hother => absurd hother List.not_mem_nil

/-- Config maps of one name in two namespaces with one hyphen each are both taken, in either order. -/
theorem registration_of_dnsNamed_configMaps :
    let m := configMapManifest "team-a" "db"
    let m' := configMapManifest "team-b" "db"
    m.identity.DnsNamed ∧ m'.identity.DnsNamed ∧ ¬ m.relativePath.Same m'.relativePath ∧
      InTurn (new "demo" (.ofString "out")) (configMapCandidate "team-a" "db") (configMapCandidate "team-b" "db") m m' ∧
      InTurn (new "demo" (.ofString "out")) (configMapCandidate "team-b" "db") (configMapCandidate "team-a" "db") m' m := by
  have hnamed : (configMapManifest "team-a" "db").identity.DnsNamed := dnsNamed_configMapManifest (by decide) (by decide)
  have hnamed' : (configMapManifest "team-b" "db").identity.DnsNamed := dnsNamed_configMapManifest (by decide) (by decide)
  obtain ⟨-, hplain, hinTurn, -⟩ := registration_of_dnsNamed (manifest?_configMapCandidate "team-a" "db")
    (manifest?_configMapCandidate "team-b" "db") hnamed hnamed'
  obtain ⟨-, hfields⟩ := hplain (by decide) (by decide)
  refine ⟨hnamed, hnamed', ?_, hinTurn _ (holdsNone_new _ _ _) (holdsNone_new _ _ _)⟩
  rw [hfields ⟨rfl, rfl, by decide⟩]
  rintro ⟨-, hsame⟩
  exact absurd (congrArg Identity.Fields.scope hsame) (by decide)

/-- Config maps with RFC 1123 names in two namespaces that have one path: the second is refused as if it were registered twice. -/
theorem configMaps_collide :
    let m := configMapManifest "team-a" "db"
    let m' := configMapManifest "team" "a-db"
    (configMapCandidate "team-a" "db").manifest? = some m ∧ (configMapCandidate "team" "a-db").manifest? = some m' ∧
      m.identity.DnsNamed ∧ m'.identity.DnsNamed ∧ m.identity ≠ m'.identity ∧ m.relativePath.Same m'.relativePath ∧
      registerAll [.ok (configMapCandidate "team-a" "db"), .ok (configMapCandidate "team" "a-db")] (new "demo" (.ofString "out")) =
        .error (.registeredTwice "ConfigMap" "a-db" "demo") ⟨"demo", .ofString "out", [m]⟩ := by
  have hsame : (configMapManifest "team-a" "db").relativePath.Same (configMapManifest "team" "a-db").relativePath := by
    decide +kernel
  refine ⟨rfl, rfl, dnsNamed_configMapManifest (by decide) (by decide), dnsNamed_configMapManifest (by decide) (by decide),
    by decide, hsame, ?_⟩
  exact (inTurn_of_new (manifest?_configMapCandidate "team-a" "db") (manifest?_configMapCandidate "team" "a-db")
    (holdsNone_new _ _ _) (holdsNone_new _ _ _)).together hsame

end ManifestTree.Provider
