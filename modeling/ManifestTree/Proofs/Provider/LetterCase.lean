import ManifestTree.Proofs.Manifest.Identity
import ManifestTree.Proofs.Manifest.RelativePath
import ManifestTree.Proofs.Manifest.Spelling
import ManifestTree.Proofs.Provider.Collisions
import ManifestTree.Proofs.Text.LetterCase

/-!
# Manifests and letter case

No path of a manifest has a capital letter of ASCII in it (`Manifest.not_isCapital_of_mem_relativePath`). So paths that differ also
differ where letter case is ignored, as in a directory that does not tell `a` from `A`. And objects of one type whose namespaces and
names differ only in the case of ASCII letters have the same path (`Manifest.relativePath_congr`), whatever other letters stand beside
these. Both together say how a provider keeps what it collects apart (`manifests_apart_in_any_case`).
-/

namespace ManifestTree

/-! ## Paths without capital letters -/

/-- The bytes of the capital letters of ASCII. -/
def IsCapital (b : UInt8) : Prop := 0x41 ≤ b ∧ b ≤ 0x5A

instance (b : UInt8) : Decidable (IsCapital b) := inferInstanceAs (Decidable (_ ∧ _))

/-- A byte, with the small letter for each capital one. -/
def smallByte (b : UInt8) : UInt8 := if IsCapital b then b + 0x20 else b

/-- A component with small letters for its capital ones. -/
def Component.small : Component → Component
  | .name n => .name (n.map smallByte)
  | c => c

/-- Whether two paths agree component by component when the case of ASCII letters is ignored. -/
def Path.SameInAnyCase (p q : Path) : Prop := p.components.map Component.small = q.components.map Component.small

/-- The bytes of a text are capital letters only where its characters are. -/
theorem not_isCapital_of_mem_encode {s : String} (h : ∀ c ∈ s.toList, ¬ c.isUpper = true) {b : UInt8} (hb : b ∈ Utf8.encode s) :
    ¬ IsCapital b := by
  rintro ⟨hlow, hhigh⟩
  obtain ⟨c, hc, hb⟩ := List.mem_flatMap.mp hb
  have hlow' : 65 ≤ b.toNat := UInt8.le_iff_toNat_le.mp hlow
  have hhigh' : b.toNat ≤ 90 := UInt8.le_iff_toNat_le.mp hhigh
  have hn := Utf8.toNat_eq_of_mem_encodeChar (by omega) hb
  exact h c hc (isUpper_iff.mpr (by omega))

namespace Path

variable {p q : Path}

/-- The bytes of a part of a path are bytes of the path. -/
theorem mem_of_mem_split {bs : List UInt8} {part : Name} (h : part ∈ split bs) : part ⊆ bs := by
  induction bs generalizing part with
  | nil =>
    rw [split, List.mem_singleton] at h
    exact h ▸ List.Subset.refl _
  | cons x bs ih =>
    obtain ⟨first, rest, hs⟩ := exists_split bs
    by_cases hx : x = separator
    · rw [split, if_pos hx] at h
      rcases List.mem_cons.mp h with rfl | h
      · exact List.nil_subset _
      · exact List.subset_cons_of_subset x (ih h)
    · simp only [split, if_neg hx, hs] at h
      rcases List.mem_cons.mp h with rfl | h
      · exact List.cons_subset_cons x (ih (hs ▸ List.mem_cons_self))
      · exact List.subset_cons_of_subset x (ih (hs ▸ List.mem_cons_of_mem _ h))

/-- The bytes of joined paths, and separators between them. -/
theorem mem_bytes_join {b : UInt8} (h : b ∈ (p.join q).bytes) : b ∈ p.bytes ∨ b = separator ∨ b ∈ q.bytes := by
  unfold join at h
  split at h
  · exact Or.inr (Or.inr h)
  · split at h
    · rcases List.mem_append.mp h with h | h
      · exact Or.inl h
      · exact Or.inr (Or.inr h)
    · rcases List.mem_append.mp h with h | h
      · exact Or.inl h
      · exact Or.inr (List.mem_cons.mp h)

/-- The components of a path without capital letters stay as they are when case is ignored. -/
theorem map_small_components (h : ∀ b ∈ p.bytes, ¬ IsCapital b) : p.components.map Component.small = p.components := by
  refine (List.map_congr_left fun c hc => ?_).trans (List.map_id _)
  cases c with
  | name n =>
    have hn : n.map smallByte = n := by
      refine (List.map_congr_left fun b hb => ?_).trans (List.map_id _)
      exact if_neg (h b (mem_of_mem_split (mem_split_of_mem_components hc) hb))
    exact congrArg Component.name hn
  | _ => rfl

/-- Paths without capital letters that differ also differ when case is ignored. -/
theorem sameInAnyCase_iff (hp : ∀ b ∈ p.bytes, ¬ IsCapital b) (hq : ∀ b ∈ q.bytes, ¬ IsCapital b) :
    p.SameInAnyCase q ↔ p.Same q := by
  unfold SameInAnyCase Same
  rw [map_small_components hp, map_small_components hq]

end Path

/-! ## Objects with the same letters -/

/-- Two identities of one type whose namespaces and names are the same but for the case of their ASCII letters. -/
structure Identity.SameInAnyCase (i i' : Identity) : Prop where
  apiVersion : i.apiVersion = i'.apiVersion
  kind : i.kind = i'.kind
  namespaceName : Option.Rel SameLetters i.namespaceName? i'.namespaceName?
  name : SameLetters i.name i'.name

namespace Manifest

variable {m m' : Manifest}

/-- No path of a manifest has a capital letter in it. -/
theorem not_isCapital_of_mem_relativePath (m : Manifest) {b : UInt8} (hb : b ∈ m.relativePath.bytes) : ¬ IsCapital b := by
  have hgroup : ∀ c ∈ m.group.toList, ¬ c.isUpper = true := by
    have hall : (m.group.toList.all fun c => ¬ c.isUpper = true) = true := by
      unfold group
      split <;> rfl
    simpa only [List.all_eq_true, decide_eq_true_eq] using hall
  have hname : ∀ c ∈ m.fileName.toList, ¬ c.isUpper = true := by
    intro c hc
    rw [fileName_eq] at hc
    exact Lowercase.not_isUpper_of_mem_lowercase hc
  rw [relativePath, Path.joinText] at hb
  rcases Path.mem_bytes_join hb with hb | hb | hb
  · rw [Path.bytes_ofString] at hb
    exact not_isCapital_of_mem_encode hgroup hb
  · rw [hb]
    decide
  · rw [Path.bytes_ofString] at hb
    exact not_isCapital_of_mem_encode hname hb

/-- The path of every manifest is relative. -/
theorem isAbsolute_relativePath (m : Manifest) : m.relativePath.isAbsolute = false := by
  refine Path.isAbsolute_of_components fun hroot => ?_
  rcases m.up_or_name_of_mem_relativePath _ hroot with h | ⟨n, h⟩
  · exact absurd h (by decide)
  · exact absurd h (by simp)

/-- The path of every manifest starts in one of the two groups. -/
theorem head?_components_relativePath (m : Manifest) :
    m.relativePath.components.head? = some (.name (Utf8.encode definitionGroup)) ∨
      m.relativePath.components.head? = some (.name (Utf8.encode plainGroup)) := by
  rw [components_relativePath_eq, List.head?_cons]
  unfold group
  split
  · exact Or.inl rfl
  · exact Or.inr rfl

/-- What differs only in the case of ASCII letters is spelled with the same letters. -/
theorem sameLetters_spelledName (h : m.identity.SameInAnyCase m'.identity) : SameLetters m.spelledName m'.spelledName := by
  have hrefl : ∀ cs : List Char, List.Forall₂ SameLetter cs cs := fun cs => List.forall₂_same.mpr fun c _ => .same c
  have hscope : SameLetters (m.namespaceName?.getD clusterScope) (m'.namespaceName?.getD clusterScope) := by
    obtain ⟨-, -, hnamespace, -⟩ := h
    unfold identity at hnamespace
    generalize m.namespaceName? = n at hnamespace ⊢
    generalize m'.namespaceName? = n' at hnamespace ⊢
    cases hnamespace with
    | some hsame => exact hsame
    | none => exact hrefl _
  have hversion : m.apiVersion = m'.apiVersion := h.apiVersion
  have hkind : m.kind = m'.kind := h.kind
  unfold SameLetters
  rw [toList_spelledName, toList_spelledName, hversion, hkind]
  refine List.rel_append (hrefl _) (.cons (.same _) (List.rel_append (hrefl _) (.cons (.same _) ?_)))
  exact List.rel_append hscope (.cons (.same _) (List.rel_append h.name (hrefl _)))

/-- Objects of one type that differ only in the case of ASCII letters have one path. -/
theorem relativePath_congr (h : m.identity.SameInAnyCase m'.identity) : m.relativePath = m'.relativePath := by
  have hkind : m.kind = m'.kind := h.kind
  have hgroup : m.group = m'.group := group_eq_group_iff.mpr (by rw [isDefinition, isDefinition, hkind])
  rw [relativePath, relativePath, hgroup, fileName_eq, fileName_eq, Lowercase.lowercase_congr (sameLetters_spelledName h)]

end Manifest

/-! ## What a provider keeps apart -/

namespace Provider

/-- Over any run of calls, with any names and namespaces: the paths of the manifests that a provider holds differ pairwise, also when
the case of ASCII letters is ignored; each is relative, starts in one of the two groups and has no capital letter of ASCII; and of
objects of one type that differ only in the case of ASCII letters it holds at most one and refuses every other. -/
theorem manifests_apart_in_any_case (name : String) (directory : Path) (calls : List Candidate) :
    let p := (new name directory).afterCalls calls
    (p.manifests.Pairwise fun m m' => ¬ m.relativePath.SameInAnyCase m'.relativePath) ∧
      (∀ m ∈ p.manifests, m.relativePath.isAbsolute = false ∧
        (m.relativePath.components.head? = some (.name (Utf8.encode "0-crd")) ∨
          m.relativePath.components.head? = some (.name (Utf8.encode "1-manifest"))) ∧
        ∀ b ∈ m.relativePath.bytes, ¬ IsCapital b) ∧
      (p.manifests.Pairwise fun m m' => ¬ m.identity.SameInAnyCase m'.identity) ∧
      ∀ m ∈ p.manifests, ∀ (c : Candidate) (m' : Manifest), c.manifest? = some m' → m.identity.SameInAnyCase m'.identity →
        p.refusal? c = some (.registeredTwice m'.kind m'.name p.name) := by
  intro p
  have hdistinct : Distinct p.manifests := distinct_afterCalls calls List.Pairwise.nil
  refine ⟨?_, ?_, ?_, ?_⟩
  · refine hdistinct.imp fun {m m'} hne hsame => hne ?_
    exact (Path.sameInAnyCase_iff (fun _ => m.not_isCapital_of_mem_relativePath)
      (fun _ => m'.not_isCapital_of_mem_relativePath)).mp hsame
  · intro m _
    exact ⟨m.isAbsolute_relativePath, m.head?_components_relativePath, fun _ => m.not_isCapital_of_mem_relativePath⟩
  · refine hdistinct.imp fun {m m'} hne hsame => hne ?_
    exact congrArg Path.components (Manifest.relativePath_congr hsame)
  · intro m hm c m' hm' hsame
    exact refusal?_eq_some_iff.mpr (.registeredTwice hm' hm (congrArg Path.components (Manifest.relativePath_congr hsame)))

/-- Config maps whose namespaces and names differ in the case of some ASCII letters, beside a sigma that ends a word: the second one is
refused. -/
theorem manifests_apart_in_any_case_config_maps :
    let p := (new "demo" (.ofString "out")).afterCalls [configMapCandidate "Web" "ΟΔΟΣ-Db"]
    let m := configMapManifest "Web" "ΟΔΟΣ-Db"
    let m' := configMapManifest "wEB" "ΟΔΟΣ-dB"
    p.manifests = [m] ∧ m.identity.SameInAnyCase m'.identity ∧ m.identity ≠ m'.identity ∧
      (∀ b ∈ m.relativePath.bytes, ¬ IsCapital b) ∧
      p.refusal? (configMapCandidate "wEB" "ΟΔΟΣ-dB") = some (.registeredTwice "ConfigMap" "ΟΔΟΣ-dB" "demo") := by
  intro p m m'
  have hmanifests : p.manifests = [m] := rfl
  have hm : m ∈ p.manifests := hmanifests ▸ List.mem_cons_self
  have hsame : m.identity.SameInAnyCase m'.identity :=
    ⟨rfl, rfl, .some (show SameLetters "Web" "wEB" by decide), show SameLetters "ΟΔΟΣ-Db" "ΟΔΟΣ-dB" by decide⟩
  obtain ⟨-, hpaths, -, hrefused⟩ := manifests_apart_in_any_case "demo" (.ofString "out") [configMapCandidate "Web" "ΟΔΟΣ-Db"]
  exact ⟨hmanifests, hsame, by decide, (hpaths m hm).2.2,
    hrefused m hm _ m' (manifest?_configMapCandidate "wEB" "ΟΔΟΣ-dB") hsame⟩

end Provider

end ManifestTree
