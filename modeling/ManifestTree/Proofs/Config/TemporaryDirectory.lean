import ManifestTree.Proofs.Layout.Directories
import ManifestTree.Proofs.Path.Parent

/-!
# Which scratch directories are accepted

The variable `TEMPORARY_DIR` is to name one directory. It is read as a path, whose components leave out separators and dots at its
end, so besides plain names (`IsPlainName`) it may be a name with nothing but these behind it (`NamesDirectory`). These are all the
texts that are accepted (`isSingle_iff_namesDirectory`, `read_temporaryDirectory`); that every text with a separator is refused is
false (`read_accepts_separator`).
-/

namespace ManifestTree

/-- A text that is a directory name as it stands. -/
structure IsPlainName (s : String) : Prop where
  noSeparator : '/' ∉ s.toList
  ne_empty : s ≠ ""
  ne_dot : s ≠ "."
  ne_dotDot : s ≠ ".."

/-- A text that is the name of a directory with nothing behind it but separators and dots between them. -/
def NamesDirectory (s : String) (n : Name) : Prop :=
  Path.IsName n ∧ ∃ rest, Path.split (Utf8.encode s) = n :: rest ∧ ∀ part ∈ rest, Path.isIdle part = true

namespace Path

variable {p : Path} {n first : Name} {rest : List Name}

/-- A first part that asks for nothing is the empty one of a relative path. -/
theorem eq_of_lead?_eq_none {absolute : Bool} (h : lead? absolute first = none) : absolute = false ∧ first = [] := by
  unfold lead? at h
  split at h
  · cases h
  · rename_i habsolute
    split at h
    · cases h
    · rename_i hdot
      have hidle : first = [] ∨ first = dot := of_decide_eq_true (stepOf_eq_none_iff.mp h)
      exact ⟨by simpa using habsolute, hidle.resolve_right hdot⟩

/-- A first part that asks for a name is that name. -/
theorem eq_of_lead?_eq_name {absolute : Bool} (hsep : separator ∉ first) (h : lead? absolute first = some (.name n)) :
    first = n ∧ IsName n := by
  unfold lead? at h
  split at h
  · cases h
  · split at h
    · cases h
    · rcases stepOf_eq_some hsep h with hup | ⟨heq, hn⟩
      · cases hup
      · obtain rfl := Component.name.inj heq
        exact ⟨rfl, hn⟩

/-- A path asks for one name when its first part is that name and the others ask for nothing. -/
theorem components_eq_name_iff (h : split p.bytes = first :: rest) :
    p.components = [.name n] ↔ first = n ∧ IsName n ∧ ∀ part ∈ rest, isIdle part = true := by
  have hsep : separator ∉ first := separator_not_mem_of_mem_split (h ▸ List.mem_cons_self)
  have hidle : rest.filterMap stepOf = [] ↔ ∀ part ∈ rest, isIdle part = true := by
    rw [List.filterMap_eq_nil_iff]
    exact forall₂_congr fun _ _ => stepOf_eq_none_iff
  rw [components_of_split h, ← hidle]
  constructor
  · intro hname
    cases hlead : lead? p.isAbsolute first with
    | some c =>
      rw [hlead] at hname
      obtain ⟨rfl, hrest⟩ := List.cons.inj hname
      obtain ⟨hfirst, hn⟩ := eq_of_lead?_eq_name hsep hlead
      exact ⟨hfirst, hn, hrest⟩
    | none =>
      -- an empty part with others behind it would make the path absolute
      rw [hlead] at hname
      obtain ⟨hrelative, hfirst⟩ := eq_of_lead?_eq_none hlead
      have hne : rest ≠ [] := by
        rintro rfl
        cases hname
      rw [(isAbsolute_iff h).mpr ⟨hfirst, hne⟩] at hrelative
      cases hrelative
  · rintro ⟨rfl, hn, hrest⟩
    have habsolute : p.isAbsolute = false := by
      rw [← Bool.not_eq_true, isAbsolute_iff h]
      exact fun hempty => hn.ne_nil hempty.1
    rw [hrest, habsolute]
    simp [lead?, hn.ne_dot, stepOf_of_isName hn]

end Path

variable {s : String} {n : Name}

theorem components_ofString_iff : (Path.ofString s).components = [.name n] ↔ NamesDirectory s n := by
  obtain ⟨first, rest, h⟩ := Path.exists_split (Utf8.encode s)
  rw [Path.components_eq_name_iff (p := Path.ofString s) h, NamesDirectory, h]
  constructor
  · rintro ⟨rfl, hn, hrest⟩
    exact ⟨hn, rest, rfl, hrest⟩
  · rintro ⟨hn, rest', heq, hrest⟩
    obtain ⟨rfl, rfl⟩ := List.cons.inj heq
    exact ⟨rfl, hn, hrest⟩

/-- The texts that ask for one directory. -/
theorem isSingle_iff_namesDirectory : IsSingle s ↔ ∃ n, NamesDirectory s n :=
  exists_congr fun _ => components_ofString_iff

theorem nameOf_of_namesDirectory (h : NamesDirectory s n) : nameOf s = n := by
  rw [nameOf, components_ofString_iff.mpr h]

/-- A separator in a text is one in its bytes. -/
theorem separator_mem_encode_iff : Path.separator ∈ Utf8.encode s ↔ '/' ∈ s.toList := by
  constructor
  · intro h
    by_contra hnone
    exact Utf8.separator_not_mem_encode hnone h
  · intro h
    exact List.mem_flatMap.mpr ⟨'/', h, by decide⟩

theorem isPlainName_iff : IsPlainName s ↔ Path.IsName (Utf8.encode s) := by
  have hencode : ∀ r : String, s ≠ r ↔ Utf8.encode s ≠ Utf8.encode r := fun r =>
    not_congr ⟨fun h => congrArg _ h, fun h => Utf8.encode_injective h⟩
  constructor
  · intro h
    exact ⟨Utf8.separator_not_mem_encode h.noSeparator, (hencode "").mp h.ne_empty, (hencode ".").mp h.ne_dot,
      (hencode "..").mp h.ne_dotDot⟩
  · intro h
    exact ⟨fun hm => h.noSeparator (separator_mem_encode_iff.mpr hm), (hencode "").mpr h.ne_nil, (hencode ".").mpr h.ne_dot,
      (hencode "..").mpr h.ne_dotDot⟩

/-- A plain name names the directory that is called so. -/
theorem IsPlainName.namesDirectory (h : IsPlainName s) : NamesDirectory s (Utf8.encode s) :=
  ⟨isPlainName_iff.mp h, [], Path.split_of_not_mem (Utf8.separator_not_mem_encode h.noSeparator), by simp⟩

/-- A text names the directory that is called like the whole of it exactly when it has no separator. -/
theorem NamesDirectory.eq_encode_iff (h : NamesDirectory s n) : n = Utf8.encode s ↔ '/' ∉ s.toList := by
  obtain ⟨hn, rest, hs, -⟩ := h
  constructor
  · rintro rfl
    rw [← separator_mem_encode_iff]
    exact hn.noSeparator
  · intro hslash
    rw [Path.split_of_not_mem (Utf8.separator_not_mem_encode hslash)] at hs
    exact (List.cons.inj hs).1.symm

/-- Of the texts without a separator, those that name a directory are the plain names. -/
theorem namesDirectory_of_noSeparator (h : '/' ∉ s.toList) : (∃ n, NamesDirectory s n) ↔ IsPlainName s := by
  constructor
  · rintro ⟨n, hn⟩
    obtain rfl := hn.eq_encode_iff.mpr h
    exact isPlainName_iff.mpr hn.1
  · intro hplain
    exact ⟨_, hplain.namesDirectory⟩

namespace Layout

/-- What a layout puts below the root when its generated segment has a name: every path has that name there. -/
structure HasSegment (l : Layout) (n : Name) : Prop where
  environment : ∀ e, (l.environmentDirectory e).components =
    l.root.components ++ [.name (Utf8.encode generatedName), .name n]
  category : ∀ e c, (l.categoryDirectory e c).components =
    l.root.components ++ [.name (Utf8.encode generatedName), .name n, .name (Utf8.encode c.name)]
  resource : ∀ e r, (l.resourcePath e r).components = l.root.components ++
    [.name (Utf8.encode generatedName), .name n, .name (Utf8.encode r.category.name), .name (Utf8.encode r.name)]

/-- With a scratch directory every path of a layout has its name as the segment. -/
theorem hasSegment_of_scratch {l : Layout} (hs : l.scratch? = some s) (hn : NamesDirectory s n) : HasSegment l n := by
  have hplain : l.Plain := by
    intro s' hs'
    obtain rfl := Option.some.inj (hs.symm.trans hs')
    exact isSingle_iff_namesDirectory.mpr ⟨n, hn⟩
  have hsegment : ∀ e, l.segmentName e = n := fun e =>
    (segmentName_of_some hs e).trans (nameOf_of_namesDirectory hn)
  have henvironment : ∀ e, (l.environmentDirectory e).components =
      l.root.components ++ [.name (Utf8.encode generatedName), .name n] := by
    intro e
    rw [components_environmentDirectory hplain, environmentNames, hsegment]
    rfl
  refine ⟨henvironment, ?_, ?_⟩
  · intro e c
    rw [categoryDirectory, Path.components_joinText c.isName, henvironment, List.append_assoc]
    rfl
  · intro e r
    rw [components_resourcePath hplain, resourceNames, environmentNames, hsegment]
    rfl

end Layout

namespace Config

variable {repository root : Path} {cwd : Except FileError Path} {vars : Variables}

/-- What a text given as a scratch directory is read as. -/
theorem readTemporaryDirectory_some (s : String) : readTemporaryDirectory (some s) =
    if s = "" then .ok none else if isSingleName (Path.ofString s) then .ok (some s) else .error (.invalidTemporaryDirectory s) := rfl

/-- With a root, reading a configuration comes down to reading the scratch directory. -/
theorem read_of_root (hroot : readRoot repository cwd (vars.text? "MANIFESTS_ROOT") = .ok root) :
    Config.read repository cwd vars = (readTemporaryDirectory (vars.text? "TEMPORARY_DIR")).map fun name =>
      ⟨root, name, (vars.text? "ARGOCD_REPO_URL").getD defaultRepositoryUrl⟩ := by
  unfold Config.read
  rw [hroot]
  cases readTemporaryDirectory (vars.text? "TEMPORARY_DIR") <;> rfl

/-- What reading a configuration with a root can do: take no scratch directory for an empty text, take a text that names one as it is, or
refuse the text. -/
theorem read_cases (hroot : readRoot repository cwd (vars.text? "MANIFESTS_ROOT") = .ok root)
    (hs : vars.text? "TEMPORARY_DIR" = some s) :
    let url := (vars.text? "ARGOCD_REPO_URL").getD defaultRepositoryUrl
    (s = "" ∧ Config.read repository cwd vars = .ok ⟨root, none, url⟩) ∨
      (s ≠ "" ∧ ∃ n, NamesDirectory s n ∧ Config.read repository cwd vars = .ok ⟨root, some s, url⟩) ∨
      ((s ≠ "" ∧ ¬ ∃ n, NamesDirectory s n) ∧ Config.read repository cwd vars = .error (.invalidTemporaryDirectory s)) := by
  have hread := read_of_root hroot
  rw [hs, readTemporaryDirectory_some] at hread
  by_cases hempty : s = ""
  · rw [if_pos hempty] at hread
    exact Or.inl ⟨hempty, hread⟩
  rw [if_neg hempty] at hread
  by_cases hsingle : IsSingle s
  · obtain ⟨n, hn⟩ := isSingle_iff_namesDirectory.mp hsingle
    rw [if_pos (isSingle_iff.mp hsingle)] at hread
    exact Or.inr (Or.inl ⟨hempty, n, hn, hread⟩)
  · rw [if_neg fun h => hsingle (isSingle_iff.mpr h)] at hread
    exact Or.inr (Or.inr ⟨⟨hempty, fun h => hsingle (isSingle_iff_namesDirectory.mpr h)⟩, hread⟩)

/-- Which texts are accepted as a scratch directory, with a valid root or none: the empty one, which is none, and those that name a
directory. Without a separator these are exactly the plain names; behind a name there may also be separators and dots between them. The
text is kept as it is, and the segment of every path of the layout is the name, which is the whole text only when it has no separator.
Every other text is refused with an error that says which variable it is about. -/
theorem read_temporaryDirectory (hroot : readRoot repository cwd (vars.text? "MANIFESTS_ROOT") = .ok root)
    (hs : vars.text? "TEMPORARY_DIR" = some s) :
    ((∃ c, Config.read repository cwd vars = .ok c) ↔ s = "" ∨ ∃ n, NamesDirectory s n) ∧
      ('/' ∉ s.toList → ((∃ n, NamesDirectory s n) ↔ IsPlainName s)) ∧
      (∀ c, Config.read repository cwd vars = .ok c → c.manifestsRoot = root ∧
        (s = "" → c.temporaryDirectory? = none) ∧
        (s ≠ "" → c.temporaryDirectory? = some s ∧ ∃ n, NamesDirectory s n ∧ (n = Utf8.encode s ↔ '/' ∉ s.toList) ∧
          c.layout.HasSegment n)) ∧
      ∀ e, Config.read repository cwd vars = .error e →
        e = .invalidTemporaryDirectory s ∧ e.context = "Invalid TEMPORARY_DIR" := by
  have hcases := read_cases hroot hs
  refine ⟨?_, namesDirectory_of_noSeparator, ?_, ?_⟩
  · rcases hcases with ⟨hempty, hread⟩ | ⟨-, n, hn, hread⟩ | ⟨⟨hne, hnone⟩, hread⟩
    · exact iff_of_true ⟨_, hread⟩ (Or.inl hempty)
    · exact iff_of_true ⟨_, hread⟩ (Or.inr ⟨n, hn⟩)
    · refine iff_of_false ?_ (not_or.mpr ⟨hne, hnone⟩)
      rintro ⟨c, hc⟩
      cases hread.symm.trans hc
  · intro c hc
    rcases hcases with ⟨hempty, hread⟩ | ⟨hne, n, hn, hread⟩ | ⟨-, hread⟩
    · obtain rfl := Except.ok.inj (hread.symm.trans hc)
      exact ⟨rfl, fun _ => rfl, fun hne => absurd hempty hne⟩
    · obtain rfl := Except.ok.inj (hread.symm.trans hc)
      exact ⟨rfl, fun hempty => absurd hempty hne, fun _ => ⟨rfl, n, hn, hn.eq_encode_iff, Layout.hasSegment_of_scratch rfl hn⟩⟩
    · cases hread.symm.trans hc
  · intro e he
    rcases hcases with ⟨-, hread⟩ | ⟨-, n, hn, hread⟩ | ⟨-, hread⟩
    · cases hread.symm.trans he
    · cases hread.symm.trans he
    · obtain rfl := Except.error.inj (hread.symm.trans he)
      exact ⟨rfl, rfl⟩

/-- A name with a separator behind it is accepted, beside a root that has one, too. -/
theorem read_temporaryDirectory_trailing :
    let vars := variablesOf "/srv/kubernetes/manifests/" "tmp-diff/./"
    let root : Path := .ofString "/srv/kubernetes/manifests/"
    readRoot (.ofString "/") (.ok (.ofString "/")) (vars.text? "MANIFESTS_ROOT") = .ok root ∧
      vars.text? "TEMPORARY_DIR" = some "tmp-diff/./" ∧
      ((∃ c, Config.read (.ofString "/") (.ok (.ofString "/")) vars = .ok c) ↔
        "tmp-diff/./" = "" ∨ ∃ n, NamesDirectory "tmp-diff/./" n) := by
  intro vars root
  have hroot : readRoot (.ofString "/") (.ok (.ofString "/")) (vars.text? "MANIFESTS_ROOT") = .ok root := by rfl
  have htext : vars.text? "TEMPORARY_DIR" = some "tmp-diff/./" := by rfl
  exact ⟨hroot, htext, (read_temporaryDirectory hroot htext).1⟩

/-- Not every text that is no plain name is refused: `tmp-diff/` is accepted, and the segment is another name than the text. -/
theorem read_accepts_separator : ¬ IsPlainName "tmp-diff/" ∧ ∃ c, Config.read (.ofString "/") (.ok (.ofString "/"))
      (variablesOf "/srv/kubernetes/manifests" "tmp-diff/") = .ok c ∧ c.temporaryDirectory? = some "tmp-diff/" ∧
    (c.layout.environmentDirectory .staging).components.getLast? ≠ some (.name (Utf8.encode "tmp-diff/")) := by
  refine ⟨fun h => h.noSeparator (by decide), ?_⟩
  exact ⟨⟨.ofString "/srv/kubernetes/manifests", some "tmp-diff/", defaultRepositoryUrl⟩, by rfl, rfl, by decide⟩

end Config

end ManifestTree
