import ManifestTree.Proofs.Manifest.FileName

/-!
# Where manifests with any names are written

The names and namespaces of objects are texts of any kind. A slash in one of them cuts the file name into parts, and some of these
parts may be `..`. Still the path of every manifest is relative, starts with the directory of its group and ends in a name
(`exists_components_relativePath`), and it is always appended to the directory of a provider (`components_join_relativePath`).
-/

namespace ManifestTree

namespace Lowercase

/-- The lower case of a text: what its first character gives, which is a slash only for a slash, and that of the rest. -/
theorem lowerAfter_cons (before : List Char) (c : Char) (rest : List Char) :
    ∃ here, lowerAfter before (c :: rest) = here ++ lowerAfter (c :: before) rest ∧ ('/' ∈ here → c = '/') := by
  refine ⟨_, rfl, ?_⟩
  intro h
  split at h
  · split at h
    · exact absurd h (by decide)
    · exact absurd h (by decide)
  · exact lowerChar_eq_slash h

/-- The lower case of a text: what its first part gives, with no new slash in it, and that of the rest. -/
theorem lowerAfter_append (before xs ys : List Char) :
    ∃ zs, lowerAfter before (xs ++ ys) = zs ++ lowerAfter (xs.reverse ++ before) ys ∧ ('/' ∈ zs → '/' ∈ xs) := by
  induction xs generalizing before with
  | nil => exact ⟨[], rfl, id⟩
  | cons c xs ih =>
    obtain ⟨here, hhere, hslash⟩ := lowerAfter_cons before c (xs ++ ys)
    obtain ⟨zs, hzs, hrest⟩ := ih (c :: before)
    refine ⟨here ++ zs, ?_, ?_⟩
    · rw [List.cons_append, hhere, hzs, List.append_assoc, List.reverse_cons, List.append_assoc]
      rfl
    · intro h
      rcases List.mem_append.mp h with h | h
      · exact List.mem_cons.mpr (Or.inl (hslash h).symm)
      · exact List.mem_cons_of_mem _ (hrest h)

end Lowercase

namespace Path

/-- Bytes without a separator behind others belong to the last part of these. -/
theorem split_append_end {b : List UInt8} (a : List UInt8) (hb : separator ∉ b) :
    ∃ before last, split a = before ++ [last] ∧ split (a ++ b) = before ++ [last ++ b] := by
  induction a with
  | nil => exact ⟨[], [], rfl, split_of_not_mem hb⟩
  | cons x a ih =>
    obtain ⟨before, last, ha, hab⟩ := ih
    by_cases hx : x = separator
    · exact ⟨[] :: before, last, by simp [split, hx, ha], by simp [split, hx, hab]⟩
    · cases before with
      | nil => exact ⟨[], x :: last, by simp [split, hx, ha], by simp [split, hx, hab]⟩
      | cons part before => exact ⟨(x :: part) :: before, last, by simp [split, hx, ha], by simp [split, hx, hab]⟩

/-- All parts of a path are read alike when the first one is neither empty nor a dot. -/
theorem components_eq_filterMap {p : Path} {first : Name} {rest : List Name} (h : split p.bytes = first :: rest)
    (hne : first ≠ []) (hdot : first ≠ dot) : p.components = (first :: rest).filterMap stepOf := by
  have habs : p.isAbsolute = false := by
    rw [← Bool.not_eq_true, isAbsolute_iff h]
    simp [hne]
  rw [components_of_split h, habs]
  cases hs : stepOf first <;> simp [lead?, hdot, hs]

/-- The components of a path whose parts are read alike are names and `..`. -/
theorem up_or_name_of_mem {p : Path} {c : Component} (h : p.components = (split p.bytes).filterMap stepOf)
    (hc : c ∈ p.components) : c = .up ∨ ∃ n, c = .name n := by
  rw [h] at hc
  rcases mem_filterMap_stepOf (fun part hp => separator_not_mem_of_mem_split hp) hc with hup | ⟨n, hn, -⟩
  · exact Or.inl hup
  · exact Or.inr ⟨n, hn⟩

/-- A path of names and `..` is appended to every other. -/
theorem components_join_of_up_or_name {p q : Path} (h : ∀ c ∈ q.components, c = .up ∨ ∃ n, c = .name n) :
    (p.join q).components = p.components ++ q.components := by
  refine components_join (isAbsolute_of_components ?_) ?_
  · intro hroot
    rcases h _ hroot with hc | ⟨n, hc⟩ <;> cases hc
  · intro hhere
    rcases h _ (List.mem_of_head? hhere) with hc | ⟨n, hc⟩ <;> cases hc

/-- Components that are names and `..` are names when they never go up. -/
theorem exists_names {cs : List Component} (h : ∀ c ∈ cs, c = .up ∨ ∃ n, c = .name n) (hdown : .up ∉ cs) :
    ∃ ns : List Name, cs = ns.map .name := by
  induction cs with
  | nil => exact ⟨[], rfl⟩
  | cons c cs ih =>
    obtain ⟨ns, rfl⟩ := ih (fun x hx => h x (List.mem_cons_of_mem _ hx)) fun hx => hdown (List.mem_cons_of_mem _ hx)
    rcases h c List.mem_cons_self with rfl | ⟨n, rfl⟩
    · exact absurd List.mem_cons_self hdown
    · exact ⟨n :: ns, rfl⟩

end Path

namespace Manifest

/-- What every file name ends in. -/
def extension : Name := Utf8.encode ".yaml"

/-- The first part of a file name has a hyphen in it, whatever the object is called. -/
theorem hyphen_mem_first (m : Manifest) :
    ∃ first rest, Path.split (Utf8.encode m.fileName) = first :: rest ∧ (0x2D : UInt8) ∈ first := by
  obtain ⟨tail, htail⟩ : ∃ tail, m.spelledName.toList = (flatten m.apiVersion).toList ++ '-' :: tail := ⟨_, toList_spelledName m⟩
  obtain ⟨zs, hzs, hslash⟩ := Lowercase.lowerAfter_append [] (flatten m.apiVersion).toList ('-' :: tail)
  have hletters : m.fileName.toList = zs ++ '-' :: Lowercase.lowerAfter
      ('-' :: ((flatten m.apiVersion).toList.reverse ++ [])) tail := by
    rw [fileName_eq, Lowercase.lowercase, String.toList_ofList, htail, hzs]
    rfl
  have hbytes : Utf8.encode m.fileName = (zs ++ ['-']).flatMap String.utf8EncodeChar ++
      (Lowercase.lowerAfter ('-' :: ((flatten m.apiVersion).toList.reverse ++ [])) tail).flatMap String.utf8EncodeChar := by
    rw [Utf8.encode, hletters, ← List.flatMap_append]
    simp
  have hclean : Path.separator ∉ (zs ++ ['-']).flatMap String.utf8EncodeChar := by
    intro h
    obtain ⟨c, hc, hb⟩ := List.mem_flatMap.mp h
    obtain rfl := Utf8.separator_mem_encodeChar hb
    rcases List.mem_append.mp hc with hc | hc
    · exact slash_not_mem_flatten m.apiVersion (hslash hc)
    · exact absurd hc (by decide)
  obtain ⟨first, rest, -, hsplit⟩ := Utf8.split_append_of_not_mem
    ((Lowercase.lowerAfter ('-' :: ((flatten m.apiVersion).toList.reverse ++ [])) tail).flatMap String.utf8EncodeChar) hclean
  refine ⟨_, rest, hbytes ▸ hsplit, List.mem_append_left _ (List.mem_flatMap.mpr ⟨'-', by simp, by decide⟩)⟩

/-- The last part of a file name ends in the extension, whatever the object is called. -/
theorem extension_suffix_last (m : Manifest) :
    ∃ before last, Path.split (Utf8.encode m.fileName) = before ++ [last ++ extension] := by
  obtain ⟨front, hfront⟩ : ∃ front, m.spelledName.toList = front ++ ".yaml".toList := by
    refine ⟨(flatten m.apiVersion).toList ++ '-' :: (m.kind.toList ++ '-' :: ((m.namespaceName?.getD clusterScope).toList ++
      '-' :: m.name.toList)), ?_⟩
    rw [toList_spelledName]
    simp
  obtain ⟨zs, hzs, -⟩ := Lowercase.lowerAfter_append [] front ".yaml".toList
  have hletters : m.fileName.toList = zs ++ ".yaml".toList := by
    rw [fileName_eq, Lowercase.lowercase, String.toList_ofList, hfront, hzs]
    rfl
  have hbytes : Utf8.encode m.fileName = zs.flatMap String.utf8EncodeChar ++ extension := by
    rw [Utf8.encode, hletters, List.flatMap_append]
    rfl
  obtain ⟨before, last, -, hsplit⟩ := Path.split_append_end (zs.flatMap String.utf8EncodeChar)
    (show Path.separator ∉ extension by decide)
  exact ⟨before, last, hbytes ▸ hsplit⟩

/-- A part that ends in the extension is a name. -/
theorem stepOf_extension (part : Name) : Path.stepOf (part ++ extension) = some (.name (part ++ extension)) := by
  have hlength : 5 ≤ (part ++ extension).length := by
    rw [List.length_append]
    exact Nat.le_add_left 5 _
  have hne : ∀ short : Name, short.length < 5 → part ++ extension ≠ short := by
    intro short hshort heq
    rw [heq] at hlength
    omega
  unfold Path.stepOf
  rw [if_neg (not_or.mpr ⟨hne [] (by decide), hne Path.dot (by decide)⟩), if_neg (hne Path.dotDot (by decide))]

/-- The components of a file name: names and `..`, and a name at the end. -/
theorem components_fileName (m : Manifest) :
    (∀ c ∈ (Path.ofString m.fileName).components, c = .up ∨ ∃ n, c = .name n) ∧
      ∃ cs n, (Path.ofString m.fileName).components = cs ++ [.name n] := by
  obtain ⟨first, rest, hfirst, hhyphen⟩ := hyphen_mem_first m
  obtain ⟨before, last, hlast⟩ := extension_suffix_last m
  rw [← Path.bytes_ofString] at hfirst hlast
  have hcomponents : (Path.ofString m.fileName).components = (first :: rest).filterMap Path.stepOf := by
    refine Path.components_eq_filterMap hfirst (List.ne_nil_of_mem hhyphen) ?_
    intro hdot
    rw [hdot] at hhyphen
    exact absurd hhyphen (by decide)
  refine ⟨?_, before.filterMap Path.stepOf, last ++ extension, ?_⟩
  · intro c hc
    refine Path.up_or_name_of_mem ?_ hc
    rw [hcomponents, hfirst]
  · rw [hcomponents, ← hfirst, hlast, List.filterMap_append, List.filterMap_cons_some (stepOf_extension last)]
    rfl

/-- The path of a manifest: the directory of its group, and then its file name. -/
theorem components_relativePath_eq (m : Manifest) :
    m.relativePath.components = .name (Utf8.encode m.group) :: (Path.ofString m.fileName).components := by
  obtain ⟨hcs, -⟩ := components_fileName m
  have hgroup : (Path.ofString m.group).components = [.name (Utf8.encode m.group)] := Path.components_name m.isName_group
  rw [relativePath, Path.joinText, Path.components_join_of_up_or_name hcs, hgroup, List.singleton_append]

/-- The path of every manifest starts in the directory of its group and ends in a name. -/
theorem exists_components_relativePath (m : Manifest) :
    ∃ cs n, m.relativePath.components = .name (Utf8.encode m.group) :: (cs ++ [.name n]) := by
  obtain ⟨-, cs, n, hfile⟩ := components_fileName m
  exact ⟨cs, n, by rw [components_relativePath_eq, hfile]⟩

/-- The path of every manifest consists of names and `..`. -/
theorem up_or_name_of_mem_relativePath (m : Manifest) :
    ∀ c ∈ m.relativePath.components, c = .up ∨ ∃ n, c = .name n := by
  intro c hc
  rw [components_relativePath_eq] at hc
  rcases List.mem_cons.mp hc with rfl | hc
  · exact Or.inr ⟨_, rfl⟩
  · exact (components_fileName m).1 c hc

/-- The path of a manifest is appended to every directory. -/
theorem components_join_relativePath (directory : Path) (m : Manifest) :
    (directory.join m.relativePath).components = directory.components ++ m.relativePath.components :=
  Path.components_join_of_up_or_name m.up_or_name_of_mem_relativePath

end Manifest

end ManifestTree
