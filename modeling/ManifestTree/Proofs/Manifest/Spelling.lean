import ManifestTree.Proofs.Manifest.Identity
import ManifestTree.Proofs.Manifest.RelativePath

/-!
# How the fields of an identity are put together

A hyphen is where words end, so a text is put in lower case piece by piece between its hyphens (`lowerAfter_append_hyphen`). The file
name of an object with an RFC 1123 name therefore consists of four fields with hyphens between them, each in lower case on its own
(`fileName_of_dnsNamed`). Hyphens may also stand inside the fields. So different fields can give the same text, and only where the
hyphens are spread over the fields in the same way does the text determine the fields (`Fields.eq_of_text`).
-/

namespace ManifestTree

namespace Lowercase

variable {xs : List Char}

/-- A hyphen ends a word: what follows makes no difference to what stands before it. -/
theorem meetsCased_append_hyphen (xs ys : List Char) : meetsCased (xs ++ '-' :: ys) = meetsCased xs := by
  have hhyphen : isIgnorable '-' = false := by decide +kernel
  have huncased : isCased '-' = false := by decide +kernel
  unfold meetsCased
  rw [List.dropWhile_append]
  cases hrest : xs.dropWhile isIgnorable with
  | nil => simp [hhyphen, huncased]
  | cons c rest => simp

/-- A text behind a hyphen is put in lower case as if nothing stood before it. -/
theorem lowerAfter_behind_hyphen (near before xs : List Char) : lowerAfter (near ++ '-' :: before) xs = lowerAfter near xs := by
  induction xs generalizing near with
  | nil => rfl
  | cons c xs ih =>
    have hrest : lowerAfter (c :: (near ++ '-' :: before)) xs = lowerAfter (c :: near) xs := ih (c :: near)
    simp only [lowerAfter, meetsCased_append_hyphen, hrest]

/-- The lower case of a text with a hyphen in it: that of the part before, the hyphen, and that of the part behind. -/
theorem lowerAfter_append_hyphen (before xs ys : List Char) :
    lowerAfter before (xs ++ '-' :: ys) = lowerAfter before xs ++ '-' :: lowerAfter [] ys := by
  induction xs generalizing before with
  | nil =>
    have hhyphen : lowerChar '-' = ['-'] := by decide
    have hbehind : lowerAfter ('-' :: before) ys = lowerAfter [] ys := lowerAfter_behind_hyphen [] before ys
    simp only [List.nil_append, lowerAfter, hbehind, hhyphen, if_neg (show ('-' : Char) ≠ 'Σ' by decide), List.singleton_append]
  | cons c xs ih => simp only [List.cons_append, lowerAfter, meetsCased_append_hyphen, ih, List.append_assoc]

/-- Characters that stay as they are in lower case. -/
def Stays (c : Char) : Prop := c ≠ 'Σ' ∧ lowerChar c = [c]

/-- A text of such characters is its own lower case. -/
theorem lowerAfter_of_stays (before : List Char) (h : ∀ c ∈ xs, Stays c) : lowerAfter before xs = xs := by
  induction xs generalizing before with
  | nil => rfl
  | cons c xs ih =>
    obtain ⟨hsigma, hc⟩ := h c List.mem_cons_self
    have hrest := ih (c :: before) fun d hd => h d (List.mem_cons_of_mem _ hd)
    simp only [lowerAfter, if_neg hsigma, hc, hrest, List.singleton_append]

/-- An ASCII character that is no capital letter stays as it is. -/
theorem stays_of_ascii {c : Char} (hascii : c.toNat < 0x80) (hcapital : c.toNat < 0x41 ∨ 0x5A < c.toNat) : Stays c := by
  have hsigma : c ≠ 'Σ' := by
    rintro rfl
    exact absurd hascii (by decide)
  have hsame : c.toLower = c := by
    refine toLower_of_not_isUpper ?_
    rw [isUpper_iff]
    omega
  exact ⟨hsigma, by rw [lowerChar, if_pos hascii, hsame]⟩

end Lowercase

namespace Identity

/-! ## Names of objects -/

/-- The characters of RFC 1123 labels. -/
def isLabelChar (c : Char) : Bool := ('a' ≤ c && c ≤ 'z') || ('0' ≤ c && c ≤ '9') || c = '-'

/-- An object whose name and whose namespace, if it has one, are made of the characters of RFC 1123 names; those of namespaces are
labels. -/
structure DnsNamed (i : Identity) : Prop where
  namespaceName : ∀ n, i.namespaceName? = some n → ∀ c ∈ n.toList, isLabelChar c = true
  name : ∀ c ∈ i.name.toList, isLabelChar c = true ∨ c = '.'

/-- The characters of labels stay as they are in lower case, and the slash is none of them. -/
theorem stays_of_isLabelChar {c : Char} (h : isLabelChar c = true) : Lowercase.Stays c ∧ c ≠ '/' := by
  have hbounds : c = '-' ∨ (48 ≤ c.toNat ∧ c.toNat ≤ 57) ∨ (97 ≤ c.toNat ∧ c.toNat ≤ 122) := by
    simp only [isLabelChar, Bool.or_eq_true, Bool.and_eq_true, decide_eq_true_eq, Char.le_def, UInt32.le_iff_toNat_le] at h
    rcases h with (h | h) | h
    · exact Or.inr (Or.inr h)
    · exact Or.inr (Or.inl h)
    · exact Or.inl h
  rcases hbounds with rfl | hbounds
  · exact ⟨⟨by decide, by decide⟩, by decide⟩
  · refine ⟨Lowercase.stays_of_ascii (by omega) (by omega), ?_⟩
    rintro rfl
    exact absurd hbounds (by decide)

/-! ## Fields -/

/-- The fields of a file name. -/
structure Fields where
  apiVersion : String
  kind : String
  scope : String
  name : String
  deriving DecidableEq

/-- Fields with hyphens between them. -/
def Fields.text (f : Fields) : String := s!"{f.apiVersion}-{f.kind}-{f.scope}-{f.name}"

/-- The fields that an identity has in a file name, each in lower case on its own. -/
def fields (i : Identity) : Fields where
  apiVersion := Lowercase.lowercase (Manifest.flatten i.apiVersion)
  kind := Lowercase.lowercase i.kind
  scope := i.namespaceName?.getD Manifest.clusterScope
  name := i.name

namespace Fields

variable {f f' : Fields}

theorem toList_text (f : Fields) : f.text.toList =
    f.apiVersion.toList ++ '-' :: (f.kind.toList ++ '-' :: (f.scope.toList ++ '-' :: f.name.toList)) := by
  simp [text, toString, String.toList_append]

/-- Hyphens that are spread in the same way: corresponding fields have equally many. What the last field has follows from the text. -/
structure SameHyphens (f f' : Fields) : Prop where
  apiVersion : f.apiVersion.toList.count '-' = f'.apiVersion.toList.count '-'
  kind : f.kind.toList.count '-' = f'.kind.toList.count '-'
  scope : f.scope.toList.count '-' = f'.scope.toList.count '-'

/-- Two texts that are cut at a hyphen and have equally many before it are cut at the same place. -/
theorem eq_of_append_hyphen {xs xs' ys ys' : List Char} (hcount : xs.count '-' = xs'.count '-')
    (h : xs ++ '-' :: ys = xs' ++ '-' :: ys') : xs = xs' ∧ ys = ys' := by
  -- Otherwise the hyphen behind the shorter part stands in the longer one, which has one hyphen more.
  have hlonger : ∀ {as bs cs ds : List Char}, as.count '-' = (as ++ bs).count '-' → '-' :: cs = bs ++ '-' :: ds → bs = [] := by
    intro as bs cs ds hcount heq
    cases bs with
    | nil => rfl
    | cons b bs =>
      obtain rfl := (List.cons.inj heq).1
      rw [List.count_append, List.count_cons_self] at hcount
      omega
  rcases List.append_eq_append_iff.mp h with ⟨zs, rfl, htail⟩ | ⟨zs, rfl, htail⟩
  · obtain rfl := hlonger hcount htail
    exact ⟨(List.append_nil xs).symm, (List.cons.inj htail).2⟩
  · obtain rfl := hlonger hcount.symm htail
    exact ⟨List.append_nil xs', (List.cons.inj htail).2.symm⟩

/-- Fields whose hyphens are spread in the same way are determined by their text. -/
theorem eq_of_text (hhyphens : SameHyphens f f') (h : f.text = f'.text) : f = f' := by
  have hletters := congrArg String.toList h
  rw [toList_text, toList_text] at hletters
  obtain ⟨hversion, hletters⟩ := eq_of_append_hyphen hhyphens.apiVersion hletters
  obtain ⟨hkind, hletters⟩ := eq_of_append_hyphen hhyphens.kind hletters
  obtain ⟨hscope, hname⟩ := eq_of_append_hyphen hhyphens.scope hletters
  cases f
  cases f'
  simp only [mk.injEq]
  exact ⟨String.toList_inj.mp hversion, String.toList_inj.mp hkind, String.toList_inj.mp hscope, String.toList_inj.mp hname⟩

end Fields

end Identity

namespace Manifest

variable {m m' : Manifest}

/-! ## File names -/

/-- The file name of an object with an RFC 1123 name: its fields, and the extension. -/
theorem fileName_of_dnsNamed (h : m.identity.DnsNamed) : m.fileName = m.identity.fields.text ++ ".yaml" := by
  have hscope : ∀ c ∈ (m.namespaceName?.getD clusterScope).toList, Lowercase.Stays c := by
    intro c hc
    cases hn : m.namespaceName? with
    | none =>
      have hcluster : clusterScope.toList.all Identity.isLabelChar = true := by decide
      rw [hn] at hc
      exact (Identity.stays_of_isLabelChar (List.all_eq_true.mp hcluster c hc)).1
    | some n =>
      rw [hn] at hc
      exact (Identity.stays_of_isLabelChar (h.namespaceName n hn c hc)).1
  have hname : ∀ c ∈ m.name.toList ++ ".yaml".toList, Lowercase.Stays c := by
    have hextension : ".yaml".toList = '.' :: "yaml".toList := by decide
    have hyaml : "yaml".toList.all Identity.isLabelChar = true := by decide
    have hchar : ∀ c ∈ m.name.toList ++ ".yaml".toList, Identity.isLabelChar c = true ∨ c = '.' := by
      intro c hc
      rw [hextension] at hc
      rcases List.mem_append.mp hc with hc | hc
      · exact h.name c hc
      · rcases List.mem_cons.mp hc with rfl | hc
        · exact Or.inr rfl
        · exact Or.inl (List.all_eq_true.mp hyaml c hc)
    intro c hc
    rcases hchar c hc with hlabel | rfl
    · exact (Identity.stays_of_isLabelChar hlabel).1
    · exact ⟨by decide, by decide⟩
  refine String.toList_inj.mp ?_
  rw [fileName_eq, Lowercase.lowercase, String.toList_ofList, toList_spelledName, Lowercase.lowerAfter_append_hyphen,
    Lowercase.lowerAfter_append_hyphen, Lowercase.lowerAfter_append_hyphen, Lowercase.lowerAfter_of_stays [] hscope,
    Lowercase.lowerAfter_of_stays [] hname, String.toList_append, Identity.Fields.toList_text]
  simp [Identity.fields, identity, Lowercase.lowercase]

/-- An object with an RFC 1123 name and a kind without a slash has a plain manifest. -/
theorem plain_of_dnsNamed (h : m.identity.DnsNamed) (hkind : '/' ∉ m.kind.toList) : m.Plain where
  kind := hkind
  namespaceName n hn := fun hslash => (Identity.stays_of_isLabelChar (h.namespaceName n hn '/' hslash)).2 rfl
  name := by
    intro hslash
    rcases h.name '/' hslash with hchar | hchar
    · exact (Identity.stays_of_isLabelChar hchar).2 rfl
    · exact absurd hchar (by decide)

/-! ## Paths -/

theorem group_eq_group_iff : m.group = m'.group ↔ m.isDefinition = m'.isDefinition := by
  have hne : definitionGroup ≠ plainGroup := by decide
  unfold group
  cases m.isDefinition <;> cases m'.isDefinition <;> simp [hne, hne.symm]

/-- Two manifests have the same path when they belong to the same group and their file names are the same paths. -/
theorem same_iff (m m' : Manifest) : m.relativePath.Same m'.relativePath ↔
    m.isDefinition = m'.isDefinition ∧ (Path.ofString m.fileName).Same (Path.ofString m'.fileName) := by
  unfold Path.Same
  rw [components_relativePath_eq, components_relativePath_eq, ← group_eq_group_iff]
  constructor
  · intro h
    obtain ⟨hgroup, hfile⟩ := List.cons.inj h
    exact ⟨Utf8.encode_injective (Component.name.inj hgroup), hfile⟩
  · rintro ⟨hgroup, hfile⟩
    rw [hgroup, hfile]

/-- Two plain manifests have the same path when they belong to the same group and have the same file name. -/
theorem Plain.same_iff (hm : m.Plain) (hm' : m'.Plain) : m.relativePath.Same m'.relativePath ↔
    m.isDefinition = m'.isDefinition ∧ m.fileName = m'.fileName := by
  rw [Manifest.same_iff]
  refine and_congr_right fun _ => ?_
  unfold Path.Same
  rw [show (Path.ofString m.fileName).components = _ from Path.components_name hm.isName_fileName,
    show (Path.ofString m'.fileName).components = _ from Path.components_name hm'.isName_fileName]
  constructor
  · intro h
    exact Utf8.encode_injective (Component.name.inj (List.cons.inj h).1)
  · intro h
    rw [h]

end Manifest

end ManifestTree
