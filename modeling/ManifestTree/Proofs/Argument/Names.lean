import ManifestTree.Argument
import ManifestTree.Proofs.Layout.Directories
import ManifestTree.Proofs.Text.LetterCase

/-!
# Names, wherever they are looked up

A value has a name in a document, as an argument, in listings and as a directory, and each of these has a table of its own. What is
checked of a type value by value (`Spelled`) makes all tables agree on every text (`Spelled.namesAgree`): so for environments and
resources (`name_tables_agree`).
-/

namespace ManifestTree

open Argument (hyphenated isNamed ofArgument? foldCase)

/-- Texts that are the same with their ASCII letters in lower case. -/
theorem foldCase_eq_iff {s t : String} : foldCase s = foldCase t ↔ SameLetters s t := by
  rw [sameLetters_iff, foldCase, foldCase, String.ofList_inj]

/-- A text in a document is read as the value that it names. -/
theorem toOption_choice {α : Type} {names : List String} {ofName? : String → Option α} {s : String} :
    (Decode.choice names ofName? (.text s)).toOption = ofName? s := by
  simp only [Decode.choice]
  split
  · rename_i v hv
    exact hv.symm
  · rename_i hnone
    exact hnone.symm

theorem choice_eq_ok {α : Type} {names : List String} {ofName? : String → Option α} {s : String} {v : α} (h : ofName? s = some v) :
    Decode.choice names ofName? (.text s) = .ok v := by
  simp only [Decode.choice, h]

/-- What is checked of each value of a type with names: it is listed, it is declared under a name that gives its own, this name is ASCII
without capital letters, and no other text is read as the value. -/
structure Spelled (α : Type) [Named α] (all : List α) (name : α → String) (ofName? : String → Option α) : Prop where
  listed : ∀ v, v ∈ all
  declared : (Named.declared : List (String × α)).map (fun d => (hyphenated d.1, d.2)) = all.map fun v => (name v, v)
  small : ∀ v, ((name v).toList.all fun c => c.toNat < 0x80 ∧ ¬ c.isUpper = true) = true
  read : ∀ s v, ofName? s = some v ↔ name v = s

/-- The tables of names of a type agree on every text. `directory` is where the layout puts what is kept for a value. -/
structure NamesAgree (α : Type) [Named α] (all : List α) (name : α → String) (decode : Decoder α) (directory : α → Path) :
    Prop where
  /-- A text in a document is read as the listed value that is called so, if there is one. -/
  inDocument : ∀ s, (decode (.text s)).toOption = all.find? fun v => name v = s
  /-- A text as an argument is read as the listed value that is called so, if there is one. -/
  asArgument : ∀ s, ofArgument? α false s = all.find? fun v => name v = s
  /-- When case is ignored, a text is read as the value whose name has the same letters. -/
  inAnyCase : ∀ s v, ofArgument? α true s = some v ↔ SameLetters s (name v)
  /-- Only ASCII is read then: no other letter passes for one of a name. -/
  onlyAscii : ∀ s v, ofArgument? α true s = some v → ∀ c ∈ s.toList, c.toNat < 0x80
  /-- No text matches the declared names of two values, whether case is ignored or not. -/
  unique : ∀ ignoreCase s, ∀ d ∈ (Named.declared : List (String × α)), ∀ d' ∈ (Named.declared : List (String × α)),
    isNamed ignoreCase (hyphenated d.1) s = true → isNamed ignoreCase (hyphenated d'.1) s = true → d.2 = d'.2
  /-- The directory of a value is called by a text that is read as the value. -/
  segment : ∀ v, ∃ t, (directory v).components.getLast? = some (.name (Utf8.encode t)) ∧ decode (.text t) = .ok v

namespace Spelled

variable {α : Type} [Named α] {all : List α} {name : α → String} {ofName? : String → Option α}

/-- Different values have different names. -/
theorem name_injective (h : Spelled α all name ofName?) {v w : α} (hname : name v = name w) : v = w :=
  Option.some.inj (((h.read (name v) v).mpr rfl).symm.trans ((h.read (name v) w).mpr hname.symm))

/-- A listed value is found when it is the only one that is looked for. -/
theorem find?_eq_some_iff (h : Spelled α all name ofName?) {p : α → Bool} (hp : ∀ v w, p v = true → p w = true → v = w) {v : α} :
    all.find? p = some v ↔ p v = true := by
  constructor
  · exact List.find?_some
  · intro hv
    cases hfind : all.find? p with
    | none => exact absurd hv (List.find?_eq_none.mp hfind v (h.listed v))
    | some w => rw [hp w v (List.find?_some hfind) hv]

/-- Reading a name is looking it up among the names of all listed values. -/
theorem ofName?_eq (h : Spelled α all name ofName?) (s : String) : ofName? s = all.find? fun v => name v = s := by
  refine Option.ext fun v => ?_
  have hunique : ∀ v w, decide (name v = s) = true → decide (name w = s) = true → v = w := fun v w hv hw =>
    h.name_injective ((of_decide_eq_true hv).trans (of_decide_eq_true hw).symm)
  rw [h.read, h.find?_eq_some_iff hunique, decide_eq_true_eq]

/-- Looking up an argument is looking it up among the names of all listed values. -/
theorem ofArgument?_eq (h : Spelled α all name ofName?) (ignoreCase : Bool) (s : String) :
    ofArgument? α ignoreCase s = all.find? fun v => isNamed ignoreCase (name v) s := by
  have hmap : ofArgument? α ignoreCase s = (((Named.declared : List (String × α)).map fun d => (hyphenated d.1, d.2)).find?
      fun x => isNamed ignoreCase x.1 s).map Prod.snd := by
    rw [List.find?_map, Option.map_map]
    rfl
  rw [hmap, h.declared, List.find?_map, Option.map_map]
  exact Option.map_id'

theorem small_of_mem (h : Spelled α all name ofName?) {v : α} {c : Char} (hc : c ∈ (name v).toList) :
    c.toNat < 0x80 ∧ ¬ c.isUpper = true :=
  of_decide_eq_true (List.all_eq_true.mp (h.small v) c hc)

/-- A name is its own lower case. -/
theorem foldCase_name (h : Spelled α all name ofName?) (v : α) : foldCase (name v) = name v := by
  have hsmall : (name v).toList.map Char.toLower = (name v).toList :=
    (List.map_congr_left fun c hc => toLower_of_not_isUpper (h.small_of_mem hc).2).trans (List.map_id _)
  rw [foldCase, hsmall, String.ofList_toList]

/-- A text matches the name of one value at most. -/
theorem eq_of_isNamed (h : Spelled α all name ofName?) {ignoreCase : Bool} {s : String} {v w : α}
    (hv : isNamed ignoreCase (name v) s = true) (hw : isNamed ignoreCase (name w) s = true) : v = w := by
  unfold isNamed at hv hw
  cases ignoreCase with
  | false =>
    exact h.name_injective ((of_decide_eq_true hv).symm.trans (of_decide_eq_true hw))
  | true =>
    have hfold := (of_decide_eq_true hv).symm.trans (of_decide_eq_true hw)
    rw [h.foldCase_name, h.foldCase_name] at hfold
    exact h.name_injective hfold

/-- A text with the letters of a name is ASCII, too. -/
theorem ascii_of_sameLetters (h : Spelled α all name ofName?) {s : String} {v : α} (hs : SameLetters s (name v)) :
    ∀ c ∈ s.toList, c.toNat < 0x80 := by
  have hletter : ∀ {c d : Char}, SameLetter c d → d.toNat < 0x80 → c.toNat < 0x80 := by
    intro c d hcd hd
    cases hcd with
    | same => exact hd
    | toSmall _ hn => omega
    | toCapital hupper hn =>
      have := isUpper_iff.mp hupper
      omega
  intro c hc
  have hlower : c.toLower ∈ (name v).toList.map Char.toLower := sameLetters_iff.mp hs ▸ List.mem_map_of_mem hc
  obtain ⟨d, hd, hcd⟩ := List.mem_map.mp hlower
  exact hletter (SameLetter.iff_toLower.mpr hcd.symm) (h.small_of_mem hd).1

/-- All tables of names agree when each value has been checked and its directory is called by its name. -/
theorem namesAgree (h : Spelled α all name ofName?) {directory : α → Path}
    (hdirectory : ∀ v, (directory v).components.getLast? = some (.name (Utf8.encode (name v)))) :
    NamesAgree α all name (Decode.choice (all.map name) ofName?) directory := by
  have hanyCase : ∀ s v, ofArgument? α true s = some v ↔ SameLetters s (name v) := by
    intro s v
    rw [h.ofArgument?_eq, h.find?_eq_some_iff fun v w => h.eq_of_isNamed, ← foldCase_eq_iff, isNamed, if_pos rfl,
      decide_eq_true_eq]
  refine ⟨fun s => ?_, fun s => ?_, hanyCase, fun s v hv => h.ascii_of_sameLetters ((hanyCase s v).mp hv), ?_, fun v => ?_⟩
  · rw [toOption_choice, h.ofName?_eq]
  · rw [h.ofArgument?_eq]
    simp [isNamed, eq_comm]
  · have hname : ∀ d ∈ (Named.declared : List (String × α)), hyphenated d.1 = name d.2 := by
      intro d hd
      have hentry : (hyphenated d.1, d.2) ∈ all.map fun v => (name v, v) := h.declared ▸ List.mem_map_of_mem hd
      obtain ⟨v, -, hv⟩ := List.mem_map.mp hentry
      obtain ⟨hname, rfl⟩ := Prod.mk.inj hv
      exact hname.symm
    intro ignoreCase s d hd d' hd' hmatch hmatch'
    rw [hname d hd] at hmatch
    rw [hname d' hd'] at hmatch'
    exact h.eq_of_isNamed hmatch hmatch'
  · exact ⟨name v, hdirectory v, choice_eq_ok ((h.read (name v) v).mpr rfl)⟩

end Spelled

/-! ## Environments and resources -/

theorem Environment.ofName?_eq_some_iff {s : String} {e : Environment} : ofName? s = some e ↔ e.name = s := by
  constructor
  · intro h
    unfold ofName? at h
    split at h <;> cases h <;> rfl
  · rintro rfl
    cases e <;> rfl

theorem Environment.spelled : Spelled Environment all name ofName? where
  listed e := by cases e <;> decide
  declared := by decide
  small e := by cases e <;> decide
  read _ _ := ofName?_eq_some_iff

theorem Resource.ofName?_eq_some_iff {s : String} {r : Resource} : ofName? s = some r ↔ r.name = s := by
  constructor
  · intro h
    unfold ofName? at h
    split at h <;> cases h <;> rfl
  · rintro rfl
    cases r <;> rfl

theorem Resource.spelled : Spelled Resource all name ofName? where
  listed r := by cases r <;> decide
  declared := by decide
  small r := by cases r <;> decide
  read _ _ := ofName?_eq_some_iff

/-- The last component of an environment's directory, when no scratch name takes its place. -/
theorem Layout.getLast?_environmentDirectory (root : Path) (e : Environment) :
    ((⟨root, none⟩ : Layout).environmentDirectory e).components.getLast? = some (.name (Utf8.encode e.name)) := by
  have hdirectory : (⟨root, none⟩ : Layout).environmentDirectory e = (root.joinText generatedName).joinText e.name := rfl
  rw [hdirectory, Path.components_joinText e.isName, List.getLast?_concat]

/-- The last component of a resource's directory. -/
theorem Layout.getLast?_resourcePath (l : Layout) (e : Environment) (r : Resource) :
    (l.resourcePath e r).components.getLast? = some (.name (Utf8.encode r.name)) := by
  rw [resourcePath, Path.components_joinText r.isName, List.getLast?_concat]

/-- The tables of names of environments and of resources agree on every text. Environments have a directory of their own in a layout
without a scratch name, and resources in every layout. -/
theorem name_tables_agree :
    (∀ root, NamesAgree Environment Environment.all Environment.name Environment.decode (Layout.environmentDirectory ⟨root, none⟩)) ∧
      ∀ (l : Layout) (e : Environment), NamesAgree Resource Resource.all Resource.name Resource.decode (l.resourcePath e) :=
  ⟨fun root => Environment.spelled.namesAgree (Layout.getLast?_environmentDirectory root),
    fun l e => Resource.spelled.namesAgree (l.getLast?_resourcePath e)⟩

/-- A Kelvin sign is a `k` in lower case, but not in an argument. -/
example : Lowercase.lowercase "lin\u212Aerd" = Resource.linkerd.name ∧ ofArgument? Resource true "lin\u212Aerd" = none ∧
    ofArgument? Resource true "LinKerd" = some .linkerd := by
  decide +kernel

end ManifestTree
