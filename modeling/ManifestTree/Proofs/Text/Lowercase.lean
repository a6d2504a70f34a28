import ManifestTree.Text.Lowercase
import Mathlib.Tactic.Common

/-!
# What lower case keeps

The lower case of a character is that of ASCII, or lies behind the capital letters of ASCII (`mem_lowerChar`). So lower case neither
makes a slash out of another character nor loses a hyphen (`slash_mem_lowercase`, `hyphen_mem_lowercase`), and it leaves no capital
letter of ASCII (`not_isUpper_of_mem_lowercase`).
-/

namespace ManifestTree

/-! ## Capital letters of ASCII -/

theorem isUpper_iff {c : Char} : c.isUpper = true ↔ 65 ≤ c.toNat ∧ c.toNat ≤ 90 := decide_eq_true_iff

/-- The lower case of a capital letter is 32 code points behind it. -/
theorem toNat_toLower {c : Char} (h : c.isUpper = true) : c.toLower.toNat = c.toNat + 32 := by
  have hbounds := isUpper_iff.mp h
  have hlower : c.toLower.val = c.val + ('a'.val - 'A'.val) :=
    congrArg Char.val (dif_pos (of_decide_eq_true h))
  have hdiff : ('a'.val - 'A'.val).toNat = 32 := rfl
  have hval : c.toLower.toNat = (c.val + ('a'.val - 'A'.val)).toNat := congrArg UInt32.toNat hlower
  rw [hval, UInt32.toNat_add, hdiff]
  have hc : c.val.toNat = c.toNat := rfl
  omega

/-- Every other character is its own lower case. -/
theorem toLower_of_not_isUpper {c : Char} (h : ¬ c.isUpper = true) : c.toLower = c :=
  dif_neg fun hbounds => h (decide_eq_true hbounds)

/-- No lower case is a capital letter. -/
theorem not_isUpper_toLower (c : Char) : ¬ c.toLower.isUpper = true := by
  by_cases h : c.isUpper = true
  · rw [isUpper_iff, toNat_toLower h]
    have := isUpper_iff.mp h
    omega
  · rwa [toLower_of_not_isUpper h]

namespace Lowercase

open CaseTable

/-! ## The lower case of a character -/

/-- Every letter with a lower-case letter of its own has it behind the capital letters of ASCII. -/
theorem lowered_bound : ∀ run ∈ lowered, (0x5A : Int) < run.first + run.shift := by
  decide +kernel

theorem ofNat_cases (n : Nat) : (Char.ofNat n).toNat = n ∨ Char.ofNat n = '\x00' := by
  by_cases hvalid : n.isValidChar
  · have hchar : Char.ofNat n = Char.ofNatAux n hvalid := dif_pos hvalid
    exact Or.inl (congrArg Char.toNat hchar)
  · exact Or.inr (dif_neg hvalid)

/-- The lower case of a character: that of ASCII, or something behind the capital letters of ASCII. -/
theorem mem_lowerChar {c d : Char} (h : d ∈ lowerChar c) : d = c.toLower ∨ d = '\x00' ∨ 0x5A < d.toNat := by
  unfold lowerChar at h
  split at h
  · exact Or.inl (List.mem_singleton.mp h)
  · rename_i hascii
    split at h
    · have hdotted : ∀ e ∈ ['i', '\u0307'], 0x5A < e.toNat :=
        List.forall_mem_cons.mpr ⟨by decide, List.forall_mem_singleton.mpr (by decide)⟩
      exact Or.inr (Or.inr (hdotted d h))
    · split at h
      · rename_i run hrun
        have hbound := lowered_bound run (List.mem_of_find?_eq_some hrun)
        have hcovers := List.find?_some hrun
        unfold Run.covers at hcovers
        simp only [Bool.and_eq_true, decide_eq_true_eq] at hcovers
        rcases ofNat_cases (c.toNat + run.shift).toNat with hn | hn
        · rw [List.mem_singleton.mp h, hn]
          exact Or.inr (Or.inr (by omega))
        · exact Or.inr (Or.inl ((List.mem_singleton.mp h).trans hn))
      · rw [List.mem_singleton.mp h]
        exact Or.inr (Or.inr (by omega))

theorem toLower_eq_slash {c : Char} (h : c.toLower = '/') : c = '/' := by
  by_cases hupper : c.isUpper = true
  · have hn := toNat_toLower hupper
    have hbounds := isUpper_iff.mp hupper
    have hslash : ('/' : Char).toNat = 47 := rfl
    rw [h] at hn
    omega
  · rwa [toLower_of_not_isUpper hupper] at h

theorem lowerChar_eq_slash {c : Char} (h : '/' ∈ lowerChar c) : c = '/' := by
  rcases mem_lowerChar h with h | h | h
  · exact toLower_eq_slash h.symm
  · exact absurd h (by decide)
  · exact absurd h (by decide)

/-- No character has a capital letter of ASCII in its lower case. -/
theorem not_isUpper_of_mem_lowerChar {c d : Char} (h : d ∈ lowerChar c) : ¬ d.isUpper = true := by
  rcases mem_lowerChar h with rfl | rfl | h
  · exact not_isUpper_toLower c
  · decide
  · rw [isUpper_iff]
    omega

/-! ## The lower case of a text -/

/-- What stands in a lower case comes from a letter of the text. -/
theorem mem_lowerAfter {before cs : List Char} {d : Char} (h : d ∈ lowerAfter before cs) :
    d = 'ς' ∨ d = 'σ' ∨ ∃ c ∈ cs, d ∈ lowerChar c := by
  induction cs generalizing before with
  | nil => simp [lowerAfter] at h
  | cons c rest ih =>
    rcases List.mem_append.mp h with h | h
    · split at h
      · split at h
        · exact Or.inl (List.mem_singleton.mp h)
        · exact Or.inr (Or.inl (List.mem_singleton.mp h))
      · exact Or.inr (Or.inr ⟨c, List.mem_cons_self, h⟩)
    · rcases ih h with h | h | ⟨c', hc', h⟩
      · exact Or.inl h
      · exact Or.inr (Or.inl h)
      · exact Or.inr (Or.inr ⟨c', List.mem_cons_of_mem _ hc', h⟩)

/-- The lower case of each letter but sigma stands in the lower case of the text. -/
theorem lowerChar_subset_lowerAfter {before cs : List Char} {c : Char} (hc : c ∈ cs) (hsigma : c ≠ 'Σ') :
    lowerChar c ⊆ lowerAfter before cs := by
  induction cs generalizing before with
  | nil => simp at hc
  | cons c' rest ih =>
    intro d hd
    rcases List.mem_cons.mp hc with rfl | hc
    · refine List.mem_append_left _ ?_
      rw [if_neg hsigma]
      exact hd
    · exact List.mem_append_right _ (ih hc hd)

/-- A slash in a lower case was a slash before. -/
theorem slash_mem_lowercase {s : String} (h : '/' ∈ (lowercase s).toList) : '/' ∈ s.toList := by
  rw [lowercase, String.toList_ofList] at h
  rcases mem_lowerAfter h with h | h | ⟨c, hc, h⟩
  · exact absurd h (by decide)
  · exact absurd h (by decide)
  · rwa [lowerChar_eq_slash h] at hc

/-- A hyphen stays a hyphen. -/
theorem hyphen_mem_lowercase {s : String} (h : '-' ∈ s.toList) : '-' ∈ (lowercase s).toList := by
  rw [lowercase, String.toList_ofList]
  exact lowerChar_subset_lowerAfter h (by decide) (by decide)

/-- No capital letter of ASCII is left in a lower case. -/
theorem not_isUpper_of_mem_lowercase {s : String} {c : Char} (h : c ∈ (lowercase s).toList) : ¬ c.isUpper = true := by
  rw [lowercase, String.toList_ofList] at h
  rcases mem_lowerAfter h with rfl | rfl | ⟨d, -, h⟩
  · decide
  · decide
  · exact not_isUpper_of_mem_lowerChar h

end Lowercase

end ManifestTree
