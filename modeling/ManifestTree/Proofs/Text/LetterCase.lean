import Mathlib.Data.List.Forall2
import ManifestTree.Proofs.Text.Lowercase

/-!
# Texts in another letter case

Two texts may be the same but for the case of their ASCII letters (`SameLetters`). This is so exactly when they are the same with all
ASCII letters in lower case (`sameLetters_iff`), and such texts have the same lower case in full (`lowercase_congr`): a letter's
neighbours matter to the lower case of a sigma, but not the case that they have.
-/

namespace ManifestTree

/-- Two characters that are the same, or a capital letter of ASCII and its small letter. -/
inductive SameLetter : Char → Char → Prop where
  | same (c : Char) : SameLetter c c
  | toSmall {c d : Char} (hc : c.isUpper = true) (hd : d.toNat = c.toNat + 32) : SameLetter c d
  | toCapital {c d : Char} (hd : d.isUpper = true) (hc : c.toNat = d.toNat + 32) : SameLetter c d

/-- Two texts that are the same but for the case of their ASCII letters. -/
def SameLetters (s t : String) : Prop := List.Forall₂ SameLetter s.toList t.toList

namespace SameLetter

variable {c d : Char}

theorem toLower_eq (h : SameLetter c d) : c.toLower = d.toLower := by
  have hsmall : ∀ {c d : Char}, c.isUpper = true → d.toNat = c.toNat + 32 → c.toLower = d.toLower := by
    intro c d hc hd
    have hlower : c.toLower = d := Char.toNat_inj.mp ((toNat_toLower hc).trans hd.symm)
    rw [hlower, toLower_of_not_isUpper]
    rw [← hlower]
    exact not_isUpper_toLower c
  cases h with
  | same => rfl
  | toSmall hc hd => exact hsmall hc hd
  | toCapital hd hc => exact (hsmall hd hc).symm

/-- Characters are the same letter when their lower case in ASCII is the same. -/
theorem iff_toLower : SameLetter c d ↔ c.toLower = d.toLower := by
  refine ⟨toLower_eq, fun h => ?_⟩
  by_cases hc : c.isUpper = true
  · by_cases hd : d.isUpper = true
    · have hn := congrArg Char.toNat h
      rw [toNat_toLower hc, toNat_toLower hd] at hn
      obtain rfl : c = d := Char.toNat_inj.mp (by omega)
      exact .same c
    · rw [toLower_of_not_isUpper hd] at h
      exact .toSmall hc (by rw [← h, toNat_toLower hc])
  · by_cases hd : d.isUpper = true
    · rw [toLower_of_not_isUpper hc] at h
      exact .toCapital hd (by rw [h, toNat_toLower hd])
    · rw [toLower_of_not_isUpper hc, toLower_of_not_isUpper hd] at h
      exact h ▸ .same c

/-- What holds of each capital letter and its small letter holds of every two letters that are the same. -/
theorem eq_of_capitals {β : Type} (f : Char → β) (h : ∀ n < 26, f (Char.ofNat (65 + n)) = f (Char.ofNat (97 + n)))
    (hcd : SameLetter c d) : f c = f d := by
  have hsmall : ∀ {c d : Char}, c.isUpper = true → d.toNat = c.toNat + 32 → f c = f d := by
    intro c d hc hd
    have hbounds := isUpper_iff.mp hc
    have hn := h (c.toNat - 65) (by omega)
    rwa [show 65 + (c.toNat - 65) = c.toNat by omega, show 97 + (c.toNat - 65) = d.toNat by omega, Char.ofNat_toNat,
      Char.ofNat_toNat] at hn
  cases hcd with
  | same => rfl
  | toSmall hc hd => exact hsmall hc hd
  | toCapital hd hc => exact (hsmall hd hc).symm

end SameLetter

/-- Texts are the same but for the case of their ASCII letters when these give the same text in lower case. -/
theorem sameLetters_iff {s t : String} : SameLetters s t ↔ s.toList.map Char.toLower = t.toList.map Char.toLower := by
  rw [← List.forall₂_eq_eq_eq, List.forall₂_map_left_iff, List.forall₂_map_right_iff]
  constructor
  · exact fun h => h.imp fun _ _ => SameLetter.toLower_eq
  · exact fun h => List.Forall₂.imp (fun _ _ => SameLetter.iff_toLower.mpr) h

instance (s t : String) : Decidable (SameLetters s t) := decidable_of_iff _ sameLetters_iff.symm

namespace Lowercase

variable {c d : Char} {xs ys : List Char}

/-! ## The lower case of texts with the same letters -/

theorem isCased_congr (h : SameLetter c d) : isCased c = isCased d :=
  h.eq_of_capitals isCased (by decide +kernel)

theorem isIgnorable_congr (h : SameLetter c d) : isIgnorable c = isIgnorable d :=
  h.eq_of_capitals isIgnorable (by decide +kernel)

theorem lowerChar_congr (h : SameLetter c d) : lowerChar c = lowerChar d :=
  h.eq_of_capitals lowerChar (by decide +kernel)

theorem sigma_congr (h : SameLetter c d) : c = 'Σ' ↔ d = 'Σ' :=
  decide_eq_decide.mp (h.eq_of_capitals (fun c => decide (c = 'Σ')) (by decide +kernel))

/-- Whether the nearest character that counts is cased does not depend on its case. -/
theorem meetsCased_congr (h : List.Forall₂ SameLetter xs ys) : meetsCased xs = meetsCased ys := by
  induction h with
  | nil => rfl
  | @cons c d xs ys hcd _ ih =>
    unfold meetsCased at ih ⊢
    rw [List.dropWhile_cons, List.dropWhile_cons, isIgnorable_congr hcd]
    by_cases hignorable : isIgnorable d = true
    · rw [if_pos hignorable, if_pos hignorable]
      exact ih
    · rw [if_neg hignorable, if_neg hignorable]
      exact isCased_congr hcd

theorem lowerAfter_congr {before before' : List Char} (hbefore : List.Forall₂ SameLetter before before')
    (h : List.Forall₂ SameLetter xs ys) : lowerAfter before xs = lowerAfter before' ys := by
  induction h generalizing before before' with
  | nil => rfl
  | @cons c d xs ys hcd hrest ih =>
    simp only [lowerAfter, sigma_congr hcd, lowerChar_congr hcd, meetsCased_congr hbefore, meetsCased_congr hrest,
      ih (.cons hcd hbefore)]

/-- Texts with the same letters have the same lower case. -/
theorem lowercase_congr {s t : String} (h : SameLetters s t) : lowercase s = lowercase t := by
  rw [lowercase, lowercase, lowerAfter_congr .nil h]

end Lowercase

end ManifestTree
