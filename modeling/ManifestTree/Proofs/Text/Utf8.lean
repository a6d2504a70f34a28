import ManifestTree.Proofs.Path.Components
import Mathlib.Tactic.Common

/-!
# Texts as bytes, and back

The bytes of a text are read as its characters (`chunks_encodeChars`), so a text is found again in its bytes, whether
ill-formed runs are refused or shown (`decode?_encode`, `lossy_encode`). The bytes of a text cut at the separators of paths are
again bytes of texts (`isText_of_mem_split`), so what is built from the parts of texts shows as it is.
-/

namespace ManifestTree.Utf8

/-- The bounds of a code point: below the surrogates, or above them and within the last plane. -/
theorem toNat_bounds (c : Char) : c.toNat < 0xD800 ∨ (0xDFFF < c.toNat ∧ c.toNat < 0x110000) := c.valid

/-- A byte within the bounds of an unfinished character adds its six bits to it. -/
theorem chunksFrom_inside {owed low high value b : Nat} (rest : List UInt8) (hlow : low ≤ b) (hhigh : b ≤ high)
    (hb : b < 256) :
    chunksFrom (.inside owed low high value) (UInt8.ofNat b :: rest) =
      if owed ≤ 1 then .character (Char.ofNat (value * 64 + (b - 0x80))) :: chunksFrom .between rest
      else chunksFrom (.inside (owed - 1) 0x80 0xBF (value * 64 + (b - 0x80))) rest := by
  have e : (UInt8.ofNat b).toNat = b := by simp; omega
  simp only [chunksFrom, step, e]
  rw [if_pos ⟨hlow, hhigh⟩]
  split
  · simp
  · simp

/-- A first byte that completes no chunk leads on to the state it announces. -/
theorem chunksFrom_start {b : Nat} {s : State} (rest : List UInt8) (hb : b < 256) (h : start b = ([], s)) :
    chunksFrom .between (UInt8.ofNat b :: rest) = chunksFrom s rest := by
  have e : (UInt8.ofNat b).toNat = b := by simp; omega
  simp only [chunksFrom, step, e, h, List.nil_append]

/-- The first byte of a character of three bytes, with bounds that its second byte keeps. -/
theorem start_three {n : Nat} (h1 : 0x7FF < n) (h2 : n ≤ 0xFFFF) (h : n < 0xD800 ∨ 0xDFFF < n) :
    ∃ low high, start (n / 4096 % 16 + 0xE0) = ([], .inside 2 low high (n / 4096)) ∧
      low ≤ n / 64 % 64 + 0x80 ∧ n / 64 % 64 + 0x80 ≤ high := by
  have hd : n / 4096 % 16 = n / 4096 := by omega
  rw [hd]
  unfold start
  rw [if_neg (by omega), if_neg (by omega), if_neg (by omega)]
  by_cases hE0 : n / 4096 + 0xE0 = 0xE0
  · rw [if_pos hE0]
    exact ⟨0xA0, 0xBF, by simp; omega, by omega, by omega⟩
  rw [if_neg hE0]
  by_cases hED : n / 4096 + 0xE0 = 0xED
  · rw [if_pos hED]
    exact ⟨0x80, 0x9F, by simp; omega, by omega, by omega⟩
  rw [if_neg hED, if_pos (by omega)]
  exact ⟨0x80, 0xBF, by simp, by omega, by omega⟩

/-- The first byte of a character of four bytes, with bounds that its second byte keeps. -/
theorem start_four {n : Nat} (h1 : 0xFFFF < n) (h2 : n < 0x110000) :
    ∃ low high, start (n / 262144 % 8 + 0xF0) = ([], .inside 3 low high (n / 262144)) ∧
      low ≤ n / 4096 % 64 + 0x80 ∧ n / 4096 % 64 + 0x80 ≤ high := by
  have hd : n / 262144 % 8 = n / 262144 := by omega
  rw [hd]
  unfold start
  rw [if_neg (by omega), if_neg (by omega), if_neg (by omega), if_neg (by omega), if_neg (by omega), if_neg (by omega)]
  by_cases hF0 : n / 262144 + 0xF0 = 0xF0
  · rw [if_pos hF0]
    exact ⟨0x90, 0xBF, by simp; omega, by omega, by omega⟩
  rw [if_neg hF0]
  by_cases hF4 : n / 262144 + 0xF0 < 0xF4
  · rw [if_pos hF4]
    exact ⟨0x80, 0xBF, by simp, by omega, by omega⟩
  rw [if_neg hF4, if_pos (by omega)]
  exact ⟨0x80, 0x8F, by simp; omega, by omega, by omega⟩

/-- The bytes of a character are read as the character. -/
theorem chunksFrom_encodeChar (c : Char) (rest : List UInt8) :
    chunksFrom .between (String.utf8EncodeChar c ++ rest) = .character c :: chunksFrom .between rest := by
  have hc := toNat_bounds c
  have hv : c.val.toNat = c.toNat := rfl
  have hback : Char.ofNat c.toNat = c := Char.ofNat_toNat c
  simp only [String.utf8EncodeChar, hv]
  generalize c.toNat = n at *
  by_cases h1 : n ≤ 0x7F
  · have e : (UInt8.ofNat n).toNat = n := by simp; omega
    rw [if_pos h1]
    simp [chunksFrom, step, start, e, hback, show n < 0x80 by omega]
  rw [if_neg h1]
  by_cases h2 : n ≤ 0x7FF
  · have hs : start (n / 64 % 32 + 0xC0) = ([], .inside 1 0x80 0xBF (n / 64)) := by
      unfold start
      rw [if_neg (by omega), if_neg (by omega), if_pos (by omega)]
      simp; omega
    rw [if_pos h2, List.cons_append, chunksFrom_start _ (by omega) hs, List.cons_append,
      chunksFrom_inside _ (by omega) (by omega) (by omega), if_pos (by omega),
      show n / 64 * 64 + (n % 64 + 0x80 - 0x80) = n by omega, hback, List.nil_append]
  rw [if_neg h2]
  by_cases h3 : n ≤ 0xFFFF
  · obtain ⟨low, high, hs, hlow, hhigh⟩ := start_three (by omega) h3 (by omega)
    rw [if_pos h3, List.cons_append, chunksFrom_start _ (by omega) hs, List.cons_append,
      chunksFrom_inside _ hlow hhigh (by omega), if_neg (by omega), List.cons_append,
      chunksFrom_inside _ (by omega) (by omega) (by omega), if_pos (by omega),
      show (n / 4096 * 64 + (n / 64 % 64 + 0x80 - 0x80)) * 64 + (n % 64 + 0x80 - 0x80) = n by omega, hback,
      List.nil_append]
  · obtain ⟨low, high, hs, hlow, hhigh⟩ := start_four (n := n) (by omega) (by omega)
    rw [if_neg h3, List.cons_append, chunksFrom_start _ (by omega) hs, List.cons_append,
      chunksFrom_inside _ hlow hhigh (by omega), if_neg (by omega), List.cons_append,
      chunksFrom_inside _ (by omega) (by omega) (by omega), if_neg (by omega), List.cons_append,
      chunksFrom_inside _ (by omega) (by omega) (by omega), if_pos (by omega),
      show ((n / 262144 * 64 + (n / 4096 % 64 + 0x80 - 0x80)) * 64 + (n / 64 % 64 + 0x80 - 0x80)) * 64 +
        (n % 64 + 0x80 - 0x80) = n by omega, hback, List.nil_append]

/-- The chunks of encoded characters are the characters. -/
theorem chunks_encodeChars (cs : List Char) : chunks (cs.flatMap String.utf8EncodeChar) = cs.map .character := by
  induction cs with
  | nil => rfl
  | cons c cs ih =>
    rw [chunks] at ih ⊢
    rw [List.flatMap_cons, chunksFrom_encodeChar, ih, List.map_cons]

/-- A text shows as it is. -/
theorem lossy_encode (s : String) : lossy (encode s) = s := by
  simp [lossy, encode, chunks_encodeChars, Chunk.shown, Function.comp_def]

/-- The bytes of a text are well-formed. -/
theorem decode?_encode (s : String) : decode? (encode s) = some s := by
  simp [decode?, encode, chunks_encodeChars, Chunk.shown, Function.comp_def]

/-- Different texts have different bytes. -/
theorem encode_injective {s t : String} (h : encode s = encode t) : s = t := by
  rw [← lossy_encode s, h, lossy_encode]

/-! ## Bytes of texts, cut and joined -/

/-- Bytes that are a text's. -/
def IsText (bytes : List UInt8) : Prop := ∃ cs : List Char, bytes = cs.flatMap String.utf8EncodeChar

theorem isText_encode (s : String) : IsText (encode s) := ⟨s.toList, rfl⟩

theorem isText_nil : IsText [] := ⟨[], rfl⟩

theorem IsText.append {a b : List UInt8} (ha : IsText a) (hb : IsText b) : IsText (a ++ b) := by
  obtain ⟨cs, rfl⟩ := ha
  obtain ⟨ds, rfl⟩ := hb
  exact ⟨cs ++ ds, by rw [List.flatMap_append]⟩

/-- What is a text's shows without loss. -/
theorem IsText.encode_lossy {bytes : List UInt8} (h : IsText bytes) : encode (lossy bytes) = bytes := by
  obtain ⟨cs, rfl⟩ := h
  simp [lossy, encode, chunks_encodeChars, Chunk.shown, Function.comp_def]

/-- A byte of ASCII stands only for itself among the bytes of a character. -/
theorem toNat_eq_of_mem_encodeChar {c : Char} {b : UInt8} (hb : b.toNat < 0x80) (h : b ∈ String.utf8EncodeChar c) :
    c.toNat = b.toNat := by
  have hc := toNat_bounds c
  have hv : c.val.toNat = c.toNat := rfl
  have hbyte : ∀ k, k < 256 → b = UInt8.ofNat k → b.toNat = k := by
    rintro k hk rfl
    simp
    omega
  simp only [String.utf8EncodeChar, hv] at h
  generalize c.toNat = n at *
  split at h
  · rw [List.mem_singleton] at h
    exact (hbyte n (by omega) h).symm
  · exfalso
    split at h
    · simp only [List.mem_cons, List.not_mem_nil, or_false] at h
      rcases h with h | h <;> have := hbyte _ (by omega) h <;> omega
    · split at h
      · simp only [List.mem_cons, List.not_mem_nil, or_false] at h
        rcases h with h | h | h <;> have := hbyte _ (by omega) h <;> omega
      · simp only [List.mem_cons, List.not_mem_nil, or_false] at h
        rcases h with h | h | h | h <;> have := hbyte _ (by omega) h <;> omega

/-- The separator is the only character whose bytes have the separator's byte among them. -/
theorem separator_mem_encodeChar {c : Char} (h : Path.separator ∈ String.utf8EncodeChar c) : c = '/' :=
  Char.toNat_inj.mp (toNat_eq_of_mem_encodeChar (by decide) h)

/-- A text without the separator has no separator's byte. -/
theorem separator_not_mem_encode {s : String} (h : '/' ∉ s.toList) : Path.separator ∉ encode s := by
  intro hm
  obtain ⟨c, hc, hb⟩ := List.mem_flatMap.mp hm
  exact h (separator_mem_encodeChar hb ▸ hc)

/-- Bytes without a separator in front of others belong to the first part of these. -/
theorem split_append_of_not_mem {a : List UInt8} (b : List UInt8) (ha : Path.separator ∉ a) :
    ∃ first rest, Path.split b = first :: rest ∧ Path.split (a ++ b) = (a ++ first) :: rest := by
  induction a with
  | nil =>
    obtain ⟨first, rest, h⟩ := Path.exists_split b
    exact ⟨first, rest, h, h⟩
  | cons x a ih =>
    have hx : x ≠ Path.separator := fun e => ha (by simp [e])
    obtain ⟨first, rest, hb, hab⟩ := ih fun hm => ha (List.mem_cons_of_mem _ hm)
    exact ⟨first, rest, hb, by simp [Path.split, hx, hab]⟩

/-- The parts of a text's bytes are bytes of texts. -/
theorem isText_of_mem_split {bytes part : List UInt8} (h : IsText bytes) (hp : part ∈ Path.split bytes) : IsText part := by
  obtain ⟨cs, rfl⟩ := h
  induction cs generalizing part with
  | nil =>
    rw [List.flatMap_nil] at hp
    obtain rfl : part = [] := by simpa [Path.split] using hp
    exact isText_nil
  | cons c cs ih =>
    rw [List.flatMap_cons] at hp
    by_cases hc : c = '/'
    · have hbytes : String.utf8EncodeChar c = [Path.separator] := by rw [hc]; decide
      rw [hbytes, List.singleton_append, ← List.nil_append (Path.separator :: _), Path.split_append_separator] at hp
      rcases List.mem_append.mp hp with hp | hp
      · obtain rfl : part = [] := by simpa [Path.split] using hp
        exact isText_nil
      · exact ih hp
    · have hfree : Path.separator ∉ String.utf8EncodeChar c := fun hm => hc (separator_mem_encodeChar hm)
      obtain ⟨first, rest, hs, hs'⟩ := split_append_of_not_mem (cs.flatMap String.utf8EncodeChar) hfree
      rw [hs'] at hp
      rcases List.mem_cons.mp hp with rfl | hp
      · exact IsText.append ⟨[c], by simp⟩ (ih (by simp [hs]))
      · exact ih (by simp [hs, hp])

end ManifestTree.Utf8
