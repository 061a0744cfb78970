import Mathlib.Data.List.Basic
set_option autoImplicit false

/-!
# Foundation: base64 with the URL-safe alphabet, without padding

Three bytes are four digits; one or two bytes left over are two or three digits.  The
length of an encoding is a function of the number of bytes alone, and every character
of it is one of the sixty-four of the alphabet.
-/

namespace LemonCas.Foundation.Base64Url

/-- The digits for 0 to 63. -/
def alphabet : List Char :=
  "ABCDEFGHIJKLMNOPQRSTUVWXYZabcdefghijklmnopqrstuvwxyz0123456789-_".toList

/-- The digit for six bits. -/
def digit (n : ℕ) : Char := alphabet.getD n 'A'

/-- The encoding of a sequence of bytes. -/
def encode : List UInt8 → List Char
  | [] => []
  | [a] => [digit (a.toNat / 4), digit (a.toNat % 4 * 16)]
  | [a, b] =>
      [digit (a.toNat / 4), digit (a.toNat % 4 * 16 + b.toNat / 16), digit (b.toNat % 16 * 4)]
  | a :: b :: c :: rest =>
      digit (a.toNat / 4) :: digit (a.toNat % 4 * 16 + b.toNat / 16) ::
        digit (b.toNat % 16 * 4 + c.toNat / 64) :: digit (c.toNat % 64) :: encode rest

theorem digit_mem_alphabet (n : ℕ) : digit n ∈ alphabet := by
  unfold digit
  rw [List.getD_eq_getElem?_getD]
  cases hdigit : alphabet[n]? with
  | none => decide
  | some c => exact List.mem_of_getElem? hdigit

theorem length_encode (bytes : List UInt8) :
    (encode bytes).length = (4 * bytes.length + 2) / 3 := by
  induction bytes using encode.induct with
  | case1 => rfl
  | case2 a => simp [encode]
  | case3 a b => simp [encode]
  | case4 a b c rest ih =>
    simp only [encode, List.length_cons, ih]
    omega

theorem mem_alphabet_of_mem_encode {bytes : List UInt8} {c : Char} (hc : c ∈ encode bytes) :
    c ∈ alphabet := by
  induction bytes using encode.induct with
  | case1 => cases hc
  | case2 a =>
    simp only [encode, List.mem_cons, List.not_mem_nil, or_false] at hc
    rcases hc with rfl | rfl <;> exact digit_mem_alphabet _
  | case3 a b =>
    simp only [encode, List.mem_cons, List.not_mem_nil, or_false] at hc
    rcases hc with rfl | rfl | rfl <;> exact digit_mem_alphabet _
  | case4 a b d rest ih =>
    simp only [encode, List.mem_cons] at hc
    rcases hc with rfl | rfl | rfl | rfl | hrest
    · exact digit_mem_alphabet _
    · exact digit_mem_alphabet _
    · exact digit_mem_alphabet _
    · exact digit_mem_alphabet _
    · exact ih hrest

/-- The decimal digits are of the alphabet. -/
theorem mem_alphabet_of_isDigit {c : Char} (hc : c.isDigit = true) : c ∈ alphabet := by
  have hall : ∀ n < 58, 48 ≤ n → Char.ofNat n ∈ alphabet := by decide
  obtain ⟨hlow, hhigh⟩ := Char.isDigit_iff_toNat.mp hc
  have hmem : Char.ofNat c.toNat ∈ alphabet := hall c.toNat (Nat.lt_succ_of_le hhigh) hlow
  rwa [Char.ofNat_toNat] at hmem

/-- So are the capital letters. -/
theorem mem_alphabet_of_isUpper {c : Char} (hc : c.isUpper = true) : c ∈ alphabet := by
  have hall : ∀ n < 91, 65 ≤ n → Char.ofNat n ∈ alphabet := by decide
  have hbounds : 65 ≤ c.toNat ∧ c.toNat ≤ 90 := of_decide_eq_true hc
  obtain ⟨hlow, hhigh⟩ := hbounds
  have hmem : Char.ofNat c.toNat ∈ alphabet := hall c.toNat (Nat.lt_succ_of_le hhigh) hlow
  rwa [Char.ofNat_toNat] at hmem

/-- The five bytes of "login", two of them left over after the first group. -/
example : encode [108, 111, 103, 105, 110] = "bG9naW4".toList := by decide

end LemonCas.Foundation.Base64Url
