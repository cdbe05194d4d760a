import Mathlib.Data.List.Basic

/-!
# Base 64 with the URL-safe alphabet

`encode` is `base64.urlsafe_b64encode` on bytes written as numbers below 256. `decode` is `base64.urlsafe_b64decode`,
the lenient scanner of `binascii.a2b_base64`: characters outside the alphabet are skipped, padding that completes a
group ends the input, and input that stops inside a group is an error. Decoding undoes encoding (`decode_encode`).
-/

namespace Base64

/-- The URL-safe alphabet. -/
def alphabet : List Char := "ABCDEFGHIJKLMNOPQRSTUVWXYZabcdefghijklmnopqrstuvwxyz0123456789-_".toList

/-- The character of a six-bit value. -/
def char (v : ℕ) : Char := alphabet.getD v 'A'

/-- The six-bit value of a character. The decoder rewrites `-` and `_` to the standard `+` and `/`, and takes both. -/
def value (c : Char) : Option ℕ :=
  if 'A' ≤ c ∧ c ≤ 'Z' then some (c.toNat - 'A'.toNat)
  else if 'a' ≤ c ∧ c ≤ 'z' then some (c.toNat - 'a'.toNat + 26)
  else if '0' ≤ c ∧ c ≤ '9' then some (c.toNat - '0'.toNat + 52)
  else if c = '-' ∨ c = '+' then some 62
  else if c = '_' ∨ c = '/' then some 63
  else none

/-- Three bytes become four characters; a shorter last group is padded. -/
def encode : List ℕ → List Char
  | [] => []
  | [a] => [char (a / 4), char (a % 4 * 16), '=', '=']
  | [a, b] => [char (a / 4), char (a % 4 * 16 + b / 16), char (b % 16 * 4), '=']
  | a :: b :: c :: rest =>
    char (a / 4) :: char (a % 4 * 16 + b / 16) :: char (b % 16 * 4 + c / 64) :: char (c % 64) :: encode rest

/-- The scanner, with the position in the group of four, the bits left over and the pads seen in the group. -/
def decodeFrom (quadPos leftchar pads : ℕ) : List Char → Option (List ℕ)
  | [] => if quadPos = 0 then some [] else none
  | c :: cs =>
    if c = '=' then
      if 2 ≤ quadPos ∧ 4 ≤ quadPos + (pads + 1) then some []
      else decodeFrom quadPos leftchar (if 2 ≤ quadPos then pads + 1 else pads) cs
    else
      match value c with
      | none => decodeFrom quadPos leftchar pads cs
      | some v =>
        match quadPos with
        | 0 => decodeFrom 1 v 0 cs
        | 1 => (decodeFrom 2 (v % 16) 0 cs).map ((leftchar * 4 + v / 16) :: ·)
        | 2 => (decodeFrom 3 (v % 4) 0 cs).map ((leftchar * 16 + v / 4) :: ·)
        | _ => (decodeFrom 0 0 0 cs).map ((leftchar * 64 + v) :: ·)

/-- Decode, or fail with a `ValueError`. -/
def decode (cs : List Char) : Option (List ℕ) := decodeFrom 0 0 0 cs

theorem value_char : ∀ v < 64, value (char v) = some v ∧ char v ≠ '=' := by decide +kernel

section
variable {v : ℕ} (hv : v < 64) (leftchar pads : ℕ) (cs : List Char)
include hv

/-- One character of the alphabet. -/
theorem decodeFrom_char (quadPos : ℕ) : decodeFrom quadPos leftchar pads (char v :: cs) =
    match quadPos with
    | 0 => decodeFrom 1 v 0 cs
    | 1 => (decodeFrom 2 (v % 16) 0 cs).map ((leftchar * 4 + v / 16) :: ·)
    | 2 => (decodeFrom 3 (v % 4) 0 cs).map ((leftchar * 16 + v / 4) :: ·)
    | _ => (decodeFrom 0 0 0 cs).map ((leftchar * 64 + v) :: ·) := by
  obtain ⟨hval, hne⟩ := value_char v hv
  rw [decodeFrom, if_neg hne, hval]

theorem decodeFrom_zero : decodeFrom 0 leftchar pads (char v :: cs) = decodeFrom 1 v 0 cs :=
  decodeFrom_char hv leftchar pads cs 0

theorem decodeFrom_one : decodeFrom 1 leftchar pads (char v :: cs) =
    (decodeFrom 2 (v % 16) 0 cs).map ((leftchar * 4 + v / 16) :: ·) :=
  decodeFrom_char hv leftchar pads cs 1

theorem decodeFrom_two : decodeFrom 2 leftchar pads (char v :: cs) =
    (decodeFrom 3 (v % 4) 0 cs).map ((leftchar * 16 + v / 4) :: ·) :=
  decodeFrom_char hv leftchar pads cs 2

theorem decodeFrom_three : decodeFrom 3 leftchar pads (char v :: cs) =
    (decodeFrom 0 0 0 cs).map ((leftchar * 64 + v) :: ·) :=
  decodeFrom_char hv leftchar pads cs 3

end

/-- One pad after three characters, or two after two, end the input. -/
theorem decodeFrom_pads (leftchar : ℕ) :
    decodeFrom 2 leftchar 0 ['=', '='] = some [] ∧ decodeFrom 3 leftchar 0 ['='] = some [] := by
  simp [decodeFrom]

/-- **Decoding undoes encoding**, for every length modulo three. -/
theorem decode_encode : ∀ {bs : List ℕ}, (∀ b ∈ bs, b < 256) → decode (encode bs) = some bs
  | [], _ => rfl
  | [a], h => by
    have ha : a < 256 := h a (by simp)
    have hout : a / 4 * 4 + a % 4 * 16 / 16 = a := by omega
    rw [decode, encode, decodeFrom_zero (by omega), decodeFrom_one (by omega), (decodeFrom_pads _).1, hout]
    rfl
  | [a, b], h => by
    have ha : a < 256 := h a (by simp)
    have hb : b < 256 := h b (by simp)
    have hout₁ : a / 4 * 4 + (a % 4 * 16 + b / 16) / 16 = a := by omega
    have hout₂ : (a % 4 * 16 + b / 16) % 16 * 16 + b % 16 * 4 / 4 = b := by omega
    rw [decode, encode, decodeFrom_zero (by omega), decodeFrom_one (by omega), decodeFrom_two (by omega),
      (decodeFrom_pads _).2, hout₁, hout₂]
    rfl
  | a :: b :: c :: rest, h => by
    have ha : a < 256 := h a (by simp)
    have hb : b < 256 := h b (by simp)
    have hc : c < 256 := h c (by simp)
    have hout₁ : a / 4 * 4 + (a % 4 * 16 + b / 16) / 16 = a := by omega
    have hout₂ : (a % 4 * 16 + b / 16) % 16 * 16 + (b % 16 * 4 + c / 64) / 4 = b := by omega
    have hout₃ : (b % 16 * 4 + c / 64) % 4 * 64 + c % 64 = c := by omega
    have ih : decodeFrom 0 0 0 (encode rest) = some rest := decode_encode (fun x hx => h x (by simp [hx]))
    rw [decode, encode, decodeFrom_zero (by omega), decodeFrom_one (by omega), decodeFrom_two (by omega),
      decodeFrom_three (by omega), ih, hout₁, hout₂, hout₃]
    rfl

/-! ## Characters that are skipped -/

theorem value_of_not_ascii {c : Char} (h : 128 ≤ c.toNat) : value c = none ∧ c ≠ '=' := by
  have hle : ∀ d : Char, d.toNat < 128 → ¬c ≤ d := by
    intro d hd hcd
    have hval : c.toNat ≤ d.toNat := UInt32.le_iff_toNat_le.mp (Char.le_def.mp hcd)
    omega
  have hne : ∀ d : Char, d.toNat < 128 → c ≠ d := by
    rintro d hd rfl
    omega
  refine ⟨?_, hne '=' (by decide)⟩
  rw [value, if_neg fun hc => hle 'Z' (by decide) hc.2, if_neg fun hc => hle 'z' (by decide) hc.2,
    if_neg fun hc => hle '9' (by decide) hc.2, if_neg fun hc => hc.elim (hne '-' (by decide)) (hne '+' (by decide)),
    if_neg fun hc => hc.elim (hne '_' (by decide)) (hne '/' (by decide))]

/-- Characters outside ASCII change nothing. -/
theorem decodeFrom_filter_ascii (cs : List Char) : ∀ quadPos leftchar pads,
    decodeFrom quadPos leftchar pads (cs.filter fun c => c.toNat < 128) = decodeFrom quadPos leftchar pads cs := by
  induction cs with
  | nil => exact fun _ _ _ => rfl
  | cons c cs ih =>
    intro quadPos leftchar pads
    by_cases hascii : c.toNat < 128
    · have hkept : (c :: cs).filter (fun c => decide (c.toNat < 128)) =
          c :: cs.filter (fun c => decide (c.toNat < 128)) := by simp [hascii]
      rw [hkept]
      simp only [decodeFrom, ih]
    · obtain ⟨hvalue, hpad⟩ := value_of_not_ascii (Nat.not_lt.mp hascii)
      have hskipped : (c :: cs).filter (fun c => decide (c.toNat < 128)) =
          cs.filter (fun c => decide (c.toNat < 128)) := by simp [hascii]
      rw [hskipped, ih, decodeFrom, if_neg hpad, hvalue]

example : decode "MTA=".toList = some [49, 48] := by decide +kernel

end Base64
