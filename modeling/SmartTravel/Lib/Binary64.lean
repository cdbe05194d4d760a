import Mathlib.Data.Int.Log
import Mathlib.Tactic.Linarith
import SmartTravel.Lib.Json
import SmartTravel.Lib.Numeral

/-!
# Floats of Python

A float is not a number, an infinity, or finite, and then the rational it is; the sign of a zero is not kept. Every
operation computes exactly and rounds once to a number of 53 bits, ties to even (`nearest64`); from `overflowBound` on
there is no such number. Reading a text or a float of JSON then gives an infinity, `float(n)` of an integer raises an
`OverflowError`.

`fsum` follows the algorithm of CPython, which raises when a partial sum overflows even if the whole sum would not.
-/

namespace Py

/-- The exceptions of Python's operations on numbers and on values of JSON. -/
inductive PyError where
  | keyError
  | indexError
  | typeError
  | valueError
  | attributeError
  | overflowError
  | zeroDivisionError
deriving DecidableEq

/-! ## Rounding -/

/-- The nearest integer, ties to the even one. -/
def roundEven (y : ℚ) : ℤ :=
  let n := ⌊y⌋
  let rest := y - n
  if rest < 1 / 2 ∨ (rest = 1 / 2 ∧ n % 2 = 0) then n else n + 1

/-- The exponent of the unit in the last of 53 places. -/
def ulpExponent (x : ℚ) : ℤ := max (Int.log 2 |x| - 52) (-1074)

/-- The nearest number of 53 bits, ties to the even one. -/
def nearest64 (x : ℚ) : ℚ := roundEven (x / 2 ^ ulpExponent x) * 2 ^ ulpExponent x

/-- Half a unit above the greatest float: what is rounded from here on overflows. -/
def overflowBound : ℚ := 2 ^ 1024 - 2 ^ 970

/-- The integer can be rounded to a float. -/
def FitsFloat (n : ℤ) : Prop := |(n : ℚ)| < overflowBound

instance (n : ℤ) : Decidable (FitsFloat n) := inferInstanceAs (Decidable (_ < _))

/-- A float. -/
inductive Binary64 where
  | nan
  | infinity (negative : Bool)
  | finite (x : ℚ)
deriving DecidableEq

namespace Binary64

/-- The float next to a number, or an infinity. -/
def ofRat (x : ℚ) : Binary64 := if overflowBound ≤ |x| then .infinity (decide (x < 0)) else .finite (nearest64 x)

/-- `float(n)`. -/
def ofInt (n : ℤ) : Except PyError Binary64 :=
  if overflowBound ≤ |(n : ℚ)| then .error .overflowError else .ok (.finite (nearest64 n))

/-- `x >= 0`. -/
def nonneg : Binary64 → Bool
  | .nan => false
  | .infinity negative => !negative
  | .finite x => decide (0 ≤ x)

/-- `x > 0`. -/
def pos : Binary64 → Bool
  | .nan => false
  | .infinity negative => !negative
  | .finite x => decide (0 < x)

/-- `int(x)`. -/
def toInt : Binary64 → Except PyError ℤ
  | .nan => .error .valueError
  | .infinity _ => .error .overflowError
  | .finite x => .ok (if 0 ≤ x then ⌊x⌋ else ⌈x⌉)

/-- `round(x)`. -/
def round : Binary64 → Except PyError ℤ
  | .nan => .error .valueError
  | .infinity _ => .error .overflowError
  | .finite x => .ok (roundEven x)

/-- `round(x, digits)`. -/
def roundTo (digits : ℕ) : Binary64 → Binary64
  | .finite x => .finite (nearest64 (roundEven (x * 10 ^ digits) / 10 ^ digits))
  | x => x

/-- `x + y`. -/
def add : Binary64 → Binary64 → Binary64
  | .finite x, .finite y => .ofRat (x + y)
  | .infinity a, .infinity b => if a = b then .infinity a else .nan
  | .infinity a, .finite _ => .infinity a
  | .finite _, .infinity b => .infinity b
  | .nan, _ => .nan
  | _, .nan => .nan

/-- `x * y`. -/
def mul : Binary64 → Binary64 → Binary64
  | .finite x, .finite y => .ofRat (x * y)
  | .infinity a, .infinity b => .infinity (a != b)
  | .infinity a, .finite y => if y = 0 then .nan else .infinity (a != decide (y < 0))
  | .finite x, .infinity b => if x = 0 then .nan else .infinity (b != decide (x < 0))
  | .nan, _ => .nan
  | _, .nan => .nan

/-- `a / b` for integers. -/
def trueDiv (a b : ℤ) : Except PyError Binary64 :=
  if b = 0 then .error .zeroDivisionError
  else if overflowBound ≤ |(a : ℚ) / b| then .error .overflowError
  else .ok (.finite (nearest64 (a / b)))

/-- `f"{x:.2f}"`, with another number of decimals in the place of 2. -/
def formatFixed (decimals : ℕ) : Binary64 → String
  | .nan => "nan"
  | .infinity negative => if negative then "-inf" else "inf"
  | .finite x =>
    let scaled := (roundEven (|x| * 10 ^ decimals)).toNat
    (if x < 0 then "-" else "") ++ zeroPad 1 (scaled / 10 ^ decimals) ++
      (if decimals = 0 then "" else "." ++ zeroPad decimals (scaled % 10 ^ decimals))

/-- `x / n` for a count. -/
def divNat (n : ℕ) : Binary64 → Binary64
  | .finite x => .ofRat (x / n)
  | x => x

end Binary64

/-- From a half below zero on a number is rounded to a non-negative integer. -/
theorem roundEven_nonneg_iff {y : ℚ} : 0 ≤ roundEven y ↔ -(1 / 2) ≤ y := by
  have hfloor : (⌊y⌋ : ℚ) ≤ y := Int.floor_le y
  have hlt : y < ⌊y⌋ + 1 := Int.lt_floor_add_one y
  simp only [roundEven]
  rcases lt_trichotomy ⌊y⌋ (-1) with hn | hn | hn
  · have hq : ((⌊y⌋ + 2 : ℤ) : ℚ) ≤ 0 := by exact_mod_cast (by omega : ⌊y⌋ + 2 ≤ 0)
    push_cast at hq
    constructor
    · intro h
      split at h <;> omega
    · intro h
      linarith
  · rw [hn] at hfloor hlt ⊢
    push_cast at hfloor hlt ⊢
    constructor
    · intro h
      split at h
      · omega
      · rename_i hcond
        by_contra hy
        exact hcond (.inl (by linarith))
    · intro h
      split
      · rename_i hcond
        rcases hcond with hrest | ⟨-, heven⟩
        · linarith
        · exact heven.elim
      · omega
  · have hq : ((0 : ℤ) : ℚ) ≤ ⌊y⌋ := by exact_mod_cast (by omega : 0 ≤ ⌊y⌋)
    push_cast at hq
    constructor
    · intro _
      linarith
    · intro _
      split <;> omega

/-- Rounding moves a number by at most a half. -/
theorem roundEven_bounds (y : ℚ) : y - 1 / 2 ≤ roundEven y ∧ (roundEven y : ℚ) ≤ y + 1 / 2 := by
  have hfloor : (⌊y⌋ : ℚ) ≤ y := Int.floor_le y
  have hlt : y < ⌊y⌋ + 1 := Int.lt_floor_add_one y
  simp only [roundEven]
  split
  · rename_i hdown
    have hrest : y - ⌊y⌋ ≤ 1 / 2 := hdown.elim le_of_lt fun h => h.1.le
    constructor <;> linarith
  · rename_i hup
    have hrest : 1 / 2 ≤ y - ⌊y⌋ := not_lt.mp fun h => hup (.inl h)
    push_cast
    constructor <;> linarith

theorem roundEven_mono {x y : ℚ} (h : x ≤ y) : roundEven x ≤ roundEven y := by
  by_contra hlt
  have hstep : (roundEven y : ℚ) + 1 ≤ roundEven x := by exact_mod_cast not_le.mp hlt
  have hx := (roundEven_bounds x).2
  have hy := (roundEven_bounds y).1
  -- Both numbers are moved by a half towards each other, so they are one number.
  have heq : x = y := le_antisymm h (by linarith)
  exact hlt (heq ▸ le_rfl)

/-- Numbers that are more than one apart are rounded to different integers. -/
theorem roundEven_lt {x y : ℚ} (h : x + 1 < y) : roundEven x < roundEven y := by
  have hx := (roundEven_bounds x).2
  have hy := (roundEven_bounds y).1
  have hlt : (roundEven x : ℚ) < roundEven y := by linarith
  exact_mod_cast hlt

/-- What is less than a half from an integer is rounded to it. -/
theorem roundEven_eq_of_near {y : ℚ} {n : ℤ} (h : |y - n| < 1 / 2) : roundEven y = n := by
  obtain ⟨hlow, hhigh⟩ := abs_lt.mp h
  obtain ⟨hlow', hhigh'⟩ := roundEven_bounds y
  have hup : (roundEven y : ℚ) < n + 1 := by linarith
  have hdown : (n : ℚ) - 1 < roundEven y := by linarith
  have hup' : roundEven y < n + 1 := by exact_mod_cast hup
  have hdown' : n - 1 < roundEven y := by exact_mod_cast hdown
  omega

theorem roundEven_intCast (n : ℤ) : roundEven n = n := by simp [roundEven]

theorem round3_eq (x : ℚ) : round3 x = roundEven (x * 1000) / 1000 := rfl

theorem round3_mono {x y : ℚ} (h : x ≤ y) : round3 x ≤ round3 y := by
  have hround : (roundEven (x * 1000) : ℚ) ≤ roundEven (y * 1000) := by
    exact_mod_cast roundEven_mono (by linarith : x * 1000 ≤ y * 1000)
  rw [round3_eq, round3_eq]
  linarith

/-- Numbers that are more than a thousandth apart stay apart. -/
theorem round3_lt {x y : ℚ} (h : x + 1 / 1000 < y) : round3 x < round3 y := by
  have hround : (roundEven (x * 1000) : ℚ) < roundEven (y * 1000) := by
    exact_mod_cast roundEven_lt (by linarith : x * 1000 + 1 < y * 1000)
  rw [round3_eq, round3_eq]
  linarith

/-- Rounding stays within integers. -/
theorem round3_intCast (n : ℤ) : round3 n = n := by
  have hscaled : (n : ℚ) * 1000 = ((n * 1000 : ℤ) : ℚ) := by push_cast; rfl
  rw [round3_eq, hscaled, roundEven_intCast]
  push_cast
  linarith

theorem nearest64_nonneg {x : ℚ} (hx : 0 ≤ x) : 0 ≤ nearest64 x := by
  have hpow : (0 : ℚ) < 2 ^ ulpExponent x := zpow_pos two_pos _
  have hround : 0 ≤ roundEven (x / 2 ^ ulpExponent x) := by
    rw [roundEven_nonneg_iff]
    have := div_nonneg hx hpow.le
    linarith
  exact mul_nonneg (by exact_mod_cast hround) hpow.le

/-- Rounding moves a number by at most half a unit in its last place. -/
theorem nearest64_error (x : ℚ) : |nearest64 x - x| ≤ 2 ^ ulpExponent x / 2 := by
  have hpow : (0 : ℚ) < 2 ^ ulpExponent x := zpow_pos two_pos _
  obtain ⟨hlow, hhigh⟩ := roundEven_bounds (x / 2 ^ ulpExponent x)
  have hx : x = x / 2 ^ ulpExponent x * 2 ^ ulpExponent x := (div_mul_cancel₀ x hpow.ne').symm
  have hdiff : nearest64 x - x =
      (roundEven (x / 2 ^ ulpExponent x) - x / 2 ^ ulpExponent x) * 2 ^ ulpExponent x := by
    rw [sub_mul, ← hx]
    rfl
  have hhalf : |(roundEven (x / 2 ^ ulpExponent x) : ℚ) - x / 2 ^ ulpExponent x| ≤ 1 / 2 :=
    abs_le.mpr ⟨by linarith, by linarith⟩
  rw [hdiff, abs_mul, abs_of_pos hpow]
  calc _ ≤ 1 / 2 * (2 : ℚ) ^ ulpExponent x := mul_le_mul_of_nonneg_right hhalf hpow.le
    _ = 2 ^ ulpExponent x / 2 := by ring

/-- The unit of a number below a power of two. -/
theorem ulpExponent_le {x : ℚ} {k : ℤ} (hpos : 0 < x) (hlt : x < 2 ^ k) (hk : -1021 ≤ k) :
    ulpExponent x ≤ k - 53 := by
  have hlog : Int.log 2 |x| < k := by
    rw [abs_of_pos hpos]
    exact (Int.lt_zpow_iff_log_lt (by norm_num) hpos).mp (by exact_mod_cast hlt)
  unfold ulpExponent
  omega

/-- Below `2 ^ 53` rounding does not pass a natural number. -/
theorem nearest64_between {x : ℚ} (hpos : 0 < x) (hlt : x < 2 ^ 53) {low high : ℕ} (hlow : low ≤ x)
    (hhigh : x ≤ high) : low ≤ nearest64 x ∧ nearest64 x ≤ high := by
  have hexp := ulpExponent_le hpos (by exact_mod_cast hlt : x < 2 ^ (53 : ℤ)) (by norm_num)
  obtain ⟨k, hk⟩ : ∃ k : ℕ, ulpExponent x = -(k : ℤ) := ⟨(-ulpExponent x).toNat, by omega⟩
  have hpow : (0 : ℚ) < 2 ^ k := by positivity
  -- The unit is a fraction of one, so natural numbers are multiples of it.
  have hrounded : nearest64 x = roundEven (x * 2 ^ k) / 2 ^ k := by
    rw [nearest64, hk, zpow_neg, zpow_natCast, div_inv_eq_mul, ← div_eq_mul_inv]
  have hnat (n : ℕ) : (roundEven (n * 2 ^ k) : ℚ) = n * 2 ^ k := by
    have hcast : ((n : ℚ) * 2 ^ k) = ((n * 2 ^ k : ℤ) : ℚ) := by push_cast; rfl
    rw [hcast, roundEven_intCast]
  have hmono {y z : ℚ} (h : y ≤ z) : (roundEven (y * 2 ^ k) : ℚ) ≤ roundEven (z * 2 ^ k) := by
    exact_mod_cast roundEven_mono (mul_le_mul_of_nonneg_right h hpow.le)
  rw [hrounded, le_div_iff₀ hpow, div_le_iff₀ hpow, ← hnat low, ← hnat high]
  exact ⟨hmono hlow, hmono hhigh⟩

/-- Natural numbers of 53 bits are floats. -/
theorem nearest64_natCast {n : ℕ} (h : n < 2 ^ 53) : nearest64 n = n := by
  rcases Nat.eq_zero_or_pos n with rfl | hpos
  · simp [nearest64, roundEven]
  · have hbounds := nearest64_between (x := n) (by exact_mod_cast hpos) (by exact_mod_cast h) le_rfl le_rfl
    exact le_antisymm hbounds.2 hbounds.1

/-- A number below `2 ^ 53` does not overflow. -/
theorem Binary64.ofRat_of_lt {x : ℚ} (hx : 0 ≤ x) (hlt : x < 2 ^ 53) : ofRat x = .finite (nearest64 x) := by
  have hbound : (2 : ℚ) ^ 53 < overflowBound := by decide +kernel
  have hfits : ¬ overflowBound ≤ |x| := by
    rw [abs_of_nonneg hx, not_le]
    exact hlt.trans hbound
  simp only [ofRat, hfits, if_false]

/-- A result between natural numbers of 53 bits is rounded to a float between them. -/
theorem Binary64.ofRat_between {x : ℚ} (low high : ℕ) (hpos : 0 < low) (hfits : high < 2 ^ 53) (hlow : low ≤ x)
    (hhigh : x ≤ high) : ∃ z, ofRat x = .finite z ∧ low ≤ z ∧ z ≤ high := by
  have hx : 0 < x := lt_of_lt_of_le (by exact_mod_cast hpos) hlow
  have hlt : x < 2 ^ 53 := lt_of_le_of_lt hhigh (by exact_mod_cast hfits)
  exact ⟨nearest64 x, ofRat_of_lt hx.le hlt, nearest64_between hx hlt hlow hhigh⟩

/-- Cutting off stays between natural numbers. -/
theorem Binary64.toInt_between {z : ℚ} {low high : ℕ} (hlow : low ≤ z) (hhigh : z ≤ high) :
    ∃ k : ℤ, (finite z).toInt = .ok k ∧ low ≤ k ∧ k ≤ high := by
  have hz : 0 ≤ z := (Nat.cast_nonneg low).trans hlow
  refine ⟨⌊z⌋, by simp only [toInt, hz, if_true], ?_, ?_⟩
  · rw [Int.le_floor]
    exact_mod_cast hlow
  · have hfloor : (⌊z⌋ : ℚ) ≤ high := (Int.floor_le z).trans hhigh
    exact_mod_cast hfloor

/-- A natural number of 53 bits is converted exactly. -/
theorem Binary64.ofInt_natCast {n : ℕ} (h : n < 2 ^ 53) : ofInt n = .ok (.finite n) := by
  have hlt : (n : ℚ) < 2 ^ 53 := by exact_mod_cast h
  have hbound : (2 : ℚ) ^ 53 < overflowBound := by decide +kernel
  have hfits : ¬ overflowBound ≤ |(n : ℚ)| := by
    rw [abs_of_nonneg (Nat.cast_nonneg n), not_le]
    exact hlt.trans hbound
  simp only [ofInt, Int.cast_natCast, hfits, if_false, nearest64_natCast h]

/-- A negative number keeps its sign unless it is smaller than every float. -/
theorem nearest64_neg {x : ℚ} (hx : x ≤ -2 ^ (-1074 : ℤ)) : nearest64 x < 0 := by
  have htiny : (0 : ℚ) < 2 ^ (-1074 : ℤ) := zpow_pos two_pos _
  have hne : |x| ≠ 0 := by
    rw [abs_ne_zero]
    linarith
  have habs : |x| = -x := abs_of_neg (by linarith)
  have hpow : (0 : ℚ) < 2 ^ ulpExponent x := zpow_pos two_pos _
  -- The unit is at most the number itself.
  have hunit : (2 : ℚ) ^ ulpExponent x ≤ |x| := by
    unfold ulpExponent
    rcases le_total (Int.log 2 |x| - 52) (-1074) with h | h
    · rw [max_eq_right h, habs]
      linarith
    · rw [max_eq_left h]
      calc (2 : ℚ) ^ (Int.log 2 |x| - 52) ≤ 2 ^ Int.log 2 |x| := zpow_le_zpow_right₀ (by norm_num) (by omega)
        _ ≤ |x| := Int.zpow_log_le_self (by norm_num) (lt_of_le_of_ne (abs_nonneg x) hne.symm)
  have hquot : x / 2 ^ ulpExponent x ≤ -1 := by
    rw [div_le_iff₀ hpow]
    linarith
  have hround : roundEven (x / 2 ^ ulpExponent x) < 0 := by
    rw [← not_le, roundEven_nonneg_iff]
    linarith
  exact mul_neg_of_neg_of_pos (by exact_mod_cast hround) hpow

/-- Rounded to one decimal, a float is non-negative from minus a twentieth on. -/
theorem Binary64.nonneg_roundTo_one (x : ℚ) : ((finite x).roundTo 1).nonneg = true ↔ -(1 / 20) ≤ x := by
  simp only [roundTo, nonneg, decide_eq_true_eq, pow_one]
  have hiff : 0 ≤ roundEven (x * 10) ↔ -(1 / 20) ≤ x := by
    rw [roundEven_nonneg_iff]
    constructor <;> intro h <;> linarith
  rw [← hiff]
  constructor
  · intro h
    by_contra hneg
    have hle : (roundEven (x * 10) : ℚ) ≤ -1 := by exact_mod_cast (by omega : roundEven (x * 10) ≤ -1)
    have htiny : (2 : ℚ) ^ (-1074 : ℤ) ≤ 1 / 10 := by decide +kernel
    exact absurd (nearest64_neg (by linarith)) (not_lt.mpr h)
  · intro h
    have hcast : (0 : ℚ) ≤ roundEven (x * 10) := by exact_mod_cast h
    exact nearest64_nonneg (div_nonneg hcast (by norm_num))

/-- The float that is written as a decimal. -/
def Double.value : Double → Binary64
  | .nan => .nan
  | .infinity negative => .infinity negative
  | .finite negative digits exponent => .ofRat ((if negative then -1 else 1) * digits * 10 ^ exponent)

/-! ## Texts -/

/-- The text without underscores, if each of them stands between two digits. -/
def dropUnderscores : Char → List Char → Option (List Char)
  | prev, [] => if prev = '_' then none else some []
  | prev, c :: cs =>
    if c = '_' then if prev.isDigit then dropUnderscores c cs else none
    else if prev = '_' ∧ ¬ c.isDigit then none
    else (dropUnderscores c cs).map (c :: ·)

/-- The number that digits write. -/
def digitsValue (cs : List Char) : ℕ := ofDigits (cs.map fun c => c.toNat - 48)

/-- The exponent of a decimal: `e`, a sign and digits, or nothing. -/
def exponentPart : List Char → Option ℤ
  | [] => some 0
  | e :: cs =>
    let (sign, ds) : ℤ × List Char := match cs with
      | '-' :: ds => (-1, ds)
      | '+' :: ds => (1, ds)
      | ds => (1, ds)
    if (e = 'e' ∨ e = 'E') ∧ ds ≠ [] ∧ ds.all Char.isDigit then some (sign * digitsValue ds) else none

/-- An unsigned decimal with an optional point and exponent. -/
def decimalValue (cs : List Char) : Option ℚ :=
  let whole := cs.takeWhile Char.isDigit
  let rest := cs.dropWhile Char.isDigit
  let (fraction, rest) := match rest with
    | '.' :: rest => (rest.takeWhile Char.isDigit, rest.dropWhile Char.isDigit)
    | rest => ([], rest)
  if whole ++ fraction = [] then none
  else (exponentPart rest).map fun exponent : ℤ =>
    (digitsValue (whole ++ fraction) : ℚ) * 10 ^ (exponent - (fraction.length : ℤ))

/-- A decimal, or the name of a float that is not finite in any case, behind a sign. -/
def signedFloat (negative : Bool) (cs : List Char) : Option Binary64 :=
  let name := cs.map Char.toLower
  if name = "nan".toList then some .nan
  else if name = "inf".toList ∨ name = "infinity".toList then some (.infinity negative)
  else (decimalValue cs).map fun x => .ofRat (if negative then -x else x)

/-- `float(s)`. Decimal digits of every script count. -/
def floatOfText (s : String) : Except PyError Binary64 :=
  let cs := ((s.toList.dropWhile isBlank).rdropWhile isBlank).map fun c => ((decimal? c).map Nat.digitChar).getD c
  let (negative, cs) := match cs with
    | '-' :: cs => (true, cs)
    | '+' :: cs => (false, cs)
    | cs => (false, cs)
  match (dropUnderscores ' ' cs).bind (signedFloat negative) with
  | none => .error .valueError
  | some x => .ok x

example : floatOfText " -1_0.5e1\n" = .ok (.finite (-105)) ∧ floatOfText "Infinity" = .ok (.infinity false) ∧
    floatOfText "1e400" = .ok (.infinity false) ∧ floatOfText "1_.5" = .error .valueError := by decide +kernel

/-! ## Sums -/

/-- One more summand for the partial sums, which grow in magnitude and do not overlap. What a sum of two rounds off is
itself a float. -/
def addPartial : ℚ → List ℚ → Option (List ℚ)
  | x, [] => some (if x = 0 then [] else [x])
  | x, y :: partials =>
    if overflowBound ≤ |x + y| then none
    else
      let high := nearest64 (x + y)
      let low := x + y - high
      (addPartial high partials).map fun rest => if low = 0 then rest else low :: rest

/-- The partial sums, and which of the special summands there were. -/
structure Fsum where
  partials : List ℚ
  positive : Bool
  negative : Bool
  nan : Bool

/-- One summand; a special one resets the partial sums. -/
def Fsum.add (s : Fsum) : Binary64 → Except PyError Fsum
  | .nan => .ok { s with partials := [], nan := true }
  | .infinity true => .ok { s with partials := [], negative := true }
  | .infinity false => .ok { s with partials := [], positive := true }
  | .finite x =>
    match addPartial x s.partials with
    | none => .error .overflowError
    | some partials => .ok { s with partials := partials }

/-- The sum of all that was added. -/
def Fsum.total (s : Fsum) : Except PyError Binary64 :=
  if s.positive && s.negative then .error .valueError
  else if s.nan then .ok .nan
  else if s.positive then .ok (.infinity false)
  else if s.negative then .ok (.infinity true)
  else .ok (.ofRat s.partials.sum)

/-- `math.fsum(xs)`. -/
def fsum (xs : List Binary64) : Except PyError Binary64 := do
  (← xs.foldlM Fsum.add ⟨[], false, false, false⟩).total

/-- `statistics.fmean(xs)` of at least one float. -/
def fmean (xs : List Binary64) : Except PyError Binary64 := do
  return (← fsum xs).divNat xs.length

example : fmean [.finite 50, .finite 60] = .ok (.finite 55) ∧
    fmean [.infinity true, .infinity false] = .error .valueError := by decide +kernel

end Py
