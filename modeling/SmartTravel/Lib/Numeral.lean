import Mathlib.Data.Rat.Floor
import SmartTravel.Lib.Text

/-!
# Decimal numerals of Python's `int`

`str` writes an integer in decimal and `int` reads one back. `int` trims blanks, takes a sign, decimal digits of any
script and single underscores between digits. Both refuse numerals of more than `maxStrDigits` digits with a
`ValueError`, which is `none` here. What `str` writes, `int` reads (`int_str`). `round3` is rounding to three decimals.
-/

namespace Py

/-- `sys.int_info.default_max_str_digits`. -/
def maxStrDigits : ℕ := 4300

/-- `sys.maxsize`, the greatest length of a list. -/
def maxSize : ℕ := 2 ^ 63 - 1

theorem one_le_maxSize : 1 ≤ maxSize := by decide

/-- The digit zero of every script that has decimal digits; its digits follow it in order. -/
def decimalZeros : List ℕ :=
  [0x30, 0x660, 0x6f0, 0x7c0, 0x966, 0x9e6, 0xa66, 0xae6, 0xb66, 0xbe6, 0xc66, 0xce6, 0xd66, 0xde6, 0xe50, 0xed0, 0xf20,
    0x1040, 0x1090, 0x17e0, 0x1810, 0x1946, 0x19d0, 0x1a80, 0x1a90, 0x1b50, 0x1bb0, 0x1c40, 0x1c50, 0xa620, 0xa8d0,
    0xa900, 0xa9d0, 0xa9f0, 0xaa50, 0xabf0, 0xff10, 0x104a0, 0x10d30, 0x11066, 0x110f0, 0x11136, 0x111d0, 0x112f0,
    0x11450, 0x114d0, 0x11650, 0x116c0, 0x11730, 0x118e0, 0x11950, 0x11c50, 0x11d50, 0x11da0, 0x11f50, 0x16a60, 0x16ac0,
    0x16b50, 0x1d7ce, 0x1d7d8, 0x1d7e2, 0x1d7ec, 0x1d7f6, 0x1e140, 0x1e2f0, 0x1e4f0, 0x1e950, 0x1fbf0]

/-- The value of a decimal digit. -/
def decimal? (c : Char) : Option ℕ :=
  (decimalZeros.find? (fun z => z ≤ c.toNat && c.toNat < z + 10)).map (c.toNat - ·)

/-- The blanks around a numeral: white space without the four information separators. -/
def isBlank (c : Char) : Bool := isSpace c && !(0x1C ≤ c.toNat && c.toNat ≤ 0x1F)

/-- The digits that follow a digit, each after at most one underscore. -/
def digitsFrom : List Char → Option (List ℕ)
  | [] => some []
  | '_' :: c :: cs => (decimal? c).bind fun d => (digitsFrom cs).map (d :: ·)
  | c :: cs => (decimal? c).bind fun d => (digitsFrom cs).map (d :: ·)

/-- At least one digit, to the end of the text. -/
def digits : List Char → Option (List ℕ)
  | [] => none
  | c :: cs => (decimal? c).bind fun d => (digitsFrom cs).map (d :: ·)

/-- The number with these digits, the most significant first. -/
def ofDigits (ds : List ℕ) : ℕ := ds.foldl (fun n d => 10 * n + d) 0

/-- The number a run of digits stands for, if it is one and not too long. -/
def natural (cs : List Char) : Option ℕ :=
  (digits cs).bind fun ds => if ds.length ≤ maxStrDigits then some (ofDigits ds) else none

/-- `int(s)`. -/
def int (s : String) : Option ℤ :=
  match (s.toList.dropWhile isBlank).rdropWhile isBlank with
  | '-' :: cs => (natural cs).map Int.negOfNat
  | '+' :: cs => (natural cs).map Int.ofNat
  | cs => (natural cs).map Int.ofNat

/-- `str(n)`. -/
def str (n : ℤ) : Option String :=
  let ds := Nat.toDigits 10 n.natAbs
  if ds.length ≤ maxStrDigits then some (String.ofList (if n < 0 then '-' :: ds else ds)) else none

theorem isDigit_table : ∀ n < 58, (Char.ofNat n).isDigit = true →
    decimal? (Char.ofNat n) = some (n - 48) ∧ isBlank (Char.ofNat n) = false ∧
      Char.ofNat n ≠ '_' ∧ Char.ofNat n ≠ '-' ∧ Char.ofNat n ≠ '+' := by decide +kernel

/-- `n` with leading zeros up to a width, as `%0*d` writes it. -/
def zeroPad (width n : ℕ) : String :=
  let ds := Nat.toDigits 10 n
  String.ofList (List.replicate (width - ds.length) '0' ++ ds)

/-- `round(x, 3)`: the nearest multiple of a thousandth, ties to the even one. -/
def round3 (x : ℚ) : ℚ :=
  let y := x * 1000
  let n := ⌊y⌋
  let rest := y - n
  let nearest := if rest < 1 / 2 ∨ (rest = 1 / 2 ∧ n % 2 = 0) then n else n + 1
  nearest / 1000

/-- What the reader needs to know of an ASCII digit. -/
theorem isDigit_spec {c : Char} (h : c.isDigit) :
    decimal? c = some (c.toNat - 48) ∧ isBlank c = false ∧ c ≠ '_' ∧ c ≠ '-' ∧ c ≠ '+' := by
  have hlt : c.toNat < 58 := Nat.lt_succ_of_le (Char.isDigit_iff_toNat.mp h).2
  have htable := isDigit_table c.toNat hlt
  rw [Char.ofNat_toNat] at htable
  exact htable h

theorem digitsFrom_of_isDigit : ∀ {cs : List Char}, (∀ c ∈ cs, c.isDigit) →
    digitsFrom cs = some (cs.map (fun c => c.toNat - 48))
  | [], _ => rfl
  | c :: cs, h => by
    obtain ⟨hdec, -, hne, -⟩ := isDigit_spec (h c List.mem_cons_self)
    have ih := digitsFrom_of_isDigit (fun x hx => h x (List.mem_cons_of_mem _ hx))
    rw [digitsFrom.eq_def]
    split
    · rename_i heq; cases heq
    · rename_i heq; cases heq; exact absurd rfl hne
    · rename_i heq
      cases heq
      rw [hdec, ih]
      rfl

theorem digits_of_isDigit {cs : List Char} (hne : cs ≠ []) (h : ∀ c ∈ cs, c.isDigit) :
    digits cs = some (cs.map (fun c => c.toNat - 48)) := by
  obtain ⟨c, cs, rfl⟩ := List.exists_cons_of_ne_nil hne
  obtain ⟨hdec, -⟩ := isDigit_spec (h c List.mem_cons_self)
  rw [digits, hdec, digitsFrom_of_isDigit (fun x hx => h x (List.mem_cons_of_mem _ hx))]
  rfl

/-- The decimal digits of a number that is short enough are read as that number. -/
theorem natural_toDigits {n : ℕ} (hlen : (Nat.toDigits 10 n).length ≤ maxStrDigits) :
    natural (Nat.toDigits 10 n) = some n := by
  have hdig : ∀ c ∈ Nat.toDigits 10 n, c.isDigit := fun c hc => Nat.isDigit_of_mem_toDigits (by omega) (by omega) hc
  rw [natural, digits_of_isDigit Nat.toDigits_ne_nil hdig]
  simp only [Option.bind_some, List.length_map, hlen, if_true, ofDigits, List.foldl_map]
  exact congrArg some Nat.ofDigitChars_ten_toDigits

theorem trim_eq_self {cs : List Char} (h : ∀ c ∈ cs, isBlank c = false) :
    (cs.dropWhile isBlank).rdropWhile isBlank = cs := by
  have hdrop : cs.dropWhile isBlank = cs := by
    cases cs with
    | nil => rfl
    | cons c cs => rw [List.dropWhile_cons, h c List.mem_cons_self]; rfl
  rw [hdrop, List.rdropWhile_eq_self_iff]
  intro hne
  simp [h _ (List.getLast_mem hne)]

/-- **What `str` writes, `int` reads.** -/
theorem int_str {n : ℤ} {s : String} (h : str n = some s) : int s = some n := by
  simp only [str] at h
  split at h
  · rename_i hlen
    have hdig : ∀ c ∈ Nat.toDigits 10 n.natAbs, c.isDigit :=
      fun c hc => Nat.isDigit_of_mem_toDigits (by omega) (by omega) hc
    have hs : s.toList = if n < 0 then '-' :: Nat.toDigits 10 n.natAbs else Nat.toDigits 10 n.natAbs := by
      rw [← Option.some.inj h, String.toList_ofList]
    have htrim : ∀ c ∈ s.toList, isBlank c = false := by
      intro c hc
      rw [hs] at hc
      split at hc
      · rcases List.mem_cons.mp hc with rfl | hc
        · decide
        · exact (isDigit_spec (hdig c hc)).2.1
      · exact (isDigit_spec (hdig c hc)).2.1
    rw [int, trim_eq_self htrim, hs]
    by_cases hn : n < 0
    · simp only [hn, if_true, natural_toDigits hlen, Option.map_some, Option.some.injEq]
      rw [Int.negOfNat_eq, Int.ofNat_eq_natCast]
      omega
    · simp only [hn, if_false]
      obtain ⟨c, cs, hcs⟩ := List.exists_cons_of_ne_nil (Nat.toDigits_ne_nil (b := 10) (n := n.natAbs))
      obtain ⟨-, -, -, hminus, hplus⟩ := isDigit_spec (hdig c (hcs ▸ List.mem_cons_self))
      rw [hcs]
      split
      · rename_i heq; cases heq; exact absurd rfl hminus
      · rename_i heq; cases heq; exact absurd rfl hplus
      · rw [← hcs, natural_toDigits hlen, Option.map_some, Option.some.injEq, Int.ofNat_eq_natCast]
        omega
  · cases h

/-- Numbers with at most `maxStrDigits` digits are written. -/
theorem str_isSome {n : ℕ} (h : n < 10 ^ maxStrDigits) : (str n).isSome := by
  have hlen : (Nat.toDigits 10 n).length ≤ maxStrDigits := (Nat.length_toDigits_le_iff (by omega) (by decide)).mpr h
  simp [str, hlen]

/-- Padding with zeros does not change the number. -/
theorem ofDigitChars_zeroPad (width n : ℕ) : Nat.ofDigitChars 10 (zeroPad width n).toList 0 = n := by
  simp only [zeroPad, String.toList_ofList]
  rw [Nat.ofDigitChars_append, Nat.ofDigitChars_replicate_zero, Nat.mul_zero, Nat.ofDigitChars_ten_toDigits]

/-- A number that fits is padded to the width. -/
theorem length_zeroPad {width n : ℕ} (hwidth : 0 < width) (h : n < 10 ^ width) :
    (zeroPad width n).toList.length = width := by
  have hlen : (Nat.toDigits 10 n).length ≤ width := (Nat.length_toDigits_le_iff (by omega) hwidth).mpr h
  simp only [zeroPad, String.toList_ofList, List.length_append, List.length_replicate]
  omega

/-- A padded number can be read off the front of a text. -/
theorem zeroPad_append_inj {width a b : ℕ} {u v : List Char} (hwidth : 0 < width) (ha : a < 10 ^ width)
    (hb : b < 10 ^ width) (h : (zeroPad width a).toList ++ u = (zeroPad width b).toList ++ v) : a = b ∧ u = v := by
  have hlen : (zeroPad width a).toList.length = (zeroPad width b).toList.length := by
    rw [length_zeroPad hwidth ha, length_zeroPad hwidth hb]
  obtain ⟨hpad, hrest⟩ := List.append_inj h hlen
  refine ⟨?_, hrest⟩
  rw [← ofDigitChars_zeroPad width a, hpad, ofDigitChars_zeroPad]

example : int " +1_0\n" = some 10 ∧ int "1__0" = none ∧ int "٣" = some 3 := by decide +kernel

end Py
