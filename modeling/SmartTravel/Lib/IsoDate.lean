import SmartTravel.Lib.Calendar

/-!
# Reading ISO dates

`date.fromisoformat` as CPython reads it: four digits of the year, then a month and a day or a `W` with a week and,
optionally, a day of the week, with dashes in all places or in none. Digits are ASCII, the text has seven, eight or ten
bytes, and what stands after the last part is not looked at.

What `isoformat` writes is read back (`fromisoformat_isoformat`), and of the texts in the shape of a date nothing else
is (`eq_isoformat_of_shape`).
-/

namespace Py

/-- That many ASCII digits at the front of a text. -/
def readDigits (width : ℕ) (cs : List Char) : Option (ℕ × List Char) :=
  if (cs.take width).length = width ∧ (cs.take width).all Char.isDigit then
    some (Nat.ofDigitChars 10 (cs.take width) 0, cs.drop width)
  else none

/-- A dash at the front of a text, if dashes are used. -/
def readDash (uses : Bool) (cs : List Char) : Option (List Char) :=
  if uses then
    match cs with
    | '-' :: rest => some rest
    | _ => none
  else some cs

namespace Date

/-- `date(year, month, day)`, or fail with a `ValueError`. -/
def new? (year month day : ℕ) : Option Date :=
  if h : (1 ≤ year ∧ year ≤ 9999) ∧ (1 ≤ month ∧ month ≤ 12) ∧ 1 ≤ day ∧ day ≤ daysInMonth year month then
    some ⟨year, month, day, h.1, h.2.1, h.2.2⟩
  else none

/-- The date with this ordinal, in a year or one of its neighbours. -/
def ofOrdinal? (year : ℕ) (ordinal : ℤ) : Option Date :=
  (List.range' (year - 1) 3).findSome? fun y =>
    (List.range' 1 12).findSome? fun m =>
      (List.range' 1 31).findSome? fun d => (new? y m d).filter fun date => (date.toordinal : ℤ) = ordinal

/-- `date.fromisocalendar(year, week, day)`, or fail with a `ValueError`. -/
def ofIsoWeek? (year week day : ℕ) : Option Date :=
  (new? year 1 1).bind fun newYear =>
    let first : ℤ := newYear.toordinal
    let weekday := (first + 6) % 7
    let monday := first - weekday + (if 3 < weekday then 7 else 0)
    let long := weekday = 3 ∨ (weekday = 2 ∧ isLeap year)
    if (1 ≤ week ∧ (week ≤ 52 ∨ (week = 53 ∧ long))) ∧ 1 ≤ day ∧ day ≤ 7 then
      ofOrdinal? year (monday + (week - 1) * 7 + day - 1)
    else none

/-- The text after the year. -/
def readAfterYear (year : ℕ) (dashes : Bool) : List Char → Option Date
  | 'W' :: cs =>
    (readDigits 2 cs).bind fun (week, cs) =>
      if cs.isEmpty then ofIsoWeek? year week 1
      else (readDash dashes cs).bind fun cs => (readDigits 1 cs).bind fun (day, _) => ofIsoWeek? year week day
  | cs =>
    (readDigits 2 cs).bind fun (month, cs) =>
      (readDash dashes cs).bind fun cs => (readDigits 2 cs).bind fun (day, _) => new? year month day

/-- `date.fromisoformat(s)`. -/
def fromisoformat (s : String) : Option Date :=
  if (s.toList.map Char.utf8Size).sum ∈ [7, 8, 10] then
    (readDigits 4 s.toList).bind fun (year, cs) =>
      match cs with
      | '-' :: cs => readAfterYear year true cs
      | cs => readAfterYear year false cs
  else none

end Date

/-! ## Digits -/

theorem digit_range {c : Char} (h : c.isDigit) : 48 ≤ c.toNat ∧ c.toNat ≤ 57 := Char.isDigit_iff_toNat.mp h

theorem ofDigitChars_cons_zero (c : Char) (cs : List Char) : Nat.ofDigitChars 10 (c :: cs) 0 =
    10 ^ cs.length * (c.toNat - 48) + Nat.ofDigitChars 10 cs 0 := by
  rw [Nat.ofDigitChars_cons, Nat.ofDigitChars_eq_ofDigitChars_zero, Nat.mul_zero, Nat.zero_add]
  rfl

theorem ofDigitChars_lt : ∀ {cs : List Char}, (∀ c ∈ cs, c.isDigit) → Nat.ofDigitChars 10 cs 0 < 10 ^ cs.length
  | [], _ => by simp
  | c :: cs, h => by
    have hc := digit_range (h c List.mem_cons_self)
    have hrest := ofDigitChars_lt fun x hx => h x (List.mem_cons_of_mem _ hx)
    have hdigit : 10 ^ cs.length * (c.toNat - 48) ≤ 10 ^ cs.length * 9 := Nat.mul_le_mul_left _ (by omega)
    rw [ofDigitChars_cons_zero, List.length_cons, Nat.pow_succ]
    omega

/-- Digits of one length are determined by their number. -/
theorem ofDigitChars_inj : ∀ {cs ds : List Char}, (∀ c ∈ cs, c.isDigit) → (∀ d ∈ ds, d.isDigit) →
    cs.length = ds.length → Nat.ofDigitChars 10 cs 0 = Nat.ofDigitChars 10 ds 0 → cs = ds
  | [], [], _, _, _, _ => rfl
  | [], _ :: _, _, _, hlen, _ => by cases hlen
  | _ :: _, [], _, _, hlen, _ => by cases hlen
  | c :: cs, d :: ds, hc, hd, hlen, heq => by
    have hcs : ∀ x ∈ cs, x.isDigit := fun x hx => hc x (List.mem_cons_of_mem _ hx)
    have hds : ∀ x ∈ ds, x.isDigit := fun x hx => hd x (List.mem_cons_of_mem _ hx)
    have hlen' : cs.length = ds.length := Nat.succ.inj hlen
    have hc48 := digit_range (hc c List.mem_cons_self)
    have hd48 := digit_range (hd d List.mem_cons_self)
    have hu := ofDigitChars_lt hcs
    have hv := ofDigitChars_lt hds
    rw [ofDigitChars_cons_zero, ofDigitChars_cons_zero, hlen'] at heq
    rw [hlen'] at hu
    -- The first digit is the quotient, the others are the remainder.
    have hquot := congrArg (· / 10 ^ ds.length) heq
    have hrest := congrArg (· % 10 ^ ds.length) heq
    simp only [Nat.mul_add_div (Nat.pow_pos (by omega : 0 < 10)), Nat.div_eq_of_lt hu, Nat.div_eq_of_lt hv,
      Nat.mul_add_mod, Nat.mod_eq_of_lt hu, Nat.mod_eq_of_lt hv] at hquot hrest
    have hhead : c = d := Char.toNat_inj.mp (by omega)
    rw [hhead, ofDigitChars_inj hcs hds hlen' hrest]

theorem isDigit_zeroPad (width n : ℕ) : ∀ c ∈ (zeroPad width n).toList, c.isDigit := by
  intro c hc
  simp only [zeroPad, String.toList_ofList, List.mem_append] at hc
  rcases hc with hc | hc
  · rw [List.eq_of_mem_replicate hc]
    rfl
  · exact Nat.isDigit_of_mem_toDigits (by omega) (by omega) hc

/-- Digits are their number, padded to their length. -/
theorem zeroPad_ofDigitChars {cs : List Char} (hne : cs ≠ []) (h : ∀ c ∈ cs, c.isDigit) :
    (zeroPad cs.length (Nat.ofDigitChars 10 cs 0)).toList = cs := by
  have hlen := length_zeroPad (List.length_pos_of_ne_nil hne) (ofDigitChars_lt h)
  exact ofDigitChars_inj (isDigit_zeroPad _ _) h hlen (ofDigitChars_zeroPad _ _)

/-- Digits at the front of a text are read. -/
theorem readDigits_append {ds : List Char} (h : ∀ d ∈ ds, d.isDigit) (rest : List Char) :
    readDigits ds.length (ds ++ rest) = some (Nat.ofDigitChars 10 ds 0, rest) := by
  have hall : ds.all Char.isDigit = true := List.all_eq_true.mpr h
  simp [readDigits, hall]

theorem readDigits_zeroPad {width n : ℕ} (hwidth : 0 < width) (h : n < 10 ^ width) (rest : List Char) :
    readDigits width ((zeroPad width n).toList ++ rest) = some (n, rest) := by
  have hread := readDigits_append (isDigit_zeroPad width n) rest
  rwa [length_zeroPad hwidth h, ofDigitChars_zeroPad] at hread

/-- What is read as digits are digits. -/
theorem isDigit_of_readDigits {ds rest rest' : List Char} {n : ℕ}
    (h : readDigits ds.length (ds ++ rest) = some (n, rest')) :
    (∀ d ∈ ds, d.isDigit) ∧ n = Nat.ofDigitChars 10 ds 0 ∧ rest' = rest := by
  simp only [readDigits, List.take_left, List.drop_left] at h
  split at h
  · rename_i hdigits
    cases h
    exact ⟨List.all_eq_true.mp hdigits.2, rfl, rfl⟩
  · cases h

/-- ASCII characters are one byte each. -/
theorem sum_utf8Size : ∀ {cs : List Char}, (∀ c ∈ cs, c.toNat < 128) → (cs.map Char.utf8Size).sum = cs.length
  | [], _ => rfl
  | c :: cs, h => by
    have hc : c.utf8Size = 1 := Char.utf8Size_eq_one_iff.mpr (Nat.le_of_lt_succ (h c List.mem_cons_self))
    have hcs := sum_utf8Size fun x hx => h x (List.mem_cons_of_mem _ hx)
    rw [List.map_cons, List.sum_cons, hc, hcs, List.length_cons, Nat.add_comm]

/-! ## Dates in their usual form -/

namespace Date

theorem toList_isoformat (d : Date) : d.isoformat.toList =
    (zeroPad 4 d.year).toList ++ '-' :: ((zeroPad 2 d.month).toList ++ '-' :: (zeroPad 2 d.day).toList) := by
  simp [isoformat, String.toList_append]

theorem new?_self (d : Date) : new? d.year d.month d.day = some d := by
  rw [new?, dif_pos ⟨d.year_range, d.month_range, d.day_range⟩]

theorem eq_of_new? {year month day : ℕ} {d : Date} (h : new? year month day = some d) :
    d.year = year ∧ d.month = month ∧ d.day = day := by
  unfold new? at h
  split at h
  · cases h
    exact ⟨rfl, rfl, rfl⟩
  · cases h

/-- The parts of a date fit their widths. -/
theorem parts_lt (d : Date) : d.year < 10 ^ 4 ∧ d.month < 10 ^ 2 ∧ d.day < 10 ^ 2 := by
  have hyear := d.year_range
  have hmonth := d.month_range
  have hday := d.day_range
  have hdays := daysInMonth_le d.year d.month
  omega

/-- A month is not a week: it starts with a digit. -/
theorem readAfterYear_of_ne {c : Char} (hc : c ≠ 'W') (year : ℕ) (dashes : Bool) (cs : List Char) :
    readAfterYear year dashes (c :: cs) = (readDigits 2 (c :: cs)).bind fun (month, cs) =>
      (readDash dashes cs).bind fun cs => (readDigits 2 cs).bind fun (day, _) => new? year month day := by
  unfold readAfterYear
  split
  · rename_i heq
    cases heq
    exact absurd rfl hc
  · rfl

/-- **What `isoformat` writes is read back.** -/
theorem fromisoformat_isoformat (d : Date) : fromisoformat d.isoformat = some d := by
  obtain ⟨hyear, hmonth, hday⟩ := d.parts_lt
  have hascii : ∀ c ∈ d.isoformat.toList, c.toNat < 128 := by
    have hdigit : ∀ width n, ∀ c ∈ (zeroPad width n).toList, c.toNat < 128 := fun width n c hc => by
      have := digit_range (isDigit_zeroPad width n c hc)
      omega
    have hdash : '-'.toNat < 128 := by decide
    rw [toList_isoformat]
    intro c hc
    simp only [List.mem_append, List.mem_cons] at hc
    rcases hc with hc | rfl | hc | rfl | hc
    · exact hdigit _ _ c hc
    · exact hdash
    · exact hdigit _ _ c hc
    · exact hdash
    · exact hdigit _ _ c hc
  have hlen : d.isoformat.toList.length = 10 := by
    simp [toList_isoformat, length_zeroPad _ hyear, length_zeroPad _ hmonth, length_zeroPad _ hday]
  have hread : readAfterYear d.year true ((zeroPad 2 d.month).toList ++ '-' :: (zeroPad 2 d.day).toList) = some d := by
    have hmonths := readDigits_zeroPad (by omega) hmonth ('-' :: (zeroPad 2 d.day).toList)
    have hdays := readDigits_zeroPad (by omega) hday []
    rw [List.append_nil] at hdays
    cases hcs : (zeroPad 2 d.month).toList with
    | nil => simp [hcs, readDigits] at hmonths
    | cons c cs =>
      have hc := isDigit_zeroPad 2 d.month c (hcs ▸ List.mem_cons_self)
      rw [hcs, List.cons_append] at hmonths
      rw [List.cons_append, readAfterYear_of_ne (by rintro rfl; cases hc), hmonths]
      simp only [Option.bind_some, readDash, if_true, hdays, new?_self]
  rw [fromisoformat, sum_utf8Size hascii, hlen, if_pos (by simp), toList_isoformat,
    readDigits_zeroPad (by omega) hyear, Option.bind_some]
  exact hread

/-- A text in the shape of a date that is read is the text of that date. -/
theorem eq_isoformat_of_shape {s : String} {years months days : List Char} {d : Date}
    (hs : s.toList = years ++ '-' :: (months ++ '-' :: days)) (hyears : years.length = 4) (hmonths : months.length = 2)
    (hdays : days.length = 2) (hweek : months.head? ≠ some 'W') (h : fromisoformat s = some d) : s = d.isoformat := by
  unfold fromisoformat at h
  split at h
  · rw [hs, Option.bind_eq_some_iff] at h
    obtain ⟨⟨year, rest⟩, hread, h⟩ := h
    rw [← hyears] at hread
    obtain ⟨hyear, rfl, rfl⟩ := isDigit_of_readDigits hread
    obtain ⟨c, cs, rfl⟩ := List.exists_cons_of_ne_nil (List.ne_nil_of_length_pos (by omega : 0 < months.length))
    simp only [List.cons_append] at h
    rw [readAfterYear_of_ne (fun hc => hweek (by rw [hc]; rfl)), Option.bind_eq_some_iff] at h
    obtain ⟨⟨month, rest⟩, hread, h⟩ := h
    rw [← List.cons_append, ← hmonths] at hread
    obtain ⟨hmonth, rfl, rfl⟩ := isDigit_of_readDigits hread
    simp only [readDash, if_true, Option.bind_some, Option.bind_eq_some_iff] at h
    obtain ⟨⟨day, rest⟩, hread, h⟩ := h
    have hreadDay : readDigits days.length (days ++ []) = some (day, rest) := by
      rw [hdays, List.append_nil]
      exact hread
    obtain ⟨hday, rfl, -⟩ := isDigit_of_readDigits hreadDay
    obtain ⟨hy, hm, hd⟩ := eq_of_new? h
    have hpad : ∀ {cs : List Char} {width : ℕ}, cs.length = width → 0 < width → (∀ c ∈ cs, c.isDigit) →
        (zeroPad width (Nat.ofDigitChars 10 cs 0)).toList = cs := by
      rintro cs width rfl hpos hdigits
      exact zeroPad_ofDigitChars (List.ne_nil_of_length_pos hpos) hdigits
    apply String.toList_injective
    rw [toList_isoformat, hy, hm, hd, hpad hyears (by omega) hyear, hpad hmonths (by omega) hmonth,
      hpad hdays (by omega) hday]
    exact hs
  · cases h

end Date

example : Date.fromisoformat "2026-W53-7" = Date.new? 2027 1 3 ∧ Date.fromisoformat "2026W331" = Date.new? 2026 8 10 ∧
    Date.fromisoformat "9999-W52-7" = none ∧ Date.fromisoformat "20260810" = Date.new? 2026 8 10 := by decide +kernel

end Py
