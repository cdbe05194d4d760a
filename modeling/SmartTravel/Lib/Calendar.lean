import SmartTravel.Lib.Numeral

/-!
# Dates and times of Python's `datetime`

A `Date` is a day of the proleptic Gregorian calendar; a `DateTime` adds a time of day and, when it is aware, a UTC
offset. Both carry their ranges. Aware times are ordered by their instant and naive ones by their wall clock; between
the two kinds there is no order. The ISO text of a time can be read in one way (`DateTime.isoformat_injective`).
-/

namespace Py

/-- `calendar.isleap`. -/
def isLeap (year : ℕ) : Bool := year % 4 == 0 && (year % 100 != 0 || year % 400 == 0)

/-- The lengths of the months of a common year. -/
def monthDays : List ℕ := [31, 28, 31, 30, 31, 30, 31, 31, 30, 31, 30, 31]

/-- The number of days of a month. -/
def daysInMonth (year month : ℕ) : ℕ := if month = 2 && isLeap year then 29 else monthDays.getD (month - 1) 0

/-- `datetime.date`. -/
structure Date where
  year : ℕ
  month : ℕ
  day : ℕ
  year_range : 1 ≤ year ∧ year ≤ 9999
  month_range : 1 ≤ month ∧ month ≤ 12
  day_range : 1 ≤ day ∧ day ≤ daysInMonth year month
deriving DecidableEq

/-- `date.toordinal()`: days since the last day of the year 0. -/
def Date.toordinal (d : Date) : ℕ :=
  let y := d.year - 1
  let beforeMonth := (monthDays.take (d.month - 1)).sum + (if 2 < d.month && isLeap d.year then 1 else 0)
  y * 365 + y / 4 - y / 100 + y / 400 + beforeMonth + d.day

/-- `date.isoformat()`. -/
def Date.isoformat (d : Date) : String := zeroPad 4 d.year ++ "-" ++ zeroPad 2 d.month ++ "-" ++ zeroPad 2 d.day

/-- The microseconds of a day. -/
def dayMicroseconds : ℕ := 24 * 60 * 60 * 1000000

/-- A UTC offset in microseconds, strictly less than a day either way. -/
structure UtcOffset where
  microseconds : ℤ
  range : microseconds.natAbs < dayMicroseconds
deriving DecidableEq

/-- The offset zero. -/
def utc : UtcOffset := ⟨0, by decide⟩

/-- The seconds of a time and, if there are any, its microseconds. -/
def secondsFormat (second microsecond : ℕ) : String :=
  zeroPad 2 second ++ (if microsecond = 0 then "" else "." ++ zeroPad 6 microsecond)

/-- The offset at the end of an ISO time; its seconds are left out when they are zero. -/
def UtcOffset.isoformat (o : UtcOffset) : String :=
  let n := o.microseconds.natAbs
  let seconds := n % 60000000
  (if o.microseconds < 0 then "-" else "+") ++ zeroPad 2 (n / 3600000000) ++ ":" ++ zeroPad 2 (n / 60000000 % 60) ++
    (if seconds = 0 then "" else ":" ++ secondsFormat (seconds / 1000000) (seconds % 1000000))

/-- `datetime.datetime`; `utcoffset` is `none` for a naive time. -/
structure DateTime where
  date : Date
  hour : ℕ
  minute : ℕ
  second : ℕ
  microsecond : ℕ
  utcoffset : Option UtcOffset
  hour_range : hour < 24
  minute_range : minute < 60
  second_range : second < 60
  microsecond_range : microsecond < 1000000
deriving DecidableEq

namespace DateTime

/-- Whether the time has an offset. -/
def isAware (t : DateTime) : Bool := t.utcoffset.isSome

/-- `datetime.isoformat()`. -/
def isoformat (t : DateTime) : String :=
  t.date.isoformat ++ "T" ++ zeroPad 2 t.hour ++ ":" ++ zeroPad 2 t.minute ++ ":" ++
    secondsFormat t.second t.microsecond ++ (t.utcoffset.map UtcOffset.isoformat).getD ""

/-- The wall clock in microseconds. -/
def wall (t : DateTime) : ℤ :=
  (((t.date.toordinal * 24 + t.hour) * 60 + t.minute) * 60 + t.second) * 1000000 + t.microsecond

/-- What two times of one kind are compared by: the instant of an aware time, the wall clock of a naive one. -/
def position (t : DateTime) : ℤ := t.wall - (t.utcoffset.map UtcOffset.microseconds).getD 0

end DateTime

/-! ## Reading an ISO time back -/

theorem daysInMonth_le (year month : ℕ) : daysInMonth year month ≤ 31 := by
  have htable : ∀ i < 12, monthDays.getD i 0 ≤ 31 := by decide
  have hgetD : monthDays.getD (month - 1) 0 ≤ 31 := by
    by_cases h : month - 1 < 12
    · exact htable _ h
    · have hlen : monthDays.length ≤ month - 1 := not_lt.mp h
      simp [List.getD_eq_getElem?_getD, List.getElem?_eq_none hlen]
  unfold daysInMonth
  split
  · omega
  · exact hgetD

/-- The first character of what follows the seconds: nothing, or the sign of an offset. -/
def SignOrEnd (cs : List Char) : Prop := cs = [] ∨ ∃ rest, cs = '+' :: rest ∨ cs = '-' :: rest

/-- Seconds and microseconds can be read off a text that ends or goes on with a sign. -/
theorem secondsFormat_append_inj {a b m n : ℕ} {u v : List Char} (ha : a < 60) (hb : b < 60) (hm : m < 1000000)
    (hn : n < 1000000) (hu : SignOrEnd u) (hv : SignOrEnd v)
    (h : (secondsFormat a m).toList ++ u = (secondsFormat b n).toList ++ v) : a = b ∧ m = n ∧ u = v := by
  simp only [secondsFormat, String.toList_append, List.append_assoc] at h
  obtain ⟨hab, hrest⟩ := zeroPad_append_inj two_pos (by omega) (by omega) h
  refine ⟨hab, ?_⟩
  -- A point comes next when there are microseconds, and only then.
  have hpoint : ∀ {w w' : List Char} {k : ℕ}, SignOrEnd w → w ≠ ("." ++ zeroPad 6 k).toList ++ w' := by
    intro w w' k hw heq
    rw [String.toList_append] at heq
    rcases hw with rfl | ⟨rest, rfl | rfl⟩
    · cases heq
    · cases heq
    · cases heq
  by_cases hm0 : m = 0
  · by_cases hn0 : n = 0
    · rw [if_pos hm0, if_pos hn0] at hrest
      exact ⟨hm0.trans hn0.symm, hrest⟩
    · rw [if_pos hm0, if_neg hn0] at hrest
      exact absurd hrest (hpoint hu)
  · by_cases hn0 : n = 0
    · rw [if_neg hm0, if_pos hn0] at hrest
      exact absurd hrest.symm (hpoint hv)
    · rw [if_neg hm0, if_neg hn0, String.toList_append, String.toList_append, List.append_assoc, List.append_assoc,
        List.append_cancel_left_eq] at hrest
      exact zeroPad_append_inj (by omega) (by omega) (by omega) hrest

namespace UtcOffset

/-- The sign of an offset. -/
def sign (o : UtcOffset) : Char := if o.microseconds < 0 then '-' else '+'

/-- The seconds of an offset with their colon, if there are any. -/
def secondsPart (n : ℕ) : List Char :=
  if n % 60000000 = 0 then []
  else ':' :: (secondsFormat (n % 60000000 / 1000000) (n % 60000000 % 1000000)).toList

theorem toList_isoformat (o : UtcOffset) : o.isoformat.toList =
    o.sign :: ((zeroPad 2 (o.microseconds.natAbs / 3600000000)).toList ++
      (':' :: ((zeroPad 2 (o.microseconds.natAbs / 60000000 % 60)).toList ++
        secondsPart o.microseconds.natAbs))) := by
  have hsign : (if o.microseconds < 0 then "-" else "+").toList = [o.sign] := by
    unfold sign
    split <;> rfl
  have hseconds : (if o.microseconds.natAbs % 60000000 = 0 then "" else
      ":" ++ secondsFormat (o.microseconds.natAbs % 60000000 / 1000000)
        (o.microseconds.natAbs % 60000000 % 1000000)).toList = secondsPart o.microseconds.natAbs := by
    unfold secondsPart
    split
    · rfl
    · rw [String.toList_append]
      rfl
  have hcolon : ":".toList = [':'] := rfl
  simp only [isoformat, String.toList_append, hsign, hseconds, hcolon, List.append_assoc, List.cons_append,
    List.nil_append]

theorem signOrEnd (o : Option UtcOffset) : SignOrEnd ((o.map isoformat).getD "").toList := by
  cases o with
  | none => exact .inl rfl
  | some o =>
    have hsign : o.sign = '+' ∨ o.sign = '-' := by
      unfold sign
      split
      · exact .inr rfl
      · exact .inl rfl
    rw [Option.map_some, Option.getD_some, toList_isoformat]
    rcases hsign with h | h
    · exact .inr ⟨_, .inl (by rw [h])⟩
    · exact .inr ⟨_, .inr (by rw [h])⟩

theorem secondsPart_inj {m n : ℕ} (h : secondsPart m = secondsPart n) : m % 60000000 = n % 60000000 := by
  unfold secondsPart at h
  by_cases hm : m % 60000000 = 0
  · by_cases hn : n % 60000000 = 0
    · rw [hm, hn]
    · rw [if_pos hm, if_neg hn] at h
      cases h
  · by_cases hn : n % 60000000 = 0
    · rw [if_neg hm, if_pos hn] at h
      cases h
    · rw [if_neg hm, if_neg hn, List.cons.injEq] at h
      have hpart := congrArg (· ++ ([] : List Char)) h.2
      have hinj := secondsFormat_append_inj (by omega) (by omega) (by omega) (by omega) (.inl rfl) (.inl rfl) hpart
      omega

/-- The text of an offset determines it. -/
theorem isoformat_injective : Function.Injective isoformat := by
  rintro ⟨a, ha⟩ ⟨b, hb⟩ h
  have hlist := congrArg String.toList h
  rw [toList_isoformat, toList_isoformat, List.cons.injEq] at hlist
  obtain ⟨hsign, hlist⟩ := hlist
  have hday : dayMicroseconds = 86400000000 := rfl
  rw [hday] at ha hb
  obtain ⟨hhours, hlist⟩ := zeroPad_append_inj two_pos (by dsimp only; omega) (by dsimp only; omega) hlist
  rw [List.cons.injEq] at hlist
  obtain ⟨hminutes, hlist⟩ := zeroPad_append_inj two_pos (by dsimp only; omega) (by dsimp only; omega) hlist.2
  have hseconds := secondsPart_inj hlist
  dsimp only at hhours hminutes hseconds
  have habs : a.natAbs = b.natAbs := by omega
  have hneg : a < 0 ↔ b < 0 := by
    unfold sign at hsign
    dsimp only at hsign
    by_cases hna : a < 0 <;> by_cases hnb : b < 0 <;> simp [hna, hnb] at hsign ⊢
  congr
  omega

end UtcOffset

namespace DateTime

theorem toList_isoformat (t : DateTime) : t.isoformat.toList =
    (zeroPad 4 t.date.year).toList ++ ('-' :: ((zeroPad 2 t.date.month).toList ++
      ('-' :: ((zeroPad 2 t.date.day).toList ++ ('T' :: ((zeroPad 2 t.hour).toList ++
        (':' :: ((zeroPad 2 t.minute).toList ++ (':' :: ((secondsFormat t.second t.microsecond).toList ++
          ((t.utcoffset.map UtcOffset.isoformat).getD "").toList)))))))))) := by
  have hdash : "-".toList = ['-'] := rfl
  have hT : "T".toList = ['T'] := rfl
  have hcolon : ":".toList = [':'] := rfl
  simp only [isoformat, Date.isoformat, String.toList_append, hdash, hT, hcolon, List.append_assoc, List.cons_append,
    List.nil_append]

/-- **The ISO text of a time determines it.** -/
theorem isoformat_injective : Function.Injective isoformat := by
  rintro ⟨⟨y, mo, d, hy, hmo, hd⟩, ho, mi, se, us, off, hho, hmi, hse, hus⟩
    ⟨⟨y', mo', d', hy', hmo', hd'⟩, ho', mi', se', us', off', hho', hmi', hse', hus'⟩ h
  have hlist := congrArg String.toList h
  rw [toList_isoformat, toList_isoformat] at hlist
  dsimp only at hlist
  have hday := daysInMonth_le y mo
  have hday' := daysInMonth_le y' mo'
  obtain ⟨hyear, hmonths⟩ := zeroPad_append_inj four_pos (by omega) (by omega) hlist
  obtain ⟨hmonth, hdays⟩ := zeroPad_append_inj two_pos (by omega) (by omega) (List.cons.inj hmonths).2
  obtain ⟨hdate, htime⟩ := zeroPad_append_inj two_pos (by omega) (by omega) (List.cons.inj hdays).2
  obtain ⟨hhour, hminutes⟩ := zeroPad_append_inj two_pos (by omega) (by omega) (List.cons.inj htime).2
  obtain ⟨hminute, hseconds⟩ := zeroPad_append_inj two_pos (by omega) (by omega) (List.cons.inj hminutes).2
  obtain ⟨hsecond, hmicros, hoffset⟩ := secondsFormat_append_inj hse hse' hus hus' (UtcOffset.signOrEnd off)
    (UtcOffset.signOrEnd off') (List.cons.inj hseconds).2
  have hoff : off = off' := by
    cases off with
    | none =>
      cases off' with
      | none => rfl
      | some o' =>
        rw [Option.map_some, Option.getD_some, UtcOffset.toList_isoformat] at hoffset
        cases hoffset
    | some o =>
      cases off' with
      | none =>
        rw [Option.map_some, Option.getD_some, UtcOffset.toList_isoformat] at hoffset
        cases hoffset
      | some o' => exact congrArg some (UtcOffset.isoformat_injective (String.toList_injective hoffset))
  subst hyear hmonth hdate hhour hminute hsecond hmicros hoff
  rfl

end DateTime

end Py
