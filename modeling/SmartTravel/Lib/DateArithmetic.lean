import Mathlib.Tactic.IntervalCases
import SmartTravel.Lib.Calendar

/-!
# Adding minutes to a time

`Date.next` is the day after, which the last day of the year 9999 does not have. A sum of a time and minutes moves the
date by whole days and keeps the seconds and the offset; it is `none` where Python raises an `OverflowError`. It moves
the position of the time by exactly the minutes (`DateTime.position_addMinutes`), which comes down to one fact about the
calendar: the day after has the next ordinal (`Date.toordinal_next`).
-/

namespace Py

namespace Date

/-- The day after. -/
def next (d : Date) : Option Date :=
  if h : d.day + 1 ≤ daysInMonth d.year d.month then
    some ⟨d.year, d.month, d.day + 1, d.year_range, d.month_range, Nat.le_add_left 1 d.day, h⟩
  else if h : d.month + 1 ≤ 12 then
    some ⟨d.year, d.month + 1, 1, d.year_range, ⟨Nat.le_add_left 1 d.month, h⟩, le_rfl, by
      obtain ⟨hlow, -⟩ := d.month_range
      have hpos : ∀ m < 12, 1 ≤ monthDays.getD m 0 := by decide
      unfold daysInMonth
      split
      · decide
      · exact hpos d.month (by omega)⟩
  else if h : d.year + 1 ≤ 9999 then
    some ⟨d.year + 1, 1, 1, ⟨Nat.le_add_left 1 d.year, h⟩, by decide, by decide, by simp [daysInMonth, monthDays]⟩
  else none

/-- The date some days later. -/
def after (d : Date) : ℕ → Option Date
  | 0 => some d
  | k + 1 => d.next.bind (after · k)

/-- `date.max`. -/
def IsLast (d : Date) : Prop := d.year = 9999 ∧ d.month = 12 ∧ d.day = 31

theorem next_isSome {d : Date} (h : ¬ d.IsLast) : ∃ d', d.next = some d' := by
  unfold next
  split
  · exact ⟨_, rfl⟩
  · rename_i hday
    split
    · exact ⟨_, rfl⟩
    · rename_i hmonth
      split
      · exact ⟨_, rfl⟩
      · rename_i hyear
        obtain ⟨-, hy⟩ := d.year_range
        obtain ⟨-, hm⟩ := d.month_range
        obtain ⟨-, hd⟩ := d.day_range
        have hmonth : d.month = 12 := by omega
        rw [hmonth] at hday hd
        have hdays : daysInMonth d.year 12 = 31 := by simp [daysInMonth, monthDays]
        rw [hdays] at hday hd
        exact absurd ⟨by omega, hmonth, by omega⟩ h

/-- The days before a month, and those before the next one. -/
theorem beforeMonth_succ (year : ℕ) {month : ℕ} (hlow : 1 ≤ month) (hhigh : month < 12) :
    (monthDays.take month).sum + (if 2 < month + 1 && isLeap year then 1 else 0) =
      (monthDays.take (month - 1)).sum + (if 2 < month && isLeap year then 1 else 0) + daysInMonth year month := by
  interval_cases month <;> cases h : isLeap year <;> simp [daysInMonth, monthDays, h]

/-- The days of a year. -/
theorem yearDays (y : ℕ) : (y + 1) * 365 + (y + 1) / 4 - (y + 1) / 100 + (y + 1) / 400 =
    y * 365 + y / 4 - y / 100 + y / 400 + 365 + (if isLeap (y + 1) then 1 else 0) := by
  have hle : y / 100 ≤ y / 4 := Nat.div_le_div_left (by decide) (by decide)
  have hcentury : 100 ∣ y + 1 → 4 ∣ y + 1 := fun h => Nat.dvd_trans (by decide) h
  have hfour : 400 ∣ y + 1 → 100 ∣ y + 1 := fun h => Nat.dvd_trans (by decide) h
  have hleap : isLeap (y + 1) = (decide (4 ∣ y + 1) && (!decide (100 ∣ y + 1) || decide (400 ∣ y + 1))) := by
    simp only [isLeap, Nat.dvd_iff_mod_eq_zero, bne, beq_eq_decide]
  rw [hleap]
  simp only [Nat.succ_div]
  by_cases h4 : 4 ∣ y + 1
  · by_cases h100 : 100 ∣ y + 1
    · by_cases h400 : 400 ∣ y + 1
      · simp only [h4, h100, h400, if_true, decide_true, Bool.not_true, Bool.false_or, Bool.and_true]
        omega
      · simp only [h4, h100, h400, if_true, if_false, decide_true, decide_false, Bool.not_true, Bool.false_or,
          Bool.and_false, Bool.false_eq_true]
        omega
    · have h400 : ¬ 400 ∣ y + 1 := fun h => h100 (hfour h)
      simp only [h4, h100, h400, if_true, if_false, decide_true, decide_false, Bool.not_false, Bool.true_or,
        Bool.and_true]
      omega
  · have h100 : ¬ 100 ∣ y + 1 := fun h => h4 (hcentury h)
    have h400 : ¬ 400 ∣ y + 1 := fun h => h100 (hfour h)
    simp only [h4, h100, h400, if_false, decide_false, Bool.false_and, Bool.false_eq_true]
    omega

/-- **The day after** has the next ordinal. -/
theorem toordinal_next {d d' : Date} (h : d.next = some d') : d'.toordinal = d.toordinal + 1 := by
  unfold next at h
  split at h
  · cases h
    simp only [toordinal]
    omega
  · rename_i hday
    have hlast : d.day = daysInMonth d.year d.month := by
      obtain ⟨-, hd⟩ := d.day_range
      omega
    obtain ⟨hmlow, hmhigh⟩ := d.month_range
    split at h
    · rename_i hmonth
      cases h
      have hbefore := beforeMonth_succ d.year hmlow (by omega)
      simp only [toordinal, Nat.add_sub_cancel, hbefore, hlast]
      omega
    · rename_i hmonth
      split at h
      · cases h
        have hdec : d.month = 12 := by omega
        obtain ⟨hylow, -⟩ := d.year_range
        have hdays : d.day = 31 := by
          rw [hlast, hdec]
          simp [daysInMonth, monthDays]
        obtain ⟨y, hy⟩ : ∃ y, d.year = y + 1 := ⟨d.year - 1, by omega⟩
        have hyear := yearDays y
        have hbefore : (monthDays.take 11).sum = 334 := by decide
        simp only [toordinal, hdec, hdays, hy, Nat.add_sub_cancel, hyear, hbefore, Nat.sub_self, List.take_zero,
          List.sum_nil, Nat.reduceSub, Nat.reduceLT, decide_true, decide_false, Bool.true_and, Bool.false_and,
          Bool.false_eq_true, if_false]
        omega
      · cases h

theorem toordinal_after : ∀ {k : ℕ} {d d' : Date}, d.after k = some d' → d'.toordinal = d.toordinal + k
  | 0, d, d', h => by
    cases h
    rfl
  | k + 1, d, d', h => by
    obtain ⟨tomorrow, hnext, hafter⟩ := Option.bind_eq_some_iff.mp h
    rw [toordinal_after hafter, toordinal_next hnext]
    omega

end Date

namespace DateTime

theorem zero_lt_sixty : 0 < 60 := by decide

theorem zero_lt_million : 0 < 1000000 := by decide

/-- `datetime.combine(date, time(hour=hour, minute=minute), tzinfo)`; a time out of range is a `ValueError`. -/
def combine (date : Date) (hour minute : ℕ) (utcoffset : Option UtcOffset) : Option DateTime :=
  if h : hour < 24 ∧ minute < 60 then
    some ⟨date, hour, minute, 0, 0, utcoffset, h.1, h.2, zero_lt_sixty, zero_lt_million⟩
  else none

theorem combine_spec (date : Date) {hour minute : ℕ} (utcoffset : Option UtcOffset) (hhour : hour < 24)
    (hminute : minute < 60) : ∃ t, combine date hour minute utcoffset = some t ∧ t.date = date ∧
      (t.hour = hour ∧ t.minute = minute) ∧ t.utcoffset = utcoffset :=
  ⟨_, dif_pos ⟨hhour, hminute⟩, rfl, ⟨rfl, rfl⟩, rfl⟩

/-- `t + timedelta(minutes=n)`. -/
def addMinutes (t : DateTime) (n : ℕ) : Option DateTime :=
  let total := t.hour * 60 + t.minute + n
  (t.date.after (total / 1440)).map fun date =>
    { t with
      date := date
      hour := total % 1440 / 60
      minute := total % 60
      hour_range := by omega
      minute_range := by omega }

/-- **A sum** moves the time by its minutes and keeps the offset. -/
theorem position_addMinutes {t t' : DateTime} {n : ℕ} (h : t.addMinutes n = some t') :
    t'.position = t.position + n * 60000000 ∧ t'.utcoffset = t.utcoffset := by
  obtain ⟨date, hdate, rfl⟩ := Option.map_eq_some_iff.mp h
  refine ⟨?_, rfl⟩
  have hord := Date.toordinal_after hdate
  simp only [position, wall, hord]
  push_cast
  omega

/-- There is no overflow within a day, except on the last day. -/
theorem addMinutes_isSome {t : DateTime} {n : ℕ} (hlast : ¬ t.date.IsLast) (hn : n ≤ 1440) :
    ∃ t', t.addMinutes n = some t' := by
  have hhour := t.hour_range
  have hminute := t.minute_range
  have hafter : ∃ date, t.date.after ((t.hour * 60 + t.minute + n) / 1440) = some date := by
    rcases (by omega : (t.hour * 60 + t.minute + n) / 1440 = 0 ∨ (t.hour * 60 + t.minute + n) / 1440 = 1) with h | h
    · rw [h]
      exact ⟨_, rfl⟩
    · obtain ⟨tomorrow, hnext⟩ := Date.next_isSome hlast
      rw [h]
      refine ⟨tomorrow, ?_⟩
      simp only [Date.after, hnext, Option.bind_some]
  obtain ⟨date, hdate⟩ := hafter
  simp only [addMinutes, hdate, Option.map_some]
  exact ⟨_, rfl⟩

end DateTime

end Py
