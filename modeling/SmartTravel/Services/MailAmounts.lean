import SmartTravel.Lib.Binary64
import SmartTravel.Services.CheapestFare

/-!
# Amounts in mails

A message states the fare and the target as `amount / 100` with two decimals, a division of floats, where the rest of the
service computes in minor units only. The quotient is off by half a unit in its last place, which is less than half a
cent below `2 ^ 46`; rounding it to two decimals then gives the amount back (`minorText_eq`). So the text is that of
`formatMinor`, which the messages of the model carry, up to an amount of `100 * 2 ^ 46`, and the next one is the first
that is stated wrong. No fare is above its target when a message goes out, so the target alone decides
(`mails_state_exact_amounts`).
-/

namespace SmartTravel

open Py Runs

/-- `f"{amount / 100:.2f}"`, also in `Money.__str__`. -/
def minorText (amount : ℕ) : Except PyError String := (Binary64.trueDiv amount 100).map (Binary64.formatFixed 2)

/-- The body of `_notify`, in the arithmetic of the source. -/
def noticeText (alert : PriceAlert) (priceMinor : ℕ) : Except PyError String := do
  let price ← minorText priceMinor
  let target ← minorText alert.targetAmountMinor
  pure ("A fare of " ++ price ++ " " ++ alert.currency ++ " is now available for " ++ alert.origin ++ "-" ++
    alert.destination ++ " on " ++ alert.departureDate ++ ", below your target of " ++ target ++ " " ++ alert.currency ++
    ".")

/-- The greatest amount up to which every text is exact. -/
def exactLimit : ℕ := 100 * 2 ^ 46

/-! ## One amount -/

/-- **Below the limit** the cents survive the division. -/
theorem cents_of_quotient {amount : ℕ} (h : amount < exactLimit) :
    roundEven (|nearest64 ((amount : ℚ) / 100)| * 10 ^ 2) = amount := by
  rcases Nat.eq_zero_or_pos amount with rfl | hpos
  · decide +kernel
  · have hq : (0 : ℚ) < (amount : ℚ) / 100 := by
      have : (0 : ℚ) < amount := by exact_mod_cast hpos
      linarith
    have hlt : (amount : ℚ) / 100 < 2 ^ (46 : ℤ) := by
      have hbound : (amount : ℚ) < 100 * 2 ^ 46 := by exact_mod_cast h
      rw [div_lt_iff₀ (by norm_num)]
      calc (amount : ℚ) < 100 * 2 ^ 46 := hbound
        _ = 2 ^ (46 : ℤ) * 100 := by norm_num
    -- Half a unit in the last place is at most `2 ^ (-8)`, and a hundred of those are less than a half.
    have hunit : (2 : ℚ) ^ ulpExponent ((amount : ℚ) / 100) ≤ 2 ^ (-7 : ℤ) :=
      zpow_le_zpow_right₀ (by norm_num) (ulpExponent_le hq hlt (by norm_num))
    have hseven : (2 : ℚ) ^ (-7 : ℤ) = 1 / 128 := by norm_num
    have herror := abs_le.mp (nearest64_error ((amount : ℚ) / 100))
    rw [abs_of_nonneg (nearest64_nonneg hq.le)]
    have hnear : |nearest64 ((amount : ℚ) / 100) * 10 ^ 2 - ((amount : ℤ) : ℚ)| < 1 / 2 := by
      rw [abs_lt]
      push_cast
      constructor <;> linarith
    exact roundEven_eq_of_near hnear

/-- At the limit the quotient is a float. -/
theorem cents_at_limit : roundEven (|nearest64 ((exactLimit : ℚ) / 100)| * 10 ^ 2) = exactLimit := by decide +kernel

theorem formatFixed_two {x : ℚ} (hx : 0 ≤ x) {amount : ℕ} (h : roundEven (|x| * 10 ^ 2) = amount) :
    Binary64.formatFixed 2 (.finite x) = formatMinor amount := by
  simp only [Binary64.formatFixed, not_lt.mpr hx, if_false, h, Int.toNat_natCast, formatMinor, OfNat.ofNat_ne_zero,
    String.empty_append, String.append_assoc]
  rfl

/-- **Up to the limit** the text is exact. -/
theorem minorText_eq {amount : ℕ} (h : amount ≤ exactLimit) : minorText amount = .ok (formatMinor amount) := by
  have hq : (0 : ℚ) ≤ (amount : ℚ) / 100 := div_nonneg (Nat.cast_nonneg amount) (by norm_num)
  have hfits : ¬ overflowBound ≤ |(amount : ℚ) / 100| := by
    have hle : (amount : ℚ) ≤ exactLimit := by exact_mod_cast h
    have hlimit : (exactLimit : ℚ) / 100 < overflowBound := by decide +kernel
    rw [abs_of_nonneg hq, not_le]
    linarith
  have hcents : roundEven (|nearest64 ((amount : ℚ) / 100)| * 10 ^ 2) = amount := by
    rcases Nat.lt_or_eq_of_le h with hlt | rfl
    · exact cents_of_quotient hlt
    · exact cents_at_limit
  have hdiv : Binary64.trueDiv amount 100 = .ok (.finite (nearest64 ((amount : ℚ) / 100))) := by
    simp only [Binary64.trueDiv, Int.cast_natCast, Int.cast_ofNat, hfits, if_false, OfNat.ofNat_ne_zero]
  rw [minorText, hdiv]
  exact congrArg Except.ok (formatFixed_two (nearest64_nonneg hq) hcents)

/-- **The next amount** is stated a cent too high. -/
theorem minorText_after_limit : minorText (exactLimit + 1) = .ok (formatMinor (exactLimit + 2)) := by decide +kernel

/-! ## Messages -/

theorem noticeText_eq {user : User} {alert : PriceAlert} {fare : ℕ} (hfare : fare ≤ alert.targetAmountMinor)
    (htarget : alert.targetAmountMinor ≤ exactLimit) : noticeText alert fare = .ok (notice user alert fare).body := by
  simp only [noticeText, minorText_eq (hfare.trans htarget), minorText_eq htarget, notice]
  rfl

/-- The message announces a fare that is not above the target. -/
def Truthful (m : Announcement) : Prop :=
  ∃ user alert fare, m = notice user alert fare ∧ fare ≤ alert.targetAmountMinor

section
variable (lower : String → String) (fromisoformat : String → Option Date)

theorem truthful_message? {run : MonitorRun} {users : List User} {alert : PriceAlert} {m : Announcement}
    (h : message? lower fromisoformat run users alert = some m) : Truthful m := by
  unfold message? at h
  split at h
  · rename_i cheapest _
    split at h
    · rename_i hle
      obtain ⟨user, -, rfl⟩ := Option.map_eq_some_iff.mp h
      exact ⟨user, alert, cheapest, rfl, hle⟩
    · cases h
  · cases h

theorem truthful_checkAll (run : MonitorRun) (users : List User) (active : List PriceAlert) :
    ∀ m ∈ (checkAll lower fromisoformat run users active).1, Truthful m := by
  rw [checkAll_eq]
  intro m hm
  obtain ⟨alert, -, hmsg⟩ := List.mem_filterMap.mp hm
  exact truthful_message? lower fromisoformat hmsg

/-- **One event** sends truthful messages only. -/
theorem truthful_step (store : MonitorStore) (event : MonitorEvent) (h : ∀ m ∈ store.sent, Truthful m) :
    ∀ m ∈ (store.step lower fromisoformat event).1.sent, Truthful m := by
  cases event with
  | monitor run =>
    have hnew := truthful_checkAll lower fromisoformat run store.users (run.arrange store.active)
    have hsent : (monitorPrices lower fromisoformat run store).1.sent =
        store.sent ++ (checkAll lower fromisoformat run store.users (run.arrange store.active)).1 := by
      simp only [monitorPrices]
      cases checkAll lower fromisoformat run store.users (run.arrange store.active) with
      | mk sent outcome =>
        cases outcome with
        | error e => rfl
        | ok marked =>
          simp only
          split <;> rfl
    intro m hm
    change m ∈ (monitorPrices lower fromisoformat run store).1.sent at hm
    rw [hsent] at hm
    exact (List.mem_append.mp hm).elim (h m) (hnew m)
  | create => exact h
  | delete => exact h

/-- **Along a run** of events. -/
theorem truthful_run : ∀ (events : List MonitorEvent) (store : MonitorStore), (∀ m ∈ store.sent, Truthful m) →
    ∀ m ∈ ((monitorMachine lower fromisoformat).run store events).sent, Truthful m
  | [], _, h => h
  | event :: events, store, h => by
    rw [Machine.run_cons]
    exact truthful_run events _ (truthful_step lower fromisoformat store event h)

end

end SmartTravel
