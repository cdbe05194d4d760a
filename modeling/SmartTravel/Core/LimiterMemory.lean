import Mathlib.Tactic.Linarith
import SmartTravel.Core.RateLimit

/-!
# The memory of the in-memory rate limiter

An identity is forgotten by a sweep only, which runs at most once per window and on somebody else's call. So a key can
outlive its hits, but not by much: `Tracks` relates every key to a call after the last sweep, or inside the window
before it, and after a call the last sweep is less than a window old. Hence whoever is tracked has called in the last
two windows (`tracked_bounded`), also where the limit admits nobody.
-/

namespace SmartTravel

open Py Runs

namespace InMemoryRateLimiter

/-- The hits of an identity, as a run leaves them: in order, no more than the limit, and allowed. -/
structure Kept (limit : ℤ) (h : History) (id : String) (hits : List ℚ) : Prop where
  sorted : hits.Pairwise (· ≤ ·)
  short : (hits.length : ℤ) ≤ max limit 0
  allowed : ∀ ts ∈ hits, ts ∈ allowedTimes id h

/-- The state is bounded by the calls of the last two windows before `now`. -/
structure RecentTraffic (limit window : ℤ) (h : History) (now : ℚ) (l : InMemoryRateLimiter) : Prop where
  called : ∀ id hits, l.hits.get? id = some hits → ∃ e ∈ h, e.1.identity = id ∧ now - 2 * window < e.1.now
  kept : ∀ id hits, l.hits.get? id = some hits → Kept limit h id hits

/-- The invariant of a run up to time `t`: the last sweep is in the past, and every key has a call that it did not
forget. -/
structure Tracks (limit window : ℤ) (h : History) (t : ℚ) (l : InMemoryRateLimiter) : Prop where
  limit_eq : l.limit = limit
  window_eq : l.window = window
  swept : l.lastSweep ≤ t
  called : ∀ id hits, l.hits.get? id = some hits → ∃ e ∈ h, e.1.identity = id ∧ l.lastSweep - window < e.1.now
  kept : ∀ id hits, l.hits.get? id = some hits → Kept limit h id hits

variable {limit window : ℤ} {now t : ℚ} {h : History} {l : InMemoryRateLimiter} {id : String} {hits : List ℚ}

theorem exists_call_of_allowedTimes {ts : ℚ} (hts : ts ∈ allowedTimes id h) :
    ∃ e ∈ h, e.1.identity = id ∧ e.1.now = ts := by
  obtain ⟨c, hc, rfl⟩ := List.mem_map.mp hts
  obtain ⟨e, he, rfl⟩ := List.mem_map.mp hc
  obtain ⟨hmem, hallowed⟩ := List.mem_filter.mp he
  exact ⟨e, hmem, of_decide_eq_true (Bool.and_eq_true_iff.mp hallowed).1, rfl⟩

/-! ## The hits of one identity -/

/-- One more call takes nothing away. -/
theorem Kept.snoc (hk : Kept limit h id hits) (e : Call × (Bool × ℤ)) : Kept limit (h ++ [e]) id hits := by
  refine ⟨hk.sorted, hk.short, fun ts hts => ?_⟩
  rw [allowedTimes_snoc]
  exact List.mem_append_left _ (hk.allowed ts hts)

/-- Pruned hits are fewer. -/
theorem Kept.filter (hk : Kept limit h id hits) (p : ℚ → Bool) : Kept limit h id (hits.filter p) := by
  refine ⟨hk.sorted.filter p, ?_, fun ts hts => hk.allowed ts (List.mem_of_mem_filter hts)⟩
  have hle : (hits.filter p).length ≤ hits.length := List.length_filter_le p hits
  have := hk.short
  omega

theorem Kept.nil : Kept limit h id [] := ⟨List.Pairwise.nil, le_max_right _ _, fun _ hts => absurd hts List.not_mem_nil⟩

/-- An allowed call is recorded behind hits that are not later, where there is room. -/
theorem Kept.record (hk : Kept limit h id hits) (hroom : (hits.length : ℤ) < limit) (hpast : ∀ e ∈ h, e.1.now ≤ now)
    (remaining : ℤ) : Kept limit (h ++ [(⟨id, now⟩, (true, remaining))]) id (hits ++ [now]) := by
  constructor
  case sorted =>
    refine List.pairwise_append.mpr ⟨hk.sorted, List.pairwise_singleton _ _, fun ts hts ts' hts' => ?_⟩
    obtain ⟨e, he, -, rfl⟩ := exists_call_of_allowedTimes (hk.allowed ts hts)
    rw [List.mem_singleton.mp hts']
    exact hpast e he
  case short =>
    rw [List.length_append, List.length_singleton]
    push_cast
    omega
  case allowed =>
    intro ts hts
    rw [allowedTimes_snoc, if_pos ⟨rfl, rfl⟩]
    exact (List.mem_append.mp hts).elim (fun hold => List.mem_append_left _ (hk.allowed ts hold))
      (List.mem_append_right _)

/-! ## One call -/

theorem Tracks.init (limit window : ℤ) {clock : ℚ} (hstart : clock ≤ t) :
    Tracks limit window [] t (new limit window clock) := by
  refine ⟨rfl, rfl, hstart, ?_, ?_⟩ <;> exact fun id hits hget => absurd hget (by simp [new])

theorem Tracks.mono (ht : Tracks limit window h t l) (hle : t ≤ now) : Tracks limit window h now l :=
  ⟨ht.limit_eq, ht.window_eq, ht.swept.trans hle, ht.called, ht.kept⟩

/-- A sweep keeps the invariant, and after it the last sweep is less than a window old. -/
theorem Tracks.sweep (ht : Tracks limit window h now l) (hwindow : 0 < window) :
    Tracks limit window h now (l.sweep now (now - window)) ∧
      now - (l.sweep now (now - window)).lastSweep < window := by
  have hpos : (0 : ℚ) < window := Int.cast_pos.mpr hwindow
  unfold InMemoryRateLimiter.sweep
  split
  · rename_i hrecent
    rw [ht.window_eq] at hrecent
    exact ⟨ht, hrecent⟩
  · have hkeep : ∀ id hits, (l.hits.keep fun _ hits => hits.any fun ts => decide (now - window < ts)).get? id =
        some hits → l.hits.get? id = some hits ∧ ∃ ts ∈ hits, now - window < ts := by
      intro id hits hget
      rw [Dict.get?_keep, Option.filter_eq_some_iff, List.any_eq_true] at hget
      obtain ⟨hget, ts, hts, hrecent⟩ := hget
      exact ⟨hget, ts, hts, of_decide_eq_true hrecent⟩
    refine ⟨⟨ht.limit_eq, ht.window_eq, le_refl now, fun id hits hget => ?_, fun id hits hget => ?_⟩, ?_⟩
    · obtain ⟨hold, ts, hts, hrecent⟩ := hkeep id hits hget
      obtain ⟨e, he, hid, rfl⟩ := exists_call_of_allowedTimes ((ht.kept id hits hold).allowed ts hts)
      exact ⟨e, he, hid, hrecent⟩
    · exact ht.kept id hits (hkeep id hits hget).1
    · simpa using hpos

/-- New hits of the caller keep the invariant, when they are what a run leaves. -/
theorem Tracks.set (ht : Tracks limit window h now l) (hwindow : 0 < window) (c : Call) (hnow : c.now = now)
    (answer : Bool × ℤ) (hk : Kept limit (h ++ [(c, answer)]) c.identity hits) :
    Tracks limit window (h ++ [(c, answer)]) now { l with hits := l.hits.set c.identity hits } := by
  have hpos : (0 : ℚ) < window := Int.cast_pos.mpr hwindow
  refine ⟨ht.limit_eq, ht.window_eq, ht.swept, fun id hits' hget => ?_, fun id hits' hget => ?_⟩
  all_goals
    dsimp only at hget
    rw [Dict.get?_set] at hget
    split at hget
  · rename_i hid
    refine ⟨(c, answer), List.mem_append_right h (List.mem_singleton_self _), hid.symm, ?_⟩
    have := ht.swept
    rw [hnow]
    dsimp only
    linarith
  · obtain ⟨e, he, hcall⟩ := ht.called id hits' hget
    exact ⟨e, List.mem_append_left _ he, hcall⟩
  · rename_i hid
    obtain rfl := Option.some.inj hget
    rw [hid]
    exact hk
  · exact (ht.kept id hits' hget).snoc _

/-- A call keeps the invariant, and after it the last sweep is less than a window old. -/
theorem Tracks.check {c : Call} (ht : Tracks limit window h c.now l) (hwindow : 0 < window)
    (hpast : ∀ e ∈ h, e.1.now ≤ c.now) :
    Tracks limit window (h ++ [(c, (machine.step l c).2)]) c.now (machine.step l c).1 ∧
      c.now - (machine.step l c).1.lastSweep < window := by
  obtain ⟨hswept, hlast⟩ := ht.sweep hwindow
  have hstored : Kept limit h c.identity (((l.sweep c.now (c.now - window)).hits.get? c.identity).getD []) := by
    cases hget : (l.sweep c.now (c.now - window)).hits.get? c.identity with
    | none => exact Kept.nil
    | some hits => exact hswept.kept c.identity hits hget
  have hrecent := hstored.filter fun ts => decide (c.now - window < ts)
  simp only [machine, InMemoryRateLimiter.check, ht.window_eq, count]
  split
  · exact ⟨hswept.set hwindow c rfl _ (hrecent.snoc _), hlast⟩
  · rename_i hroom
    rw [ge_iff_le, not_le, hswept.limit_eq] at hroom
    exact ⟨hswept.set hwindow c rfl _ (hrecent.record hroom hpast _), hlast⟩

/-! ## Runs -/

/-- **The run invariant**: once every call is in the past, each key has a call that the last sweep did not forget. -/
theorem run_tracks (limit : ℤ) (hwindow : 0 < window) {clock : ℚ} {calls : List Call}
    (hclock : NonDecreasing Call.now calls) (hstart : ∀ c ∈ calls, clock ≤ c.now) :
    ∀ t, clock ≤ t → (∀ e ∈ machine.log (new limit window clock) calls, e.1.now ≤ t) →
      Tracks limit window (machine.log (new limit window clock) calls) t
        (machine.run (new limit window clock) calls) := by
  refine machine.run_rule (fun calls => NonDecreasing Call.now calls ∧ ∀ c ∈ calls, clock ≤ c.now)
    (fun h l => ∀ t, clock ≤ t → (∀ e ∈ h, e.1.now ≤ t) → Tracks limit window h t l) ?_
    (fun t ht _ => Tracks.init limit window ht) ?_ calls ⟨hclock, hstart⟩
  · rintro cs c ⟨hclock, hstart⟩
    exact ⟨hclock.init, fun c' hc' => hstart c' (List.mem_append_left _ hc')⟩
  · rintro cs c ⟨hclock, hstart⟩ ih t _ hlate
    have hpast := hclock.log_le machine (s := new limit window clock)
    have hnow := hstart c (List.mem_append_right _ (List.mem_singleton_self c))
    have hcheck := (ih c.now hnow hpast).check hwindow hpast
    exact hcheck.1.mono (hlate _ (List.mem_append_right _ (List.mem_singleton_self _)))

/-- **The memory is bounded by recent traffic**: after every call, whoever is tracked has called in the last two
windows, and their hits are allowed calls of theirs, in order and no more than the limit. -/
theorem tracked_bounded (limit window : ℤ) (clock : ℚ) (calls : List Call) (hwindow : 0 < window)
    (hclock : NonDecreasing Call.now calls) (hstart : ∀ c ∈ calls, clock ≤ c.now) :
    ∀ pre c post, calls = pre ++ c :: post →
      RecentTraffic limit window (machine.log (new limit window clock) (pre ++ [c])) c.now
        (machine.run (new limit window clock) (pre ++ [c])) := by
  rintro pre c post rfl
  have hprefix : (pre ++ [c]).Sublist (pre ++ c :: post) :=
    List.Sublist.append_left (List.singleton_sublist.mpr List.mem_cons_self) pre
  have hsorted : NonDecreasing Call.now (pre ++ [c]) := hclock.sublist hprefix
  have hbefore := run_tracks limit hwindow hsorted.init fun c' hc' => hstart c' (List.mem_append_left _ hc')
  have hpast := hsorted.log_le machine (s := new limit window clock)
  have hnow := hstart c (List.mem_append_right _ List.mem_cons_self)
  obtain ⟨htracks, hrecent⟩ := (hbefore c.now hnow hpast).check hwindow hpast
  rw [machine.log_snoc, machine.run_snoc]
  refine ⟨fun id hits hget => ?_, htracks.kept⟩
  obtain ⟨e, he, hid, hcalled⟩ := htracks.called id hits hget
  exact ⟨e, he, hid, by linarith⟩

/-- A limit that admits nobody: `a` is tracked without a hit until the call of `b` sweeps. -/
theorem refused_caller_forgotten :
    RecentTraffic 0 60 (machine.log (new 0 60 0) ([⟨"a", 59⟩, ⟨"b", 119⟩] ++ [⟨"b", 179⟩])) 179
      (machine.run (new 0 60 0) ([⟨"a", 59⟩, ⟨"b", 119⟩] ++ [⟨"b", 179⟩])) ∧
    (machine.run (new 0 60 0) [⟨"a", 59⟩, ⟨"a", 118⟩]).hits.items = [("a", [])] ∧
    (machine.run (new 0 60 0) [⟨"a", 59⟩, ⟨"b", 119⟩]).hits.items = [("b", [])] := by
  have hclock : NonDecreasing Call.now [⟨"a", 59⟩, ⟨"b", 119⟩, ⟨"b", 179⟩] := by decide +kernel
  have hstart : ∀ c ∈ [(⟨"a", 59⟩ : Call), ⟨"b", 119⟩, ⟨"b", 179⟩], 0 ≤ c.now := by decide +kernel
  exact ⟨tracked_bounded 0 60 0 _ (by decide) hclock hstart [⟨"a", 59⟩, ⟨"b", 119⟩] ⟨"b", 179⟩ [] rfl,
    by decide +kernel, by decide +kernel⟩

end InMemoryRateLimiter

end SmartTravel
