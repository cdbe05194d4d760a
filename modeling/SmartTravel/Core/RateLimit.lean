import Mathlib.Algebra.Order.Ring.Rat
import Mathlib.Data.Rat.Cast.Order
import SmartTravel.Lib.Dict
import SmartTravel.Lib.Runs
import SmartTravel.Lib.SlidingWindow

/-!
# The in-memory rate limiter

`InMemoryRateLimiter` keeps, for each identity, the times of its allowed calls that were inside the window at its last
call, and drops whole identities in a sweep that somebody else's call may trigger. Nothing is awaited while the lock is
held, so a call of `check` is one step; its clock reading `now` is a rational number of seconds.

The stored times are only a remnant of the history. `Represents` says in which sense they are enough: from some time on,
they show the same windows as the allowed calls of the whole run. A sweep keeps it (`sweep_represents`), an admission
moves it by one call (`count_history`), hence every answer is read off the history (`check_refines_history`).
-/

namespace SmartTravel

open Py Runs SlidingWindow

/-- `InMemoryRateLimiter`: the limit, the window in seconds, the hits of each identity, the time of the last sweep. -/
structure InMemoryRateLimiter where
  limit : ℤ
  window : ℤ
  hits : Dict String (List ℚ)
  lastSweep : ℚ

namespace InMemoryRateLimiter

/-- `__init__`, with the first reading of the clock. -/
def new (limit window : ℤ) (clock : ℚ) : InMemoryRateLimiter := ⟨limit, window, Dict.empty, clock⟩

/-- `_sweep`: at most once per window, forget the identities with no hit after the cutoff. -/
def sweep (l : InMemoryRateLimiter) (now cutoff : ℚ) : InMemoryRateLimiter :=
  if now - l.lastSweep < l.window then l
  else { l with
    lastSweep := now
    hits := l.hits.keep (fun _ hits => hits.any (fun ts => decide (cutoff < ts))) }

/-- The part of `check` after the sweep: prune the identity's own hits, then refuse or record. -/
def count (l : InMemoryRateLimiter) (identity : String) (now cutoff : ℚ) : InMemoryRateLimiter × (Bool × ℤ) :=
  let recent := ((l.hits.get? identity).getD []).filter (fun ts => decide (cutoff < ts))
  if (recent.length : ℤ) ≥ l.limit then ({ l with hits := l.hits.set identity recent }, (false, 0))
  else
    let recent := recent ++ [now]
    ({ l with hits := l.hits.set identity recent }, (true, l.limit - recent.length))

/-- `check(identity)` at the clock reading `now`: the new state and `(allowed, remaining)`. -/
def check (l : InMemoryRateLimiter) (identity : String) (now : ℚ) : InMemoryRateLimiter × (Bool × ℤ) :=
  let cutoff := now - l.window
  (l.sweep now cutoff).count identity now cutoff

/-- `check` without its sweep, to compare with. -/
def checkUnswept (l : InMemoryRateLimiter) (identity : String) (now : ℚ) : InMemoryRateLimiter × (Bool × ℤ) :=
  l.count identity now (now - l.window)

/-- One call of `check`: who calls, and the clock reading. -/
structure Call where
  identity : String
  now : ℚ
  deriving DecidableEq

/-- The limiter as a machine that answers calls. -/
def machine : Machine InMemoryRateLimiter Call (Bool × ℤ) := ⟨fun l c => l.check c.identity c.now⟩

/-- The limiter that never sweeps. -/
def unswept : Machine InMemoryRateLimiter Call (Bool × ℤ) := ⟨fun l c => l.checkUnswept c.identity c.now⟩

/-! ## The history specification -/

/-- What a run leaves behind: its calls with their answers. -/
abbrev History := List (Call × (Bool × ℤ))

/-- The calls of `id` that were allowed. -/
def allowedCalls (id : String) (h : History) : List Call :=
  (h.filter (fun e => decide (e.1.identity = id) && e.2.1)).map Prod.fst

/-- The times of the allowed calls of `id`. -/
def allowedTimes (id : String) (h : History) : List ℚ := (allowedCalls id h).map Call.now

/-- **The plain history specification**: with `k` earlier allowed calls of the same identity after `now - W`, allow iff
`k < limit`, and then `limit - k - 1` remain. -/
def historyAnswer (limit window : ℤ) (h : History) (c : Call) : Bool × ℤ :=
  let k : ℤ := (recent (window : ℚ) c.now (allowedTimes c.identity h)).length
  if k < limit then (true, limit - k - 1) else (false, 0)

theorem allowedCalls_snoc (id : String) (h : History) (c : Call) (a : Bool × ℤ) :
    allowedCalls id (h ++ [(c, a)]) = allowedCalls id h ++ (if c.identity = id ∧ a.1 = true then [c] else []) := by
  unfold allowedCalls
  rw [List.filter_append, List.map_append]
  by_cases hc : c.identity = id ∧ a.1 = true
  · simp [hc]
  · have hf : (decide (c.identity = id) && a.1) = false := by simpa using hc
    simp [hf, hc]

theorem allowedTimes_snoc (id : String) (h : History) (c : Call) (a : Bool × ℤ) :
    allowedTimes id (h ++ [(c, a)]) = allowedTimes id h ++ (if c.identity = id ∧ a.1 = true then [c.now] else []) := by
  unfold allowedTimes
  rw [allowedCalls_snoc, List.map_append]
  split <;> rfl

/-- The specification reads nothing of the history but the allowed times of the caller. -/
theorem historyAnswer_congr (limit window : ℤ) {h h' : History} {c : Call}
    (he : allowedTimes c.identity h = allowedTimes c.identity h') :
    historyAnswer limit window h c = historyAnswer limit window h' c := by
  unfold historyAnswer; rw [he]

theorem historyAnswer_allowed_iff (limit window : ℤ) (h : History) (c : Call) :
    (historyAnswer limit window h c).1 = true ↔
      ((recent (window : ℚ) c.now (allowedTimes c.identity h)).length : ℤ) < limit := by
  simp only [historyAnswer]
  split <;> simp_all

/-! ## What the stored hits show -/

/-- The hits stored for `id`; an unknown identity has none. -/
def stored (l : InMemoryRateLimiter) (id : String) : List ℚ := (l.hits.get? id).getD []

/-- From time `t` on, the stored hits show the windows of the times `A`. -/
structure Represents (limit window : ℤ) (A : String → List ℚ) (t : ℚ) (l : InMemoryRateLimiter) : Prop where
  limit_eq : l.limit = limit
  window_eq : l.window = window
  recent_eq : ∀ id now, t ≤ now → recent (window : ℚ) now (l.stored id) = recent (window : ℚ) now (A id)

variable {limit window : ℤ} {A : String → List ℚ} {t now : ℚ} {l : InMemoryRateLimiter}

theorem new_represents (limit window : ℤ) (clock t : ℚ) :
    Represents limit window (fun _ => []) t (new limit window clock) :=
  ⟨rfl, rfl, fun _ _ _ => rfl⟩

theorem Represents.mono (h : Represents limit window A t l) (ht : t ≤ now) : Represents limit window A now l :=
  ⟨h.limit_eq, h.window_eq, fun id now' hn => h.recent_eq id now' (ht.trans hn)⟩

/-- An identity the sweep forgets has no hit in this window, so it has none in any later one. -/
theorem recent_sweep (l : InMemoryRateLimiter) {now now' : ℚ} (h : now ≤ now') (id : String) :
    recent (l.window : ℚ) now' ((l.sweep now (now - l.window)).stored id) =
      recent (l.window : ℚ) now' (l.stored id) := by
  unfold sweep
  split
  · rfl
  · simp only [stored, Dict.get?_keep]
    cases hg : l.hits.get? id with
    | none => rfl
    | some hits =>
      by_cases hany : hits.any (fun ts => decide (now - l.window < ts)) = true
      · simp [Option.filter, hany]
      · have hnil : recent (l.window : ℚ) now hits = [] := by
          rw [recent_eq_nil_iff]
          simpa using hany
        simp [Option.filter, hany, recent_nil_mono h hnil]

theorem sweep_represents (h : Represents limit window A now l) :
    Represents limit window A now (l.sweep now (now - l.window)) := by
  have hfields : (l.sweep now (now - l.window)).limit = l.limit ∧ (l.sweep now (now - l.window)).window = l.window := by
    unfold sweep; split <;> exact ⟨rfl, rfl⟩
  refine ⟨hfields.1.trans h.limit_eq, hfields.2.trans h.window_eq, fun id now' hn => ?_⟩
  have hs := recent_sweep l hn id
  rw [h.window_eq] at hs
  rw [h.window_eq, hs, h.recent_eq id now' hn]

/-- The answer of `count` and what it stores, in terms of the times it represents. -/
theorem count_eq (h : Represents limit window A now l) (id : String) :
    let k := recent (window : ℚ) now (A id)
    l.count id now (now - window) =
      if (k.length : ℤ) < limit then ({ l with hits := l.hits.set id (k ++ [now]) }, (true, limit - k.length - 1))
      else ({ l with hits := l.hits.set id k }, (false, 0)) := by
  have hk := h.recent_eq id now le_rfl
  unfold recent stored at hk
  simp only [count, hk, recent, h.limit_eq, ge_iff_le, List.length_append, List.length_singleton]
  by_cases hlt : ((List.filter (fun t => decide (now - (window : ℚ) < t)) (A id)).length : ℤ) < limit
  · rw [if_neg (not_le.mpr hlt), if_pos hlt]
    simp [sub_sub]
  · rw [if_pos (not_lt.mp hlt), if_neg hlt]

/-- Storing pruned hits, or pruned hits and a new one, shows the same windows as the unpruned times. -/
theorem set_represents (h : Represents limit window A now l) (id : String) (new : List ℚ) :
    Represents limit window (fun id' => A id' ++ (if id' = id then new else [])) now
      { l with hits := l.hits.set id (recent (window : ℚ) now (A id) ++ new) } := by
  refine ⟨h.limit_eq, h.window_eq, fun id' now' hn => ?_⟩
  simp only [stored, Dict.get?_set]
  by_cases hid : id' = id
  · subst hid
    simp only [if_true, Option.getD_some, recent_append, recent_recent hn]
  · simp only [hid, if_false, List.append_nil]
    exact h.recent_eq id' now' hn

/-- One admission answers as the history says and represents the history with this call added. -/
theorem count_history {h : History} {c : Call}
    (hr : Represents limit window (fun id => allowedTimes id h) c.now l) :
    (l.count c.identity c.now (c.now - window)).2 = historyAnswer limit window h c ∧
      Represents limit window (fun id => allowedTimes id (h ++ [(c, historyAnswer limit window h c)])) c.now
        (l.count c.identity c.now (c.now - window)).1 := by
  simp only [count_eq hr c.identity, allowedTimes_snoc]
  by_cases hlt : ((recent (window : ℚ) c.now (allowedTimes c.identity h)).length : ℤ) < limit
  · have hs := set_represents hr c.identity [c.now]
    simp only [historyAnswer, if_pos hlt, and_true, true_and, eq_comm (a := c.identity)] at hs ⊢
    exact hs
  · have hs := set_represents hr c.identity []
    simpa only [historyAnswer, if_neg hlt, true_and, Bool.false_eq_true, and_false, if_false, ite_self,
      List.append_nil] using hs

/-! ## Runs -/

section Runs

variable (limit window) (clock : ℚ) {m : Machine InMemoryRateLimiter Call (Bool × ℤ)}

/-- What `check` and `checkUnswept` share: they count from a state that shows the same windows. -/
def Counts (m : Machine InMemoryRateLimiter Call (Bool × ℤ)) : Prop :=
  ∀ limit window A l (c : Call), Represents limit window A c.now l →
    ∃ l', Represents limit window A c.now l' ∧ m.step l c = l'.count c.identity c.now (c.now - window)

theorem machine_counts : Counts machine := by
  intro limit window A l c h
  exact ⟨_, sweep_represents h, by simp only [machine, check, h.window_eq]⟩

theorem unswept_counts : Counts unswept := by
  intro limit window A l c h
  exact ⟨l, h, by simp only [unswept, checkUnswept, h.window_eq]⟩

/-- **The run invariant**: once every call is in the past, the hits represent the history. -/
theorem run_represents (hm : Counts m) {calls : List Call} (hclock : NonDecreasing Call.now calls) :
    ∀ t, (∀ e ∈ m.log (new limit window clock) calls, e.1.now ≤ t) →
      Represents limit window (fun id => allowedTimes id (m.log (new limit window clock) calls)) t
        (m.run (new limit window clock) calls) := by
  refine m.run_rule (NonDecreasing Call.now)
    (fun h l => ∀ t, (∀ e ∈ h, e.1.now ≤ t) → Represents limit window (fun id => allowedTimes id h) t l)
    (fun _ _ h => h.init) (fun t _ => new_represents limit window clock t) ?_ calls hclock
  intro cs c hcs ih t ht
  have hct : c.now ≤ t := ht _ (List.mem_append_right _ (List.mem_singleton_self _))
  obtain ⟨l', hl', hstep⟩ := hm _ _ _ _ c (ih c.now (hcs.log_le m))
  obtain ⟨hans, hrep⟩ := count_history hl'
  rw [hstep, hans]
  exact hrep.mono hct

/-- Every answer of a run is the answer of the history before it. -/
theorem step_answer (hm : Counts m) {pre : List Call} {c : Call} (hclock : NonDecreasing Call.now (pre ++ [c])) :
    (m.step (m.run (new limit window clock) pre) c).2 =
      historyAnswer limit window (m.log (new limit window clock) pre) c := by
  obtain ⟨l', hl', hstep⟩ := hm _ _ _ _ c (run_represents limit window clock hm hclock.init c.now (hclock.log_le m))
  rw [hstep]
  exact (count_history hl').1

/-- Runs of machines that count alike have the same log. -/
theorem log_eq {m' : Machine InMemoryRateLimiter Call (Bool × ℤ)} (hm : Counts m) (hm' : Counts m')
    {calls : List Call} (hclock : NonDecreasing Call.now calls) :
    m.log (new limit window clock) calls = m'.log (new limit window clock) calls := by
  induction calls using List.reverseRecOn with
  | nil => rfl
  | append_singleton cs c ih =>
    rw [m.log_snoc, m'.log_snoc, step_answer limit window clock hm hclock, step_answer limit window clock hm' hclock,
      ih hclock.init]

/-- The allowed calls of one identity, followed by the next call of the run, are still in clock order. -/
theorem replay_snoc (id : String) {cs : List Call} {c : Call} (hclock : NonDecreasing Call.now (cs ++ [c]))
    (h : NonDecreasing Call.now (allowedCalls id (machine.log (new limit window clock) cs))) :
    NonDecreasing Call.now (allowedCalls id (machine.log (new limit window clock) cs) ++ [c]) := by
  refine List.pairwise_append.mpr ⟨h, List.pairwise_singleton _ _, fun a ha b hb => ?_⟩
  rw [List.mem_singleton] at hb
  obtain ⟨e, he, rfl⟩ := List.mem_map.mp ha
  rw [hb]
  exact hclock.log_le machine e (List.mem_of_mem_filter he)

/-- Replaying only the allowed calls of one identity, all of them are allowed again. -/
theorem allowedTimes_replay (id : String) {calls : List Call} (hclock : NonDecreasing Call.now calls) :
    NonDecreasing Call.now (allowedCalls id (machine.log (new limit window clock) calls)) ∧
      allowedTimes id (machine.log (new limit window clock)
        (allowedCalls id (machine.log (new limit window clock) calls))) =
      allowedTimes id (machine.log (new limit window clock) calls) := by
  induction calls using List.reverseRecOn with
  | nil => exact ⟨List.Pairwise.nil, rfl⟩
  | append_singleton cs c ih =>
    obtain ⟨ihclock, ihtimes⟩ := ih hclock.init
    have hans := step_answer limit window clock machine_counts hclock
    rw [machine.log_snoc, hans, allowedCalls_snoc, allowedTimes_snoc]
    by_cases hc : c.identity = id ∧ (historyAnswer limit window (machine.log (new limit window clock) cs) c).1 = true
    · rw [if_pos hc, if_pos hc]
      -- The replayed call meets the same allowed times as in the full run, so it gets the same answer.
      have hmono := replay_snoc limit window clock id hclock ihclock
      have hsame := step_answer limit window clock machine_counts hmono
      have htimes : allowedTimes c.identity (machine.log (new limit window clock)
          (allowedCalls id (machine.log (new limit window clock) cs))) =
          allowedTimes c.identity (machine.log (new limit window clock) cs) := by rw [hc.1]; exact ihtimes
      rw [historyAnswer_congr limit window htimes] at hsame
      refine ⟨hmono, ?_⟩
      rw [machine.log_snoc, hsame, allowedTimes_snoc, if_pos hc, ihtimes]
    · rw [if_neg hc, if_neg hc, List.append_nil, List.append_nil]
      exact ⟨ihclock, ihtimes⟩

/-- The allowed times of a run are limited in the sense of the sliding window. -/
theorem allowedTimes_limited (id : String) {calls : List Call} (hclock : NonDecreasing Call.now calls) :
    Limited (window : ℚ) limit (allowedTimes id (machine.log (new limit window clock) calls)) := by
  induction calls using List.reverseRecOn with
  | nil => exact Limited.nil
  | append_singleton cs c ih =>
    rw [machine.log_snoc, step_answer limit window clock machine_counts hclock, allowedTimes_snoc]
    by_cases hc : c.identity = id ∧ (historyAnswer limit window (machine.log (new limit window clock) cs) c).1 = true
    · rw [if_pos hc]
      have hlt := (historyAnswer_allowed_iff limit window _ c).mp hc.2
      rw [hc.1] at hlt
      exact (ih hclock.init).snoc hlt
    · rw [if_neg hc, List.append_nil]
      exact ih hclock.init

end Runs

/-- What it means for the limiter to refine the plain history specification on a run of calls. -/
structure RefinesHistory (limit window : ℤ) (clock : ℚ) (calls : List Call) : Prop where
  /-- Every call is answered as the allowed calls of the same identity before it demand. -/
  answer : ∀ pre c post, calls = pre ++ c :: post →
    ((machine.run (new limit window clock) pre).check c.identity c.now).2 =
      historyAnswer limit window (machine.log (new limit window clock) pre) c
  /-- Denied calls and the calls of others change no answer: it is the same after the caller's allowed calls alone. -/
  others : ∀ pre c post, calls = pre ++ c :: post →
    ((machine.run (new limit window clock) pre).check c.identity c.now).2 =
      ((machine.run (new limit window clock)
        (allowedCalls c.identity (machine.log (new limit window clock) pre))).check c.identity c.now).2
  /-- The sweep is unobservable. -/
  sweep : machine.log (new limit window clock) calls = unswept.log (new limit window clock) calls
  /-- No half-open interval of one window's length holds more than `max limit 0` allowed calls of an identity. -/
  bound : ∀ id s,
    (within (window : ℚ) s (allowedTimes id (machine.log (new limit window clock) calls)) : ℤ) ≤ max limit 0

/-- **The limiter refines its history**, for every run of calls by any identities whose clock never goes back. -/
theorem check_refines_history (limit window : ℤ) (clock : ℚ) (calls : List Call)
    (hclock : NonDecreasing Call.now calls) : RefinesHistory limit window clock calls := by
  have hpre : ∀ pre c post, calls = pre ++ c :: post → NonDecreasing Call.now (pre ++ [c]) := by
    rintro pre c post rfl
    exact List.Pairwise.sublist (by simp) hclock
  have hans : ∀ pre c post, calls = pre ++ c :: post →
      ((machine.run (new limit window clock) pre).check c.identity c.now).2 =
        historyAnswer limit window (machine.log (new limit window clock) pre) c := fun pre c post h =>
    step_answer limit window clock machine_counts (hpre pre c post h)
  refine ⟨hans, fun pre c post h => ?_, log_eq limit window clock machine_counts unswept_counts hclock,
    fun id s => (allowedTimes_limited limit window clock id hclock).within_le s⟩
  have hmono := hpre pre c post h
  obtain ⟨hclock', htimes⟩ := allowedTimes_replay limit window clock c.identity hmono.init
  have hreplay := replay_snoc limit window clock c.identity hmono hclock'
  rw [hans pre c post h]
  exact (historyAnswer_congr limit window htimes.symm).trans
    (step_answer limit window clock machine_counts hreplay).symm

/-- Two callers and a limit of one: the call of `b` after a window triggers the sweep that forgets `a`. -/
theorem two_callers_refine_history :
    NonDecreasing Call.now [⟨"a", 0⟩, ⟨"a", 30⟩, ⟨"b", 61⟩, ⟨"a", 61⟩] ∧
      RefinesHistory 1 60 0 [⟨"a", 0⟩, ⟨"a", 30⟩, ⟨"b", 61⟩, ⟨"a", 61⟩] := by
  have hclock : NonDecreasing Call.now [⟨"a", 0⟩, ⟨"a", 30⟩, ⟨"b", 61⟩, ⟨"a", 61⟩] := by decide +kernel
  exact ⟨hclock, check_refines_history 1 60 0 _ hclock⟩

end InMemoryRateLimiter

end SmartTravel
