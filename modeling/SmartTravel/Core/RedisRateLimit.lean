import Mathlib.Algebra.Order.Ring.Rat
import Mathlib.Data.Rat.Cast.Order
import Mathlib.Tactic.Linarith
import SmartTravel.Lib.Dict
import SmartTravel.Lib.FixedWindow
import SmartTravel.Lib.Runs

/-!
# The rate limiter shared through Redis

Of Redis the limiter needs counters with an optional deadline: `INCR` keeps the deadline of a live key, `EXPIRE ... NX`
sets one only where there is none, and a key is gone from its deadline on. The pipeline of a `check` is a transaction,
hence one step of the machine, whichever node sent it.

A check replaces the counter of its own identity by `bump` and touches no other (`get?_check`). Two facts about runs
follow by induction: while checks come before the deadline the counter only counts (`run_counts`), and no deadline is
ever further than a window ahead (`Bounded.run`). From absent keys the counters are those of the windows of the checks'
times (`Counted`).
-/

namespace SmartTravel

open Py Runs FixedWindow

/-- A counter of Redis, with the time at which it vanishes. -/
structure Counter where
  count : ℤ
  deadline : Option ℚ
  deriving DecidableEq

/-- The counters by key. -/
abbrev Redis := Dict String Counter

namespace Redis

/-- A key is there until its deadline. -/
def alive (now : ℚ) (c : Counter) : Bool := c.deadline.all fun d => decide (now < d)

/-- `GET key` at `now`. -/
def live (r : Redis) (key : String) (now : ℚ) : Option Counter := (r.get? key).filter (alive now)

/-- `INCR key`: an absent key counts from 0 and has no deadline; a live one keeps the deadline it has. -/
def incr (r : Redis) (key : String) (now : ℚ) : Redis × ℤ :=
  match r.live key now with
  | none => (r.set key ⟨1, none⟩, 1)
  | some c => (r.set key { c with count := c.count + 1 }, c.count + 1)

/-- `EXPIRE key seconds NX`: only on a live key without a deadline. A deadline that is not ahead deletes the key. -/
def expireNx (r : Redis) (key : String) (seconds : ℤ) (now : ℚ) : Redis :=
  match r.live key now with
  | none => r
  | some c =>
    if c.deadline.isSome then r
    else if seconds ≤ 0 then r.pop key
    else r.set key { c with deadline := some (now + seconds) }

end Redis

/-- `RedisRateLimiter`: every node has one with the same settings, over the same Redis. -/
structure RedisRateLimiter where
  limit : ℤ
  window : ℤ

namespace RedisRateLimiter

/-- The key of an identity. -/
def key (identity : String) : String := "ratelimit:" ++ identity

/-- What the limiter answers to a count: `(allowed, remaining)`. -/
def answer (l : RedisRateLimiter) (count : ℤ) : Bool × ℤ := (decide (count ≤ l.limit), max 0 (l.limit - count))

/-- `check(identity)`, its pipeline executed when Redis reads `now`. -/
def check (l : RedisRateLimiter) (r : Redis) (identity : String) (now : ℚ) : Redis × (Bool × ℤ) :=
  let key := key identity
  let (r, count) := r.incr key now
  (r.expireNx key l.window now, l.answer count)

/-- A check: the node that sends it, the identity it counts, the time of Redis. -/
structure Check where
  node : ℕ
  identity : String
  now : ℚ
  deriving DecidableEq

/-- Redis with any number of limiters in front of it. -/
def machine (l : RedisRateLimiter) : Machine Redis Check (Bool × ℤ) := ⟨fun r c => l.check r c.identity c.now⟩

/-- How many of the checks count for `id`. -/
def hits (id : String) (cs : List Check) : ℕ := cs.countP fun c => decide (c.identity = id)

/-! ## One check -/

variable {l : RedisRateLimiter} {r : Redis} {id : String} {now : ℚ}

theorem key_injective {id id' : String} (h : key id = key id') : id = id' := by
  have := congrArg String.toList h
  simp only [key, String.toList_append, List.append_cancel_left_eq] at this
  exact String.toList_injective this

/-- The counter that a check leaves: it starts a window where there was none, and sets a missing deadline. -/
def bump (window : ℤ) (now : ℚ) : Option Counter → Counter
  | none => ⟨1, some (now + window)⟩
  | some c => ⟨c.count + 1, some (c.deadline.getD (now + window))⟩

/-- A check writes the counter of its identity and no other. -/
theorem get?_check (hW : 1 ≤ l.window) (r : Redis) (id : String) (now : ℚ) (id' : String) :
    (l.check r id now).1.get? (key id') =
      if id' = id then some (bump l.window now (r.live (key id) now)) else r.get? (key id') := by
  have hpos : ¬ l.window ≤ 0 := by omega
  have hset : ∀ (r : Redis) (c : Counter), Redis.alive now c = true →
      (Redis.expireNx (r.set (key id) c) (key id) l.window now).get? (key id') =
        if id' = id then some { c with deadline := some (c.deadline.getD (now + l.window)) } else r.get? (key id') := by
    intro r c hc
    have hkey : ∀ c' : Counter,
        (r.set (key id) c').get? (key id') = if id' = id then some c' else r.get? (key id') := by
      intro c'
      rw [Dict.get?_set]
      by_cases hid : id' = id
      · rw [hid, if_pos rfl, if_pos rfl]
      · rw [if_neg hid, if_neg fun h => hid (key_injective h)]
    simp only [Redis.expireNx, Redis.live, Dict.get?_set_self, Option.filter_some, hc, if_true, if_neg hpos]
    obtain ⟨n, _ | d⟩ := c
    · rw [if_neg (by simp), Dict.get?_set]
      by_cases hid : id' = id
      · rw [hid, if_pos rfl, if_pos rfl]; rfl
      · rw [if_neg fun h => hid (key_injective h), if_neg hid, hkey, if_neg hid]
    · rw [if_pos (by simp), hkey]; rfl
  cases hlive : r.live (key id) now with
  | none =>
    simp only [check, Redis.incr, hlive]
    rw [hset r ⟨1, none⟩ rfl]; rfl
  | some c =>
    have hc : Redis.alive now c = true := (Option.filter_eq_some_iff.mp hlive).2
    simp only [check, Redis.incr, hlive]
    rw [hset r { c with count := c.count + 1 } hc]; rfl

/-- A check answers by the count it leaves. -/
theorem check_answer (r : Redis) (id : String) (now : ℚ) :
    (l.check r id now).2 = l.answer (bump l.window now (r.live (key id) now)).count := by
  simp only [check, Redis.incr]
  cases r.live (key id) now <;> rfl

/-! ## Runs -/

theorem live_of_lt {r : Redis} {k : String} {n : ℤ} {d u : ℚ} (h : r.get? k = some ⟨n, some d⟩) (hu : u < d) :
    r.live k u = some ⟨n, some d⟩ := by
  simp [Redis.live, h, Option.filter, Redis.alive, hu]

theorem live_of_le {r : Redis} {k : String} {n : ℤ} {d u : ℚ} (h : r.get? k = some ⟨n, some d⟩) (hu : d ≤ u) :
    r.live k u = none := by
  simp [Redis.live, h, Option.filter, Redis.alive, hu]

theorem hits_cons (id : String) (c : Check) (cs : List Check) :
    hits id (c :: cs) = hits id cs + if c.identity = id then 1 else 0 := by
  simp [hits, List.countP_cons]

/-- Checks of the identity before the deadline of its counter count, and leave the deadline where it is. -/
theorem run_counts (hW : 1 ≤ l.window) : ∀ (m : List Check) {r : Redis} {n : ℤ} {d : ℚ},
    r.get? (key id) = some ⟨n, some d⟩ → (∀ c ∈ m, c.identity = id → c.now < d) →
    (l.machine.run r m).get? (key id) = some ⟨n + hits id m, some d⟩
  | [], r, n, d, hr, _ => by simpa [hits] using hr
  | c :: m, r, n, d, hr, hm => by
    have hm' : ∀ c' ∈ m, c'.identity = id → c'.now < d := fun c' hc' => hm c' (List.mem_cons_of_mem c hc')
    rw [Machine.run_cons, hits_cons]
    have hstep := get?_check hW r c.identity c.now id
    by_cases hid : c.identity = id
    · rw [if_pos hid.symm, hid, live_of_lt hr (hm c List.mem_cons_self hid)] at hstep
      have hrest := run_counts hW m hstep hm'
      rw [show (l.machine.step r c).1 = (l.check r id c.now).1 by rw [← hid]; rfl, hrest, if_pos hid]
      simp only [Option.getD_some, Nat.cast_add, Nat.cast_one, Option.some.injEq, Counter.mk.injEq, and_true]
      omega
    · rw [if_neg fun h => hid h.symm, hr] at hstep
      rw [show (l.machine.step r c).1 = (l.check r c.identity c.now).1 from rfl, run_counts hW m hstep hm', if_neg hid]
      simp

/-- No deadline of a counter is further than a window ahead. -/
def Bounded (window : ℤ) (now : ℚ) (r : Redis) : Prop :=
  ∀ id n d, r.get? (key id) = some ⟨n, some d⟩ → d ≤ now + window

theorem Bounded.mono {window : ℤ} {t : ℚ} (h : Bounded window t r) (ht : t ≤ now) : Bounded window now r :=
  fun id n d hr => (h id n d hr).trans (by linarith)

/-- The counter left by a check has a deadline ahead, by a window at most. -/
theorem Bounded.bump (hW : 1 ≤ l.window) (h : Bounded l.window now r) (id : String) :
    ∃ n d, bump l.window now (r.live (key id) now) = ⟨n, some d⟩ ∧ now < d ∧ d ≤ now + l.window := by
  have hpos : (1 : ℚ) ≤ (l.window : ℚ) := by exact_mod_cast hW
  cases hlive : r.live (key id) now with
  | none => exact ⟨1, _, rfl, by linarith, le_rfl⟩
  | some c =>
    obtain ⟨hr, halive⟩ := Option.filter_eq_some_iff.mp hlive
    obtain ⟨n, _ | d⟩ := c
    · exact ⟨n + 1, _, rfl, by simp; linarith, le_rfl⟩
    · have hd : now < d := by simpa [Redis.alive] using halive
      exact ⟨n + 1, d, rfl, hd, h id n d hr⟩

theorem Bounded.check (hW : 1 ≤ l.window) (h : Bounded l.window now r) (id : String) :
    Bounded l.window now (l.check r id now).1 := by
  intro id' n d hr
  rw [get?_check hW] at hr
  split at hr
  · obtain ⟨n', d', hb, -, hd⟩ := h.bump hW id
    rw [hb, Option.some.injEq, Counter.mk.injEq, Option.some.injEq] at hr
    rw [← hr.2]
    exact hd
  · exact h id' n d hr

/-- Deadlines stay bounded along every run of a clock that does not go back. -/
theorem Bounded.run (hW : 1 ≤ l.window) {t : ℚ} : ∀ {cs : List Check} {r : Redis}, Bounded l.window t r →
    NonDecreasing Check.now cs → (∀ c ∈ cs, t ≤ c.now) → ∀ u, t ≤ u → (∀ c ∈ cs, c.now ≤ u) →
    Bounded l.window u (l.machine.run r cs)
  | [], _, h, _, _, _, hu, _ => h.mono hu
  | c :: cs, r, h, hmono, ht, u, _, hcs => by
    obtain ⟨hc, hmono'⟩ := List.pairwise_cons.mp hmono
    have hstep := (h.mono (ht c List.mem_cons_self)).check hW c.identity
    exact Bounded.run hW hstep hmono' hc u (hcs c List.mem_cons_self) fun c' hc' => hcs c' (List.mem_cons_of_mem c hc')

/-! ## Windows opened in a run -/

/-- The check, coming after `h`, meets no key. -/
def Opens (l : RedisRateLimiter) (r₀ : Redis) (h : List Check) (c : Check) : Prop :=
  (l.machine.run r₀ h).live (key c.identity) c.now = none

variable {r₀ : Redis} {h m t : List Check} {o c : Check}

/-- The counter after a check. -/
theorem get?_run_snoc (hW : 1 ≤ l.window) (r₀ : Redis) (h : List Check) (c : Check) :
    (l.machine.run r₀ (h ++ [c])).get? (key c.identity) =
      some (bump l.window c.now ((l.machine.run r₀ h).live (key c.identity) c.now)) := by
  rw [Machine.run_snoc]
  show (l.check (l.machine.run r₀ h) c.identity c.now).1.get? (key c.identity) = _
  rw [get?_check hW, if_pos rfl]

/-- Until its deadline an opened window counts the checks of its identity. -/
theorem Opens.counts (hW : 1 ≤ l.window) (ho : Opens l r₀ h o)
    (hm : ∀ c ∈ m, c.identity = o.identity → c.now < o.now + l.window) :
    (l.machine.run r₀ (h ++ o :: m)).get? (key o.identity) =
      some ⟨hits o.identity (o :: m), some (o.now + l.window)⟩ := by
  have hopen := get?_run_snoc hW r₀ h o
  rw [show (l.machine.run r₀ h).live (key o.identity) o.now = none from ho] at hopen
  have hrun := run_counts hW m hopen hm
  rw [← Machine.run_append, List.append_assoc, List.singleton_append] at hrun
  rw [hrun, hits_cons, if_pos rfl]
  simp [add_comm]

/-- What follows `o` no later than a time in its window is in its window. -/
theorem before_deadline {u : ℚ} {W : ℤ} (hm : ∀ c ∈ m, c.now ≤ u) (hu : u < o.now + W) :
    ∀ c ∈ m, c.identity = o.identity → c.now < o.now + W :=
  fun c hc _ => (hm c hc).trans_lt hu

/-- Checks between two checks of a run have times between theirs. -/
theorem between_le (hmono : NonDecreasing Check.now (h ++ o :: m ++ c :: t)) : ∀ x ∈ m, x.now ≤ c.now := by
  intro x hx
  have hall := (List.pairwise_append.mp hmono).2.2
  exact hall x (List.mem_append_right h (List.mem_cons_of_mem o hx)) c List.mem_cons_self

/-- The windows of one identity do not meet. -/
theorem Opens.disjoint (hW : 1 ≤ l.window) (hmono : NonDecreasing Check.now (h ++ o :: m ++ c :: t))
    (hid : c.identity = o.identity) (ho : Opens l r₀ h o) (hc : Opens l r₀ (h ++ o :: m) c) :
    o.now + l.window ≤ c.now := by
  by_contra hlt
  have hlt : c.now < o.now + l.window := not_le.mp hlt
  have hcounts := ho.counts hW (before_deadline (between_le hmono) hlt)
  unfold Opens at hc
  rw [hid, live_of_lt hcounts hlt] at hc
  cases hc

/-- The answer to a check in an opened window is by its place there. -/
theorem Opens.answer (hW : 1 ≤ l.window) (hmono : NonDecreasing Check.now (h ++ o :: m ++ c :: t))
    (hid : c.identity = o.identity) (ho : Opens l r₀ h o) (hlt : c.now < o.now + l.window) :
    (l.machine.step (l.machine.run r₀ (h ++ o :: m)) c).2 = l.answer (hits o.identity (o :: m ++ [c])) := by
  have hcounts := ho.counts hW (before_deadline (between_le hmono) hlt)
  show (l.check (l.machine.run r₀ (h ++ o :: m)) c.identity c.now).2 = _
  rw [check_answer, hid, live_of_lt hcounts hlt]
  simp [bump, hits, List.countP_append, hid]

/-- A window after any check, the key has been absent to some check. -/
theorem Bounded.exists_opens (hW : 1 ≤ l.window) (hb : Bounded l.window c.now (l.machine.run r₀ h)) {e : Check}
    (hid : e.identity = c.identity) (he : c.now + l.window ≤ e.now) :
    ∃ m₁ o m₂, m ++ [e] = m₁ ++ o :: m₂ ∧ o.identity = c.identity ∧ Opens l r₀ (h ++ c :: m₁) o := by
  obtain ⟨n, d, hn, -, hd⟩ := hb.bump hW c.identity
  have hafter := get?_run_snoc hW r₀ h c
  rw [hn] at hafter
  -- The first check of the identity that comes at the deadline or later.
  let p : Check → Bool := fun x => decide (x.identity = c.identity ∧ d ≤ x.now)
  have hsome : ((m ++ [e]).find? p).isSome := by
    rw [List.find?_isSome]
    exact ⟨e, by simp, by simpa [p, hid] using hd.trans he⟩
  obtain ⟨o, ho⟩ := Option.isSome_iff_exists.mp hsome
  obtain ⟨hpo, m₁, m₂, hsplit, hbefore⟩ := List.find?_eq_some_iff_append.mp ho
  have hpo : o.identity = c.identity ∧ d ≤ o.now := by simpa [p] using hpo
  have hm₁ : ∀ x ∈ m₁, x.identity = c.identity → x.now < d := by
    intro x hx hxid
    have := hbefore x hx
    simpa [p, hxid] using this
  refine ⟨m₁, o, m₂, hsplit, hpo.1, ?_⟩
  have hrun := run_counts hW m₁ hafter hm₁
  rw [← Machine.run_append, List.append_assoc, List.singleton_append] at hrun
  unfold Opens
  rw [hpo.1]
  exact live_of_le hrun hpo.2

/-! ## From absent keys -/

/-- The times of the checks of `id`. -/
def times (id : String) (cs : List Check) : List ℚ := (cs.filter fun c => decide (c.identity = id)).map Check.now

/-- The times of its allowed checks. -/
def allowedTimes (id : String) (log : List (Check × (Bool × ℤ))) : List ℚ :=
  (log.filter fun e => decide (e.1.identity = id) && e.2.1).map fun e => e.1.now

/-- The counter that a list of windows, newest first, leaves. -/
def counterOf (window : ℤ) : List (Window ℚ) → Option Counter
  | [] => none
  | w :: _ => some ⟨w.hits.length, some (w.start + window)⟩

/-- Redis counts the newest window of every identity, and the limiter has admitted the first of each. -/
structure Counted (l : RedisRateLimiter) (log : List (Check × (Bool × ℤ))) (r : Redis) : Prop where
  counter : ∀ id, r.get? (key id) = counterOf l.window (windows (l.window : ℚ) (times id (log.map Prod.fst)))
  allowed : ∀ id, allowedTimes id log = admitted l.limit.toNat (windows (l.window : ℚ) (times id (log.map Prod.fst)))

/-- A counter of windows is bumped to the counter of the windows with one time more. -/
theorem bump_counterOf (window : ℤ) (now : ℚ) (ws : List (Window ℚ)) :
    some (bump window now ((counterOf window ws).filter (Redis.alive now))) =
        counterOf window (hit (window : ℚ) now ws) ∧
      (bump window now ((counterOf window ws).filter (Redis.alive now))).count = place (window : ℚ) now ws := by
  cases ws with
  | nil => exact ⟨rfl, rfl⟩
  | cons w ws =>
    by_cases hopen : now < w.start + window
    · have hlive : (counterOf window (w :: ws)).filter (Redis.alive now) = counterOf window (w :: ws) := by
        simp [counterOf, Option.filter, Redis.alive, hopen]
      rw [hlive]
      simp only [counterOf, bump, hit, place, if_pos hopen, List.length_append, List.length_singleton]
      exact ⟨rfl, rfl⟩
    · have hgone : (counterOf window (w :: ws)).filter (Redis.alive now) = none := by
        simp [counterOf, Option.filter, Redis.alive, not_lt.mp hopen]
      rw [hgone]
      simp only [counterOf, bump, hit, place, if_neg hopen]
      exact ⟨rfl, rfl⟩

theorem times_snoc (id : String) (cs : List Check) (c : Check) :
    times id (cs ++ [c]) = if c.identity = id then times id cs ++ [c.now] else times id cs := by
  unfold times
  rw [List.filter_append, List.map_append]
  split <;> simp_all

theorem allowedTimes_snoc (id : String) (log : List (Check × (Bool × ℤ))) (c : Check) (a : Bool × ℤ) :
    allowedTimes id (log ++ [(c, a)]) =
      allowedTimes id log ++ if c.identity = id ∧ a.1 = true then [c.now] else [] := by
  unfold allowedTimes
  rw [List.filter_append, List.map_append]
  split <;> simp_all

theorem Counted.check (hW : 1 ≤ l.window) (hlimit : 0 ≤ l.limit) {log : List (Check × (Bool × ℤ))}
    (hr : Counted l log r) (c : Check) :
    Counted l (log ++ [(c, (l.check r c.identity c.now).2)]) (l.check r c.identity c.now).1 := by
  have hbump := bump_counterOf l.window c.now (windows (l.window : ℚ) (times c.identity (log.map Prod.fst)))
  rw [← hr.counter c.identity] at hbump
  have htimes : ∀ id, times id ((log ++ [(c, (l.check r c.identity c.now).2)]).map Prod.fst) =
      if c.identity = id then times id (log.map Prod.fst) ++ [c.now] else times id (log.map Prod.fst) := by
    intro id
    rw [List.map_append, List.map_singleton, times_snoc]
  refine ⟨fun id => ?_, fun id => ?_⟩
  · rw [get?_check hW, htimes]
    by_cases hid : id = c.identity
    · rw [if_pos hid, if_pos hid.symm, windows_snoc, hid]
      exact hbump.1
    · rw [if_neg hid, if_neg fun h => hid h.symm, hr.counter]
  · rw [allowedTimes_snoc, htimes, hr.allowed]
    by_cases hid : c.identity = id
    · subst hid
      rw [if_pos rfl, windows_snoc, admitted_hit, check_answer]
      congr 1
      have hplace := hbump.2
      refine if_congr ?_ rfl rfl
      simp only [RedisRateLimiter.answer, true_and, decide_eq_true_eq]
      unfold Redis.live
      rw [hplace]
      omega
    · rw [if_neg hid, if_neg fun h => hid h.1, List.append_nil]

/-- From absent keys the counters are those of the windows, along every run. -/
theorem counted_run (hW : 1 ≤ l.window) (hlimit : 0 ≤ l.limit) (habsent : ∀ id, r₀.get? (key id) = none)
    (cs : List Check) : Counted l (l.machine.log r₀ cs) (l.machine.run r₀ cs) :=
  l.machine.run_rule (fun _ => True) (Counted l) (fun _ _ _ => trivial)
    ⟨fun id => habsent id, fun _ => rfl⟩ (fun _ c _ hr => hr.check hW hlimit c) cs trivial

theorem times_sorted {cs : List Check} (hmono : NonDecreasing Check.now cs) (id : String) :
    (times id cs).Pairwise (· ≤ ·) := by
  unfold times
  rw [List.pairwise_map]
  exact List.Pairwise.sublist List.filter_sublist hmono

/-- Allowed checks of `id` at times that satisfy `p`. -/
def allowedWhen (p : ℚ → Bool) (id : String) (log : List (Check × (Bool × ℤ))) : ℕ :=
  log.countP fun e => decide (e.1.identity = id) && e.2.1 && p e.1.now

/-- Allowed checks in a part of an interval that is closed on both sides. -/
theorem allowedWhen_le (p : ℚ → Bool) (W s : ℚ) (hp : ∀ u, p u = true → s ≤ u ∧ u ≤ s + W) (id : String)
    (log : List (Check × (Bool × ℤ))) : allowedWhen p id log ≤ between W s (allowedTimes id log) := by
  unfold allowedWhen between allowedTimes
  rw [List.countP_map, List.countP_filter]
  refine List.countP_mono_left fun e _ he => ?_
  simp only [Bool.and_eq_true, decide_eq_true_eq, Function.comp_apply] at he ⊢
  exact ⟨hp _ he.2, he.1⟩

/-- From absent keys an interval of the length of a window holds at most twice the limit. -/
theorem allowedWhen_le_two_mul (hW : 1 ≤ l.window) (hlimit : 0 ≤ l.limit) (habsent : ∀ id, r₀.get? (key id) = none)
    {cs : List Check} (hmono : NonDecreasing Check.now cs) (p : ℚ → Bool) (s : ℚ)
    (hp : ∀ u, p u = true → s ≤ u ∧ u ≤ s + l.window) (id : String) :
    (allowedWhen p id (l.machine.log r₀ cs) : ℤ) ≤ 2 * l.limit := by
  have hpos : (0 : ℚ) < (l.window : ℚ) := by exact_mod_cast (by omega : (0 : ℤ) < l.window)
  have hsep := windows_separated hpos (times_sorted hmono id)
  have hle := allowedWhen_le p l.window s hp id (l.machine.log r₀ cs)
  rw [(counted_run hW hlimit habsent cs).allowed id, Machine.map_fst_log] at hle
  have hadm := hsep.admitted_le l.limit.toNat s
  omega

/-! ## The limiter as a whole -/

/-- What a run of checks from `r₀` shows of a fixed-window limiter. A check of the run is named by what came before and
after it. -/
structure ExactFixedWindow (l : RedisRateLimiter) (r₀ : Redis) (cs : List Check) : Prop where
  /-- After a check its key is there, with a deadline a window ahead at most. -/
  deadline : ∀ h (c : Check) t, cs = h ++ c :: t → ∃ n d,
    (l.machine.run r₀ (h ++ [c])).live (key c.identity) c.now = some ⟨n, some d⟩ ∧ d ≤ c.now + l.window
  /-- No identity is blocked for good: of two checks a window apart, the second or one before it opens a new window. -/
  recovers : ∀ h (c : Check) m (e : Check) t, cs = h ++ c :: m ++ e :: t → e.identity = c.identity →
    c.now + l.window ≤ e.now →
    ∃ m₁ o m₂, m ++ [e] = m₁ ++ o :: m₂ ∧ o.identity = c.identity ∧ Opens l r₀ (h ++ c :: m₁) o
  /-- A window that a check opened is there until a window's length has passed, -/
  stays : ∀ h (o : Check) m t u, cs = h ++ o :: m ++ t → Opens l r₀ h o → (∀ c ∈ m, c.now ≤ u) → u < o.now + l.window →
    (l.machine.run r₀ (h ++ o :: m)).live (key o.identity) u =
      some ⟨hits o.identity (o :: m), some (o.now + l.window)⟩
  /-- and gone from then on, -/
  ends : ∀ h (o : Check) m t u, cs = h ++ o :: m ++ t → Opens l r₀ h o →
    (∀ c ∈ m, c.identity = o.identity → c.now < o.now + l.window) → o.now + l.window ≤ u →
    (l.machine.run r₀ (h ++ o :: m)).live (key o.identity) u = none
  /-- and it has no time in common with the next one. -/
  disjoint : ∀ h (o : Check) m (o' : Check) t, cs = h ++ o :: m ++ o' :: t → o'.identity = o.identity → Opens l r₀ h o →
    Opens l r₀ (h ++ o :: m) o' → o.now + l.window ≤ o'.now
  /-- The first check of a window is the one that opens it. -/
  first : ∀ h o t, cs = h ++ o :: t → Opens l r₀ h o →
    (l.machine.step (l.machine.run r₀ h) o).2 = (decide (1 ≤ l.limit), max 0 (l.limit - 1))
  /-- The `k`-th check in a window is answered by `k`. -/
  kth : ∀ h (o : Check) m (c : Check) t (k : ℕ), cs = h ++ o :: m ++ c :: t → Opens l r₀ h o → c.identity = o.identity →
    c.now < o.now + l.window → k = hits o.identity (o :: m ++ [c]) →
    (l.machine.step (l.machine.run r₀ (h ++ o :: m)) c).2 = (decide ((k : ℤ) ≤ l.limit), max 0 (l.limit - k))
  /-- From absent keys, half-open intervals of a window's length hold at most twice the limit. -/
  burst : (∀ id, r₀.get? (key id) = none) → 0 ≤ l.limit → ∀ id s,
    (allowedWhen (fun u => decide (s ≤ u ∧ u < s + l.window)) id (l.machine.log r₀ cs) : ℤ) ≤ 2 * l.limit ∧
      (allowedWhen (fun u => decide (s < u ∧ u ≤ s + l.window)) id (l.machine.log r₀ cs) : ℤ) ≤ 2 * l.limit

/-- **The limiter over Redis is an exact fixed-window limiter**, for checks of any nodes in any order of a clock that
does not go back. At the start, `t₀`, counters may be there with any count, with no deadline or one a window ahead. -/
theorem redisRateLimiter_exact (l : RedisRateLimiter) (hW : 1 ≤ l.window) (r₀ : Redis) (t₀ : ℚ)
    (hstart : Bounded l.window t₀ r₀) (cs : List Check) (hmono : NonDecreasing Check.now cs)
    (ht₀ : ∀ c ∈ cs, t₀ ≤ c.now) : ExactFixedWindow l r₀ cs := by
  have hbounded : ∀ h (c : Check) t, cs = h ++ c :: t → Bounded l.window c.now (l.machine.run r₀ h) := by
    rintro h c t rfl
    obtain ⟨hh, -, hle⟩ := List.pairwise_append.mp hmono
    refine hstart.run hW hh (fun x hx => ht₀ x (List.mem_append_left _ hx)) c.now ?_ ?_
    · exact ht₀ c (List.mem_append_right h List.mem_cons_self)
    · exact fun x hx => hle x hx c List.mem_cons_self
  constructor
  case deadline =>
    intro h c t hcs
    obtain ⟨n, d, hn, hlt, hd⟩ := (hbounded h c t hcs).bump hW c.identity
    refine ⟨n, d, live_of_lt ?_ hlt, hd⟩
    rw [get?_run_snoc hW, hn]
  case recovers =>
    intro h c m e t hcs hid he
    rw [List.append_assoc, List.cons_append] at hcs
    exact (hbounded h c (m ++ e :: t) hcs).exists_opens hW hid he
  case stays =>
    intro h o m t u _ ho hm hu
    exact live_of_lt (ho.counts hW (before_deadline hm hu)) hu
  case ends =>
    intro h o m t u _ ho hm hu
    exact live_of_le (ho.counts hW hm) hu
  case disjoint =>
    rintro h o m o' t rfl hid ho ho'
    exact ho.disjoint hW hmono hid ho'
  case first =>
    intro h o t _ ho
    show (l.check (l.machine.run r₀ h) o.identity o.now).2 = _
    rw [check_answer, show (l.machine.run r₀ h).live (key o.identity) o.now = none from ho]
    rfl
  case kth =>
    rintro h o m c t k rfl ho hid hlt rfl
    exact ho.answer hW hmono hid hlt
  case burst =>
    intro habsent hlimit id s
    refine ⟨allowedWhen_le_two_mul hW hlimit habsent hmono _ s (fun u hu => ?_) id,
      allowedWhen_le_two_mul hW hlimit habsent hmono _ s (fun u hu => ?_) id⟩
    · have hu := of_decide_eq_true hu
      exact ⟨hu.1, hu.2.le⟩
    · have hu := of_decide_eq_true hu
      exact ⟨hu.1.le, hu.2⟩

/-- A counter left without a deadline. -/
def stranded : Redis := Dict.empty.set (key "ip") ⟨7, none⟩

/-- Two nodes, two identities. -/
def sampleChecks : List Check :=
  [⟨0, "ip", 0⟩, ⟨1, "ip", 10⟩, ⟨0, "key", 10⟩, ⟨1, "ip", 30⟩, ⟨0, "ip", 45⟩, ⟨1, "ip", 59⟩]

/-- The stranded counter blocks for one window; from absent keys the third check of a window is the first refused. -/
theorem redisRateLimiter_exact_stranded :
    ExactFixedWindow ⟨2, 30⟩ stranded sampleChecks ∧ ExactFixedWindow ⟨2, 30⟩ Dict.empty sampleChecks ∧
      (((⟨2, 30⟩ : RedisRateLimiter).machine.log stranded sampleChecks).map Prod.snd =
        [(false, 0), (false, 0), (true, 1), (true, 1), (true, 0), (false, 0)]) := by
  have hstart : Bounded 30 0 stranded := by
    intro id n d h
    rw [stranded, Dict.get?_set] at h
    split at h <;> cases h
  refine ⟨redisRateLimiter_exact ⟨2, 30⟩ (by decide) stranded 0 hstart sampleChecks (by decide) (by decide),
    redisRateLimiter_exact ⟨2, 30⟩ (by decide) Dict.empty 0 (fun _ _ _ h => by cases h) sampleChecks (by decide)
      (by decide), ?_⟩
  decide +kernel

end RedisRateLimiter

end SmartTravel
