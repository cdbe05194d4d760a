import Mathlib.Algebra.Order.Ring.Rat
import Mathlib.Tactic.Linarith
import SmartTravel.Lib.Runs

/-!
# The circuit breaker under overlapping calls

`CircuitBreaker.call` takes the lock twice, once before and once after it awaits the upstream, and holds it over no
await. Between the two sections any number of other calls may run theirs. A `System` is therefore the breaker and the
calls whose upstream is in flight; a run is a list of `Event`s, each one critical section with its clock reading.

* The breaker is a function of its history (`HistoryInv`, `run_historyInv`): it counts the failures since the last
  success, is closed iff they are fewer than the threshold, and was opened by the last failure.
* A success that arrives while the breaker is open closes it: the recovery period is kept exactly when no call that was
  in flight at the opening succeeds inside it (`opened_rejects_iff`).
-/

namespace SmartTravel

open Runs

/-- `CircuitState`. -/
inductive CircuitState
  | closed
  | opened
  | halfOpen
  deriving DecidableEq, Repr

/-- The exception of a rejected call. -/
structure CircuitBreakerOpen where
  name : String
  deriving DecidableEq, Repr

def CircuitBreakerOpen.message (e : CircuitBreakerOpen) : String := "circuit breaker '" ++ e.name ++ "' is open"

structure CircuitBreaker where
  name : String
  failureThreshold : ℤ
  recoverySeconds : ℚ
  state : CircuitState := .closed
  failures : ℕ := 0
  openedAt : ℚ := 0
  deriving DecidableEq

namespace CircuitBreaker

/-- `_maybe_half_open`. -/
def maybeHalfOpen (b : CircuitBreaker) (now : ℚ) : CircuitBreaker :=
  if b.state = .opened ∧ now - b.openedAt ≥ b.recoverySeconds then { b with state := .halfOpen } else b

/-- The first critical section of `call`: probe or reject. -/
def enter (b : CircuitBreaker) (now : ℚ) : CircuitBreaker × Except CircuitBreakerOpen Unit :=
  let b := b.maybeHalfOpen now
  if b.state = .opened then (b, .error ⟨b.name⟩) else (b, .ok ())

/-- `_on_success`. -/
def onSuccess (b : CircuitBreaker) : CircuitBreaker := { b with failures := 0, state := .closed }

/-- `_on_failure`. -/
def onFailure (b : CircuitBreaker) (now : ℚ) : CircuitBreaker :=
  let b' := { b with failures := b.failures + 1 }
  if b'.state = .halfOpen ∨ (b'.failures : ℤ) ≥ b'.failureThreshold then
    { b' with state := .opened, openedAt := now }
  else b'

/-! ## Overlapping calls -/

/-- One critical section of one call. A cancelled call leaves `call` without a second section. -/
inductive Event
  | begin (c : ℕ) (t : ℚ)
  | succeed (c : ℕ) (t : ℚ)
  | fail (c : ℕ) (t : ℚ)
  | cancel (c : ℕ) (t : ℚ)
  deriving DecidableEq

def Event.time : Event → ℚ
  | .begin _ t | .succeed _ t | .fail _ t | .cancel _ t => t

/-- What the caller sees of a critical section. -/
inductive Outcome
  | admitted
  | rejected (e : CircuitBreakerOpen)
  | returned
  | raised
  | cancelled
  deriving DecidableEq

/-- The breaker and the calls whose `func` has been invoked and has not finished. -/
structure System where
  breaker : CircuitBreaker
  inFlight : List ℕ

namespace System

def leave (s : System) (c : ℕ) (b : CircuitBreaker) : System := ⟨b, s.inFlight.filter (· ≠ c)⟩

def step (s : System) : Event → System × Outcome
  | .begin c t =>
    match s.breaker.enter t with
    | (b, .ok ()) => (⟨b, c :: s.inFlight⟩, .admitted)
    | (b, .error e) => (⟨b, s.inFlight⟩, .rejected e)
  | .succeed c _ => (s.leave c s.breaker.onSuccess, .returned)
  | .fail c t => (s.leave c (s.breaker.onFailure t), .raised)
  | .cancel c _ => (s.leave c s.breaker, .cancelled)

/-- Only calls in flight finish, and a call begins once. -/
def enabled (s : System) : Event → Prop
  | .begin c _ => c ∉ s.inFlight
  | .succeed c _ | .fail c _ | .cancel c _ => c ∈ s.inFlight

end System

def machine : Machine System Event Outcome := ⟨System.step⟩

/-- A fresh breaker with no calls. -/
def initial (name : String) (threshold : ℤ) (recovery : ℚ) : System :=
  ⟨{ name := name, failureThreshold := threshold, recoverySeconds := recovery }, []⟩

/-- A run of a fresh breaker: every event is possible when it happens, and the clock never goes back. -/
structure IsRun (s₀ : System) (es : List Event) : Prop where
  enabled : machine.Enabled System.enabled s₀ es
  clock : NonDecreasing Event.time es

theorem IsRun.init {s₀ : System} {es : List Event} {e : Event} (h : IsRun s₀ (es ++ [e])) : IsRun s₀ es :=
  ⟨(machine.enabled_snoc.mp h.enabled).1, h.clock.init⟩

/-! ## The history -/

/-- Failures before the first success, newest event first. -/
def failuresBack : List Event → ℕ
  | [] => 0
  | .fail _ _ :: es => failuresBack es + 1
  | .succeed _ _ :: _ => 0
  | .begin _ _ :: es | .cancel _ _ :: es => failuresBack es

/-- The number of failure completions since the last success completion. -/
def failuresSinceSuccess (es : List Event) : ℕ := failuresBack es.reverse

/-- The time of the last failure completion, newest event first. -/
def lastFailureBack : List Event → Option ℚ
  | [] => none
  | .fail _ t :: _ => some t
  | .begin _ _ :: es | .succeed _ _ :: es | .cancel _ _ :: es => lastFailureBack es

/-- The time of the last failure completion. -/
def lastFailure (es : List Event) : Option ℚ := lastFailureBack es.reverse

theorem failuresSinceSuccess_snoc (es : List Event) (e : Event) :
    failuresSinceSuccess (es ++ [e]) =
      match e with
      | .fail _ _ => failuresSinceSuccess es + 1
      | .succeed _ _ => 0
      | .begin _ _ | .cancel _ _ => failuresSinceSuccess es := by
  unfold failuresSinceSuccess
  rw [List.reverse_append]
  cases e <;> rfl

theorem lastFailure_snoc (es : List Event) (e : Event) :
    lastFailure (es ++ [e]) =
      match e with
      | .fail _ t => some t
      | .begin _ _ | .succeed _ _ | .cancel _ _ => lastFailure es := by
  unfold lastFailure
  rw [List.reverse_append]
  cases e <;> rfl

/-! ## One step -/

/-- Everything the first critical section can do. -/
theorem enter_cases (b : CircuitBreaker) (now : ℚ) :
    (b.state = .opened ∧ now - b.openedAt < b.recoverySeconds ∧ b.enter now = (b, .error ⟨b.name⟩)) ∨
    (b.state = .opened ∧ b.recoverySeconds ≤ now - b.openedAt ∧
      b.enter now = ({ b with state := .halfOpen }, .ok ())) ∨
    (b.state ≠ .opened ∧ b.enter now = (b, .ok ())) := by
  by_cases hs : b.state = .opened
  · rcases lt_or_ge (now - b.openedAt) b.recoverySeconds with ht | ht
    · refine Or.inl ⟨hs, ht, ?_⟩
      simp [enter, maybeHalfOpen, hs, not_le.mpr ht]
    · refine Or.inr (Or.inl ⟨hs, ht, ?_⟩)
      simp [enter, maybeHalfOpen, hs, ht]
  · refine Or.inr (Or.inr ⟨hs, ?_⟩)
    simp [enter, maybeHalfOpen, hs]

/-- Everything a failure can do. -/
theorem onFailure_cases (b : CircuitBreaker) (now : ℚ) :
    ((b.state = .halfOpen ∨ b.failureThreshold ≤ (b.failures + 1 : ℕ)) ∧
      b.onFailure now = { b with failures := b.failures + 1, state := .opened, openedAt := now }) ∨
    ((b.state ≠ .halfOpen ∧ ((b.failures + 1 : ℕ) : ℤ) < b.failureThreshold) ∧
      b.onFailure now = { b with failures := b.failures + 1 }) := by
  simp only [onFailure, ge_iff_le]
  by_cases h : b.state = .halfOpen ∨ b.failureThreshold ≤ (b.failures + 1 : ℕ)
  · exact Or.inl ⟨h, if_pos h⟩
  · refine Or.inr ⟨?_, if_neg h⟩
    rw [not_or, not_le] at h
    exact h

/-- What a step leaves of the configuration. -/
def SameConfig (b b' : CircuitBreaker) : Prop :=
  b'.name = b.name ∧ b'.failureThreshold = b.failureThreshold ∧ b'.recoverySeconds = b.recoverySeconds

theorem step_sameConfig (s : System) (e : Event) : SameConfig s.breaker (s.step e).1.breaker := by
  cases e with
  | begin c t =>
    rcases enter_cases s.breaker t with ⟨_, _, he⟩ | ⟨_, _, he⟩ | ⟨_, he⟩ <;>
      simp [System.step, he, SameConfig]
  | succeed c t => exact ⟨rfl, rfl, rfl⟩
  | fail c t =>
    rcases onFailure_cases s.breaker t with ⟨_, he⟩ | ⟨_, he⟩ <;>
      simp [System.step, System.leave, he, SameConfig]
  | cancel c t => exact ⟨rfl, rfl, rfl⟩

/-- **The breaker as a function of its history.** -/
structure HistoryInv (es : List Event) (b : CircuitBreaker) : Prop where
  failures_eq : b.failures = failuresSinceSuccess es
  closed_iff : b.state = .closed ↔ (b.failures : ℤ) < b.failureThreshold
  openedAt_eq : b.failureThreshold ≤ b.failures → lastFailure es = some b.openedAt
  /-- The breaker is half-open because somebody already came after the recovery period. -/
  probed : b.state = .halfOpen → ∃ e ∈ es, b.recoverySeconds ≤ e.time - b.openedAt

variable {es : List Event} {b : CircuitBreaker}

/-- An event that completes nothing leaves the history as it was. -/
theorem HistoryInv.quiet (h : HistoryInv es b) {e : Event}
    (hf : failuresSinceSuccess (es ++ [e]) = failuresSinceSuccess es) (hl : lastFailure (es ++ [e]) = lastFailure es) :
    HistoryInv (es ++ [e]) b :=
  ⟨hf ▸ h.failures_eq, h.closed_iff, fun hge => hl ▸ h.openedAt_eq hge,
    fun hs => (h.probed hs).imp fun _ he => ⟨List.mem_append_left _ he.1, he.2⟩⟩

theorem HistoryInv.begin (h : HistoryInv es b) (c : ℕ) (t : ℚ) : HistoryInv (es ++ [.begin c t]) (b.enter t).1 := by
  have hkeep : HistoryInv (es ++ [.begin c t]) b := h.quiet (failuresSinceSuccess_snoc es _) (lastFailure_snoc es _)
  rcases enter_cases b t with ⟨_, _, he⟩ | ⟨hs, ht, he⟩ | ⟨_, he⟩
  · rw [he]; exact hkeep
  · rw [he]
    refine ⟨hkeep.failures_eq, ?_, hkeep.openedAt_eq, fun _ => ⟨.begin c t, by simp, ht⟩⟩
    have hopen := h.closed_iff
    rw [hs] at hopen
    simpa using hopen
  · rw [he]; exact hkeep

theorem HistoryInv.succeed (hth : 1 ≤ b.failureThreshold) (c : ℕ) (t : ℚ) :
    HistoryInv (es ++ [.succeed c t]) b.onSuccess := by
  refine ⟨by rw [failuresSinceSuccess_snoc]; rfl, ?_, ?_, fun hs => ?_⟩
  · simp only [onSuccess, true_iff]; omega
  · intro hf
    simp only [onSuccess] at hf
    omega
  · simp [onSuccess] at hs

theorem HistoryInv.fail (h : HistoryInv es b) (c : ℕ) (t : ℚ) : HistoryInv (es ++ [.fail c t]) (b.onFailure t) := by
  have hcount : b.failures + 1 = failuresSinceSuccess (es ++ [.fail c t]) := by
    rw [failuresSinceSuccess_snoc, h.failures_eq]
  have hlast : lastFailure (es ++ [.fail c t]) = some t := by rw [lastFailure_snoc]
  rcases onFailure_cases b t with ⟨hopen, he⟩ | ⟨⟨hhalf, hlt⟩, he⟩
  · rw [he]
    refine ⟨hcount, ?_, fun _ => hlast, fun hs => by simp at hs⟩
    -- A half-open breaker already had its threshold of failures, so in both cases there are enough of them now.
    have hge : b.failureThreshold ≤ ((b.failures + 1 : ℕ) : ℤ) := by
      rcases hopen with hs | hge
      · have hnot : ¬ ((b.failures : ℤ) < b.failureThreshold) := fun hlt => by
          rw [h.closed_iff.mpr hlt] at hs
          cases hs
        omega
      · exact hge
    simp only [reduceCtorEq, false_iff, not_lt]
    exact hge
  · rw [he]
    have hclosed : b.state = .closed := h.closed_iff.mpr (by omega)
    refine ⟨hcount, by simpa [hclosed] using hlt, fun hf => ?_, fun hs => absurd hs hhalf⟩
    simp only at hf
    omega

/-- One step keeps the invariant. -/
theorem HistoryInv.step {s : System} (h : HistoryInv es s.breaker) (hth : 1 ≤ s.breaker.failureThreshold) (e : Event) :
    HistoryInv (es ++ [e]) (s.step e).1.breaker := by
  cases e with
  | begin c t =>
    have hb := h.begin c t
    rcases enter_cases s.breaker t with ⟨_, _, he⟩ | ⟨_, _, he⟩ | ⟨_, he⟩ <;>
      simpa only [System.step, he] using hb
  | succeed c t => exact HistoryInv.succeed hth c t
  | fail c t => exact h.fail c t
  | cancel c t => exact h.quiet (failuresSinceSuccess_snoc es _) (lastFailure_snoc es _)

/-! ## Runs -/

section Run

variable (name : String) (threshold : ℤ) (recovery : ℚ)

theorem run_sameConfig (s : System) : ∀ es, SameConfig s.breaker (machine.run s es).breaker := by
  intro es
  induction es using List.reverseRecOn with
  | nil => exact ⟨rfl, rfl, rfl⟩
  | append_singleton es e ih =>
    rw [machine.run_snoc]
    obtain ⟨h₁, h₂, h₃⟩ := step_sameConfig (machine.run s es) e
    exact ⟨h₁.trans ih.1, h₂.trans ih.2.1, h₃.trans ih.2.2⟩

/-- Every run keeps the invariant. -/
theorem run_historyInv (hth : 1 ≤ threshold) (es : List Event) :
    HistoryInv es (machine.run (initial name threshold recovery) es).breaker := by
  induction es using List.reverseRecOn with
  | nil =>
    refine ⟨rfl, ?_, fun hge => ?_, fun hs => by cases hs⟩
    · simp only [machine.run_nil, initial, true_iff]; omega
    · simp only [machine.run_nil, initial] at hge; omega
  | append_singleton es e ih =>
    rw [machine.run_snoc]
    refine ih.step ?_ e
    rw [(run_sameConfig (initial name threshold recovery) es).2.1]
    exact hth

/-- A call that begins at `t` is rejected exactly inside the recovery period of the last failure. -/
theorem HistoryInv.rejected_iff {s : System} (h : HistoryInv es s.breaker) {t : ℚ} (ht : ∀ e ∈ es, e.time ≤ t) (c : ℕ) :
    (s.step (.begin c t)).2 = .rejected ⟨s.breaker.name⟩ ↔
      s.breaker.failureThreshold ≤ s.breaker.failures ∧
        ∃ tf, lastFailure es = some tf ∧ t - tf < s.breaker.recoverySeconds := by
  rcases enter_cases s.breaker t with ⟨hs, hlt, he⟩ | ⟨hs, hge, he⟩ | ⟨hs, he⟩
  · have hfail : s.breaker.failureThreshold ≤ s.breaker.failures := by
      refine not_lt.mp fun hlt' => ?_
      rw [h.closed_iff.mpr hlt'] at hs
      cases hs
    simp only [System.step, he, true_iff]
    exact ⟨hfail, _, h.openedAt_eq hfail, hlt⟩
  · simp only [System.step, he, reduceCtorEq, false_iff]
    rintro ⟨hfail, tf, htf, hlt⟩
    rw [h.openedAt_eq hfail, Option.some.injEq] at htf
    subst htf
    exact absurd hge (not_le.mpr hlt)
  · simp only [System.step, he, reduceCtorEq, false_iff]
    rintro ⟨hfail, tf, htf, hlt⟩
    rw [h.openedAt_eq hfail, Option.some.injEq] at htf
    subst htf
    -- Not open and not closed: the probe that made the breaker half-open came after the recovery period.
    have hhalf : s.breaker.state = .halfOpen := by
      have hclosed : s.breaker.state ≠ .closed := fun hc => not_lt.mpr hfail (h.closed_iff.mp hc)
      cases hst : s.breaker.state
      · exact absurd hst hclosed
      · exact absurd hst hs
      · rfl
    obtain ⟨e, he', hle⟩ := h.probed hhalf
    have := ht e he'
    linarith

/-- **The breaker equals its history**, for every interleaving of overlapping calls: in every state a run reaches,
`failures` counts the failures since the last success, the breaker is closed iff they are below the threshold, and a
call that begins at a reading no earlier than the others is rejected iff there are enough of them and the last one is
less than `recovery` ago. -/
theorem breaker_equals_history (hth : 1 ≤ threshold) (es : List Event) :
    let s := machine.run (initial name threshold recovery) es
    s.breaker.failures = failuresSinceSuccess es ∧
      (s.breaker.state = .closed ↔ (s.breaker.failures : ℤ) < threshold) ∧
      ∀ c t, (∀ e ∈ es, e.time ≤ t) →
        ((s.step (.begin c t)).2 = .rejected ⟨name⟩ ↔
          threshold ≤ s.breaker.failures ∧ ∃ tf, lastFailure es = some tf ∧ t - tf < recovery) := by
  intro s
  have h : HistoryInv es s.breaker := run_historyInv name threshold recovery hth es
  have hconf : SameConfig (initial name threshold recovery).breaker s.breaker :=
    run_sameConfig (initial name threshold recovery) es
  have hname : s.breaker.name = name := hconf.1
  have hthr : s.breaker.failureThreshold = threshold := hconf.2.1
  have hrec : s.breaker.recoverySeconds = recovery := hconf.2.2
  refine ⟨h.failures_eq, hthr ▸ h.closed_iff, fun c t ht => ?_⟩
  rw [← hname, ← hthr, ← hrec]
  exact h.rejected_iff ht c

/-- A stale failure keeps an open breaker open: two calls overlap, both fail, and the third is turned away. -/
theorem overlapping_failures_equal_history :
    (1 : ℤ) ≤ 1 ∧
    (let s := machine.run (initial "up" 1 10) [.begin 0 0, .begin 1 0, .fail 0 1, .fail 1 5]
     s.breaker.failures = 2 ∧ (s.step (.begin 2 14)).2 = .rejected ⟨"up"⟩) := by
  have h := breaker_equals_history "up" 1 10 le_rfl [.begin 0 0, .begin 1 0, .fail 0 1, .fail 1 5]
  refine ⟨le_rfl, h.1, (h.2.2 2 14 (by decide +kernel)).mpr ⟨?_, 5, rfl, by norm_num⟩⟩
  rw [h.1]
  decide

end Run

/-! ## The recovery period -/

/-- In every state that `mid` passes through from `s`, a call that begins before `t + recovery` is rejected and its
`func` is not invoked. -/
def RejectsFrom (s : System) (t : ℚ) (mid : List Event) : Prop :=
  ∀ mid' c t', mid' <+: mid → (∀ e ∈ mid', e.time ≤ t') → t ≤ t' → t' < t + s.breaker.recoverySeconds →
    ((machine.run s mid').step (.begin c t')).2 = .rejected ⟨s.breaker.name⟩ ∧
      ((machine.run s mid').step (.begin c t')).1.inFlight = (machine.run s mid').inFlight

/-- Open since `t` or later. -/
def OpenSince (t : ℚ) (b : CircuitBreaker) : Prop := b.state = .opened ∧ t ≤ b.openedAt

theorem OpenSince.rejects {t : ℚ} {s : System} (h : OpenSince t s.breaker) (t' : ℚ)
    (ht : t' < t + s.breaker.recoverySeconds) (c : ℕ) : s.step (.begin c t') = (s, .rejected ⟨s.breaker.name⟩) := by
  obtain ⟨hs, hat⟩ := h
  rcases enter_cases s.breaker t' with ⟨_, _, he⟩ | ⟨_, hge, _⟩ | ⟨hs', _⟩
  · simp only [System.step, he]
  · linarith
  · exact absurd hs hs'

/-- Inside the recovery period only a success ends the opening. -/
theorem OpenSince.step {t : ℚ} {s : System} (h : OpenSince t s.breaker) {e : Event} (hte : t ≤ e.time)
    (het : e.time < t + s.breaker.recoverySeconds) (hs : ∀ c t', e ≠ .succeed c t') :
    OpenSince t (s.step e).1.breaker := by
  cases e with
  | begin c t' => rw [h.rejects t' het c]; exact h
  | succeed c t' => exact absurd rfl (hs c t')
  | fail c t' =>
    rcases onFailure_cases s.breaker t' with ⟨_, he⟩ | ⟨_, he⟩
    · simp only [System.step, System.leave, he]
      exact ⟨rfl, hte⟩
    · simp only [System.step, System.leave, he]
      exact h
  | cancel c t' => exact h

theorem OpenSince.run {t : ℚ} {s : System} (h : OpenSince t s.breaker) : ∀ {mid : List Event},
    (∀ e ∈ mid, t ≤ e.time ∧ e.time < t + s.breaker.recoverySeconds ∧ ∀ c t', e ≠ .succeed c t') →
      OpenSince t (machine.run s mid).breaker := by
  intro mid
  induction mid using List.reverseRecOn with
  | nil => intro _; exact h
  | append_singleton mid e ih =>
    intro hall
    rw [machine.run_snoc]
    obtain ⟨hte, het, hs⟩ := hall e (by simp)
    refine (ih fun e' he' => hall e' (List.mem_append_left _ he')).step hte ?_ hs
    rw [(run_sameConfig s mid).2.2]
    exact het

/-- The failure that opens the breaker does so at its own time. -/
theorem openSince_of_opening {s : System} {c : ℕ} {t : ℚ} (hbefore : s.breaker.state ≠ .opened)
    (hafter : (s.step (.fail c t)).1.breaker.state = .opened) : OpenSince t (s.step (.fail c t)).1.breaker := by
  refine ⟨hafter, ?_⟩
  rcases onFailure_cases s.breaker t with ⟨_, he⟩ | ⟨_, he⟩
  · simp only [System.step, System.leave, he]
    exact le_rfl
  · simp only [System.step, System.leave, he] at hafter
    exact absurd hafter hbefore

/-- After a success nobody is rejected. -/
theorem step_after_succeed (s : System) (c c' : ℕ) (t t' : ℚ) :
    ((s.step (.succeed c t)).1.step (.begin c' t')).2 = .admitted := by
  simp [System.step, System.leave, onSuccess, enter, maybeHalfOpen]

/-- If nothing succeeds inside the period, it is kept. -/
theorem OpenSince.rejectsFrom {s : System} {t : ℚ} {mid : List Event} (h : OpenSince t s.breaker)
    (hmid : ∀ e ∈ mid, t ≤ e.time)
    (hno : ∀ c t', Event.succeed c t' ∈ mid → t + s.breaker.recoverySeconds ≤ t') : RejectsFrom s t mid := by
  intro mid' c t' hpre hle htt' hlt
  have hall : ∀ e ∈ mid', t ≤ e.time ∧ e.time < t + s.breaker.recoverySeconds ∧ ∀ c t', e ≠ .succeed c t' := by
    intro e he
    have het : e.time < t + s.breaker.recoverySeconds := lt_of_le_of_lt (hle e he) hlt
    refine ⟨hmid e (hpre.subset he), het, fun c₁ t₁ h₁ => ?_⟩
    subst h₁
    exact absurd het (not_lt.mpr (hno c₁ t₁ (hpre.subset he)))
  obtain ⟨hname, _, hrec⟩ := run_sameConfig s mid'
  have hstep := (h.run hall).rejects t' (by rw [hrec]; exact hlt) c
  rw [hstep, hname]
  exact ⟨rfl, rfl⟩

/-- A success inside the period closes the breaker, and the next call is let through. -/
theorem RejectsFrom.no_success {s : System} {t : ℚ} {mid : List Event} (h : RejectsFrom s t mid)
    (hclock : NonDecreasing Event.time mid) (hmid : ∀ e ∈ mid, t ≤ e.time) {c : ℕ} {t' : ℚ}
    (hmem : Event.succeed c t' ∈ mid) : t + s.breaker.recoverySeconds ≤ t' := by
  refine not_lt.mp fun hlt => ?_
  obtain ⟨mid₁, mid₂, rfl⟩ := List.append_of_mem hmem
  have hle : ∀ e ∈ mid₁ ++ [Event.succeed c t'], e.time ≤ t' := by
    intro e he
    rcases List.mem_append.mp he with he | he
    · exact (List.pairwise_append.mp hclock).2.2 e he _ List.mem_cons_self
    · rw [List.mem_singleton.mp he]; exact le_rfl
  have hrej := (h (mid₁ ++ [.succeed c t']) 0 t' (by simp) hle (hmid _ hmem) hlt).1
  rw [machine.run_snoc] at hrej
  have hadm := step_after_succeed (machine.run s mid₁) c 0 t' t'
  cases hadm.symm.trans hrej

/-- **The recovery period is kept exactly when no success arrives inside it.** In any run, let a failure at `t` take the
breaker from closed or half-open to open. Every call that begins in `[t, t + recovery)`, at any point of the
continuation `mid`, is rejected if and only if no call that was still in flight succeeds before `t + recovery`. -/
theorem opened_rejects_iff (name : String) (threshold : ℤ) (recovery : ℚ) (pre mid : List Event) (c : ℕ) (t : ℚ)
    (hrun : IsRun (initial name threshold recovery) (pre ++ .fail c t :: mid))
    (hbefore : (machine.run (initial name threshold recovery) pre).breaker.state ≠ .opened)
    (hafter : (machine.run (initial name threshold recovery) (pre ++ [.fail c t])).breaker.state = .opened) :
    RejectsFrom (machine.run (initial name threshold recovery) (pre ++ [.fail c t])) t mid ↔
      ∀ c' t', Event.succeed c' t' ∈ mid → t + recovery ≤ t' := by
  obtain ⟨hmid, hclock⟩ := List.pairwise_cons.mp (List.pairwise_append.mp hrun.clock).2.1
  have hrec : (machine.run (initial name threshold recovery) (pre ++ [.fail c t])).breaker.recoverySeconds = recovery :=
    (run_sameConfig (initial name threshold recovery) _).2.2
  have hopen : OpenSince t (machine.run (initial name threshold recovery) (pre ++ [.fail c t])).breaker := by
    rw [machine.run_snoc] at hafter ⊢
    exact openSince_of_opening hbefore hafter
  constructor
  · intro hrej c' t' hmem
    have hle := hrej.no_success hclock hmid hmem
    rwa [hrec] at hle
  · intro hno
    refine hopen.rejectsFrom hmid fun c' t' hmem => ?_
    rw [hrec]
    exact hno c' t' hmem

/-- The failing interleaving: two calls overlap, the first opens the breaker, the second succeeds a second later. -/
theorem stale_success_reopens_breaker :
    let es : List Event := [.begin 0 0, .begin 1 0]
    let s := machine.run (initial "up" 1 10) (es ++ [.fail 0 1])
    IsRun (initial "up" 1 10) (es ++ .fail 0 1 :: [.succeed 1 2]) ∧
      (machine.run (initial "up" 1 10) es).breaker.state = .closed ∧ s.breaker.state = .opened ∧
      ((machine.run s [.succeed 1 2]).step (.begin 2 3)).2 = .admitted ∧ ¬ RejectsFrom s 1 [.succeed 1 2] := by
  intro es s
  refine ⟨⟨?_, by decide +kernel⟩, rfl, by decide +kernel, by decide +kernel, fun hrej => ?_⟩
  · simp [es, machine, Machine.Enabled, System.enabled, System.step, initial, enter, maybeHalfOpen, System.leave]
  · have hadm := (hrej [.succeed 1 2] 2 3 (List.prefix_refl _) (by decide +kernel) (by norm_num) (by decide +kernel)).1
    have : ((machine.run s [.succeed 1 2]).step (.begin 2 3)).2 = .admitted := by decide +kernel
    rw [this] at hadm
    cases hadm

/-- With the stale success arriving only after the period, the breaker rejects throughout. -/
theorem late_success_keeps_breaker_open :
    IsRun (initial "up" 1 10) ([.begin 0 0, .begin 1 0] ++ .fail 0 1 :: [.succeed 1 12]) ∧
      RejectsFrom (machine.run (initial "up" 1 10) ([.begin 0 0, .begin 1 0] ++ [.fail 0 1])) 1 [.succeed 1 12] := by
  have hrun : IsRun (initial "up" 1 10) ([.begin 0 0, .begin 1 0] ++ .fail 0 1 :: [.succeed 1 12]) := by
    refine ⟨?_, by decide +kernel⟩
    simp [machine, Machine.Enabled, System.enabled, System.step, initial, enter, maybeHalfOpen, System.leave]
  refine ⟨hrun, (opened_rejects_iff "up" 1 10 [.begin 0 0, .begin 1 0] [.succeed 1 12] 0 1 hrun (by decide +kernel)
    (by decide +kernel)).mpr ?_⟩
  intro c t hmem
  simp only [List.mem_singleton, Event.succeed.injEq] at hmem
  rw [hmem.2]
  norm_num

end CircuitBreaker

end SmartTravel
