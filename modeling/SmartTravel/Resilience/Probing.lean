import SmartTravel.Resilience.CircuitBreaker

/-!
# Probing

After the recovery period the next call turns the breaker half-open and is let through: it is the probe. The half-open
breaker does not remember that a probe is under way, and lets through whoever comes.

`SingleProbe` is what the docstring of the module promises of a run. A call that begins while a probe is under way is
turned away only if failures of older calls have opened the breaker again meanwhile, so this is exactly when a run keeps
the promise (`single_probe_iff`).
-/

namespace SmartTravel

namespace CircuitBreaker

open Runs

/-! ## Thresholds below one

A threshold of zero or less opens the breaker at the first failure, as a threshold of one does. -/

/-- The breaker with its threshold raised to one. -/
def clamp (b : CircuitBreaker) : CircuitBreaker := { b with failureThreshold := max 1 b.failureThreshold }

/-- The system with such a breaker. -/
def System.clamp (s : System) : System := ⟨s.breaker.clamp, s.inFlight⟩

theorem clamp_onFailure (b : CircuitBreaker) (t : ℚ) : b.clamp.onFailure t = (b.onFailure t).clamp := by
  have hiff : (max 1 b.failureThreshold ≤ ((b.failures + 1 : ℕ) : ℤ)) ↔
      (b.failureThreshold ≤ ((b.failures + 1 : ℕ) : ℤ)) := by omega
  unfold onFailure clamp
  simp only [ge_iff_le, hiff]
  split <;> rfl

theorem clamp_enter (b : CircuitBreaker) (t : ℚ) : b.clamp.enter t = ((b.enter t).1.clamp, (b.enter t).2) := by
  unfold enter maybeHalfOpen clamp
  simp only
  by_cases h : b.state = .opened ∧ t - b.openedAt ≥ b.recoverySeconds
  · simp only [if_pos h, reduceCtorEq, if_false]
  · simp only [if_neg h]
    split <;> rfl

theorem clamp_step (s : System) (e : Event) : s.clamp.step e = ((s.step e).1.clamp, (s.step e).2) := by
  cases e with
  | begin c t =>
    simp only [System.step, System.clamp, clamp_enter]
    cases hb : s.breaker.enter t with
    | mk b answer => cases answer <;> rfl
  | succeed c t => rfl
  | fail c t => simp only [System.step, System.clamp, System.leave, clamp_onFailure]
  | cancel c t => rfl

theorem clamp_run (s : System) : ∀ es : List Event, machine.run s.clamp es = (machine.run s es).clamp := by
  intro es
  induction es using List.reverseRecOn with
  | nil => rfl
  | append_singleton es e ih =>
    rw [machine.run_snoc, machine.run_snoc, ih]
    exact congrArg Prod.fst (clamp_step (machine.run s es) e)

section
variable (name : String) (threshold : ℤ) (recovery : ℚ)

/-- A call that begins at `t` is rejected exactly when enough failures have completed since the last success and the
last of them is less than the recovery period ago. -/
theorem rejected_iff_history (es : List Event) {t : ℚ} (ht : ∀ e ∈ es, e.time ≤ t) (c : ℕ) :
    ((machine.run (initial name threshold recovery) es).step (.begin c t)).2 = .rejected ⟨name⟩ ↔
      max 1 threshold ≤ failuresSinceSuccess es ∧ ∃ tf, lastFailure es = some tf ∧ t - tf < recovery := by
  have hclamp : (initial name threshold recovery).clamp = initial name (max 1 threshold) recovery := rfl
  have hhistory := breaker_equals_history name (max 1 threshold) recovery (le_max_left _ _) es
  rw [← hclamp, clamp_run] at hhistory
  obtain ⟨hfailures, -, hreject⟩ := hhistory
  rw [← hfailures, ← hreject c t ht, clamp_step]

end

/-! ## Probes -/

/-- A call that begins at `t` is the first after the recovery period. -/
def Probes (s : System) (t : ℚ) : Prop :=
  s.breaker.state = .opened ∧ s.breaker.recoverySeconds ≤ t - s.breaker.openedAt

instance (s : System) (t : ℚ) : Decidable (Probes s t) := inferInstanceAs (Decidable (_ ∧ _))

/-- The call has neither succeeded nor failed in these events. -/
def Pending (c : ℕ) (es : List Event) : Prop := ∀ t, .succeed c t ∉ es ∧ .fail c t ∉ es

/-- The call was let through by a half-open breaker and is in flight. -/
def HalfOpenInFlight (s₀ : System) (es : List Event) (c : ℕ) : Prop :=
  ∃ pre t mid, es = pre ++ .begin c t :: mid ∧ ((machine.run s₀ pre).step (.begin c t)).2 = .admitted ∧
    ((machine.run s₀ pre).step (.begin c t)).1.breaker.state = .halfOpen ∧
    ∀ t, .succeed c t ∉ mid ∧ .fail c t ∉ mid ∧ .cancel c t ∉ mid

/-- Whoever begins while a probe is unfinished is rejected. -/
def OthersRejected (s₀ : System) (es : List Event) : Prop :=
  ∀ pre c t mid c' t' post, es = pre ++ .begin c t :: mid ++ .begin c' t' :: post → Probes (machine.run s₀ pre) t →
    Pending c mid →
    ((machine.run s₀ (pre ++ .begin c t :: mid)).step (.begin c' t')).2 = .rejected ⟨s₀.breaker.name⟩

/-- **Recovery is probed by one call**: the first call after the recovery period is let through, whoever begins before
it has succeeded or failed is rejected, and at no time are two calls of a half-open breaker in flight. -/
structure SingleProbe (s₀ : System) (es : List Event) : Prop where
  probe_admitted : ∀ pre c t post, es = pre ++ .begin c t :: post → Probes (machine.run s₀ pre) t →
    ((machine.run s₀ pre).step (.begin c t)).2 = .admitted
  others_rejected : OthersRejected s₀ es
  one_in_flight : ∀ pre post, es = pre ++ post →
    ∀ c c', HalfOpenInFlight s₀ pre c → HalfOpenInFlight s₀ pre c' → c = c'

theorem Probes.admitted {s : System} {t : ℚ} (h : Probes s t) (c : ℕ) : (s.step (.begin c t)).2 = .admitted := by
  rcases enter_cases s.breaker t with ⟨_, hlt, _⟩ | ⟨_, _, he⟩ | ⟨hs, _⟩
  · exact absurd h.2 (not_le.mpr hlt)
  · simp only [System.step, he]
  · exact absurd h.1 hs

/-- A half-open breaker was turned so by a probe, and nothing has completed since. -/
theorem exists_probe_of_halfOpen {s₀ : System} (h₀ : s₀.breaker.state ≠ .halfOpen) : ∀ {es : List Event},
    (machine.run s₀ es).breaker.state = .halfOpen →
    ∃ pre c t mid, es = pre ++ .begin c t :: mid ∧ Probes (machine.run s₀ pre) t ∧
      ∀ c' t', .succeed c' t' ∉ mid ∧ .fail c' t' ∉ mid := by
  intro es
  induction es using List.reverseRecOn with
  | nil => intro h; exact absurd h h₀
  | append_singleton es e ih =>
    intro h
    rw [machine.run_snoc] at h
    -- Unless this event is itself the probe, the breaker was half-open before and the event completes nothing.
    have hbefore : (machine.run s₀ es).breaker.state = .halfOpen → (∀ c t, e ≠ .succeed c t ∧ e ≠ .fail c t) →
        ∃ pre c t mid, es ++ [e] = pre ++ .begin c t :: mid ∧ Probes (machine.run s₀ pre) t ∧
          ∀ c' t', .succeed c' t' ∉ mid ∧ .fail c' t' ∉ mid := by
      intro hhalf hquiet
      obtain ⟨pre, c, t, mid, rfl, hprobe, hmid⟩ := ih hhalf
      refine ⟨pre, c, t, mid ++ [e], by simp, hprobe, fun c' t' => ?_⟩
      rw [List.mem_append, List.mem_append, List.mem_singleton, List.mem_singleton, not_or, not_or]
      exact ⟨⟨(hmid c' t').1, (hquiet c' t').1.symm⟩, (hmid c' t').2, (hquiet c' t').2.symm⟩
    have hstep : (machine.step (machine.run s₀ es) e).1 = ((machine.run s₀ es).step e).1 := rfl
    rw [hstep] at h
    cases e with
    | begin c t =>
      rcases enter_cases (machine.run s₀ es).breaker t with ⟨hs, _, he⟩ | ⟨hs, hge, _⟩ | ⟨_, he⟩
      · simp only [System.step, he, hs] at h
        cases h
      · exact ⟨es, c, t, [], rfl, ⟨hs, hge⟩, fun _ _ => ⟨List.not_mem_nil, List.not_mem_nil⟩⟩
      · simp only [System.step, he] at h
        exact hbefore h fun _ _ => ⟨by simp, by simp⟩
    | succeed c t => cases h
    | fail c t =>
      rcases onFailure_cases (machine.run s₀ es).breaker t with ⟨_, he⟩ | ⟨⟨hno, _⟩, he⟩
      · simp only [System.step, System.leave, he] at h
        cases h
      · simp only [System.step, System.leave, he] at h
        exact absurd h hno
    | cancel c t => exact hbefore h fun _ _ => ⟨by simp, by simp⟩

/-! ## When a run keeps the promise -/

/-- Enough calls have failed since the last success, the last of them less than the recovery period before `t`. -/
def RecentFailures (threshold : ℤ) (recovery : ℚ) (es : List Event) (t : ℚ) : Prop :=
  max 1 threshold ≤ failuresSinceSuccess es ∧ ∃ tf, lastFailure es = some tf ∧ t - tf < recovery

/-- Whoever begins while a probe is unfinished begins shortly after the failure of an older call. -/
def ProbesCovered (threshold : ℤ) (recovery : ℚ) (s₀ : System) (es : List Event) : Prop :=
  ∀ pre c t mid c' t' post, es = pre ++ .begin c t :: mid ++ .begin c' t' :: post → Probes (machine.run s₀ pre) t →
    Pending c mid → RecentFailures threshold recovery (pre ++ .begin c t :: mid) t'

/-- Where the others are rejected, a call let through by a half-open breaker is the probe itself. -/
theorem OthersRejected.probes {s₀ : System} (h₀ : s₀.breaker.state ≠ .halfOpen) {pre post : List Event} {c : ℕ} {t : ℚ}
    (h : OthersRejected s₀ (pre ++ .begin c t :: post))
    (hadm : ((machine.run s₀ pre).step (.begin c t)).2 = .admitted)
    (hhalf : ((machine.run s₀ pre).step (.begin c t)).1.breaker.state = .halfOpen) : Probes (machine.run s₀ pre) t := by
  have hrun : (machine.run s₀ (pre ++ [.begin c t])).breaker.state = .halfOpen := by
    rw [machine.run_snoc]
    exact hhalf
  obtain ⟨pre', d, td, mid, heq, hprobe, hquiet⟩ := exists_probe_of_halfOpen h₀ hrun
  rcases List.eq_nil_or_concat mid with rfl | ⟨mid', e, rfl⟩
  · obtain ⟨rfl, hlast⟩ := List.append_inj' heq rfl
    cases hlast
    exact hprobe
  · -- The probe came earlier and is not finished: this call was rejected.
    have hsplit : pre ++ [.begin c t] = (pre' ++ .begin d td :: mid') ++ [e] := by simpa using heq
    obtain ⟨rfl, hlast⟩ := List.append_inj' hsplit rfl
    cases hlast
    have hpending : Pending d mid' := fun t' =>
      ⟨fun hm => (hquiet d t').1 (by simp [hm]), fun hm => (hquiet d t').2 (by simp [hm])⟩
    have hrej := h pre' d td mid' c t post rfl hprobe hpending
    cases hadm.symm.trans hrej

/-- Where the others are rejected, nobody begins beside a call of a half-open breaker. -/
theorem OthersRejected.not_admitted {s₀ : System} (h₀ : s₀.breaker.state ≠ .halfOpen) {pre mid rest post : List Event}
    {c c' : ℕ} {t t' : ℚ} (h : OthersRejected s₀ (pre ++ .begin c t :: (mid ++ .begin c' t' :: rest) ++ post))
    (hadm : ((machine.run s₀ pre).step (.begin c t)).2 = .admitted)
    (hhalf : ((machine.run s₀ pre).step (.begin c t)).1.breaker.state = .halfOpen)
    (hlater : ∀ u, .succeed c u ∉ mid ++ .begin c' t' :: rest ∧ .fail c u ∉ mid ++ .begin c' t' :: rest ∧
      .cancel c u ∉ mid ++ .begin c' t' :: rest) :
    ((machine.run s₀ (pre ++ .begin c t :: mid)).step (.begin c' t')).2 ≠ .admitted := by
  intro hadm'
  have hpending : Pending c mid := fun u =>
    ⟨fun hm => (hlater u).1 (List.mem_append_left _ hm), fun hm => (hlater u).2.1 (List.mem_append_left _ hm)⟩
  have hprobe : OthersRejected s₀ (pre ++ .begin c t :: (mid ++ .begin c' t' :: (rest ++ post))) := by simpa using h
  have hrej := h pre c t mid c' t' (rest ++ post) (by simp) (hprobe.probes h₀ hadm hhalf) hpending
  cases hadm'.symm.trans hrej

/-- So at most one such call is in flight. -/
theorem OthersRejected.one_in_flight {s₀ : System} (h₀ : s₀.breaker.state ≠ .halfOpen) {pre post : List Event}
    (h : OthersRejected s₀ (pre ++ post)) {c c' : ℕ} (hc : HalfOpenInFlight s₀ pre c)
    (hc' : HalfOpenInFlight s₀ pre c') : c = c' := by
  obtain ⟨p₁, t₁, m₁, rfl, hadm₁, hhalf₁, hm₁⟩ := hc
  obtain ⟨p₂, t₂, m₂, heq, hadm₂, hhalf₂, hm₂⟩ := hc'
  -- Whichever of the two began later would have been rejected.
  rcases List.append_eq_append_iff.mp heq with ⟨k, rfl, hk⟩ | ⟨k, rfl, hk⟩
  · cases k with
    | nil => cases hk; rfl
    | cons e k =>
      obtain ⟨rfl, rfl⟩ := List.cons.inj hk
      exact absurd hadm₂ (h.not_admitted h₀ hadm₁ hhalf₁ hm₁)
  · cases k with
    | nil => cases hk; rfl
    | cons e k =>
      obtain ⟨rfl, rfl⟩ := List.cons.inj hk
      rw [heq] at h
      exact absurd hadm₁ (h.not_admitted h₀ hadm₂ hhalf₂ hm₂)

/-- Nobody beside a probe is let through exactly when older failures cover it. -/
theorem othersRejected_iff (name : String) (threshold : ℤ) (recovery : ℚ) {es : List Event}
    (hclock : NonDecreasing Event.time es) :
    OthersRejected (initial name threshold recovery) es ↔
      ProbesCovered threshold recovery (initial name threshold recovery) es := by
  have hiff : ∀ (before : List Event) (c' : ℕ) (t' : ℚ) (post : List Event), es = before ++ .begin c' t' :: post →
      (((machine.run (initial name threshold recovery) before).step (.begin c' t')).2 = .rejected ⟨name⟩ ↔
        RecentFailures threshold recovery before t') := by
    intro before c' t' post heq
    subst heq
    have hle : ∀ e ∈ before, e.time ≤ t' := fun e he =>
      (List.pairwise_append.mp hclock).2.2 e he _ List.mem_cons_self
    exact rejected_iff_history name threshold recovery before hle c'
  constructor
  · intro h pre c t mid c' t' post heq hprobe hpending
    exact (hiff _ c' t' post heq).mp (h pre c t mid c' t' post heq hprobe hpending)
  · intro h pre c t mid c' t' post heq hprobe hpending
    exact (hiff _ c' t' post heq).mpr (h pre c t mid c' t' post heq hprobe hpending)

/-- **A run probes with one call exactly when older failures cover every probe.** In every run of a fresh breaker the
first call after the recovery period is let through, the others are rejected while it is under way and at most one call
of a half-open breaker is in flight, if and only if every call that begins while a probe is unfinished comes less than
`recovery` after a failure, with the threshold of failures since the last success. -/
theorem single_probe_iff (name : String) (threshold : ℤ) (recovery : ℚ) (es : List Event)
    (hrun : IsRun (initial name threshold recovery) es) :
    SingleProbe (initial name threshold recovery) es ↔
      ProbesCovered threshold recovery (initial name threshold recovery) es := by
  rw [← othersRejected_iff name threshold recovery hrun.clock]
  constructor
  · intro h
    exact h.others_rejected
  · intro h
    have h₀ : (initial name threshold recovery).breaker.state ≠ .halfOpen := by
      show CircuitState.closed ≠ .halfOpen
      decide
    refine ⟨fun pre c t post _ hprobe => hprobe.admitted c, h, fun pre post heq c c' hc hc' => ?_⟩
    subst heq
    exact h.one_in_flight h₀ hc hc'

/-- The failing interleaving: the call that opened the breaker is long gone, two calls come together after the recovery
period, and both are let through. -/
theorem two_calls_probe :
    let es : List Event := [.begin 0 0, .fail 0 0, .begin 1 10, .begin 2 10]
    IsRun (initial "up" 1 10) es ∧
      ((machine.run (initial "up" 1 10) [.begin 0 0, .fail 0 0]).step (.begin 1 10)).2 = .admitted ∧
      ((machine.run (initial "up" 1 10) [.begin 0 0, .fail 0 0, .begin 1 10]).step (.begin 2 10)).2 = .admitted ∧
      ¬ SingleProbe (initial "up" 1 10) es := by
  intro es
  have hadm : ((machine.run (initial "up" 1 10) [.begin 0 0, .fail 0 0, .begin 1 10]).step (.begin 2 10)).2 =
      .admitted := by decide +kernel
  refine ⟨⟨?_, by decide +kernel⟩, by decide +kernel, hadm, fun h => ?_⟩
  · simp [es, machine, Machine.Enabled, System.enabled, System.step, initial, enter, maybeHalfOpen, System.leave,
      onFailure]
  · have hrej := h.others_rejected [.begin 0 0, .fail 0 0] 1 10 [] 2 10 [] rfl (by decide +kernel)
      fun _ => ⟨List.not_mem_nil, List.not_mem_nil⟩
    cases hadm.symm.trans hrej

/-- A probe that an older failure covers: call 1 was in flight when the breaker opened, fails while the probe 2 is under
way, and 3 is turned away. -/
theorem older_failure_covers_probe :
    let es : List Event := [.begin 0 0, .begin 1 0, .fail 0 0, .begin 2 10, .fail 1 11, .begin 3 12]
    IsRun (initial "up" 1 10) es ∧ Probes (machine.run (initial "up" 1 10) [.begin 0 0, .begin 1 0, .fail 0 0]) 10 ∧
      SingleProbe (initial "up" 1 10) es := by
  intro es
  have hrun : IsRun (initial "up" 1 10) es := by
    refine ⟨?_, by decide +kernel⟩
    simp [es, machine, Machine.Enabled, System.enabled, System.step, initial, enter, maybeHalfOpen, System.leave,
      onFailure]
  refine ⟨hrun, by decide +kernel, (single_probe_iff "up" 1 10 es hrun).mpr ?_⟩
  intro pre c t mid c' t' post heq hprobe _
  -- The breaker is closed when 0 and 1 begin, so the probe is 2, and only 3 begins after it.
  rcases pre with _ | ⟨e₁, _ | ⟨e₂, _ | ⟨e₃, _ | ⟨e₄, pre⟩⟩⟩⟩ <;>
    simp only [es, List.nil_append, List.cons_append, List.cons.injEq, Event.begin.injEq, reduceCtorEq, false_and,
      and_false] at heq
  · cases hprobe.1
  · obtain ⟨rfl, -⟩ := heq
    cases hprobe.1
  · obtain ⟨rfl, rfl, rfl, ⟨rfl, rfl⟩, hmid⟩ := heq
    rcases mid with _ | ⟨e, _ | ⟨e', mid⟩⟩ <;>
      simp only [List.nil_append, List.cons_append, List.cons.injEq, reduceCtorEq, false_and,
        Event.begin.injEq] at hmid
    · obtain ⟨rfl, ⟨rfl, rfl⟩, -⟩ := hmid
      exact ⟨by decide, 11, rfl, by norm_num⟩
    · exact absurd hmid.2.2 (by simp)
  · obtain ⟨-, -, -, -, hrest⟩ := heq
    cases pre with
    | nil => cases hrest
    | cons e pre =>
      have hlen := congrArg List.length hrest
      simp only [List.length_cons, List.length_append, List.length_nil] at hlen
      omega

end CircuitBreaker

end SmartTravel
