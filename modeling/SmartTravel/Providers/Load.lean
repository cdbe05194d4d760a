import Mathlib.Algebra.Order.BigOperators.Group.Finset
import Mathlib.Data.Rat.Floor
import Mathlib.Tactic.Ring
import SmartTravel.Providers.Retry

/-!
# The load on an upstream that is down

Retries multiply the requests that a failing upstream receives, the circuit breaker cuts them off. This module bounds
what is left of them, for any overlapping calls of `get_json` to any providers: of one provider a call is seen as the
number of requests it has `spent`, and an event does one of a few things to the breaker and the calls of that provider
(`LoadStep`, `loadStep`).

In a run in which the upstream never answers with a payload, the breaker goes through periods: it is closed until enough
calls failed, and each time that it lets calls through again the recovery time has passed since the last failure. What
one period lets through is in flight together, so that a bound on the calls in flight bounds the failures of the period
(`LoadInv`).
-/

namespace SmartTravel

open Py Runs

/-- When the event happens. -/
def HttpEvent.time : HttpEvent → ℚ
  | .start _ t _ | .enter _ t | .attempt _ t _ | .settle _ t | .store _ t | .cancel _ t => t

section
variable (env : HttpEnv) (p : ProviderName)

/-- The most requests that a call makes. -/
def HttpEnv.attempts : ℕ := ((env.client p).maxRetries + 1).toNat

namespace HttpState

variable (s : HttpState)

/-- The requests that a call to the provider has made, if the breaker let it through and it is under way; all of them,
once it is about to report to the breaker. -/
def spent (c : ℕ) : Option ℕ :=
  match s.phase c with
  | .attempting r n => if r.provider = p then some n else none
  | .settling r _ => if r.provider = p then some (env.attempts p) else none
  | _ => none

/-- A request is sent to the provider. -/
def sends : HttpEvent → Bool
  | .attempt c _ _ =>
    match s.phase c with
    | .attempting r _ => r.provider = p
    | _ => false
  | _ => false

/-- A call to the provider that the breaker let through is cancelled. -/
def cancels : HttpEvent → Bool
  | .cancel c _ => (s.spent env p c).isSome
  | _ => false

/-- No more than so many calls to the provider are under way. -/
def AtMost (cap : ℕ) : Prop := ∀ calls : Finset ℕ, (∀ c ∈ calls, (s.spent env p c).isSome) → calls.card ≤ cap

/-- The upstream is down: it gives no payload to a call to the provider. -/
def Down : HttpEvent → Prop
  | .attempt c _ reply => ∀ r n, s.phase c = .attempting r n → r.provider = p → ∀ payload, reply.payload ≠ .ok payload
  | _ => True

/-- No call to the provider makes more attempts than it may, and none holds a payload. -/
structure Failing : Prop where
  inRange : ∀ c r n, s.phase c = .attempting r n → r.provider = p → n < env.attempts p
  noPayload : ∀ c r payload, s.phase c = .settling r (.ok payload) → r.provider ≠ p

end HttpState

/-! ## One event -/

/-- **What an event does to the load**: nothing, also when a call is turned away; a call is let through; a call makes a
request; one fails or is cancelled. -/
inductive LoadStep (s : HttpState) (e : HttpEvent) (s' : HttpState) : Prop
  | quiet (hbreaker : s'.breaker p = s.breaker p) (hspent : s'.spent env p = s.spent env p)
      (hsends : s.sends p e = false) (hcancels : s.cancels env p e = false)
  | admitted (n : ℕ) (hbreaker : (s.breaker p).enter e.time = (s'.breaker p, .ok ()))
      (hnew : s.spent env p e.call = none) (hmost : n ≤ env.attempts p)
      (hspent : s'.spent env p = Function.update (s.spent env p) e.call (some n))
      (hsends : s.sends p e = false) (hcancels : s.cancels env p e = false)
  | sent (n n' : ℕ) (hbreaker : s'.breaker p = s.breaker p) (hbefore : s.spent env p e.call = some n) (hmore : n < n')
      (hmost : n' ≤ env.attempts p)
      (hspent : s'.spent env p = Function.update (s.spent env p) e.call (some n'))
      (hcancels : s.cancels env p e = false)
  | failed (n : ℕ) (hbreaker : s'.breaker p = (s.breaker p).onFailure e.time)
      (hbefore : s.spent env p e.call = some n)
      (hspent : s'.spent env p = Function.update (s.spent env p) e.call none)
      (hsends : s.sends p e = false) (hcancels : s.cancels env p e = false)
  | cancelled (n : ℕ) (hbreaker : s'.breaker p = s.breaker p) (hbefore : s.spent env p e.call = some n)
      (hspent : s'.spent env p = Function.update (s.spent env p) e.call none)
      (hsends : s.sends p e = false) (hcancels : s.cancels env p e = true)

variable {env p}

/-- How moving a call on changes what the calls have spent. -/
theorem spent_setPhase {s s₁ : HttpState} (hphase : s₁.phase = s.phase) (c : ℕ) (phase : Phase) :
    (s₁.setPhase c phase).spent env p = Function.update (s.spent env p) c
      (match phase with
        | .attempting r n => if r.provider = p then some n else none
        | .settling r _ => if r.provider = p then some (env.attempts p) else none
        | _ => none) := by
  funext c'
  by_cases hc : c' = c
  · subst hc
    simp only [HttpState.spent, HttpState.setPhase, Function.update_self]
  · simp only [HttpState.spent, HttpState.setPhase, Function.update_of_ne hc, hphase]

theorem spent_done (s : HttpState) (c : ℕ) : (s.setPhase c .done).spent env p c = none := by
  simp only [HttpState.spent, HttpState.setPhase, Function.update_self]

/-- An event of a call that is not under way sends no request and cancels nothing. -/
theorem sends_of_spent_none {s : HttpState} {e : HttpEvent} (h : s.spent env p e.call = none) :
    s.sends p e = false ∧ s.cancels env p e = false := by
  cases e with
  | attempt c t reply =>
    refine ⟨?_, rfl⟩
    simp only [HttpEvent.call, HttpState.spent] at h
    simp only [HttpState.sends]
    split
    · rename_i r n hc
      rw [hc] at h
      simpa using h
    · rfl
  | cancel c t => exact ⟨rfl, Option.isSome_eq_false_iff.mpr (Option.isNone_iff_eq_none.mpr h)⟩
  | _ => exact ⟨rfl, rfl⟩

/-- An event that neither begins nor ends a call under way. -/
theorem LoadStep.of_none {s s₁ : HttpState} {e : HttpEvent} {phase : Phase} (hbefore : s.spent env p e.call = none)
    (hphase : s₁.phase = s.phase) (hbreaker : s₁.breaker p = s.breaker p)
    (hafter : (s₁.setPhase e.call phase).spent env p e.call = none) :
    LoadStep env p s e (s₁.setPhase e.call phase) := by
  obtain ⟨hsends, hcancels⟩ := sends_of_spent_none hbefore
  refine .quiet hbreaker ?_ hsends hcancels
  rw [spent_setPhase hphase] at hafter ⊢
  rw [Function.update_self] at hafter
  rw [hafter, ← hbefore, Function.update_eq_self]

/-- A call that is not under way at this provider. -/
theorem spent_eq_none {s : HttpState} {c : ℕ} (h : ∀ r, (s.phase c).request = some r → r.provider ≠ p) :
    s.spent env p c = none := by
  unfold HttpState.spent
  split
  · rename_i r n hc
    rw [hc] at h
    exact if_neg (h r rfl)
  · rename_i r result hc
    rw [hc] at h
    exact if_neg (h r rfl)
  · rfl

/-- The events of a call to another provider. -/
theorem LoadStep.of_other {s s₁ : HttpState} {e : HttpEvent} {r : GetJson} {phase : Phase} (hp : r.provider ≠ p)
    (hr : (s.phase e.call).request = some r) (hphase : s₁.phase = s.phase) (hbreaker : s₁.breaker p = s.breaker p)
    (hnext : ∀ r', phase.request = some r' → r' = r) : LoadStep env p s e (s₁.setPhase e.call phase) := by
  have hsame : ∀ r', (s.phase e.call).request = some r' → r'.provider ≠ p := by
    intro r' h
    rw [hr] at h
    cases h
    exact hp
  refine .of_none (spent_eq_none hsame) hphase hbreaker (spent_eq_none fun r' h => ?_)
  rw [HttpState.setPhase_phase, if_pos rfl] at h
  rw [hnext r' h]
  exact hp

/-- The start of a call is of no account: nothing is asked of the upstream yet. -/
theorem loadStep_start {s : HttpState} {c : ℕ} {t : ℚ} {r : GetJson} (hidle : s.phase c = .idle) :
    LoadStep env p s (.start c t r) (s.start env c t r).1 := by
  have hbefore : s.spent env p c = none := by simp only [HttpState.spent, hidle]
  have hnext : ∀ {s₁ : HttpState} {phase : Phase}, phase = .done ∨ phase = .entering r → s₁.phase = s.phase →
      s₁.breaker p = s.breaker p → LoadStep env p s (.start c t r) (s₁.setPhase c phase) := by
    intro s₁ phase hphase hsame hbreaker
    refine .of_none hbefore hsame hbreaker ?_
    rw [spent_setPhase hsame]
    rcases hphase with rfl | rfl <;> exact Function.update_self ..
  unfold HttpState.start
  split
  · exact hnext (.inr rfl) rfl rfl
  · split
    · exact hnext (.inr rfl) rfl rfl
    · split
      · exact hnext (.inl rfl) rfl rfl
      · exact hnext (.inl rfl) rfl rfl

theorem breaker_setBreaker_of_ne {s : HttpState} {q : ProviderName} (h : q ≠ p) (b : CircuitBreaker) :
    (s.setBreaker q b).breaker p = s.breaker p := by
  simp only [HttpState.setBreaker, Function.update_of_ne h.symm]

theorem breaker_setBreaker_self {s : HttpState} (b : CircuitBreaker) : (s.setBreaker p b).breaker p = b := by
  simp only [HttpState.setBreaker, Function.update_self]

/-- A breaker that turns a call away stays as it is. -/
theorem eq_of_enter_error {b b' : CircuitBreaker} {t : ℚ} {error : CircuitBreakerOpen}
    (h : b.enter t = (b', .error error)) : b' = b := by
  rcases CircuitBreaker.enter_cases b t with ⟨_, _, he⟩ | ⟨_, _, he⟩ | ⟨_, he⟩
  · rw [he] at h
    exact (Prod.mk.inj h).1.symm
  · rw [he] at h
    cases (Prod.mk.inj h).2
  · rw [he] at h
    cases (Prod.mk.inj h).2

/-- A call is let through or turned away. -/
theorem loadStep_enter {s : HttpState} {c : ℕ} {t : ℚ} {r : GetJson} (hc : s.phase c = .entering r) :
    LoadStep env p s (.enter c t) (s.enter env c t r).1 := by
  have hbefore : s.spent env p c = none := by simp only [HttpState.spent, hc]
  have hr : (s.phase c).request = some r := by rw [hc]; rfl
  by_cases hp : r.provider = p
  · subst hp
    unfold HttpState.enter
    rcases henter : (s.breaker r.provider).enter t with ⟨b, error | ⟨⟩⟩
    · refine .of_none hbefore rfl ?_ (spent_done _ c)
      rw [breaker_setBreaker_self, eq_of_enter_error henter]
    · have hthrough : ∀ (phase : Phase) (n : ℕ), n ≤ env.attempts r.provider →
          (s.setPhase c phase).spent env r.provider = Function.update (s.spent env r.provider) c (some n) →
          LoadStep env r.provider s (.enter c t) ((s.setBreaker r.provider b).setPhase c phase) := by
        intro phase n hmost hspent
        refine .admitted n ?_ hbefore hmost hspent rfl rfl
        refine henter.trans (congrArg (·, Except.ok ()) ?_)
        exact (breaker_setBreaker_self b).symm
      simp only
      split
      · refine hthrough _ (env.attempts r.provider) le_rfl ((spent_setPhase rfl c _).trans ?_)
        simp only [if_true]
      · refine hthrough _ 0 (Nat.zero_le _) ((spent_setPhase rfl c _).trans ?_)
        simp only [if_true]
  · unfold HttpState.enter
    split
    · exact .of_other hp hr rfl (breaker_setBreaker_of_ne hp _) fun _ h => by cases h
    · split
      · exact .of_other hp hr rfl (breaker_setBreaker_of_ne hp _) fun _ h => by cases h; rfl
      · exact .of_other hp hr rfl (breaker_setBreaker_of_ne hp _) fun _ h => by cases h; rfl

/-- A request is sent; whatever follows, the call has spent more. -/
theorem loadStep_attempt {s : HttpState} (hs : s.Failing env p) {c : ℕ} {t : ℚ} {reply : Upstream} {r : GetJson}
    {n : ℕ} (hc : s.phase c = .attempting r n) :
    LoadStep env p s (.attempt c t reply) (s.attempt env c r n reply).1 := by
  have hr : (s.phase c).request = some r := by rw [hc]; rfl
  by_cases hp : r.provider = p
  · have hbefore : s.spent env p c = some n := by simp only [HttpState.spent, hc, if_pos hp]
    unfold HttpState.attempt
    simp only
    split
    · refine .sent n (env.attempts p) rfl hbefore (hs.inRange c r n hc hp) le_rfl ?_ rfl
      refine (spent_setPhase (s := s) rfl c _).trans ?_
      simp only [if_pos hp]
      rfl
    · refine .sent n (n + 1) rfl hbefore (Nat.lt_succ_self n) (hs.inRange c r n hc hp) ?_ rfl
      refine (spent_setPhase (s := s) rfl c _).trans ?_
      simp only [if_pos hp]
      rfl
  · unfold HttpState.attempt
    simp only
    split
    · exact .of_other hp hr rfl rfl fun _ h => by cases h; rfl
    · exact .of_other hp hr rfl rfl fun _ h => by cases h; rfl

/-- A call reports to the breaker; at this provider, that it failed. -/
theorem loadStep_settle {s : HttpState} (hs : s.Failing env p) {c : ℕ} {t : ℚ} {r : GetJson}
    {result : Except HttpError Json} (hc : s.phase c = .settling r result) :
    LoadStep env p s (.settle c t) (s.settle env c t r result).1 := by
  have hr : (s.phase c).request = some r := by rw [hc]; rfl
  cases result with
  | error error =>
    by_cases hp : r.provider = p
    · subst hp
      refine .failed (env.attempts r.provider) (breaker_setBreaker_self _) ?_ (spent_setPhase rfl c _) rfl rfl
      simp only [HttpEvent.call, HttpState.spent, hc, if_true]
    · exact .of_other hp hr rfl (breaker_setBreaker_of_ne hp _) fun _ h => by cases h
  | ok payload =>
    have hp : r.provider ≠ p := hs.noPayload c r payload hc
    unfold HttpState.settle
    simp only
    split
    · exact .of_other hp hr rfl (breaker_setBreaker_of_ne hp _) fun _ h => by cases h
    · exact .of_other hp hr rfl (breaker_setBreaker_of_ne hp _) fun _ h => by cases h; rfl

/-- The end of a call that has its payload. -/
theorem loadStep_store {s : HttpState} {c : ℕ} {t : ℚ} {r : GetJson} {payload : Json}
    (hc : s.phase c = .storing r payload) : LoadStep env p s (.store c t) (s.store env c t r payload).1 := by
  have hbefore : s.spent env p c = none := by simp only [HttpState.spent, hc]
  unfold HttpState.store
  split
  · exact .of_none hbefore rfl rfl (spent_done _ c)
  · exact .of_none hbefore rfl rfl (spent_done _ c)

/-- A cancelled call is under way no more. -/
theorem loadStep_cancel (s : HttpState) (c : ℕ) (t : ℚ) : LoadStep env p s (.cancel c t) (s.setPhase c .done) := by
  cases hbefore : s.spent env p c with
  | none => exact .of_none hbefore rfl rfl (spent_done _ c)
  | some n => exact .cancelled n rfl hbefore (spent_setPhase rfl c _) rfl (by rw [HttpState.cancels, hbefore]; rfl)

/-- An event that its call does not wait for. -/
theorem LoadStep.ignored {s : HttpState} {e : HttpEvent} (hsends : s.sends p e = false)
    (hcancels : s.cancels env p e = false) : LoadStep env p s e s := .quiet rfl rfl hsends hcancels

/-- **Every event does what `LoadStep` allows**, as long as the calls are failing. -/
theorem loadStep {s : HttpState} (hs : s.Failing env p) (e : HttpEvent) : LoadStep env p s e (s.step env e).1 := by
  cases e with
  | start c t r =>
    simp only [HttpState.step]
    split
    · exact loadStep_start ‹_›
    · exact .ignored rfl rfl
  | enter c t =>
    simp only [HttpState.step]
    split
    · exact loadStep_enter ‹_›
    · exact .ignored rfl rfl
  | attempt c t reply =>
    simp only [HttpState.step]
    split
    · exact loadStep_attempt hs ‹_›
    · exact .ignored (by simp only [HttpState.sends]) rfl
  | settle c t =>
    simp only [HttpState.step]
    split
    · exact loadStep_settle hs ‹_›
    · exact .ignored rfl rfl
  | store c t =>
    simp only [HttpState.step]
    split
    · exact loadStep_store ‹_›
    · exact .ignored rfl rfl
  | cancel c t =>
    simp only [HttpState.step]
    split
    · exact .ignored rfl (by simp only [HttpState.cancels, HttpState.spent, ‹s.phase c = _›]; rfl)
    · exact .ignored rfl (by simp only [HttpState.cancels, HttpState.spent, ‹s.phase c = _›]; rfl)
    · exact loadStep_cancel s c t

/-- The calls of an upstream that is down keep failing. -/
theorem HttpState.Failing.of_setPhase {s s₁ : HttpState} (hs : s.Failing env p) (hphase : s₁.phase = s.phase) {c : ℕ}
    {phase : Phase} (hinRange : ∀ r n, phase = .attempting r n → r.provider = p → n < env.attempts p)
    (hnoPayload : ∀ r payload, phase = .settling r (.ok payload) → r.provider ≠ p) :
    (s₁.setPhase c phase).Failing env p := by
  refine ⟨fun c' r n h hp => ?_, fun c' r payload h => ?_⟩
  · rw [HttpState.setPhase_phase, hphase] at h
    split at h
    · exact hinRange r n h hp
    · exact hs.inRange c' r n h hp
  · rw [HttpState.setPhase_phase, hphase] at h
    split at h
    · exact hnoPayload r payload h
    · exact hs.noPayload c' r payload h

theorem failing_step {s : HttpState} (hs : s.Failing env p) {e : HttpEvent} (hdown : s.Down p e) :
    (s.step env e).1.Failing env p := by
  have hpassive : ∀ {s₁ : HttpState} {c : ℕ} {phase : Phase}, s₁.phase = s.phase →
      (∀ r n, phase ≠ .attempting r n) → (∀ r payload, phase ≠ .settling r (.ok payload)) →
      (s₁.setPhase c phase).Failing env p := fun hphase hattempting hsettling =>
    hs.of_setPhase hphase (fun r n h => absurd h (hattempting r n)) fun r payload h => absurd h (hsettling r payload)
  cases e with
  | start c t r =>
    simp only [HttpState.step]
    split
    · unfold HttpState.start
      split
      · exact hpassive rfl (fun _ _ h => by cases h) fun _ _ h => by cases h
      · split
        · exact hpassive rfl (fun _ _ h => by cases h) fun _ _ h => by cases h
        · split <;> exact hpassive rfl (fun _ _ h => by cases h) fun _ _ h => by cases h
    · exact hs
  | enter c t =>
    simp only [HttpState.step]
    split
    · rename_i r _
      unfold HttpState.enter
      split
      · exact hpassive rfl (fun _ _ h => by cases h) fun _ _ h => by cases h
      · split
        · exact hpassive rfl (fun _ _ h => by cases h) fun _ _ h => by cases h
        · rename_i hretries
          refine hs.of_setPhase ?_ ?_ ?_
          · rfl
          · intro r' n h hp
            cases h
            rw [hp] at hretries
            unfold HttpEnv.attempts
            omega
          · intro _ _ h
            cases h
    · exact hs
  | attempt c t reply =>
    simp only [HttpState.step]
    split
    · rename_i r n hc
      unfold HttpState.attempt
      simp only
      split
      · rename_i result hafter
        refine hs.of_setPhase ?_ ?_ ?_
        · rfl
        · intro _ _ h
          cases h
        · intro r' payload h hp
          cases h
          exact hdown r n hc hp payload (HttpClient.payload_of_finished hafter)
      · rename_i delay hafter
        refine hs.of_setPhase ?_ ?_ ?_
        · rfl
        · intro r' n' h hp
          cases h
          have hlt := HttpClient.lt_maxRetries_of_again hafter
          rw [hp] at hlt
          unfold HttpEnv.attempts
          omega
        · intro _ _ h
          cases h
    · exact hs
  | settle c t =>
    simp only [HttpState.step]
    split
    · rename_i r result hc
      cases result with
      | error error => exact hpassive rfl (fun _ _ h => by cases h) fun _ _ h => by cases h
      | ok payload =>
        unfold HttpState.settle
        simp only
        split <;> exact hpassive rfl (fun _ _ h => by cases h) fun _ _ h => by cases h
    · exact hs
  | store c t =>
    simp only [HttpState.step]
    split
    · unfold HttpState.store
      split <;> exact hpassive rfl (fun _ _ h => by cases h) fun _ _ h => by cases h
    · exact hs
  | cancel c t =>
    simp only [HttpState.step]
    split
    · exact hs
    · exact hs
    · exact hpassive rfl (fun _ _ h => by cases h) fun _ _ h => by cases h

end

/-! ## What the calls have spent -/

/-- `requests` is what the calls under way have spent and at most `most` for each of the `ended` ones. -/
structure Ledger (most requests ended : ℕ) (spent : ℕ → Option ℕ) (calls : Finset ℕ) : Prop where
  mem : ∀ c, c ∈ calls ↔ (spent c).isSome
  le : ∀ c n, spent c = some n → n ≤ most
  requests_le : requests ≤ most * ended + ∑ c ∈ calls, (spent c).getD 0

namespace Ledger

variable {most requests ended : ℕ} {spent : ℕ → Option ℕ} {calls : Finset ℕ} {c n n' : ℕ}

theorem mem_of_some (h : Ledger most requests ended spent calls) (hc : spent c = some n) : c ∈ calls := by
  rw [h.mem, hc]
  rfl

theorem le_update (h : Ledger most requests ended spent calls) {x : Option ℕ} (hx : ∀ m, x = some m → m ≤ most) :
    ∀ c' m, Function.update spent c x c' = some m → m ≤ most := by
  intro c' m hm
  by_cases hc : c' = c
  · rw [hc, Function.update_self] at hm
    exact hx m hm
  · rw [Function.update_of_ne hc] at hm
    exact h.le c' m hm

theorem sum_update {x : Option ℕ} (hc : c ∉ calls) :
    ∑ c' ∈ calls, (Function.update spent c x c').getD 0 = ∑ c' ∈ calls, (spent c').getD 0 := by
  refine Finset.sum_congr rfl fun c' hc' => ?_
  have hne : c' ≠ c := fun heq => hc (heq ▸ hc')
  rw [Function.update_of_ne hne]

/-- A call begins. -/
theorem insert (h : Ledger most requests ended spent calls) (hnew : spent c = none) (hmost : n ≤ most) :
    Ledger most requests ended (Function.update spent c (some n)) (insert c calls) := by
  have hnotMem : c ∉ calls := by rw [h.mem, hnew]; exact Bool.false_ne_true
  refine ⟨fun c' => ?_, h.le_update fun m hm => ?_, ?_⟩
  · rw [Finset.mem_insert]
    by_cases hc : c' = c
    · simp only [hc, true_or, Function.update_self, Option.isSome_some]
    · simp only [hc, false_or, Function.update_of_ne hc, h.mem]
  · cases hm
    exact hmost
  · rw [Finset.sum_insert hnotMem, sum_update hnotMem]
    exact h.requests_le.trans (by omega)

/-- A call makes a request. -/
theorem request (h : Ledger most requests ended spent calls) (hc : spent c = some n) (hmore : n < n')
    (hmost : n' ≤ most) : Ledger most (requests + 1) ended (Function.update spent c (some n')) calls := by
  have hmem := h.mem_of_some hc
  refine ⟨fun c' => ?_, h.le_update fun m hm => ?_, ?_⟩
  · by_cases hc' : c' = c
    · simp only [hc', hmem, Function.update_self, Option.isSome_some]
    · simp only [Function.update_of_ne hc', h.mem]
  · cases hm
    exact hmost
  · have hle := h.requests_le
    rw [← Finset.add_sum_erase calls _ hmem] at hle ⊢
    rw [sum_update (Finset.notMem_erase c calls), Function.update_self]
    simp only [hc, Option.getD_some] at hle ⊢
    omega

/-- A call ends. -/
theorem erase (h : Ledger most requests ended spent calls) (hc : spent c = some n) :
    Ledger most requests (ended + 1) (Function.update spent c none) (calls.erase c) := by
  have hmem := h.mem_of_some hc
  refine ⟨fun c' => ?_, h.le_update fun m hm => (by cases hm), ?_⟩
  · rw [Finset.mem_erase]
    by_cases hc' : c' = c
    · simp only [hc', ne_eq, not_true_eq_false, false_and, Function.update_self, Option.isSome_none,
        Bool.false_eq_true]
    · simp only [ne_eq, hc', not_false_eq_true, true_and, Function.update_of_ne hc', h.mem]
  · have hle := h.requests_le
    have hn := h.le c n hc
    rw [← Finset.add_sum_erase calls _ hmem] at hle
    rw [sum_update (Finset.notMem_erase c calls), Nat.mul_succ]
    simp only [hc, Option.getD_some] at hle
    omega

/-- All calls have spent no more than they may. -/
theorem requests_le_mul (h : Ledger most requests ended spent calls) : requests ≤ most * (ended + calls.card) := by
  have hsum : ∑ c ∈ calls, (spent c).getD 0 ≤ calls.card * most := by
    refine Finset.sum_le_card_nsmul calls _ most fun c _ => ?_
    cases hc : spent c with
    | none => exact Nat.zero_le most
    | some n => exact h.le c n hc
  calc requests ≤ most * ended + ∑ c ∈ calls, (spent c).getD 0 := h.requests_le
    _ ≤ most * ended + calls.card * most := Nat.add_le_add_left hsum _
    _ = most * (ended + calls.card) := by rw [Nat.mul_add, Nat.mul_comm most calls.card]

end Ledger

/-! ## The periods of the breaker -/

/-- The number of failures that opens a breaker. -/
def CircuitBreaker.opensAt (b : CircuitBreaker) : ℕ := (max 1 b.failureThreshold).toNat

section
variable (b₀ : CircuitBreaker) (cap : ℕ) (first : ℚ)

/-- **What the breaker has let through.** It opened and let calls through again `period` times, `failed` calls reported
to it and `underWay` calls have not yet. What one period lets through is in flight together. -/
structure Periods (now : ℚ) (b : CircuitBreaker) (failed underWay period : ℕ) : Prop where
  threshold : b.failureThreshold = b₀.failureThreshold
  recovery : b.recoverySeconds = b₀.recoverySeconds
  total : failed + underWay ≤ b₀.opensAt - 1 + cap * (period + 1)
  closed : b.state = .closed → period = 0 ∧ b.failures = failed ∧ failed < b₀.opensAt
  opened : b.state = .opened → first + period * b₀.recoverySeconds ≤ b.openedAt
  halfOpen : b.state = .halfOpen → failed ≤ b₀.opensAt - 1 + cap * period
  clock : first + period * b₀.recoverySeconds ≤ now

variable {b₀ cap first} {now : ℚ} {b b' : CircuitBreaker} {failed underWay period : ℕ}

theorem Periods.later (h : Periods b₀ cap first now b failed underWay period) {now' : ℚ} (hle : now ≤ now') :
    Periods b₀ cap first now' b failed underWay period :=
  { h with clock := h.clock.trans hle }

/-- A cancelled call reports nothing. -/
theorem Periods.leave (h : Periods b₀ cap first now b failed (underWay + 1) period) :
    Periods b₀ cap first now b failed underWay period :=
  { h with total := by have := h.total; omega }

/-- A call is let through: the breaker is closed or half open, or the recovery time is over and a new period begins. -/
theorem Periods.enter (h : Periods b₀ cap first now b failed underWay period) (henter : b.enter now = (b', .ok ()))
    (hcap : underWay + 1 ≤ cap) : ∃ period', Periods b₀ cap first now b' failed (underWay + 1) period' := by
  have htotal := h.total
  rcases CircuitBreaker.enter_cases b now with ⟨_, _, he⟩ | ⟨hopen, hover, he⟩ | ⟨hnot, he⟩
  · rw [he] at henter
    cases (Prod.mk.inj henter).2
  · rw [he] at henter
    obtain rfl : _ = b' := (Prod.mk.inj henter).1
    rw [h.recovery] at hover
    refine ⟨period + 1, h.threshold, h.recovery, ?_, fun hs => (by cases hs), fun hs => (by cases hs), fun _ => ?_, ?_⟩
    · rw [Nat.mul_succ]
      omega
    · omega
    · have hopened := h.opened hopen
      push_cast
      linarith
  · rw [he] at henter
    obtain rfl : b = b' := (Prod.mk.inj henter).1
    refine ⟨period, { h with total := ?_ }⟩
    cases hstate : b.state with
    | closed =>
      obtain ⟨rfl, -, hlt⟩ := h.closed hstate
      omega
    | opened => exact absurd hstate hnot
    | halfOpen =>
      have hfailed := h.halfOpen hstate
      rw [Nat.mul_succ]
      omega

/-- A call reports its failure: the period goes on, or is over. -/
theorem Periods.fail (h : Periods b₀ cap first now b failed (underWay + 1) period) :
    Periods b₀ cap first now (b.onFailure now) (failed + 1) underWay period := by
  have htotal := h.total
  have hsum : failed + 1 + underWay ≤ b₀.opensAt - 1 + cap * (period + 1) := by omega
  rcases CircuitBreaker.onFailure_cases b now with ⟨_, he⟩ | ⟨⟨hnot, hlt⟩, he⟩
  · rw [he]
    exact ⟨h.threshold, h.recovery, hsum, fun hs => (by cases hs), fun _ => h.clock, fun hs => (by cases hs), h.clock⟩
  · rw [he]
    refine ⟨h.threshold, h.recovery, hsum, fun hs => ?_, h.opened, fun hs => absurd hs hnot, h.clock⟩
    obtain ⟨hperiod, hfailures, -⟩ := h.closed hs
    have hthreshold := h.threshold
    refine ⟨hperiod, congrArg (· + 1) hfailures, ?_⟩
    unfold CircuitBreaker.opensAt
    omega

end

/-! ## Runs -/

section
variable (env : HttpEnv) (p : ProviderName) (b₀ : CircuitBreaker) (cap : ℕ) (first : ℚ)

/-- **The load of a provider**: what its calls spent, and what its breaker let through. -/
def LoadInv (requests cancelled : ℕ) (now : ℚ) (s : HttpState) : Prop :=
  ∃ (failed period : ℕ) (calls : Finset ℕ),
    Ledger (env.attempts p) requests (failed + cancelled) (s.spent env p) calls ∧
      Periods b₀ cap first now (s.breaker p) failed calls.card period

variable {env p b₀ cap first} {requests cancelled : ℕ} {s : HttpState}

/-- One event keeps the account. -/
theorem LoadInv.step {e : HttpEvent} (h : LoadInv env p b₀ cap first requests cancelled e.time s)
    (hs : s.Failing env p) (hcap : (s.step env e).1.AtMost env p cap) :
    LoadInv env p b₀ cap first (requests + (s.sends p e).toNat) (cancelled + (s.cancels env p e).toNat) e.time
      (s.step env e).1 := by
  obtain ⟨failed, period, calls, hledger, hperiods⟩ := h
  have hcard : ∀ {c n}, s.spent env p c = some n → calls.card = (calls.erase c).card + 1 :=
    fun hc => (Finset.card_erase_add_one (hledger.mem_of_some hc)).symm
  cases loadStep hs e with
  | quiet hbreaker hspent hsends hcancels =>
    rw [hsends, hcancels, LoadInv, hspent, hbreaker]
    exact ⟨failed, period, calls, hledger, hperiods⟩
  | admitted n henter hnew hmost hspent hsends hcancels =>
    have hins := hledger.insert hnew hmost
    rw [← hspent] at hins
    have hnotMem : e.call ∉ calls := by rw [hledger.mem, hnew]; exact Bool.false_ne_true
    have hle := hcap _ fun c hc => (hins.mem c).mp hc
    rw [Finset.card_insert_of_notMem hnotMem] at hle
    obtain ⟨period', hperiods'⟩ := hperiods.enter henter hle
    rw [hsends, hcancels]
    refine ⟨failed, period', insert e.call calls, hins, ?_⟩
    rw [Finset.card_insert_of_notMem hnotMem]
    exact hperiods'
  | sent n n' hbreaker hbefore hmore hmost hspent hcancels =>
    have hreq := hledger.request hbefore hmore hmost
    rw [hcancels, LoadInv, hspent, hbreaker]
    refine ⟨failed, period, calls, ⟨hreq.mem, hreq.le, ?_⟩, hperiods⟩
    exact (Nat.add_le_add_left (Bool.toNat_le _) _).trans hreq.requests_le
  | failed n hbreaker hbefore hspent hsends hcancels =>
    have herase := hledger.erase hbefore
    rw [hcard hbefore] at hperiods
    rw [hsends, hcancels, LoadInv, hspent, hbreaker]
    refine ⟨failed + 1, period, calls.erase e.call, ?_, hperiods.fail⟩
    rw [Nat.add_right_comm]
    exact herase
  | cancelled n hbreaker hbefore hspent hsends hcancels =>
    have herase := hledger.erase hbefore
    rw [hcard hbefore] at hperiods
    rw [hsends, hcancels, LoadInv, hspent, hbreaker]
    exact ⟨failed, period, calls.erase e.call, herase, hperiods.leave⟩

/-- Before the first call. -/
theorem LoadInv.initial {breaker : ProviderName → CircuitBreaker} (hstate : (breaker p).state = .closed)
    (hfailures : (breaker p).failures = 0) :
    LoadInv env p (breaker p) cap first 0 0 first (.initial breaker) := by
  refine ⟨0, 0, ∅, ⟨fun c => ?_, fun c n h => (by cases h), Nat.zero_le _⟩, rfl, rfl, Nat.zero_le _, fun _ => ?_,
    fun h => ?_, fun _ => Nat.zero_le _, ?_⟩
  · exact ⟨fun h => absurd h (Finset.notMem_empty c), fun h => by cases h⟩
  · refine ⟨rfl, hfailures, ?_⟩
    unfold CircuitBreaker.opensAt
    omega
  · rw [HttpState.initial, hstate] at h
    cases h
  · simp

end

section
variable (env : HttpEnv) (p : ProviderName) (breaker : ProviderName → CircuitBreaker) (cap : ℕ)

/-- The upstream is down and no more than `cap` calls to it are under way at a time. -/
def Spared (s : HttpState) (e : HttpEvent) : Prop := s.Down p e ∧ (s.step env e).1.AtMost env p cap

variable {env p breaker cap}

theorem run_loadInv (hstate : (breaker p).state = .closed) (hfailures : (breaker p).failures = 0) {first : ℚ}
    (es : List HttpEvent) (hclock : NonDecreasing HttpEvent.time es) (hfirst : ∀ e ∈ es, first ≤ e.time)
    (hdown : (httpMachine env).Enabled (Spared env p cap) (.initial breaker) es) :
    ((httpMachine env).run (.initial breaker) es).Failing env p ∧
    ∀ now, first ≤ now → (∀ e ∈ es, e.time ≤ now) → LoadInv env p (breaker p) cap first
      ((httpMachine env).count (fun s e => s.sends p e) (.initial breaker) es)
      ((httpMachine env).count (fun s e => s.cancels env p e) (.initial breaker) es) now
      ((httpMachine env).run (.initial breaker) es) := by
  induction es using List.reverseRecOn with
  | nil =>
    refine ⟨⟨fun c r n h => (by cases h), fun c r payload h => (by cases h)⟩, fun now hnow _ => ?_⟩
    have hinit : LoadInv env p (breaker p) cap first 0 0 first (.initial breaker) := .initial hstate hfailures
    obtain ⟨failed, period, calls, hledger, hperiods⟩ := hinit
    exact ⟨failed, period, calls, hledger, hperiods.later hnow⟩
  | append_singleton es e ih =>
    rw [Machine.enabled_snoc] at hdown
    obtain ⟨hfailing, hinv⟩ := ih hclock.init (fun e' he' => hfirst e' (List.mem_append_left _ he')) hdown.1
    have hlast : first ≤ e.time := hfirst e (List.mem_append_right _ (List.mem_singleton_self e))
    rw [Machine.run_snoc, Machine.count_snoc, Machine.count_snoc]
    refine ⟨failing_step hfailing hdown.2.1, fun now _ hnow => ?_⟩
    obtain ⟨failed, period, calls, hledger, hperiods⟩ :=
      (hinv e.time hlast hclock.le_last).step hfailing hdown.2.2
    exact ⟨failed, period, calls, hledger,
      hperiods.later (hnow e (List.mem_append_right _ (List.mem_singleton_self e)))⟩

variable (env p breaker cap) in
/-- **An upstream that is down is spared.** In every interleaving of calls with at most `cap` of them under way at a
time, an upstream that gives no payload receives at most so many requests between two times: those of the calls whose
failures open the breaker, those of `cap` calls for each recovery time that has passed, and those of the cancelled
calls. -/
theorem down_upstream_is_spared (hstate : (breaker p).state = .closed) (hfailures : (breaker p).failures = 0)
    (hrecovery : 0 < (breaker p).recoverySeconds) (first last : ℚ) (hspan : first ≤ last) (es : List HttpEvent)
    (hclock : NonDecreasing HttpEvent.time es) (hwithin : ∀ e ∈ es, first ≤ e.time ∧ e.time ≤ last)
    (hdown : (httpMachine env).Enabled (Spared env p cap) (.initial breaker) es) :
    (httpMachine env).count (fun s e => s.sends p e) (.initial breaker) es ≤ env.attempts p *
      ((breaker p).opensAt - 1 + cap * (⌊(last - first) / (breaker p).recoverySeconds⌋₊ + 1) +
        (httpMachine env).count (fun s e => s.cancels env p e) (.initial breaker) es) := by
  obtain ⟨failed, period, calls, hledger, hperiods⟩ := (run_loadInv hstate hfailures es hclock
    (fun e he => (hwithin e he).1) hdown).2 last hspan fun e he => (hwithin e he).2
  have hperiod : period ≤ ⌊(last - first) / (breaker p).recoverySeconds⌋₊ := by
    refine Nat.le_floor ((le_div_iff₀ hrecovery).mpr ?_)
    have := hperiods.clock
    linarith
  have htotal : failed + calls.card ≤
      (breaker p).opensAt - 1 + cap * (⌊(last - first) / (breaker p).recoverySeconds⌋₊ + 1) :=
    hperiods.total.trans (Nat.add_le_add_left (Nat.mul_le_mul_left cap (Nat.add_le_add_right hperiod 1)) _)
  refine hledger.requests_le_mul.trans (Nat.mul_le_mul_left _ ?_)
  omega

/-- An event moves no call but its own. -/
theorem phase_step_of_ne (s : HttpState) (e : HttpEvent) {c : ℕ} (hc : c ≠ e.call) :
    (s.step env e).1.phase c = s.phase c := by
  have hset : ∀ {s₁ : HttpState} {phase : Phase}, s₁.phase = s.phase →
      (s₁.setPhase e.call phase).phase c = s.phase c := by
    intro s₁ phase h
    rw [HttpState.setPhase_phase, if_neg hc, h]
  cases e with
  | start c' t r =>
    simp only [HttpState.step]
    split
    · unfold HttpState.start
      split
      · exact hset rfl
      · split
        · exact hset rfl
        · split <;> exact hset rfl
    · rfl
  | enter c' t =>
    simp only [HttpState.step]
    split
    · unfold HttpState.enter
      split
      · exact hset rfl
      · split <;> exact hset rfl
    · rfl
  | attempt c' t reply =>
    simp only [HttpState.step]
    split
    · unfold HttpState.attempt
      simp only
      split <;> exact hset rfl
    · rfl
  | settle c' t =>
    simp only [HttpState.step]
    split
    · rename_i r result _
      cases result with
      | error error => exact hset rfl
      | ok payload =>
        unfold HttpState.settle
        simp only
        split <;> exact hset rfl
    · rfl
  | store c' t =>
    simp only [HttpState.step]
    split
    · unfold HttpState.store
      split <;> exact hset rfl
    · rfl
  | cancel c' t =>
    simp only [HttpState.step]
    split
    · rfl
    · rfl
    · exact hset rfl

/-- No more calls are under way than there are. -/
theorem atMost_of_idle {s : HttpState} (h : ∀ c, cap ≤ c → s.phase c = .idle) : s.AtMost env p cap := by
  intro calls hcalls
  have hsub : calls ⊆ Finset.range cap := by
    intro c hc
    rw [Finset.mem_range]
    by_contra hge
    have hsome := hcalls c hc
    rw [HttpState.spent, h c (Nat.le_of_not_lt hge)] at hsome
    cases hsome
  exact (Finset.card_le_card hsub).trans_eq (Finset.card_range cap)

end

/-- The breaker of the weather client, which opens at the first failure. -/
def oneFailure : ProviderName → CircuitBreaker := fun p => ⟨p.name, 1, 30, .closed, 0, 0⟩

/-- Two calls of the weather client: the first makes all its attempts and fails, the second comes five seconds later. -/
def twoCalls : List HttpEvent :=
  let r : GetJson := ⟨weatherName, "https://api.open-meteo.com/v1/forecast", none, none⟩
  [.start 0 0 r, .enter 0 0, .attempt 0 1 .transportError, .attempt 0 2 .transportError, .attempt 0 3 .transportError,
    .settle 0 15, .start 1 20 r, .enter 1 20]

/-- All events are of two calls, and no reply is a payload. -/
theorem spared_twoCalls : ∀ es, (∀ e ∈ es, e ∈ twoCalls) → ∀ s : HttpState, (∀ c, 2 ≤ c → s.phase c = .idle) →
    (httpMachine plainEnv).Enabled (Spared plainEnv weatherName 2) s es
  | [], _, _, _ => trivial
  | e :: es, hes, s, hidle => by
    have hcall : e.call < 2 := by
      have he := hes e List.mem_cons_self
      simp only [twoCalls, List.mem_cons, List.not_mem_nil, or_false] at he
      rcases he with rfl | rfl | rfl | rfl | rfl | rfl | rfl | rfl <;> decide
    have hdown : s.Down weatherName e := by
      have he := hes e List.mem_cons_self
      simp only [twoCalls, List.mem_cons, List.not_mem_nil, or_false] at he
      rcases he with rfl | rfl | rfl | rfl | rfl | rfl | rfl | rfl
      all_goals first | trivial | exact fun _ _ _ _ payload h => by cases h
    have hnext : ∀ c, 2 ≤ c → (s.step plainEnv e).1.phase c = .idle := by
      intro c hc
      rw [phase_step_of_ne s e (by omega)]
      exact hidle c hc
    exact ⟨⟨hdown, atMost_of_idle hnext⟩,
      spared_twoCalls es (fun e' he' => hes e' (List.mem_cons_of_mem e he')) _ hnext⟩

/-- Of the two calls at most six requests reach the upstream; in fact the second is turned away. -/
theorem twoCalls_spared :
    NonDecreasing HttpEvent.time twoCalls ∧
    (httpMachine plainEnv).count (fun s e => s.sends weatherName e) (.initial oneFailure) twoCalls ≤ 3 *
      (2 * (⌊((20 : ℚ) - 0) / 30⌋₊ + 1) +
        (httpMachine plainEnv).count (fun s e => s.cancels plainEnv weatherName e) (.initial oneFailure) twoCalls) := by
  have hclock : NonDecreasing HttpEvent.time twoCalls := by decide +kernel
  refine ⟨hclock, ?_⟩
  have hload := down_upstream_is_spared plainEnv weatherName oneFailure 2 rfl rfl (by decide +kernel) 0 20
    (by decide +kernel) twoCalls hclock (by decide +kernel)
    (spared_twoCalls twoCalls (fun _ h => h) _ fun _ _ => rfl)
  simpa [HttpEnv.attempts, plainEnv, sampleClient, CircuitBreaker.opensAt, oneFailure] using hload

end SmartTravel
