import SmartTravel.Core.Errors
import SmartTravel.Lib.Binary64
import SmartTravel.Providers.HttpClient

/-!
# Retries and the exceptions of the client

`_get_with_retry` and `get_json` as functions of what the upstream answers, request by request. They compute what a call
of the machine of `HttpClient` does when no other call comes in between (`getJson_run`).

A retry follows every failure that the loop catches, and `raise_for_status` makes one of every status that is not 2xx:
permanent failures are retried like transient ones (`retry_discipline_iff`). What the loop does not catch leaves
`get_json` as it is (`getJson_closed_iff`).
-/

namespace SmartTravel

open Py Runs

/-- What leaves `_get_with_retry` and `get_json`: an exception of the request, or the `OverflowError` of a delay. -/
inductive FetchError where
  | http (error : HttpError)
  | overflow
deriving DecidableEq

/-- The requests that were made, the pauses between them and the end of the loop. -/
structure Fetch where
  requests : ℕ
  waits : List ℚ
  result : Except FetchError Json

namespace HttpClient

variable (client : HttpClient) (provider : ProviderName) (replies : ℕ → Upstream)

/-- `self._backoff_base * (2**attempt)`: the integer is converted to a float first. -/
@[irreducible]
def delay (attempt : ℕ) : Option ℚ :=
  match Binary64.ofInt (2 ^ attempt) with
  | .error _ => none
  | .ok _ => some (client.backoffBase * 2 ^ attempt)

/-- The loop of `_get_with_retry` from an attempt on, with the number of passes that are left. -/
def retryLoop : ℕ → ℕ → Fetch
  | 0, _ => ⟨0, [], .error (.http (client.gaveUp provider))⟩
  | left + 1, attempt =>
    match client.afterAttempt provider attempt (replies attempt) with
    | .finished result => ⟨1, [], result.mapError .http⟩
    | .again _ =>
      match client.delay attempt with
      | none => ⟨1, [], .error .overflow⟩
      | some delay =>
        let rest := retryLoop left (attempt + 1)
        ⟨rest.requests + 1, delay :: rest.waits, rest.result⟩

/-- `_get_with_retry`, when the upstream answers request `i`, counted from zero, with `replies i`. -/
def getWithRetry : Fetch := client.retryLoop provider replies (client.maxRetries + 1).toNat 0

end HttpClient

/-- `get_json`, when the cache holds `lookup key` under a key, the breaker is read at time `t`, and the upstream answers
with `replies`. -/
def HttpEnv.getJson (env : HttpEnv) (lookup : String → Option String) (breaker : CircuitBreaker) (t : ℚ) (r : GetJson)
    (replies : ℕ → Upstream) : Except FetchError Json :=
  match (env.caching r).bind (fun entry => lookup entry.1) with
  | some text =>
    match env.loads text with
    | none => .error (.http .jsonDecode)
    | some payload => .ok payload
  | none =>
    match (breaker.enter t).2 with
    | .error _ => .error (.http (.providerUnavailable (r.provider.name ++ " is temporarily unavailable")))
    | .ok () => ((env.client r.provider).getWithRetry r.provider replies).result

/-! ## Kinds of replies -/

namespace Upstream

/-- A transport error or a status of `_RETRYABLE_STATUS`. -/
def Transient : Upstream → Prop
  | .transportError => True
  | .otherError => False
  | .response status _ => status ∈ retryableStatus

/-- A response with a status that is neither 2xx nor worth a retry. -/
def Permanent : Upstream → Prop
  | .response status _ => status ∉ retryableStatus ∧ ¬ (200 ≤ status ∧ status < 300)
  | _ => False

/-- A response with a 2xx status and this body. -/
def Succeeds (reply : Upstream) (body : Option Json) : Prop :=
  ∃ status, reply = .response status body ∧ 200 ≤ status ∧ status < 300

/-- An exception of httpx that is no transport error, or a 2xx response whose body is not JSON. -/
def Unreadable (reply : Upstream) : Prop := reply = .otherError ∨ reply.Succeeds none

theorem payload_caught_iff {reply : Upstream} : reply.payload = .error .caught ↔ reply.Transient ∨ reply.Permanent := by
  cases reply with
  | transportError => simp [payload, Transient]
  | otherError => simp [payload, Transient, Permanent]
  | response status body =>
    by_cases hretry : status ∈ retryableStatus
    · simp [payload, Transient, hretry]
    · by_cases hok : 200 ≤ status ∧ status < 300
      · cases body <;> simp [payload, Transient, Permanent, hretry, hok]
      · simp only [payload, Transient, Permanent, hretry, if_false, hok, not_false_eq_true, if_true, false_or,
          and_self]

/-- No 2xx status is worth a retry. -/
theorem notMem_retryableStatus {status : ℕ} (h : 200 ≤ status ∧ status < 300) : status ∉ retryableStatus := by
  simp only [retryableStatus, List.mem_cons, List.not_mem_nil, or_false]
  omega

theorem payload_of_succeeds {reply : Upstream} {payload : Json} (h : reply.Succeeds (some payload)) :
    reply.payload = .ok payload := by
  obtain ⟨status, rfl, hok⟩ := h
  simp [Upstream.payload, notMem_retryableStatus hok, hok]

theorem payload_leaves_iff {reply : Upstream} : (∃ e, reply.payload = .error (.leaves e)) ↔ reply.Unreadable := by
  cases reply with
  | transportError => simp [payload, Unreadable, Succeeds]
  | otherError => simp [payload, Unreadable]
  | response status body =>
    by_cases hok : 200 ≤ status ∧ status < 300
    · have hretry := notMem_retryableStatus hok
      cases body with
      | none => simp [payload, Unreadable, Succeeds, hok, hretry]
      | some body => simp [payload, Unreadable, Succeeds, hok, hretry]
    · by_cases hretry : status ∈ retryableStatus
      · simp [payload, Unreadable, Succeeds, hretry, hok]
      · simp only [payload, hretry, if_false, hok, not_false_eq_true, if_true, Unreadable, Succeeds]
        simp only [Except.error.injEq, reduceCtorEq, exists_false, response.injEq, false_or, false_iff]
        rintro ⟨status', ⟨rfl, -⟩, hok'⟩
        exact hok hok'

/-- What leaves the loop is no error of its own. -/
theorem leaves_ne_providerUnavailable {reply : Upstream} {e : HttpError} (h : reply.payload = .error (.leaves e))
    (detail : String) : e ≠ .providerUnavailable detail := by
  rintro rfl
  cases reply with
  | transportError => cases h
  | otherError => cases h
  | response status body =>
    unfold payload at h
    simp only at h
    split at h
    · cases h
    · split at h
      · cases h
      · split at h <;> cases h

end Upstream

/-! ## The loop -/

/-- Powers of two are floats up to 2 ^ 1023. -/
theorem overflowBound_le_two_pow_iff {n : ℕ} : overflowBound ≤ (2 : ℚ) ^ n ↔ 1024 ≤ n := by
  constructor
  · intro h
    by_contra hlt
    have hpow : (2 : ℚ) ^ n ≤ 2 ^ 1023 := pow_le_pow_right₀ (by norm_num) (by omega)
    have hbound : (2 : ℚ) ^ 1023 < overflowBound := by decide +kernel
    exact absurd (h.trans hpow) (not_le.mpr hbound)
  · intro h
    have hpow : (2 : ℚ) ^ 1024 ≤ 2 ^ n := pow_le_pow_right₀ (by norm_num) h
    have hbound : overflowBound ≤ (2 : ℚ) ^ 1024 := by decide +kernel
    exact hbound.trans hpow

namespace HttpClient

variable (client : HttpClient) (provider : ProviderName) (replies : ℕ → Upstream)

theorem delay_eq (attempt : ℕ) :
    client.delay attempt = if attempt < 1024 then some (client.backoffBase * 2 ^ attempt) else none := by
  have habs : |(((2 : ℤ) ^ attempt : ℤ) : ℚ)| = 2 ^ attempt := by
    push_cast
    exact abs_of_pos (pow_pos two_pos attempt)
  unfold delay Binary64.ofInt
  rw [habs]
  by_cases h : attempt < 1024
  · rw [if_neg (by rw [overflowBound_le_two_pow_iff]; omega), if_pos h]
  · rw [if_pos (by rw [overflowBound_le_two_pow_iff]; omega), if_neg h]

/-- The loop goes round after this attempt. -/
def GoesOn (attempt : ℕ) : Prop :=
  (replies attempt).payload = .error .caught ∧ (attempt : ℤ) < client.maxRetries ∧ attempt < 1024

/-- What the loop is left with after this attempt. -/
def lastResult (attempt : ℕ) : Except FetchError Json :=
  match (replies attempt).payload with
  | .ok payload => .ok payload
  | .error (.leaves e) => .error (.http e)
  | .error .caught =>
    if (attempt : ℤ) < client.maxRetries then .error .overflow else .error (.http (client.gaveUp provider))

theorem lt_maxRetries_of_again {client : HttpClient} {provider : ProviderName} {attempt : ℕ} {reply : Upstream} {d : ℚ}
    (h : client.afterAttempt provider attempt reply = .again d) : (attempt : ℤ) < client.maxRetries := by
  unfold afterAttempt at h
  split at h
  · cases h
  · cases h
  · split at h
    · assumption
    · cases h

theorem retryLoop_again {left attempt : ℕ} (h : client.GoesOn replies attempt) :
    client.retryLoop provider replies (left + 1) attempt =
      ⟨(client.retryLoop provider replies left (attempt + 1)).requests + 1,
        client.backoffBase * 2 ^ attempt :: (client.retryLoop provider replies left (attempt + 1)).waits,
        (client.retryLoop provider replies left (attempt + 1)).result⟩ := by
  obtain ⟨hcaught, hretry, hfloat⟩ := h
  simp only [retryLoop, afterAttempt, hcaught, if_pos hretry, delay_eq, if_pos hfloat]

theorem retryLoop_last {left attempt : ℕ} (h : ¬ client.GoesOn replies attempt) :
    client.retryLoop provider replies (left + 1) attempt = ⟨1, [], client.lastResult provider replies attempt⟩ := by
  simp only [retryLoop, afterAttempt, lastResult]
  cases hpayload : (replies attempt).payload with
  | ok payload => rfl
  | error e =>
    cases e with
    | leaves e => rfl
    | caught =>
      simp only
      by_cases hretry : (attempt : ℤ) < client.maxRetries
      · have hfloat : ¬ attempt < 1024 := fun hlt => h ⟨hpayload, hretry, hlt⟩
        simp only [if_pos hretry, delay_eq, if_neg hfloat]
      · simp only [if_neg hretry, Except.mapError]

/-- **The loop** makes one more request than it goes round. -/
theorem retryLoop_spec : ∀ (left attempt : ℕ), (attempt + left : ℤ) = client.maxRetries + 1 → 0 < left →
    ∃ k, (∀ j < k, client.GoesOn replies (attempt + j)) ∧ ¬ client.GoesOn replies (attempt + k) ∧
      client.retryLoop provider replies left attempt =
        ⟨k + 1, (List.range k).map fun i => client.backoffBase * 2 ^ (attempt + i),
          client.lastResult provider replies (attempt + k)⟩
  | 0, _, _, hleft => absurd hleft (Nat.lt_irrefl 0)
  | left + 1, attempt, hsum, _ => by
    by_cases h : client.GoesOn replies attempt
    · have hretry := h.2.1
      obtain ⟨k, hgoes, hstops, hloop⟩ := retryLoop_spec left (attempt + 1)
        (by push_cast at hsum ⊢; omega) (by push_cast at hsum; omega)
      have hshift : ∀ i, attempt + 1 + i = attempt + (i + 1) := fun i => by omega
      refine ⟨k + 1, fun j hj => ?_, hshift k ▸ hstops, ?_⟩
      · cases j with
        | zero => exact h
        | succ j => exact hshift j ▸ hgoes j (by omega)
      · rw [retryLoop_again client provider replies h, hloop, List.range_succ_eq_map, List.map_cons, List.map_map]
        simp only [hshift, Nat.add_zero]
        rfl
    · exact ⟨0, by simp, h, retryLoop_last client provider replies h⟩

theorem getWithRetry_spec (h : 0 ≤ client.maxRetries) :
    ∃ k, (∀ j < k, client.GoesOn replies j) ∧ ¬ client.GoesOn replies k ∧
      client.getWithRetry provider replies =
        ⟨k + 1, (List.range k).map fun i => client.backoffBase * 2 ^ i, client.lastResult provider replies k⟩ := by
  obtain ⟨k, hk⟩ := retryLoop_spec client provider replies (client.maxRetries + 1).toNat 0 (by omega) (by omega)
  simp only [Nat.zero_add] at hk
  exact ⟨k, hk⟩

end HttpClient

/-! ## The call of the machine -/

/-- How a call ends. -/
def HttpOutcome.ending : HttpOutcome → Option (Except HttpError Json)
  | .returned payload => some (.ok payload)
  | .raised e => some (.error e)
  | _ => none

theorem HttpState.phase_setPhase_self (s : HttpState) (c : ℕ) (p : Phase) : (s.setPhase c p).phase c = p := by
  simp [setPhase]

section
variable (env : HttpEnv) (c : ℕ) (t t' : ℚ) (r : GetJson) (replies : ℕ → Upstream)

/-- The answers to the requests from an attempt on. -/
def attemptEvents (left attempt : ℕ) : List HttpEvent :=
  (List.range left).map fun i => .attempt c t' (replies (attempt + i))

/-- All events of one call. Those that the call does not wait for are ignored. -/
def callEvents (attempts : ℕ) : List HttpEvent :=
  [.start c t r, .enter c t'] ++ attemptEvents c t' replies attempts 0 ++ [.settle c t', .store c t']

theorem attemptEvents_succ (left attempt : ℕ) : attemptEvents c t' replies (left + 1) attempt =
    .attempt c t' (replies attempt) :: attemptEvents c t' replies left (attempt + 1) := by
  simp only [attemptEvents, List.range_succ_eq_map, List.map_cons, List.map_map, Nat.add_zero, List.cons.injEq,
    true_and]
  apply List.map_congr_left
  intro i _
  simp only [Function.comp_apply]
  congr 2
  omega

variable {c r}

/-- The ends of the calls in a log. -/
def endings (log : List (HttpEvent × HttpOutcome)) : List (Except HttpError Json) := log.filterMap fun e => e.2.ending

/-- A call that waits for no answer ignores answers. -/
theorem ignores_attempts {s : HttpState} (h : ∀ r n, s.phase c ≠ .attempting r n) (left attempt : ℕ) :
    (httpMachine env).run s (attemptEvents c t' replies left attempt) = s ∧
      endings ((httpMachine env).log s (attemptEvents c t' replies left attempt)) = [] := by
  induction left generalizing attempt with
  | zero => exact ⟨rfl, rfl⟩
  | succ left ih =>
    have hstep : (httpMachine env).step s (.attempt c t' (replies attempt)) = (s, .ignored) := by
      simp only [httpMachine, HttpState.step]
    rw [attemptEvents_succ, Machine.run_cons, Machine.log, hstep]
    exact ⟨(ih (attempt + 1)).1, (ih (attempt + 1)).2⟩

/-- The requests of a call, one after the other, lead it to where `_get_with_retry` ends. -/
theorem run_attempts (hfloats : (env.client r.provider).maxRetries ≤ 1024) :
    ∀ (left attempt : ℕ) {s : HttpState}, (attempt + left : ℤ) = (env.client r.provider).maxRetries + 1 → 0 < left →
      s.phase c = .attempting r attempt →
      ∃ result, ((httpMachine env).run s (attemptEvents c t' replies left attempt)).phase c = .settling r result ∧
        result.mapError .http = ((env.client r.provider).retryLoop r.provider replies left attempt).result ∧
        ((httpMachine env).run s (attemptEvents c t' replies left attempt)).requests =
          s.requests + ((env.client r.provider).retryLoop r.provider replies left attempt).requests ∧
        endings ((httpMachine env).log s (attemptEvents c t' replies left attempt)) = []
  | 0, _, _, _, hpos, _ => absurd hpos (Nat.lt_irrefl 0)
  | left + 1, attempt, s, hsum, _, hphase => by
    rw [attemptEvents_succ, Machine.run_cons, Machine.log]
    have hstep : (httpMachine env).step s (.attempt c t' (replies attempt)) =
        s.attempt env c r attempt (replies attempt) := by
      simp only [httpMachine, HttpState.step, hphase]
    rw [hstep]
    cases hafter : (env.client r.provider).afterAttempt r.provider attempt (replies attempt) with
    | finished result =>
      have hnext : s.attempt env c r attempt (replies attempt) =
          ({ s with requests := s.requests + 1 }.setPhase c (.settling r result), .waiting) := by
        simp only [HttpState.attempt, hafter]
      have hloop : (env.client r.provider).retryLoop r.provider replies (left + 1) attempt =
          ⟨1, [], result.mapError .http⟩ := by
        rw [HttpClient.retryLoop, hafter]
      have hphase' : ({ s with requests := s.requests + 1 }.setPhase c (.settling r result)).phase c =
          .settling r result := HttpState.phase_setPhase_self _ _ _
      rw [hnext, hloop]
      obtain ⟨hrun, hlog⟩ := ignores_attempts env t' replies
        (fun r' n => by rw [hphase']; exact Phase.noConfusion) left (attempt + 1)
      rw [hrun]
      exact ⟨result, hphase', rfl, rfl, hlog⟩
    | again d =>
      have hretry : (attempt : ℤ) < (env.client r.provider).maxRetries :=
        HttpClient.lt_maxRetries_of_again hafter
      have hnext : s.attempt env c r attempt (replies attempt) =
          ({ s with requests := s.requests + 1 }.setPhase c (.attempting r (attempt + 1)), .waiting) := by
        simp only [HttpState.attempt, hafter]
      have hphase' : ({ s with requests := s.requests + 1 }.setPhase c (.attempting r (attempt + 1))).phase c =
          .attempting r (attempt + 1) := HttpState.phase_setPhase_self _ _ _
      have hdelay : (env.client r.provider).delay attempt =
          some ((env.client r.provider).backoffBase * 2 ^ attempt) := by
        rw [HttpClient.delay_eq, if_pos (by omega)]
      rw [hnext]
      obtain ⟨result, hsettling, hresult, hrequests, hlog⟩ := run_attempts hfloats left
        (attempt + 1) (by push_cast at hsum ⊢; omega) (by push_cast at hsum; omega) hphase'
      refine ⟨result, hsettling, ?_, ?_, hlog⟩
      · rw [hresult, HttpClient.retryLoop, hafter]
        simp only [hdelay]
      · rw [hrequests, HttpClient.retryLoop, hafter]
        simp only [hdelay]
        show s.requests + 1 + _ = _
        omega

/-- A call that has ended answers no event. -/
theorem ignores_of_done {s : HttpState} (h : s.phase c = .done) :
    ∀ {es : List HttpEvent}, (∀ e ∈ es, e.call = c) → endings ((httpMachine env).log s es) = []
  | [], _ => rfl
  | e :: es, hes => by
    have hstep : (httpMachine env).step s e = (s, .ignored) := by
      have hc := hes e List.mem_cons_self
      rw [← hc] at h
      cases e <;> simp only [HttpEvent.call] at h <;> simp only [httpMachine, HttpState.step, h]
    rw [Machine.log, hstep]
    exact ignores_of_done h fun e he => hes e (List.mem_cons_of_mem _ he)

/-- The event that ends a call is the last that the call answers. -/
theorem endings_of_done {s s' : HttpState} {e : HttpEvent} {o : HttpOutcome} {result : Except HttpError Json}
    (hstep : (httpMachine env).step s e = (s', o)) (ho : o.ending = some result) (hdone : s'.phase c = .done)
    {es : List HttpEvent} (hes : ∀ e ∈ es, e.call = c) : endings ((httpMachine env).log s (e :: es)) = [result] := by
  have hrest := ignores_of_done env hdone hes
  rw [Machine.log, hstep]
  simp only [endings, List.filterMap_cons, ho] at hrest ⊢
  rw [hrest]

theorem endings_of_waiting {s s' : HttpState} {e : HttpEvent} (hstep : (httpMachine env).step s e = (s', .waiting))
    (es : List HttpEvent) :
    endings ((httpMachine env).log s (e :: es)) = endings ((httpMachine env).log s' es) := by
  rw [Machine.log, hstep]
  rfl

theorem lastEvents_call : ∀ e ∈ [HttpEvent.settle c t', HttpEvent.store c t'], e.call = c := by
  simp [HttpEvent.call]

theorem attemptEvents_call (left attempt : ℕ) :
    ∀ e ∈ attemptEvents c t' replies left attempt ++ [.settle c t', .store c t'], e.call = c := by
  intro e he
  rcases List.mem_append.mp he with he | he
  · obtain ⟨i, -, rfl⟩ := List.mem_map.mp he
    rfl
  · exact lastEvents_call t' e he

/-- The last two events of a call that has its result. -/
theorem endings_settle {s : HttpState} {result : Except HttpError Json} (h : s.phase c = .settling r result) :
    endings ((httpMachine env).log s [.settle c t', .store c t']) = [result] := by
  have hstep : (httpMachine env).step s (.settle c t') = s.settle env c t' r result := by
    simp only [httpMachine, HttpState.step, h]
  cases result with
  | error e =>
    simp only [HttpState.settle] at hstep
    exact endings_of_done env hstep rfl (HttpState.phase_setPhase_self _ _ _) fun e he =>
      lastEvents_call t' e (List.mem_cons_of_mem _ he)
  | ok payload =>
    cases hcaching : env.caching r with
    | none =>
      simp only [HttpState.settle, hcaching] at hstep
      exact endings_of_done env hstep rfl (HttpState.phase_setPhase_self _ _ _) fun e he =>
        lastEvents_call t' e (List.mem_cons_of_mem _ he)
    | some entry =>
      simp only [HttpState.settle, hcaching] at hstep
      rw [endings_of_waiting env hstep]
      generalize hs' : (s.setBreaker r.provider (s.breaker r.provider).onSuccess).setPhase c (.storing r payload) = s'
      have hphase : s'.phase c = .storing r payload := hs' ▸ HttpState.phase_setPhase_self _ _ _
      have hstore : (httpMachine env).step s' (.store c t') = s'.store env c t' r payload := by
        simp only [httpMachine, HttpState.step, hphase]
      simp only [HttpState.store, hcaching] at hstore
      exact endings_of_done env hstore rfl (HttpState.phase_setPhase_self _ _ _) (by simp)

/-- A call whose requests are done ends with their result. -/
theorem endings_requests {s : HttpState} {es : List HttpEvent} {result : Except HttpError Json}
    (hnone : endings ((httpMachine env).log s es) = [])
    (hsettling : ((httpMachine env).run s es).phase c = .settling r result) :
    endings ((httpMachine env).log s (es ++ [.settle c t', .store c t'])) = [result] := by
  rw [Machine.log_append, endings, List.filterMap_append]
  rw [endings] at hnone
  rw [hnone, List.nil_append]
  exact endings_settle env t' hsettling

/-- A call that gets to the breaker ends with what the breaker or `_get_with_retry` says. -/
theorem endings_enter (hfloats : (env.client r.provider).maxRetries ≤ 1024) {s : HttpState}
    (h : s.phase c = .entering r) :
    (endings ((httpMachine env).log s (.enter c t' ::
      (attemptEvents c t' replies ((env.client r.provider).maxRetries + 1).toNat 0 ++
        [.settle c t', .store c t'])))).map (·.mapError FetchError.http) =
      [match ((s.breaker r.provider).enter t').2 with
        | .error _ => .error (.http (.providerUnavailable (r.provider.name ++ " is temporarily unavailable")))
        | .ok () => ((env.client r.provider).getWithRetry r.provider replies).result] := by
  have hstep : (httpMachine env).step s (.enter c t') = s.enter env c t' r := by
    simp only [httpMachine, HttpState.step, h]
  cases henter : (s.breaker r.provider).enter t' with
  | mk b admitted =>
    cases admitted with
    | error e =>
      simp only [HttpState.enter, henter] at hstep
      rw [endings_of_done env hstep rfl (HttpState.phase_setPhase_self _ _ _) (attemptEvents_call t' replies _ _)]
      rfl
    | ok u =>
      by_cases hneg : (env.client r.provider).maxRetries < 0
      · simp only [HttpState.enter, henter, if_pos hneg] at hstep
        have hzero : ((env.client r.provider).maxRetries + 1).toNat = 0 := by omega
        rw [endings_of_waiting env hstep, hzero, HttpClient.getWithRetry, hzero]
        generalize hs' : (s.setBreaker r.provider b).setPhase c
          (.settling r (.error ((env.client r.provider).gaveUp r.provider))) = s'
        have hphase := hs' ▸ HttpState.phase_setPhase_self (s.setBreaker r.provider b) c
          (.settling r (.error ((env.client r.provider).gaveUp r.provider)))
        rw [show attemptEvents c t' replies 0 0 = [] from rfl, List.nil_append, endings_settle env t' hphase]
        rfl
      · simp only [HttpState.enter, henter, if_neg hneg] at hstep
        obtain ⟨result, hsettling, hresult, -, hnone⟩ := run_attempts env t' replies hfloats
          ((env.client r.provider).maxRetries + 1).toNat 0
          (s := (s.setBreaker r.provider b).setPhase c (.attempting r 0)) (by omega) (by omega)
          (HttpState.phase_setPhase_self _ _ _)
        rw [endings_of_waiting env hstep, endings_requests env t' hnone hsettling, HttpClient.getWithRetry, ← hresult]
        rfl

/-- **A call on its own** ends once, with what `get_json` computes. -/
theorem getJson_run (hfloats : (env.client r.provider).maxRetries ≤ 1024) {s : HttpState} (hidle : s.phase c = .idle) :
    (endings ((httpMachine env).log s
      (callEvents c t t' r replies ((env.client r.provider).maxRetries + 1).toNat))).map (·.mapError .http) =
        [env.getJson (fun key => (s.cache.get key t).2) (s.breaker r.provider) t' r replies] := by
  have hstart : (httpMachine env).step s (.start c t r) = s.start env c t r := by
    simp only [httpMachine, HttpState.step, hidle]
  rw [callEvents, List.append_assoc, List.cons_append]
  unfold HttpEnv.getJson
  cases hcaching : env.caching r with
  | none =>
    simp only [HttpState.start, hcaching] at hstart
    rw [endings_of_waiting env hstart]
    exact endings_enter env t' replies hfloats (HttpState.phase_setPhase_self _ _ _)
  | some entry =>
    obtain ⟨key, ttl⟩ := entry
    simp only [Option.bind_some]
    cases hget : s.cache.get key t with
    | mk cache found =>
      cases found with
      | none =>
        simp only [HttpState.start, hcaching, hget] at hstart
        rw [endings_of_waiting env hstart]
        exact endings_enter env t' replies hfloats (HttpState.phase_setPhase_self _ _ _)
      | some text =>
        have hcalls : ∀ e ∈ [HttpEvent.enter c t'] ++ (attemptEvents c t' replies
            ((env.client r.provider).maxRetries + 1).toNat 0 ++ [.settle c t', .store c t']), e.call = c := by
          intro e he
          rcases List.mem_append.mp he with he | he
          · rw [List.mem_singleton.mp he]
            rfl
          · exact attemptEvents_call t' replies _ _ e he
        cases hloads : env.loads text with
        | none =>
          simp only [HttpState.start, hcaching, hget, hloads] at hstart
          rw [endings_of_done env hstart rfl (HttpState.phase_setPhase_self _ _ _) hcalls]
          simp [hloads, Except.mapError]
        | some payload =>
          simp only [HttpState.start, hcaching, hget, hloads] at hstart
          rw [endings_of_done env hstart rfl (HttpState.phase_setPhase_self _ _ _) hcalls]
          simp [hloads, Except.mapError]

end

/-! ## Which failures are retried -/

/-- A fetch makes at most `max_retries + 1` requests, a further one only after a transient failure, returns the first
2xx response whose body is JSON, and waits twice as long each time. -/
structure RetryDiscipline (client : HttpClient) (replies : ℕ → Upstream) (fetch : Fetch) : Prop where
  bounded : (fetch.requests : ℤ) ≤ client.maxRetries + 1
  after_transient : ∀ i, i + 1 < fetch.requests → (replies i).Transient
  first_body : ∀ i < fetch.requests, ∀ body, (replies i).Succeeds (some body) →
    (∀ j < i, ∀ other, ¬ (replies j).Succeeds other) → fetch.result = .ok body
  waits_eq : fetch.waits = (List.range (fetch.requests - 1)).map fun i => client.backoffBase * 2 ^ i

/-- **When the retries keep to transient failures**: exactly when no permanent failure, after transient ones only, comes
before the last attempt. -/
theorem retry_discipline_iff (client : HttpClient) (provider : ProviderName) (replies : ℕ → Upstream)
    (h : 0 ≤ client.maxRetries) :
    RetryDiscipline client replies (client.getWithRetry provider replies) ↔
      ∀ i : ℕ, (i : ℤ) < client.maxRetries → i < 1024 → (∀ j < i, (replies j).Transient) → ¬ (replies i).Permanent := by
  obtain ⟨k, hgoes, hstops, hfetch⟩ := client.getWithRetry_spec provider replies h
  rw [hfetch]
  constructor
  · intro hd i hretry hfloat hbefore hpermanent
    have hgoesOn : ∀ j ≤ i, client.GoesOn replies j := by
      intro j hj
      refine ⟨Upstream.payload_caught_iff.mpr ?_, by omega, by omega⟩
      rcases Nat.lt_or_eq_of_le hj with hlt | rfl
      · exact .inl (hbefore j hlt)
      · exact .inr hpermanent
    have hik : i < k := by
      by_contra hle
      exact hstops (hgoesOn k (by omega))
    have htransient := hd.after_transient i (by show i + 1 < k + 1; omega)
    cases hreply : replies i with
    | transportError => simp [hreply, Upstream.Permanent] at hpermanent
    | otherError => simp [hreply, Upstream.Permanent] at hpermanent
    | response status body =>
      rw [hreply] at hpermanent htransient
      exact hpermanent.1 htransient
  · intro hnever
    -- Every reply after which the loop goes on is transient, by induction on its place.
    have htransient : ∀ i, i < k → (replies i).Transient := by
      intro i
      induction i using Nat.strong_induction_on with
      | _ i ih =>
        intro hi
        obtain ⟨hcaught, hretry, hfloat⟩ := hgoes i hi
        rcases Upstream.payload_caught_iff.mp hcaught with ht | hp
        · exact ht
        · exact absurd hp (hnever i hretry hfloat fun j hj => ih j hj (by omega))
    refine ⟨?_, fun i hi => htransient i (Nat.lt_of_succ_lt_succ hi), ?_, rfl⟩
    · cases k with
      | zero => simpa using h
      | succ k =>
        have hretry := (hgoes k (by omega)).2.1
        push_cast
        omega
    · intro i hi body hbody _
      have hpayload := Upstream.payload_of_succeeds hbody
      rcases Nat.lt_or_eq_of_le (Nat.le_of_lt_succ hi) with hlt | rfl
      · rw [(hgoes i hlt).1] at hpayload
        cases hpayload
      · simp [HttpClient.lastResult, hpayload]

/-- Two retries, a fifth of a second apart at first. -/
def sampleClient : HttpClient := ⟨false, 2, 1 / 5⟩

/-- The name of the weather client. -/
def weatherName : ProviderName := ⟨"weather", by decide⟩

/-- One answer to the first request and an empty object to all that follow. -/
def thenSucceeds (first : Upstream) : ℕ → Upstream
  | 0 => first
  | _ + 1 => .response 200 (some (.obj []))

/-- A request that is answered with 404 is made again. -/
theorem not_found_is_retried :
    ¬ RetryDiscipline sampleClient (thenSucceeds (.response 404 none))
      (sampleClient.getWithRetry weatherName (thenSucceeds (.response 404 none))) := by
  intro h
  have hsecond : 1 < (sampleClient.getWithRetry weatherName (thenSucceeds (.response 404 none))).requests := by
    decide +kernel
  have htransient : 404 ∈ retryableStatus := h.after_transient 0 hsecond
  exact absurd htransient (by decide)

/-- One that is answered with 503 is made again, and rightly. -/
theorem unavailable_is_retried :
    0 ≤ sampleClient.maxRetries ∧
      RetryDiscipline sampleClient (thenSucceeds (.response 503 none))
        (sampleClient.getWithRetry weatherName (thenSucceeds (.response 503 none))) := by
  refine ⟨by decide, (retry_discipline_iff sampleClient weatherName _ (by decide)).mpr fun i _ _ _ => ?_⟩
  cases i with
  | zero => exact fun hpermanent => absurd hpermanent.1 (by decide)
  | succ i => exact fun hpermanent => hpermanent.2 (by decide)

/-! ## Which exceptions leave the client -/

/-- The exception as the handlers see it. -/
def FetchError.raised : FetchError → Raised
  | .http (.providerUnavailable detail) => .app ⟨.providerUnavailable, detail, Dict.empty⟩
  | _ => .other

/-- A call returns a value or raises a `ProviderUnavailableError`, which is answered with 503. -/
def ClosedInterface (outcome : Except FetchError Json) : Prop :=
  ∀ e, outcome = .error e →
    (∃ detail, e = .http (.providerUnavailable detail)) ∧ ∀ requestId, (e.raised.response requestId).status = 503

theorem closedInterface_iff {outcome : Except FetchError Json} :
    ClosedInterface outcome ↔ ∀ e, outcome = .error e → ∃ detail, e = .http (.providerUnavailable detail) := by
  constructor
  · intro h e he
    exact (h e he).1
  · intro h e he
    obtain ⟨detail, rfl⟩ := h e he
    exact ⟨⟨detail, rfl⟩, fun requestId => Raised.response_status requestId _⟩

/-- The replies to the requests of a client lead to no exception but `ProviderUnavailableError`: the first that is no
failure to be retried can be read, and there is no delay beyond the floats. -/
structure Readable (client : HttpClient) (replies : ℕ → Upstream) : Prop where
  first_read : ∀ i : ℕ, (i : ℤ) ≤ client.maxRetries → i ≤ 1024 →
    (∀ j < i, (replies j).Transient ∨ (replies j).Permanent) → ¬ (replies i).Unreadable
  no_overflow : client.maxRetries ≤ 1024 ∨ ∃ j ≤ 1024, ¬ ((replies j).Transient ∨ (replies j).Permanent)

section
variable {client : HttpClient} {replies : ℕ → Upstream} {k : ℕ}

/-- Which exception the loop is left with after the last attempt. -/
theorem lastResult_closed_iff (provider : ProviderName) :
    ClosedInterface (client.lastResult provider replies k) ↔
      ¬ (replies k).Unreadable ∧ ¬ ((replies k).payload = .error .caught ∧ (k : ℤ) < client.maxRetries) := by
  rw [closedInterface_iff, ← Upstream.payload_leaves_iff]
  unfold HttpClient.lastResult
  cases hpayload : (replies k).payload with
  | ok payload => simp
  | error e =>
    cases e with
    | leaves e =>
      have hforeign := Upstream.leaves_ne_providerUnavailable hpayload
      simp [hforeign]
    | caught =>
      by_cases hretry : (k : ℤ) < client.maxRetries
      · simp [hretry]
      · simp [hretry, HttpClient.gaveUp]

/-- The replies are readable when the last of those that are asked for is. -/
theorem readable_iff (hgoes : ∀ j < k, client.GoesOn replies j) (hstops : ¬ client.GoesOn replies k)
    (hretries : (k : ℤ) ≤ client.maxRetries) (hfloats : k ≤ 1024) :
    Readable client replies ↔
      ¬ (replies k).Unreadable ∧ ¬ ((replies k).payload = .error .caught ∧ (k : ℤ) < client.maxRetries) := by
  have hbefore : ∀ j < k, (replies j).Transient ∨ (replies j).Permanent := fun j hj =>
    Upstream.payload_caught_iff.mp (hgoes j hj).1
  constructor
  · intro h
    refine ⟨h.first_read k hretries hfloats hbefore, ?_⟩
    rintro ⟨hcaught, hlt⟩
    have hfull : k = 1024 := by
      by_contra hne
      exact hstops ⟨hcaught, hlt, by omega⟩
    rcases h.no_overflow with hle | ⟨j, hj, hread⟩
    · omega
    · rcases Nat.lt_or_eq_of_le hj with hjk | rfl
      · exact hread (hbefore j (by omega))
      · exact hread (Upstream.payload_caught_iff.mp (hfull ▸ hcaught))
  · rintro ⟨hread, hlast⟩
    refine ⟨fun i hi _ hall => ?_, ?_⟩
    · rcases lt_trichotomy i k with hlt | rfl | hgt
      · rw [← Upstream.payload_leaves_iff, (hgoes i hlt).1]
        simp
      · exact hread
      · exact absurd ⟨Upstream.payload_caught_iff.mpr (hall k hgt), by omega⟩ hlast
    · by_contra hover
      rw [not_or, not_le, not_exists] at hover
      have hcaught : (replies k).Transient ∨ (replies k).Permanent := by
        by_contra hno
        exact hover.2 k ⟨hfloats, hno⟩
      exact hlast ⟨Upstream.payload_caught_iff.mpr hcaught, by omega⟩

end

theorem getWithRetry_closed_iff (client : HttpClient) (provider : ProviderName) (replies : ℕ → Upstream) :
    ClosedInterface (client.getWithRetry provider replies).result ↔ Readable client replies := by
  by_cases h : 0 ≤ client.maxRetries
  · obtain ⟨k, hgoes, hstops, hfetch⟩ := client.getWithRetry_spec provider replies h
    have hk : (k : ℤ) ≤ client.maxRetries ∧ k ≤ 1024 := by
      cases k with
      | zero => exact ⟨by simpa using h, by omega⟩
      | succ k =>
        obtain ⟨-, hretry, hfloat⟩ := hgoes k (by omega)
        exact ⟨by push_cast; omega, by omega⟩
    rw [hfetch, readable_iff hgoes hstops hk.1 hk.2]
    exact lastResult_closed_iff provider
  · -- Without an attempt the loop gives up at once.
    have hnone : (client.maxRetries + 1).toNat = 0 := by omega
    have hreadable : Readable client replies := ⟨fun i hi => by omega, .inl (by omega)⟩
    rw [closedInterface_iff, HttpClient.getWithRetry, hnone]
    simp [HttpClient.retryLoop, HttpClient.gaveUp, hreadable]

/-- **When no other exception leaves the client**: exactly when what the cache holds for the call is JSON or, if it
holds nothing and the breaker lets the call through, the replies are readable. -/
theorem getJson_closed_iff (env : HttpEnv) (lookup : String → Option String) (breaker : CircuitBreaker) (t : ℚ)
    (r : GetJson) (replies : ℕ → Upstream) :
    ClosedInterface (env.getJson lookup breaker t r replies) ↔
      match (env.caching r).bind (fun entry => lookup entry.1) with
      | some text => (env.loads text).isSome
      | none => (breaker.enter t).2 = .ok () → Readable (env.client r.provider) replies := by
  unfold HttpEnv.getJson
  cases (env.caching r).bind (fun entry => lookup entry.1) with
  | some text =>
    simp only
    cases env.loads text with
    | none => simp [closedInterface_iff]
    | some payload => simp [closedInterface_iff]
  | none =>
    simp only
    cases (breaker.enter t).2 with
    | error e => simp [closedInterface_iff]
    | ok u => simp [getWithRetry_closed_iff]

/-- An upstream that answers with a page of HTML. -/
def htmlUpstream : ℕ → Upstream := fun _ => .response 200 none

/-- A client without cache, a breaker that is closed. -/
def plainEnv : HttpEnv := ⟨fun _ => sampleClient, id, fun _ => none⟩

/-- A page of HTML with status 200 is answered with 500. -/
theorem html_page_leaves_client :
    ¬ ClosedInterface (plainEnv.getJson (fun _ => none) ⟨"weather", 5, 30, .closed, 0, 0⟩ 0
        ⟨weatherName, "https://api.open-meteo.com/v1/forecast", none, none⟩ htmlUpstream) ∧
      ((FetchError.http .jsonDecode).raised.response none).status = 500 := by
  refine ⟨fun h => ?_, rfl⟩
  have hraised : plainEnv.getJson (fun _ => none) ⟨"weather", 5, 30, .closed, 0, 0⟩ 0
      ⟨weatherName, "https://api.open-meteo.com/v1/forecast", none, none⟩ htmlUpstream =
        .error (.http .jsonDecode) := by decide +kernel
  obtain ⟨⟨detail, hdetail⟩, -⟩ := h _ hraised
  cases hdetail

end SmartTravel
