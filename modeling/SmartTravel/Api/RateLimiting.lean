import SmartTravel.Core.ClientIp
import SmartTravel.Core.Errors
import SmartTravel.Core.RateLimit

/-!
# Rate limiting of requests

`enforce_rate_limit` puts the address of the caller, as `ProxyTrust` resolves it, and the limiter together. For a run of
requests it is the limiter on the calls of their identities (`log_calls`). So what is known of the limiter is known of
the requests: a peer that is no trusted proxy has one identity whatever it sends as headers, no window admits more than
the limit of its requests, it is refused only when the limit was reached under its address, and what others send changes
nothing for it (`peers_are_rate_limited`).
-/

namespace SmartTravel

open Py Runs SlidingWindow InMemoryRateLimiter

variable {Addr Net : Type}

/-- A request at a time. -/
structure ClockedRequest where
  request : Request
  now : ℚ

/-- `client_ip(request) or "anonymous"`. -/
def identityOf (trust : ProxyTrust Addr Net) (request : Request) : String :=
  match trust.clientIp request with
  | none => "anonymous"
  | some ip => if ip = "" then "anonymous" else ip

/-- The `RateLimitedError` of a limiter. -/
def rateLimitedError (limit : ℤ) : AppError :=
  ⟨.rateLimited, "rate limit exceeded, slow down", Dict.empty.set "limit_per_minute" (.int limit)⟩

/-- `enforce_rate_limit`: the limiter afterwards, `rate_limit_remaining`, and whether it raises. -/
def enforceRateLimit (trust : ProxyTrust Addr Net) (limiter : InMemoryRateLimiter) (r : ClockedRequest) :
    InMemoryRateLimiter × (ℤ × Except AppError Unit) :=
  let (limiter', allowed, remaining) := limiter.check (identityOf trust r.request) r.now
  (limiter', remaining, if allowed then .ok () else .error (rateLimitedError limiter.limit))

section
variable (trust : ProxyTrust Addr Net)

/-- The dependency as a machine. -/
def enforceMachine : Machine InMemoryRateLimiter ClockedRequest (ℤ × Except AppError Unit) := ⟨enforceRateLimit trust⟩

/-- The call of the limiter that a request makes. -/
def callOf (r : ClockedRequest) : Call := ⟨identityOf trust r.request, r.now⟩

/-- The answer of the limiter behind an outcome. -/
def verdict (outcome : ℤ × Except AppError Unit) : Bool × ℤ := (outcome.2.isOk, outcome.1)

theorem verdict_enforceRateLimit (limiter : InMemoryRateLimiter) (r : ClockedRequest) :
    (enforceRateLimit trust limiter r).1 = (limiter.check (identityOf trust r.request) r.now).1 ∧
      verdict (enforceRateLimit trust limiter r).2 = (limiter.check (identityOf trust r.request) r.now).2 := by
  refine ⟨rfl, ?_⟩
  simp only [enforceRateLimit, verdict]
  cases hallowed : (limiter.check (identityOf trust r.request) r.now).2.1 <;>
    exact Prod.ext hallowed.symm rfl

/-- **A run of requests is a run of the limiter.** -/
theorem log_calls : ∀ (rs : List ClockedRequest) (limiter : InMemoryRateLimiter),
    ((enforceMachine trust).log limiter rs).map (fun e => (callOf trust e.1, verdict e.2)) =
      machine.log limiter (rs.map (callOf trust))
  | [], _ => rfl
  | r :: rs, limiter => by
    obtain ⟨hstate, hanswer⟩ := verdict_enforceRateLimit trust limiter r
    have ih := log_calls rs (enforceRateLimit trust limiter r).1
    simp only [Machine.log, List.map_cons]
    rw [show ((enforceMachine trust).step limiter r).1 = (enforceRateLimit trust limiter r).1 from rfl, ih, hstate]
    exact congrArg (· :: _) (Prod.ext rfl hanswer)

theorem run_calls : ∀ (rs : List ClockedRequest) (limiter : InMemoryRateLimiter),
    (enforceMachine trust).run limiter rs = machine.run limiter (rs.map (callOf trust))
  | [], _ => rfl
  | _ :: rs, _ => run_calls rs _

/-! ## Identities -/

variable {trust}

/-- A peer that is no trusted proxy is its own identity. -/
theorem identityOf_of_untrusted {request : Request} {peer : String} (hclient : request.client = some peer)
    (huntrusted : trust.trusts (some peer) = false) (hne : peer ≠ "") : identityOf trust request = peer := by
  unfold identityOf
  rw [ProxyTrust.clientIp_of_untrusted (hclient ▸ huntrusted), hclient]
  simp only [hne, if_false]

variable (trust)

/-- The requests have one peer and one time, and one set of headers if the peer is a trusted proxy. -/
structure SameCaller (r r' : ClockedRequest) : Prop where
  now : r'.now = r.now
  client : r'.request.client = r.request.client
  headers : trust.trusts r.request.client = true → r'.request.headers = r.request.headers

variable {trust}

theorem SameCaller.identityOf_eq {r r' : ClockedRequest} (h : SameCaller trust r r') :
    identityOf trust r'.request = identityOf trust r.request := by
  have hip : trust.clientIp r'.request = trust.clientIp r.request := by
    cases htrusts : trust.trusts r.request.client with
    | false =>
      rw [ProxyTrust.clientIp_of_untrusted htrusts, ProxyTrust.clientIp_of_untrusted (h.client ▸ htrusts), h.client]
    | true =>
      have hsame : r'.request = r.request := by
        obtain ⟨⟨client, headers⟩, now⟩ := r
        obtain ⟨⟨client', headers'⟩, now'⟩ := r'
        have hclient := h.client
        have hheaders := h.headers htrusts
        simp only at hclient hheaders
        rw [hclient, hheaders]
      rw [hsame]
  unfold identityOf
  rw [hip]

/-- Runs with the same callers are answered alike. -/
theorem log_sameCaller {rs rs' : List ClockedRequest} (h : List.Forall₂ (SameCaller trust) rs rs')
    (limiter : InMemoryRateLimiter) : ((enforceMachine trust).log limiter rs').map (·.2) =
      ((enforceMachine trust).log limiter rs).map (·.2) := by
  induction h generalizing limiter with
  | nil => rfl
  | @cons r r' rs rs' h _ ih =>
    have hstep : enforceRateLimit trust limiter r' = enforceRateLimit trust limiter r := by
      simp only [enforceRateLimit, h.identityOf_eq, h.now]
    have ih := ih (enforceRateLimit trust limiter r).1
    simp only [Machine.log, List.map_cons, enforceMachine, hstep] at ih ⊢
    rw [ih]

/-! ## Histories -/

/-- What the caller gets for an answer of the limiter. -/
def outcomeOf (limit : ℤ) (answer : Bool × ℤ) : ℤ × Except AppError Unit :=
  (answer.2, if answer.1 then .ok () else .error (rateLimitedError limit))

/-- What the limiter saw of the requests. -/
def limiterHistory (trust : ProxyTrust Addr Net) (log : List (ClockedRequest × (ℤ × Except AppError Unit))) : History :=
  log.map fun e => (callOf trust e.1, verdict e.2)

/-- The allowed times of an identity are those among its own requests. -/
theorem allowedTimes_filter (identity : String) (log : List (ClockedRequest × (ℤ × Except AppError Unit))) :
    allowedTimes identity (limiterHistory trust (log.filter fun e => identityOf trust e.1.request = identity)) =
      allowedTimes identity (limiterHistory trust log) := by
  simp only [allowedTimes, allowedCalls, limiterHistory, List.filter_map, List.filter_filter]
  congr 3
  refine List.filter_congr fun e _ => ?_
  simp only [Function.comp_apply, callOf]
  by_cases h : identityOf trust e.1.request = identity <;> simp [h]

section
variable (trust) (limit window : ℤ) (clock : ℚ)

/-- **Every request is answered as the history before it demands.** -/
theorem enforce_answer {pre : List ClockedRequest} {r : ClockedRequest}
    (hclock : NonDecreasing ClockedRequest.now (pre ++ [r])) :
    (enforceRateLimit trust ((enforceMachine trust).run (new limit window clock) pre) r).2 = outcomeOf limit
      (historyAnswer limit window (limiterHistory trust ((enforceMachine trust).log (new limit window clock) pre))
        (callOf trust r)) := by
  have hcalls : NonDecreasing Call.now (pre.map (callOf trust) ++ [callOf trust r]) := by
    have hmap : NonDecreasing Call.now ((pre ++ [r]).map (callOf trust)) := List.pairwise_map.mpr hclock
    rwa [List.map_append, List.map_singleton] at hmap
  have hanswer := step_answer limit window clock machine_counts hcalls
  have hlimit := (run_represents limit window clock machine_counts hcalls.init r.now
    (hcalls.log_le machine)).limit_eq
  have hcheck : ((machine.run (new limit window clock) (pre.map (callOf trust))).check
      (identityOf trust r.request) r.now).2 = _ := hanswer
  rw [limiterHistory, log_calls, run_calls]
  simp only [enforceRateLimit, hcheck, hlimit, outcomeOf]

/-- **An identity is alone**: its requests are answered as in the run without those of all others. -/
theorem log_filter_identity (identity : String) {rs : List ClockedRequest}
    (hclock : NonDecreasing ClockedRequest.now rs) :
    ((enforceMachine trust).log (new limit window clock) rs).filter
        (fun e => identityOf trust e.1.request = identity) =
      (enforceMachine trust).log (new limit window clock)
        (rs.filter fun r => identityOf trust r.request = identity) := by
  induction rs using List.reverseRecOn with
  | nil => rfl
  | append_singleton rs r ih =>
    have ih := ih hclock.init
    rw [Machine.log_snoc, List.filter_append, List.filter_append, List.filter_singleton, List.filter_singleton, ih]
    rcases eq_or_ne (identityOf trust r.request) identity with rfl | hid
    · have hown : NonDecreasing ClockedRequest.now
          (rs.filter (fun q => identityOf trust q.request = identityOf trust r.request) ++ [r]) :=
        List.Pairwise.sublist (List.filter_sublist.append_right [r]) hclock
      have htimes : allowedTimes (callOf trust r).identity (limiterHistory trust ((enforceMachine trust).log
          (new limit window clock) (rs.filter fun q => identityOf trust q.request = identityOf trust r.request))) =
            allowedTimes (callOf trust r).identity
              (limiterHistory trust ((enforceMachine trust).log (new limit window clock) rs)) := by
        rw [← ih]
        exact allowedTimes_filter _ _
      have hanswer := enforce_answer trust limit window clock hown
      rw [historyAnswer_congr limit window htimes, ← enforce_answer trust limit window clock hclock] at hanswer
      simp only [decide_true, cond_true]
      rw [Machine.log_snoc]
      exact congrArg (fun answer => _ ++ [(r, answer)]) hanswer.symm
    · simp only [decide_eq_false hid, cond_false, List.append_nil]

end

/-! ## Peers -/

/-- How many requests of the peer were let through in `(s, s + window]`. -/
def admittedOf (peer : String) (window s : ℚ) (log : List (ClockedRequest × (ℤ × Except AppError Unit))) : ℕ :=
  log.countP fun e => e.1.request.client = some peer && e.2.2.isOk && decide (s < e.1.now ∧ e.1.now ≤ s + window)

/-- Those are counted under the peer's address. -/
theorem admittedOf_le {peer : String} (huntrusted : trust.trusts (some peer) = false) (hne : peer ≠ "") (window s : ℚ)
    (log : List (ClockedRequest × (ℤ × Except AppError Unit))) : admittedOf peer window s log ≤
      within window s (allowedTimes peer (limiterHistory trust log)) := by
  simp only [admittedOf, limiterHistory, within, allowedTimes, allowedCalls, List.countP_map, List.countP_filter]
  refine List.countP_mono_left fun e _ he => ?_
  simp only [Bool.and_eq_true, decide_eq_true_eq, Function.comp_apply, callOf, verdict] at he ⊢
  obtain ⟨⟨hclient, hok⟩, hin⟩ := he
  exact ⟨hin, identityOf_of_untrusted hclient huntrusted hne, hok⟩

variable (trust) (limit window : ℤ) (clock : ℚ)

/-- What the limit means for the peers that are no trusted proxies. -/
structure RateLimitsPeers (rs : List ClockedRequest) : Prop where
  /-- The requests of such a peer are all under its address, and what is under an address is answered as if nothing had
  been sent under another. -/
  alone : ∀ peer, trust.trusts (some peer) = false → peer ≠ "" →
    (∀ r ∈ rs, r.request.client = some peer → identityOf trust r.request = peer) ∧
    ((enforceMachine trust).log (new limit window clock) rs).filter (fun e => identityOf trust e.1.request = peer) =
      (enforceMachine trust).log (new limit window clock) (rs.filter fun r => identityOf trust r.request = peer)
  /-- Headers of such peers change no answer, neither to them nor to anybody else. -/
  headers : ∀ rs', List.Forall₂ (SameCaller trust) rs rs' →
    ((enforceMachine trust).log (new limit window clock) rs').map (·.2) =
      ((enforceMachine trust).log (new limit window clock) rs).map (·.2)
  /-- No interval of one window's length admits more than the limit of a peer's requests. -/
  bound : ∀ peer, trust.trusts (some peer) = false → peer ≠ "" → ∀ s,
    (admittedOf peer window s ((enforceMachine trust).log (new limit window clock) rs) : ℤ) ≤ max limit 0
  /-- A peer is let through if and only if fewer requests than the limit were under its address in the window before;
  otherwise the error tells the limit. -/
  answer : ∀ pre r post, rs = pre ++ r :: post → ∀ peer, r.request.client = some peer →
    trust.trusts (some peer) = false → peer ≠ "" →
    let k : ℤ := (recent (window : ℚ) r.now (allowedTimes peer
      (limiterHistory trust ((enforceMachine trust).log (new limit window clock) pre)))).length
    (enforceRateLimit trust ((enforceMachine trust).run (new limit window clock) pre) r).2 =
      if k < limit then (limit - k - 1, .ok ()) else (0, .error (rateLimitedError limit))

/-- **Peers are rate limited.** For every run of requests with a non-decreasing clock and whatever they carry as
headers. -/
theorem peers_are_rate_limited (rs : List ClockedRequest) (hclock : NonDecreasing ClockedRequest.now rs) :
    RateLimitsPeers trust limit window clock rs := by
  refine ⟨fun peer huntrusted hne => ⟨fun r _ hclient => identityOf_of_untrusted hclient huntrusted hne,
    log_filter_identity trust limit window clock peer hclock⟩, fun rs' h => log_sameCaller h _,
    fun peer huntrusted hne s => ?_, ?_⟩
  · have hle := admittedOf_le huntrusted hne window s ((enforceMachine trust).log (new limit window clock) rs)
    have hcalls : NonDecreasing Call.now (rs.map (callOf trust)) := List.pairwise_map.mpr hclock
    have hbound := (allowedTimes_limited limit window clock peer hcalls).within_le s
    rw [limiterHistory, log_calls] at hle
    omega
  · rintro pre r post rfl peer hclient huntrusted hne
    have hpre : NonDecreasing ClockedRequest.now (pre ++ [r]) := List.Pairwise.sublist (by simp) hclock
    rw [enforce_answer trust limit window clock hpre]
    simp only [outcomeOf, historyAnswer, callOf, identityOf_of_untrusted hclient huntrusted hne]
    split <;> rfl

end

/-- A peer outside the trusted network that forges a new address with each request. -/
def forgedRequests : List ClockedRequest :=
  [⟨⟨some "198.51.100.7", [(forwardedForHeader, "1.1.1.1")]⟩, 0⟩,
    ⟨⟨some "198.51.100.7", [(forwardedForHeader, "2.2.2.2")]⟩, 10⟩,
    ⟨⟨some "198.51.100.7", [(forwardedForHeader, "3.3.3.3")]⟩, 20⟩]

/-- With a limit of two a minute the third request is refused all the same. -/
theorem forged_requests_are_limited :
    RateLimitsPeers (ProxyTrust.new ProxyTrust.ipv4 (some ["10.0.0.0/8"])) 2 60 0 forgedRequests ∧
      (((enforceMachine (ProxyTrust.new ProxyTrust.ipv4 (some ["10.0.0.0/8"]))).log (new 2 60 0) forgedRequests).map
        fun e => verdict e.2) = [(true, 1), (true, 0), (false, 0)] := by
  have hclock : NonDecreasing ClockedRequest.now forgedRequests := by
    unfold NonDecreasing forgedRequests
    decide +kernel
  exact ⟨peers_are_rate_limited _ 2 60 0 forgedRequests hclock, by decide +kernel⟩

end SmartTravel
