import SmartTravel.Lib.Json
import SmartTravel.Resilience.Cache
import SmartTravel.Resilience.CircuitBreaker

/-!
# The resilient HTTP client

`ResilientHttpClient.get_json` looks into the cache, asks the upstream through the circuit breaker and with retries, and
stores what it got. A call awaits at each of these points, so a run is a list of events, each one critical section or
one answer of the upstream, of any number of overlapping calls of any number of clients over one cache. SHA-256 and
`json.loads` are parameters.

Caching is transparent (`caching_transparent`): the key of an entry determines provider, url and params (`cacheKey_inj`,
by the reading of `u:{..}` in one way), and every entry was stored by a call that got its payload from the upstream
(`HttpInv`).
-/

namespace SmartTravel

open Py Runs

/-- The name of a provider. -/
structure ProviderName where
  name : String
  plain : ':' ∉ name.toList
deriving DecidableEq

/-- What came of `client.get(url, params=params)`: an `httpx.TransportError`, another exception of httpx, or a response
with its status and, if it is JSON, its body. -/
inductive Upstream where
  | transportError
  | otherError
  | response (status : ℕ) (body : Option Json)

/-- What `get_json` raises: `ProviderUnavailableError` with its text, or an exception of httpx or of the JSON decoder
that nobody translates. -/
inductive HttpError where
  | providerUnavailable (detail : String)
  | httpx
  | jsonDecode
deriving DecidableEq

/-- How an attempt fails: with an exception that `_get_with_retry` catches, or with one that leaves it. -/
inductive AttemptError where
  | caught
  | leaves (error : HttpError)
deriving DecidableEq

/-- `_RETRYABLE_STATUS`. -/
def retryableStatus : List ℕ := [429, 500, 502, 503, 504]

/-- The body of the retry loop: any status but 2xx is an `HTTPStatusError`, of the loop itself or of
`raise_for_status`. -/
def Upstream.payload : Upstream → Except AttemptError Json
  | .transportError => .error .caught
  | .otherError => .error (.leaves .httpx)
  | .response status body =>
    if status ∈ retryableStatus then .error .caught
    else if ¬ (200 ≤ status ∧ status < 300) then .error .caught
    else
      match body with
      | none => .error (.leaves .jsonDecode)
      | some payload => .ok payload

/-- A `ResilientHttpClient` without its breaker, which has a state. -/
structure HttpClient where
  hasCache : Bool
  maxRetries : ℤ
  backoffBase : ℚ

/-- What follows an attempt: the loop is left with a result, or goes round after a pause. -/
inductive AfterAttempt where
  | finished (result : Except HttpError Json)
  | again (delay : ℚ)

namespace HttpClient

/-- The error after the last attempt. -/
def gaveUp (client : HttpClient) (provider : ProviderName) : HttpError :=
  .providerUnavailable (provider.name ++ " request failed after " ++ toString (client.maxRetries + 1) ++ " attempts")

/-- The end of a pass of the retry loop. -/
def afterAttempt (client : HttpClient) (provider : ProviderName) (attempt : ℕ) (reply : Upstream) : AfterAttempt :=
  match reply.payload with
  | .ok payload => .finished (.ok payload)
  | .error (.leaves e) => .finished (.error e)
  | .error .caught =>
    if (attempt : ℤ) < client.maxRetries then .again (client.backoffBase * 2 ^ attempt)
    else .finished (.error (client.gaveUp provider))

end HttpClient

/-- The arguments of a call of `get_json`, with the client it is made on. -/
structure GetJson where
  provider : ProviderName
  url : String
  params : Option (Dict String Json)
  cacheTtl : Option ℤ

namespace GetJson

/-- `params or {}`. -/
def object (r : GetJson) : Json := .obj (r.params.getD Dict.empty).items

/-- The text that is hashed. -/
def rawKey (r : GetJson) : String := r.provider.name ++ ":" ++ r.url ++ ":" ++ r.object.dumpsSorted

/-- Calls with the same provider, the same url and the same params up to the order of their keys. -/
def Same (r r' : GetJson) : Prop :=
  r.provider = r'.provider ∧ r.url = r'.url ∧ r.object.sortKeys = r'.object.sortKeys

end GetJson

/-- The clients, `hashlib.sha256(..).hexdigest()[:32]` and `json.loads`. -/
structure HttpEnv where
  client : ProviderName → HttpClient
  digest : String → String
  loads : String → Option Json

namespace HttpEnv

variable (env : HttpEnv)

/-- `_cache_key`. -/
def cacheKey (r : GetJson) : String := "http:" ++ r.provider.name ++ ":" ++ env.digest r.rawKey

/-- The key and the time to live if the call uses the cache: `cache_ttl and self._cache`. -/
def caching (r : GetJson) : Option (String × ℤ) :=
  if (env.client r.provider).hasCache then (r.cacheTtl.filter (· ≠ 0)).map fun ttl => (env.cacheKey r, ttl) else none

end HttpEnv

/-! ## Overlapping calls -/

/-- Where a call waits: it has not begun, it is about to enter the breaker, to hear from the upstream, to report to the
breaker, to store what it got; or it has ended. -/
inductive Phase where
  | idle
  | entering (r : GetJson)
  | attempting (r : GetJson) (attempt : ℕ)
  | settling (r : GetJson) (result : Except HttpError Json)
  | storing (r : GetJson) (payload : Json)
  | done

/-- What happens to a call next, with the reading of the clock. -/
inductive HttpEvent where
  | start (c : ℕ) (t : ℚ) (r : GetJson)
  | enter (c : ℕ) (t : ℚ)
  | attempt (c : ℕ) (t : ℚ) (reply : Upstream)
  | settle (c : ℕ) (t : ℚ)
  | store (c : ℕ) (t : ℚ)
  | cancel (c : ℕ) (t : ℚ)

/-- The call an event belongs to. -/
def HttpEvent.call : HttpEvent → ℕ
  | .start c _ _ | .enter c _ | .attempt c _ _ | .settle c _ | .store c _ | .cancel c _ => c

/-- What the event does: nothing, since the call does not wait for it; it leads the call to wait for another; it ends
the call with a payload, with an exception or by cancellation. -/
inductive HttpOutcome where
  | ignored
  | waiting
  | returned (payload : Json)
  | raised (error : HttpError)
  | cancelled
deriving DecidableEq

/-- The cache, the breaker of each client, the calls, and the number of requests sent to an upstream. -/
structure HttpState where
  cache : InMemoryCache
  breaker : ProviderName → CircuitBreaker
  phase : ℕ → Phase
  requests : ℕ

namespace HttpState

def setPhase (s : HttpState) (c : ℕ) (p : Phase) : HttpState := { s with phase := Function.update s.phase c p }

def setBreaker (s : HttpState) (provider : ProviderName) (b : CircuitBreaker) : HttpState :=
  { s with breaker := Function.update s.breaker provider b }

variable (env : HttpEnv)

/-- `get_json` up to the cache lookup. -/
def start (s : HttpState) (c : ℕ) (t : ℚ) (r : GetJson) : HttpState × HttpOutcome :=
  match env.caching r with
  | none => (s.setPhase c (.entering r), .waiting)
  | some (key, _) =>
    match s.cache.get key t with
    | (cache, none) => ({ s with cache := cache }.setPhase c (.entering r), .waiting)
    | (cache, some text) =>
      match env.loads text with
      | none => ({ s with cache := cache }.setPhase c .done, .raised .jsonDecode)
      | some payload => ({ s with cache := cache }.setPhase c .done, .returned payload)

/-- The first critical section of the breaker; without attempts to make, `_get_with_retry` gives up at once. -/
def enter (s : HttpState) (c : ℕ) (t : ℚ) (r : GetJson) : HttpState × HttpOutcome :=
  match (s.breaker r.provider).enter t with
  | (b, .error _) => ((s.setBreaker r.provider b).setPhase c .done,
      .raised (.providerUnavailable (r.provider.name ++ " is temporarily unavailable")))
  | (b, .ok ()) =>
    if (env.client r.provider).maxRetries < 0 then
      ((s.setBreaker r.provider b).setPhase c (.settling r (.error ((env.client r.provider).gaveUp r.provider))),
        .waiting)
    else ((s.setBreaker r.provider b).setPhase c (.attempting r 0), .waiting)

/-- One request and its answer. -/
def attempt (s : HttpState) (c : ℕ) (r : GetJson) (n : ℕ) (reply : Upstream) : HttpState × HttpOutcome :=
  let s := { s with requests := s.requests + 1 }
  match (env.client r.provider).afterAttempt r.provider n reply with
  | .finished result => (s.setPhase c (.settling r result), .waiting)
  | .again _ => (s.setPhase c (.attempting r (n + 1)), .waiting)

/-- The second critical section of the breaker. -/
def settle (s : HttpState) (c : ℕ) (t : ℚ) (r : GetJson) : Except HttpError Json → HttpState × HttpOutcome
  | .error e => ((s.setBreaker r.provider ((s.breaker r.provider).onFailure t)).setPhase c .done, .raised e)
  | .ok payload =>
    let s := s.setBreaker r.provider (s.breaker r.provider).onSuccess
    match env.caching r with
    | none => (s.setPhase c .done, .returned payload)
    | some _ => (s.setPhase c (.storing r payload), .waiting)

/-- The end of `get_json`, for a time to live that fits a float. -/
def store (s : HttpState) (c : ℕ) (t : ℚ) (r : GetJson) (payload : Json) : HttpState × HttpOutcome :=
  match env.caching r with
  | none => (s.setPhase c .done, .returned payload)
  | some (key, ttl) =>
    ({ s with cache := s.cache.put key payload.dumps (t + ttl) }.setPhase c .done, .returned payload)

/-- One event. -/
def step (s : HttpState) : HttpEvent → HttpState × HttpOutcome
  | .start c t r =>
    match s.phase c with
    | .idle => s.start env c t r
    | _ => (s, .ignored)
  | .enter c t =>
    match s.phase c with
    | .entering r => s.enter env c t r
    | _ => (s, .ignored)
  | .attempt c _ reply =>
    match s.phase c with
    | .attempting r n => s.attempt env c r n reply
    | _ => (s, .ignored)
  | .settle c t =>
    match s.phase c with
    | .settling r result => s.settle env c t r result
    | _ => (s, .ignored)
  | .store c t =>
    match s.phase c with
    | .storing r payload => s.store env c t r payload
    | _ => (s, .ignored)
  | .cancel c _ =>
    match s.phase c with
    | .idle | .done => (s, .ignored)
    | _ => (s.setPhase c .done, .cancelled)

/-- Before the first call. -/
def initial (breaker : ProviderName → CircuitBreaker) : HttpState := ⟨⟨Dict.empty⟩, breaker, fun _ => .idle, 0⟩

end HttpState

/-- The clients as a machine. -/
def httpMachine (env : HttpEnv) : Machine HttpState HttpEvent HttpOutcome := ⟨HttpState.step env⟩

/-! ## Keys -/

/-- The hashed text determines provider, url and the text of the params. -/
theorem GetJson.rawKey_inj {r r' : GetJson} (h : r.rawKey = r'.rawKey) :
    r.provider = r'.provider ∧ r.url = r'.url ∧ r.object.dumpsSorted = r'.object.dumpsSorted := by
  have hchars : ∀ r : GetJson, r.rawKey.toList =
      r.provider.name.toList ++ ':' :: (r.url.toList ++ ':' :: r.object.sortKeys.text) := by
    intro r
    simp only [rawKey, Json.dumpsSorted, Json.dumps, String.toList_append, String.toList_ofList, List.append_assoc]
    rfl
  have hlist := congrArg String.toList h
  rw [hchars, hchars] at hlist
  obtain ⟨hname, hrest⟩ := append_sep_inj r.provider.plain r'.provider.plain hlist
  have hprovider : r.provider = r'.provider := by
    cases hp : r.provider
    cases hp' : r'.provider
    rw [hp, hp'] at hname
    congr
    exact String.toList_injective hname
  obtain ⟨hurl, htext⟩ := Json.append_colon_obj_inj hrest
  exact ⟨hprovider, String.toList_injective hurl, congrArg String.ofList htext⟩

/-- **A cache key determines the call it was made for**, if the digests of two texts agree only when the texts do and
`json.loads` reads back what `json.dumps` wrote of the params. -/
theorem HttpEnv.cacheKey_inj {env : HttpEnv} {r r' : GetJson}
    (hdigest : env.digest r.rawKey = env.digest r'.rawKey → r.rawKey = r'.rawKey)
    (hr : env.loads r.object.sortKeys.dumps = some r.object.sortKeys)
    (hr' : env.loads r'.object.sortKeys.dumps = some r'.object.sortKeys) (h : env.cacheKey r = env.cacheKey r') :
    r.Same r' := by
  have hchars : ∀ r : GetJson, (env.cacheKey r).toList =
      "http:".toList ++ (r.provider.name.toList ++ ':' :: (env.digest r.rawKey).toList) := by
    intro r
    simp only [cacheKey, String.toList_append, List.append_assoc]
    rfl
  have hlist := congrArg String.toList h
  rw [hchars, hchars, List.append_cancel_left_eq] at hlist
  obtain ⟨-, hdigests⟩ := append_sep_inj r.provider.plain r'.provider.plain hlist
  obtain ⟨hprovider, hurl, htext⟩ := GetJson.rawKey_inj (hdigest (String.toList_injective hdigests))
  refine ⟨hprovider, hurl, ?_⟩
  have hloads := congrArg env.loads htext
  rw [Json.dumpsSorted, Json.dumpsSorted, hr, hr'] at hloads
  exact Option.some.inj hloads

/-! ## One event -/

/-- The arguments of a call that is under way. -/
def Phase.request : Phase → Option GetJson
  | .idle | .done => none
  | .entering r | .attempting r _ | .settling r _ | .storing r _ => some r

/-- What the upstream gave a call. -/
def Phase.payload : Phase → Option Json
  | .settling _ (.ok payload) | .storing _ payload => some payload
  | _ => none

section
variable (env : HttpEnv)

/-- **Everything an event can do** to the calls and the cache. -/
structure StepSpec (s : HttpState) (e : HttpEvent) (s' : HttpState) (o : HttpOutcome) : Prop where
  request : ∀ c r, (s'.phase c).request = some r →
    (s.phase c).request = some r ∨ o ≠ .ignored ∧ ∃ t, e = .start c t r
  payload : ∀ c payload, (s'.phase c).payload = some payload →
    (s.phase c).payload = some payload ∨
      o ≠ .ignored ∧ ∃ t reply, e = .attempt c t reply ∧ reply.payload = .ok payload
  /-- Only a call that got a payload writes to the cache. -/
  entry : ∀ key entry, s'.cache.store.get? key = some entry →
    s.cache.store.get? key = some entry ∨
      ∃ c t r payload ttl, e = .store c t ∧ s.phase c = .storing r payload ∧ o = .returned payload ∧
        env.caching r = some (key, ttl) ∧ entry = (payload.dumps, t + (ttl : ℚ))
  /-- A payload that is returned is the call's own or was found in the cache. -/
  returned : ∀ payload, o = .returned payload →
    (s.phase e.call).payload = some payload ∨
      ∃ t r key ttl text, e = .start e.call t r ∧ env.caching r = some (key, ttl) ∧
        (s.cache.get key t).2 = some text ∧ env.loads text = some payload

variable {env}

theorem StepSpec.ignored {s : HttpState} {e : HttpEvent} : StepSpec env s e s .ignored :=
  ⟨fun _ _ h => .inl h, fun _ _ h => .inl h, fun _ _ h => .inl h, fun _ h => by cases h⟩

/-- The phase of a call after its event. -/
theorem HttpState.setPhase_phase (s : HttpState) (c : ℕ) (p : Phase) (c' : ℕ) :
    (s.setPhase c p).phase c' = if c' = c then p else s.phase c' := by
  simp only [setPhase, Function.update_apply]

/-- An event that moves its call on and adds nothing to the cache. -/
theorem StepSpec.of_setPhase {s s₁ : HttpState} {e : HttpEvent} {o : HttpOutcome} {p : Phase}
    (hphase : s₁.phase = s.phase)
    (hcache : ∀ key entry, s₁.cache.store.get? key = some entry → s.cache.store.get? key = some entry)
    (hrequest : ∀ r, p.request = some r → (s.phase e.call).request = some r ∨ o ≠ .ignored ∧ ∃ t, e = .start e.call t r)
    (hpayload : ∀ payload, p.payload = some payload → (s.phase e.call).payload = some payload ∨
      o ≠ .ignored ∧ ∃ t reply, e = .attempt e.call t reply ∧ reply.payload = .ok payload)
    (hreturned : ∀ payload, o = .returned payload → (s.phase e.call).payload = some payload ∨
      ∃ t r key ttl text, e = .start e.call t r ∧ env.caching r = some (key, ttl) ∧
        (s.cache.get key t).2 = some text ∧ env.loads text = some payload) :
    StepSpec env s e (s₁.setPhase e.call p) o := by
  refine ⟨fun c r h => ?_, fun c payload h => ?_, fun key entry h => .inl (hcache key entry h), hreturned⟩
  · rw [HttpState.setPhase_phase, hphase] at h
    split at h
    · rename_i hc
      rw [hc]
      exact hrequest r h
    · exact .inl h
  · rw [HttpState.setPhase_phase, hphase] at h
    split at h
    · rename_i hc
      rw [hc]
      exact hpayload payload h
    · exact .inl h

theorem start_spec {s : HttpState} {c : ℕ} (t : ℚ) (r : GetJson) :
    StepSpec env s (.start c t r) (s.start env c t r).1 (s.start env c t r).2 := by
  unfold HttpState.start
  split
  · exact .of_setPhase rfl (fun _ _ h => h) (fun r' h => .inr ⟨by simp, t, by cases h; rfl⟩) (fun _ h => by cases h)
      (fun _ h => by cases h)
  · rename_i key ttl hcaching
    have hcache : ∀ k entry, (s.cache.get key t).1.store.get? k = some entry → s.cache.store.get? k = some entry :=
      fun k entry h => InMemoryCache.mem_of_mem_get h
    split
    · rename_i cache hget
      rw [hget] at hcache
      exact .of_setPhase rfl hcache (fun r' h => .inr ⟨by simp, t, by cases h; rfl⟩) (fun _ h => by cases h)
        (fun _ h => by cases h)
    · rename_i cache text hget
      have hfound : (s.cache.get key t).2 = some text := by rw [hget]
      rw [hget] at hcache
      split
      · exact .of_setPhase rfl hcache (fun _ h => by cases h) (fun _ h => by cases h) (fun _ h => by cases h)
      · rename_i payload hloads
        refine .of_setPhase rfl hcache (fun _ h => by cases h) (fun _ h => by cases h) fun payload' h => ?_
        cases h
        exact .inr ⟨t, r, key, ttl, text, rfl, hcaching, hfound, hloads⟩

/-- A call that goes on keeps its arguments. -/
theorem StepSpec.of_next {s s₁ : HttpState} {e : HttpEvent} {r : GetJson} {p : Phase}
    (hr : (s.phase e.call).request = some r) (hphase : s₁.phase = s.phase) (hcache : s₁.cache = s.cache)
    (hp : p.request = some r)
    (hpayload : ∀ payload, p.payload = some payload → (s.phase e.call).payload = some payload ∨
      HttpOutcome.waiting ≠ .ignored ∧ ∃ t reply, e = .attempt e.call t reply ∧ reply.payload = .ok payload) :
    StepSpec env s e (s₁.setPhase e.call p) .waiting :=
  .of_setPhase hphase (fun _ _ h => hcache ▸ h) (fun _ h => .inl (hr.trans (hp.symm.trans h))) hpayload
    (fun _ h => by cases h)

/-- A call that ends returns its own payload, if any. -/
theorem StepSpec.of_done {s s₁ : HttpState} {e : HttpEvent} {o : HttpOutcome} (hphase : s₁.phase = s.phase)
    (hcache : s₁.cache = s.cache) (ho : ∀ payload, o = .returned payload → (s.phase e.call).payload = some payload) :
    StepSpec env s e (s₁.setPhase e.call .done) o :=
  .of_setPhase hphase (fun _ _ h => hcache ▸ h) (fun _ h => by cases h) (fun _ h => by cases h)
    (fun payload h => .inl (ho payload h))

theorem enter_spec {s : HttpState} {c : ℕ} (t : ℚ) {r : GetJson} (hc : s.phase c = .entering r) :
    StepSpec env s (.enter c t) (s.enter env c t r).1 (s.enter env c t r).2 := by
  have hr : (s.phase c).request = some r := by rw [hc]; rfl
  unfold HttpState.enter
  split
  · exact .of_done rfl rfl fun _ h => by cases h
  · split
    · exact .of_next hr rfl rfl rfl fun _ h => by cases h
    · exact .of_next hr rfl rfl rfl fun _ h => by cases h

/-- The loop is left with a payload only if this attempt gave it. -/
theorem HttpClient.payload_of_finished {client : HttpClient} {provider : ProviderName} {n : ℕ} {reply : Upstream}
    {payload : Json} (h : client.afterAttempt provider n reply = .finished (.ok payload)) :
    reply.payload = .ok payload := by
  unfold afterAttempt at h
  split at h
  · rename_i p hp
    cases h
    exact hp
  · cases h
  · split at h <;> cases h

theorem attempt_spec {s : HttpState} {c : ℕ} (t : ℚ) {r : GetJson} {n : ℕ} (reply : Upstream)
    (hc : s.phase c = .attempting r n) :
    StepSpec env s (.attempt c t reply) (s.attempt env c r n reply).1 (s.attempt env c r n reply).2 := by
  have hr : (s.phase c).request = some r := by rw [hc]; rfl
  unfold HttpState.attempt
  simp only
  split
  · rename_i result hafter
    refine .of_next hr rfl rfl rfl fun payload h => .inr ⟨by simp, t, reply, rfl, ?_⟩
    cases result with
    | error e => cases h
    | ok payload' =>
      cases h
      exact HttpClient.payload_of_finished hafter
  · exact .of_next hr rfl rfl rfl fun _ h => by cases h

theorem settle_spec {s : HttpState} {c : ℕ} (t : ℚ) {r : GetJson} {result : Except HttpError Json}
    (hc : s.phase c = .settling r result) :
    StepSpec env s (.settle c t) (s.settle env c t r result).1 (s.settle env c t r result).2 := by
  have hr : (s.phase c).request = some r := by rw [hc]; rfl
  cases result with
  | error e => exact .of_done rfl rfl fun _ h => by cases h
  | ok payload =>
    have hown : (s.phase c).payload = some payload := by rw [hc]; rfl
    unfold HttpState.settle
    simp only
    split
    · refine .of_done rfl rfl fun payload' h => ?_
      cases h
      exact hown
    · refine .of_next hr rfl rfl rfl fun payload' h => .inl ?_
      cases h
      exact hown

theorem store_spec {s : HttpState} {c : ℕ} (t : ℚ) {r : GetJson} {payload : Json}
    (hc : s.phase c = .storing r payload) :
    StepSpec env s (.store c t) (s.store env c t r payload).1 (s.store env c t r payload).2 := by
  have hown : (s.phase c).payload = some payload := by rw [hc]; rfl
  unfold HttpState.store
  split
  · refine .of_done rfl rfl fun payload' h => ?_
    cases h
    exact hown
  · rename_i key ttl hcaching
    have hdone : StepSpec env s (.store c t) (s.setPhase c .done) (.returned payload) := by
      refine .of_done rfl rfl fun payload' h => ?_
      cases h
      exact hown
    refine ⟨hdone.request, hdone.payload, fun k entry h => ?_, hdone.returned⟩
    have hset : (s.cache.store.set key (payload.dumps, t + (ttl : ℚ))).get? k = some entry := h
    rw [Dict.get?_set] at hset
    split at hset
    · rename_i hk
      cases hset
      exact .inr ⟨c, t, r, payload, ttl, rfl, hc, rfl, hk ▸ hcaching, rfl⟩
    · exact .inl hset

/-- Every event does what its specification allows. -/
theorem step_spec (s : HttpState) (e : HttpEvent) : StepSpec env s e (s.step env e).1 (s.step env e).2 := by
  cases e with
  | start c t r =>
    simp only [HttpState.step]
    split
    · exact start_spec t r
    · exact .ignored
  | enter c t =>
    simp only [HttpState.step]
    split
    · rename_i r hc
      exact enter_spec t hc
    · exact .ignored
  | attempt c t reply =>
    simp only [HttpState.step]
    split
    · rename_i r n hc
      exact attempt_spec t reply hc
    · exact .ignored
  | settle c t =>
    simp only [HttpState.step]
    split
    · rename_i r result hc
      exact settle_spec t hc
    · exact .ignored
  | store c t =>
    simp only [HttpState.step]
    split
    · rename_i r payload hc
      exact store_spec t hc
    · exact .ignored
  | cancel c t =>
    simp only [HttpState.step]
    split
    · exact .ignored
    · exact .ignored
    · exact .of_done rfl rfl fun _ h => by cases h

end

/-! ## Runs -/

/-- The events so far, with what they did. -/
abbrev HttpLog := List (HttpEvent × HttpOutcome)

/-- The call was made with these arguments. -/
def Asked (log : HttpLog) (c : ℕ) (r : GetJson) : Prop := ∃ t o, (HttpEvent.start c t r, o) ∈ log ∧ o ≠ .ignored

/-- The upstream gave the call this payload. -/
def Gave (log : HttpLog) (c : ℕ) (payload : Json) : Prop :=
  ∃ t reply o, (HttpEvent.attempt c t reply, o) ∈ log ∧ o ≠ .ignored ∧ reply.payload = .ok payload

/-- The call got the payload from the upstream, stored it at `t` and returned it. -/
structure Stored (log : HttpLog) (c : ℕ) (t : ℚ) (r : GetJson) (payload : Json) : Prop where
  asked : Asked log c r
  gave : Gave log c payload
  returned : (HttpEvent.store c t, HttpOutcome.returned payload) ∈ log

section
variable {log : HttpLog} {c : ℕ}

theorem Asked.mono {r : GetJson} (h : Asked log c r) (rest : HttpLog) : Asked (log ++ rest) c r := by
  obtain ⟨t, o, hmem, ho⟩ := h
  exact ⟨t, o, List.mem_append_left _ hmem, ho⟩

theorem Gave.mono {payload : Json} (h : Gave log c payload) (rest : HttpLog) : Gave (log ++ rest) c payload := by
  obtain ⟨t, reply, o, hmem, ho⟩ := h
  exact ⟨t, reply, o, List.mem_append_left _ hmem, ho⟩

theorem Stored.mono {t : ℚ} {r : GetJson} {payload : Json} (h : Stored log c t r payload) (rest : HttpLog) :
    Stored (log ++ rest) c t r payload :=
  ⟨h.asked.mono rest, h.gave.mono rest, List.mem_append_left _ h.returned⟩

end

section
variable (env : HttpEnv)

/-- **Where everything comes from**: a call under way was made, what it holds the upstream gave it, and what is in the
cache was stored by a call that returned it. -/
structure HttpInv (log : HttpLog) (s : HttpState) : Prop where
  request : ∀ c r, (s.phase c).request = some r → Asked log c r
  payload : ∀ c payload, (s.phase c).payload = some payload → Gave log c payload
  entry : ∀ key text deadline, s.cache.store.get? key = some (text, deadline) →
    ∃ c t r ttl payload, Stored log c t r payload ∧ env.caching r = some (key, ttl) ∧ text = payload.dumps ∧
      deadline = t + (ttl : ℚ)

variable {env}

/-- One event keeps the invariant. -/
theorem HttpInv.step {log : HttpLog} {s s' : HttpState} {e : HttpEvent} {o : HttpOutcome} (h : HttpInv env log s)
    (hstep : StepSpec env s e s' o) : HttpInv env (log ++ [(e, o)]) s' := by
  have hlast : (e, o) ∈ log ++ [(e, o)] := List.mem_append_right _ List.mem_cons_self
  refine ⟨fun c r hr => ?_, fun c payload hp => ?_, fun key text deadline hentry => ?_⟩
  · rcases hstep.request c r hr with hr | ⟨ho, t, rfl⟩
    · exact (h.request c r hr).mono _
    · exact ⟨t, o, hlast, ho⟩
  · rcases hstep.payload c payload hp with hp | ⟨ho, t, reply, rfl, hreply⟩
    · exact (h.payload c payload hp).mono _
    · exact ⟨t, reply, o, hlast, ho, hreply⟩
  · rcases hstep.entry key _ hentry with hentry | ⟨c, t, r, payload, ttl, rfl, hphase, rfl, hcaching, heq⟩
    · obtain ⟨c, t, r, ttl, payload, hstored, hrest⟩ := h.entry key text deadline hentry
      exact ⟨c, t, r, ttl, payload, hstored.mono _, hrest⟩
    · obtain ⟨rfl, rfl⟩ := Prod.mk.inj heq
      have hasked : Asked log c r := h.request c r (by rw [hphase]; rfl)
      have hgave : Gave log c payload := h.payload c payload (by rw [hphase]; rfl)
      exact ⟨c, t, r, ttl, payload, ⟨hasked.mono _, hgave.mono _, hlast⟩, hcaching, rfl, rfl⟩

/-- Every run keeps the invariant. -/
theorem run_httpInv (env : HttpEnv) (breaker : ProviderName → CircuitBreaker) (es : List HttpEvent) :
    HttpInv env ((httpMachine env).log (.initial breaker) es) ((httpMachine env).run (.initial breaker) es) := by
  refine (httpMachine env).run_rule (fun _ => True) (HttpInv env) (fun _ _ _ => trivial) ?_ ?_ es trivial
  · refine ⟨fun c r h => ?_, fun c payload h => ?_, fun key text deadline h => ?_⟩
    · cases h
    · cases h
    · cases h
  · intro is e _ h
    exact h.step (step_spec _ e)

end

/-! ## Transparency -/

section
variable (env : HttpEnv) (s₀ : HttpState) (es : List HttpEvent)

/-- **Caching is transparent.** -/
structure Transparent : Prop where
  /-- What a call returns the upstream gave it, or gave an earlier call for the same thing, which stored it less than
  its own time to live ago. -/
  returned : ∀ pre e post payload, es = pre ++ e :: post →
    (((httpMachine env).run s₀ pre).step env e).2 = .returned payload →
    Gave ((httpMachine env).log s₀ pre) e.call payload ∨
      ∃ t r, e = .start e.call t r ∧ ∃ c' t' r' ttl, Stored ((httpMachine env).log s₀ pre) c' t' r' payload ∧
        r'.Same r ∧ r'.cacheTtl = some ttl ∧ t - t' < ttl
  /-- An event that does not end a call with a payload adds nothing to the cache. -/
  failures_not_cached : ∀ pre e post, es = pre ++ e :: post →
    (∀ payload, (((httpMachine env).run s₀ pre).step env e).2 ≠ .returned payload) →
    ∀ key entry, (((httpMachine env).run s₀ pre).step env e).1.cache.store.get? key = some entry →
      ((httpMachine env).run s₀ pre).cache.store.get? key = some entry
  /-- A call that is answered from the cache touches no breaker, sends no request and is over. -/
  hit_contacts_nobody : ∀ pre c t r post payload, es = pre ++ .start c t r :: post →
    (((httpMachine env).run s₀ pre).step env (.start c t r)).2 = .returned payload →
    (((httpMachine env).run s₀ pre).step env (.start c t r)).1.breaker = ((httpMachine env).run s₀ pre).breaker ∧
      (((httpMachine env).run s₀ pre).step env (.start c t r)).1.requests = ((httpMachine env).run s₀ pre).requests ∧
      (((httpMachine env).run s₀ pre).step env (.start c t r)).1.phase c = .done

/-- Of the texts that the run hashes, no two have the same digest. -/
def CollisionFree : Prop :=
  ∀ c t r c' t' r', HttpEvent.start c t r ∈ es → HttpEvent.start c' t' r' ∈ es →
    env.digest r.rawKey = env.digest r'.rawKey → r.rawKey = r'.rawKey

/-- `json.loads` reads back what `json.dumps` writes of the payloads and params of the run. -/
structure ReadsBack : Prop where
  payload : ∀ c t reply payload, HttpEvent.attempt c t reply ∈ es → reply.payload = .ok payload →
    env.loads payload.dumps = some payload
  params : ∀ c t r, HttpEvent.start c t r ∈ es → env.loads r.object.sortKeys.dumps = some r.object.sortKeys

end

section
variable {env : HttpEnv} {s₀ : HttpState} {es : List HttpEvent}

theorem HttpEnv.caching_eq_some {r : GetJson} {key : String} {ttl : ℤ} (h : env.caching r = some (key, ttl)) :
    key = env.cacheKey r ∧ r.cacheTtl = some ttl := by
  unfold caching at h
  split at h
  · obtain ⟨ttl', hfilter, heq⟩ := Option.map_eq_some_iff.mp h
    obtain ⟨rfl, rfl⟩ := Prod.mk.inj heq
    exact ⟨rfl, (Option.filter_eq_some_iff.mp hfilter).1⟩
  · cases h

/-- A logged event is one of the run. -/
theorem mem_of_mem_log {e : HttpEvent} {o : HttpOutcome} (h : (e, o) ∈ (httpMachine env).log s₀ es) : e ∈ es := by
  rw [← (httpMachine env).map_fst_log s₀ es]
  exact List.mem_map_of_mem h

/-- What is found in the cache was stored by a call for the same thing. -/
theorem HttpInv.hit {s : HttpState} (h : HttpInv env ((httpMachine env).log s₀ es) s) {all : List HttpEvent}
    (hall : es ⊆ all) (hdigest : CollisionFree env all) (hloads : ReadsBack env all) {c : ℕ} {t : ℚ} {r : GetJson}
    (hr : HttpEvent.start c t r ∈ all) {key text : String} {ttl : ℤ} {payload : Json}
    (hcaching : env.caching r = some (key, ttl)) (hget : (s.cache.get key t).2 = some text)
    (hpayload : env.loads text = some payload) :
    ∃ c' t' r' ttl', Stored ((httpMachine env).log s₀ es) c' t' r' payload ∧ r'.Same r ∧ r'.cacheTtl = some ttl' ∧
      t - t' < ttl' := by
  obtain ⟨deadline, hentry, hlive⟩ := InMemoryCache.get_eq_some_iff.mp hget
  obtain ⟨c', t', r', ttl', payload', hstored, hcaching', rfl, rfl⟩ := h.entry key text deadline hentry
  obtain ⟨hkey, -⟩ := HttpEnv.caching_eq_some hcaching
  obtain ⟨hkey', httl'⟩ := HttpEnv.caching_eq_some hcaching'
  obtain ⟨tr, o, hr', -⟩ := hstored.asked
  obtain ⟨ta, reply, o', ha, -, hreply⟩ := hstored.gave
  have hr'_all : HttpEvent.start c' tr r' ∈ all := hall (mem_of_mem_log hr')
  have hread := hloads.payload c' ta reply payload' (hall (mem_of_mem_log ha)) hreply
  rw [hpayload, Option.some.injEq] at hread
  subst hread
  have hsame : r'.Same r := HttpEnv.cacheKey_inj (hdigest c' tr r' c t r hr'_all hr) (hloads.params c' tr r' hr'_all)
    (hloads.params c t r hr) (hkey'.symm.trans hkey)
  exact ⟨c', t', r', ttl', hstored, hsame, httl', by linarith⟩

/-- A call answered at once was answered from the cache. -/
theorem start_returned {s : HttpState} {c : ℕ} {t : ℚ} {r : GetJson} {payload : Json}
    (h : (s.step env (.start c t r)).2 = .returned payload) :
    (s.step env (.start c t r)).1.breaker = s.breaker ∧ (s.step env (.start c t r)).1.requests = s.requests ∧
      (s.step env (.start c t r)).1.phase c = .done := by
  simp only [HttpState.step] at h ⊢
  split at h
  · unfold HttpState.start at h ⊢
    split at h
    · cases h
    · split at h
      · cases h
      · split at h
        · cases h
        · exact ⟨rfl, rfl, by rw [HttpState.setPhase_phase, if_pos rfl]⟩
  · cases h

/-- **Response caching is transparent** in every run of overlapping `get_json` calls of clients over one cache, whatever
the breakers, the retries, the clock and the order of events. -/
theorem caching_transparent (env : HttpEnv) (breaker : ProviderName → CircuitBreaker) (es : List HttpEvent)
    (hdigest : CollisionFree env es) (hloads : ReadsBack env es) : Transparent env (.initial breaker) es := by
  refine ⟨fun pre e post payload hes h => ?_, fun pre e post hes h key entry hentry => ?_,
    fun pre c t r post payload hes h => start_returned h⟩
  · have hinv := run_httpInv env breaker pre
    rcases (step_spec _ e).returned payload h with hown | ⟨t, r, key, ttl, text, he, hcaching, hget, hpayload⟩
    · exact .inl (hinv.payload _ _ hown)
    · refine .inr ⟨t, r, he, hinv.hit ?_ hdigest hloads (c := e.call) ?_ hcaching hget hpayload⟩
      · rw [hes]
        exact List.subset_append_left _ _
      · rw [← he, hes]
        exact List.mem_append_right _ List.mem_cons_self
  · rcases (step_spec _ e).entry key entry hentry with hold | ⟨_, _, _, payload, _, _, _, ho, _⟩
    · exact hold
    · exact absurd ho (h payload)

/-- A client with the cache and two retries. -/
def sampleHttpEnv : HttpEnv where
  client := fun _ => ⟨true, 2, 1 / 5⟩
  digest := fun raw =>
    if raw = "test:http://svc/data:\x7b\"page\": 1, \"q\": \"a:b\"\x7d" then "2ed2fd3496c16e92d3a1d0ff5b173324" else ""
  loads := fun text =>
    if text = "\x7b\"value\": 1\x7d" then some (.obj [("value", .int 1)])
    else if text = "\x7b\"page\": 1, \"q\": \"a:b\"\x7d" then some (.obj [("page", .int 1), ("q", .str "a:b")])
    else none

/-- A call with these params. -/
def sampleGetJson (params : Dict String Json) : GetJson :=
  ⟨⟨"test", by decide⟩, "http://svc/data", some params, some 60⟩

/-- The same params in two orders. -/
def pageFirst : Dict String Json := (Dict.empty.set "page" (.int 1)).set "q" (.str "a:b")

def pageLast : Dict String Json := (Dict.empty.set "q" (.str "a:b")).set "page" (.int 1)

/-- A call that gets its payload at the second attempt, and a second one while the entry lives. -/
def missThenHit : List HttpEvent :=
  [.start 0 0 (sampleGetJson pageFirst), .enter 0 0, .attempt 0 1 (.response 503 none),
    .attempt 0 2 (.response 200 (some (.obj [("value", .int 1)]))), .settle 0 2, .store 0 2,
    .start 1 61 (sampleGetJson pageLast)]

/-- The second call is answered from the cache, and the run is transparent. -/
theorem missThenHit_transparent :
    (((httpMachine sampleHttpEnv).run (.initial fun p => ⟨p.name, 5, 30, .closed, 0, 0⟩) (missThenHit.take 6)).step
      sampleHttpEnv (.start 1 61 (sampleGetJson pageLast))).2 = .returned (.obj [("value", .int 1)]) ∧
    Transparent sampleHttpEnv (.initial fun p => ⟨p.name, 5, 30, .closed, 0, 0⟩) missThenHit := by
  have hstart : ∀ {c t r}, HttpEvent.start c t r ∈ missThenHit →
      r.rawKey = (sampleGetJson pageFirst).rawKey ∧ r.object.sortKeys = (sampleGetJson pageFirst).object.sortKeys := by
    intro c t r h
    simp only [missThenHit, List.mem_cons, HttpEvent.start.injEq, reduceCtorEq, false_or, List.not_mem_nil,
      or_false] at h
    rcases h with ⟨-, -, rfl⟩ | ⟨-, -, rfl⟩
    · exact ⟨rfl, rfl⟩
    · decide +kernel
  refine ⟨by decide +kernel, caching_transparent _ _ _ ?_ ⟨?_, ?_⟩⟩
  · intro c t r c' t' r' h h' _
    rw [(hstart h).1, (hstart h').1]
  · intro c t reply payload h hreply
    simp only [missThenHit, List.mem_cons, HttpEvent.attempt.injEq, reduceCtorEq, false_or, List.not_mem_nil,
      or_false] at h
    rcases h with ⟨-, -, rfl⟩ | ⟨-, -, rfl⟩
    · cases hreply
    · cases hreply
      decide +kernel
  · intro c t r h
    rw [(hstart h).2]
    decide +kernel

end

end SmartTravel
