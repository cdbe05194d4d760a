import SmartTravel.Api.AuditTrail
import SmartTravel.Resilience.RedisCache

/-!
# The two cache backends under the whole service

Tests and single nodes run on `InMemoryCache`, production on `RedisCache`. The services know only the `CacheProtocol`,
so where one cache simulates the other an operation over the one and over the other leaves states that differ in related
caches, and answers alike: it is `Blind` to the cache (`blind_getAccessPayload`, `blind_refresh`,
`blind_logoutEndpoint`). What it sets must be accepted, which of a logout is a matter of how long the tokens live that
are presented (`AuthRequest.Storable`). With that no run of the service tells one cache from the other
(`CacheSimulation.service_log`), and a Redis server that does what is documented can take the place of the in-memory
cache (`cache_backends_interchangeable`).
-/

namespace SmartTravel

open Py Runs

/-! ## Operations that are blind to the cache -/

section
variable {κ κ' : Type} [CacheProtocol κ] [CacheProtocol κ'] (R : ℚ → κ → κ' → Prop) (Accepts : ℤ → ℚ → Prop)
  (env : Backend) (now : ℚ)

/-- With a cache that is related, the operation answers as with its own, and leaves one that is related. -/
def Blind {α : Type} (operation : Operation α) : Prop :=
  ∀ (s : AuthStateOver κ) cache', R (now + env.skew) s.cache cache' →
    ∃ after', operation κ' (s.withCache cache') = ((operation κ s).1.withCache after', (operation κ s).2) ∧
      R (now + env.skew) (operation κ s).1.cache after'

/-- Revoking the token is accepted by the cache, if it is not expired already. -/
def Revocable (payload : Payload) : Prop :=
  0 < remainingTtl payload now → Accepts (remainingTtl payload now) (now + env.skew)

/-- A time to live that the request sets is accepted, that of a token which it revokes too. -/
def AuthRequest.Storable : AuthRequest → Prop
  | .cache _ (.set _ ttl) => Accepts ttl (now + env.skew)
  | .logout credentials refreshToken => ∀ token, token ∈ credentials ∨ token ∈ refreshToken → ∀ payload,
      env.jwt.decode now token = .ok payload → Revocable Accepts env now payload
  | _ => True

variable {R Accepts env now}

theorem CacheFree.blind {α : Type} {operation : Operation α} (h : CacheFree operation) : Blind R env now operation := by
  intro s cache' hrel
  have hcache : (operation κ s).1.cache = s.cache := congrArg (fun r => r.1.cache) (h κ κ s s.cache)
  refine ⟨cache', h κ κ' s cache', ?_⟩
  rw [hcache]
  exact hrel

theorem Blind.transaction {α : Type} {operation : Operation (Except AuthError α)} (h : Blind R env now operation) :
    Blind R env now fun κ _ => transaction (operation κ) := by
  intro s cache' hrel
  obtain ⟨after', hop, hafter⟩ := h s cache' hrel
  simp only [SmartTravel.transaction]
  rw [hop]
  cases hs : operation κ s with
  | mk s' answer =>
    rw [hs] at hafter
    cases answer with
    | error e => exact ⟨after', rfl, hafter⟩
    | ok a => exact ⟨after', rfl, hafter⟩

theorem Blind.reply {α β : Type} {operation : Operation (Except AuthError α)} (h : Blind R env now operation)
    (f : α → β) : Blind R env now fun κ _ s => ((operation κ s).1, (operation κ s).2.map f) := by
  intro s cache' hrel
  obtain ⟨after', hop, hafter⟩ := h s cache' hrel
  exact ⟨after', by simp only [hop], hafter⟩

variable (hsim : CacheSimulation R Accepts)
include hsim

/-- The denylist says the same on both, and looking it up keeps them related. -/
theorem isRevoked_related {cache : κ} {cache' : κ'} {skew : ℚ} (h : R (now + skew) cache cache') (payload : Payload) :
    (isRevoked cache skew payload now).2 = (isRevoked cache' skew payload now).2 ∧
      R (now + skew) (isRevoked cache skew payload now).1 (isRevoked cache' skew payload now).1 := by
  unfold isRevoked
  split
  · exact ⟨rfl, h⟩
  · obtain ⟨hanswer, hafter⟩ := hsim.get h (revokedKey _)
    exact ⟨congrArg Option.isSome hanswer, hafter⟩

/-- Revoking writes to both. -/
theorem revoke_related {cache : κ} {cache' : κ'} (h : R (now + env.skew) cache cache') {payload : Payload}
    (hpayload : Revocable Accepts env now payload) :
    ∃ after after', revoke cache env.skew payload now = .ok after ∧ revoke cache' env.skew payload now = .ok after' ∧
      R (now + env.skew) after after' := by
  simp only [revoke]
  split
  · exact ⟨cache, cache', rfl, rfl, h⟩
  · split
    · rename_i httl
      exact hsim.set h _ "1" (hpayload httl)
    · exact ⟨cache, cache', rfl, rfl, h⟩

variable (env now)

theorem blind_getAccessPayload (credentials : Option String) :
    Blind R env now fun _ _ s => env.getAccessPayload s credentials now := by
  intro s cache' hrel
  simp only [Backend.getAccessPayload]
  split
  · exact ⟨cache', rfl, hrel⟩
  · split
    · exact ⟨cache', rfl, hrel⟩
    · rename_i payload _
      obtain ⟨hanswer, hafter⟩ := isRevoked_related hsim hrel payload
      have hrevoked : (isRevoked (s.withCache cache').cache env.skew payload now).2 =
          (isRevoked s.cache env.skew payload now).2 := hanswer.symm
      rw [hrevoked]
      split <;> exact ⟨_, rfl, hafter⟩

theorem blind_mandatoryUser (credentials : Option String) :
    Blind R env now fun _ _ s => env.mandatoryUser s credentials now := by
  intro s cache' hrel
  obtain ⟨after', hop, hafter⟩ := blind_getAccessPayload env now hsim credentials s cache' hrel
  simp only [Backend.mandatoryUser] at hop hafter ⊢
  rw [hop]
  cases hs : env.getAccessPayload s credentials now with
  | mk s' answer =>
    rw [hs] at hafter
    cases answer with
    | error e => exact ⟨after', rfl, hafter⟩
    | ok payload => exact ⟨after', rfl, hafter⟩

theorem blind_refresh (token : String) : Blind R env now fun _ _ s => env.refresh s token now := by
  intro s cache' hrel
  simp only [Backend.refresh]
  split
  · exact ⟨cache', rfl, hrel⟩
  · rename_i payload _
    obtain ⟨hanswer, hafter⟩ := isRevoked_related hsim hrel payload
    have hrevoked : (isRevoked (s.withCache cache').cache env.skew payload now).2 =
        (isRevoked s.cache env.skew payload now).2 := hanswer.symm
    have hsubject : ∀ cache : κ', env.subjectOf { s.withCache cache' with cache := cache } payload =
        env.subjectOf s payload := fun _ => rfl
    have hsubject' : ∀ cache : κ, env.subjectOf { s with cache := cache } payload = env.subjectOf s payload :=
      fun _ => rfl
    simp only [hrevoked, hsubject, hsubject']
    split
    · exact ⟨_, rfl, hafter⟩
    · cases env.subjectOf s payload with
      | error e => exact ⟨_, rfl, hafter⟩
      | ok found =>
        cases found with
        | none => exact ⟨_, rfl, hafter⟩
        | some user =>
          simp only
          split <;> exact ⟨_, rfl, hafter⟩

variable {env now}

/-- Revoking a token succeeds on both. -/
theorem revokePayload_related {s : AuthStateOver κ} {cache' : κ'} (h : R (now + env.skew) s.cache cache')
    {payload : Payload} (hpayload : Revocable Accepts env now payload) :
    ∃ after after', env.revokePayload s payload now = (s.withCache after, .ok ()) ∧
      env.revokePayload (s.withCache cache') payload now = (s.withCache after', .ok ()) ∧
      R (now + env.skew) after after' := by
  obtain ⟨after, after', hrevoke, hrevoke', hafter⟩ := revoke_related hsim h hpayload
  have hother : revoke (s.withCache cache').cache env.skew payload now = .ok after' := hrevoke'
  refine ⟨after, after', ?_, ?_, hafter⟩
  · simp only [Backend.revokePayload, hrevoke]
    rfl
  · simp only [Backend.revokePayload, hother]
    rfl

theorem blind_logout {access : Payload} {refreshToken : Option String} (haccess : Revocable Accepts env now access)
    (hrefresh : ∀ token ∈ refreshToken, ∀ payload, env.jwt.decode now token = .ok payload →
      Revocable Accepts env now payload) : Blind R env now fun _ _ s => env.logout s access refreshToken now := by
  intro s cache' hrel
  obtain ⟨after, after', hrevoke, hrevoke', hafter⟩ := revokePayload_related hsim hrel haccess
  simp only [Backend.logout, hrevoke, hrevoke']
  split
  · exact ⟨after', rfl, hafter⟩
  · rename_i token htoken
    split
    · exact ⟨after', rfl, hafter⟩
    · rename_i payload hdecode
      have hpayload := hrefresh token (Option.filter_eq_some_iff.mp htoken).1 payload (decodeToken_ok hdecode).1
      have hrel' : R (now + env.skew) (s.withCache after).cache after' := hafter
      obtain ⟨last, last', hlast, hlast', hend⟩ := revokePayload_related hsim hrel' hpayload
      have hother : env.revokePayload (s.withCache after') payload now = (s.withCache last', .ok ()) := hlast'
      rw [hlast, hother]
      exact ⟨last', rfl, hend⟩

theorem blind_logoutEndpoint {credentials refreshToken : Option String}
    (hstorable : (AuthRequest.logout credentials refreshToken).Storable Accepts env now) :
    Blind R env now fun _ _ s => env.logoutEndpoint s credentials refreshToken now := by
  intro s cache' hrel
  obtain ⟨after', hop, hafter⟩ := blind_getAccessPayload env now hsim credentials s cache' hrel
  simp only [Backend.logoutEndpoint] at hop hafter ⊢
  rw [hop]
  cases hs : env.getAccessPayload s credentials now with
  | mk s' answer =>
    rw [hs] at hafter
    cases answer with
    | error e => exact ⟨after', rfl, hafter⟩
    | ok access =>
      obtain ⟨token, htoken, hdecode⟩ := getAccessPayload_ok (congrArg Prod.snd hs)
      have haccess := hstorable token (.inl htoken) access (decodeToken_ok hdecode).1
      have hrefresh := fun token htoken => hstorable token (.inr htoken)
      obtain ⟨last', hlast, hend⟩ := blind_logout hsim haccess hrefresh s' after' hafter
      simp only at hlast hend ⊢
      rw [hlast]
      cases hlogout : env.logout s' access refreshToken now with
      | mk s'' outcome =>
        rw [hlogout] at hend
        cases outcome with
        | error e => exact ⟨last', rfl, hend⟩
        | ok _ => exact ⟨last', rfl, hend⟩

theorem blind_useCache {key : ForeignKey} {use : CacheUse}
    (hstorable : (AuthRequest.cache key use).Storable Accepts env now) :
    Blind R env now fun _ _ s => env.useCache s key now use := by
  intro s cache' hrel
  cases use with
  | get => exact ⟨_, rfl, (hsim.get hrel key.key).2⟩
  | set value ttl =>
    obtain ⟨after, after', hset, hset', hafter⟩ := hsim.set hrel key.key value hstorable
    have hother : CacheProtocol.set (s.withCache cache').cache key.key value ttl (now + env.skew) = .ok after' := hset'
    simp only [Backend.useCache, hset, hother]
    exact ⟨after', rfl, hafter⟩
  | delete => exact ⟨_, rfl, hsim.delete hrel key.key⟩

/-- **One request** to the authentication endpoints is blind to the cache. -/
theorem blind_handle {request : AuthRequest} (h : request.Storable Accepts env now) :
    Blind R env now fun _ _ s => env.handle s ⟨now, request⟩ := by
  by_cases hfree : request.looksUp = false ∧ request.visible = true
  · exact (cacheFree_handle env hfree.1 hfree.2).blind
  · cases request with
    | refresh token => exact (blind_refresh env now hsim token).transaction.reply _
    | logout credentials refreshToken => exact (blind_logoutEndpoint hsim h).transaction.reply _
    | bearer credentials => exact (blind_mandatoryUser env now hsim credentials).transaction.reply _
    | cache key use => exact (blind_useCache hsim h).reply _
    | _ => exact absurd ⟨rfl, rfl⟩ hfree

end

/-! ## The whole service -/

/-- The service with another cache. -/
def ServiceStateOver.withCache {κ κ' : Type} (s : ServiceStateOver κ) (cache : κ') : ServiceStateOver κ' :=
  { s with auth := s.auth.withCache cache }

/-- What a call sets in the cache is accepted. -/
def ServiceCall.Storable (Accepts : ℤ → ℚ → Prop) (env : ServiceEnv) (r : ServiceCall) : Prop :=
  match r.request with
  | .auth request _ => request.Storable Accepts env.auth r.now
  | _ => True

/-- What one cache accepts, another may accept too. -/
theorem ServiceCall.Storable.mono {Accepts Accepts' : ℤ → ℚ → Prop} {env : ServiceEnv} {r : ServiceCall}
    (h : r.Storable Accepts env) (haccepts : ∀ ttl now, Accepts ttl now → Accepts' ttl now) :
    r.Storable Accepts' env := by
  obtain ⟨now, request⟩ := r
  cases request with
  | auth request ip =>
    cases request with
    | logout credentials refreshToken =>
      exact fun token htoken payload hdecode hpos => haccepts _ _ (h token htoken payload hdecode hpos)
    | cache key use =>
      cases use with
      | set value ttl => exact haccepts _ _ h
      | get => trivial
      | delete => trivial
    | _ => trivial
  | _ => trivial

section
variable {κ κ' : Type} [CacheProtocol κ] [CacheProtocol κ'] {R : ℚ → κ → κ' → Prop} {Accepts : ℤ → ℚ → Prop}
  (hsim : CacheSimulation R Accepts) {env : ServiceEnv}
include hsim

/-- The row of the audit log does not depend on the cache. -/
theorem auditRow_related {s : AuthStateOver κ} {cache' : κ'} {r : Timed} (h : R (r.now + env.auth.skew) s.cache cache')
    (ip : Option String) (reply : Except AuthError AuthReply) :
    env.auth.auditRow (s.withCache cache') r ip reply = env.auth.auditRow s r ip reply := by
  have hauth : ∀ email password, (env.auth.authenticate (s.withCache cache') email password).2 =
      (env.auth.authenticate s email password).2 := by
    intro email password
    exact congrArg (fun answer => answer.2) (cacheFree_authenticate env.auth email password κ κ' s cache')
  have haccess : ∀ credentials, (env.auth.getAccessPayload (s.withCache cache') credentials r.now).2 =
      (env.auth.getAccessPayload s credentials r.now).2 := by
    intro credentials
    obtain ⟨after', hop, -⟩ := blind_getAccessPayload env.auth r.now hsim credentials s cache' h
    exact congrArg (fun answer => answer.2) hop
  unfold Backend.auditRow
  split
  · rfl
  · rw [hauth]
  · rw [haccess]
  · rfl

/-- **One call** is blind to the cache. -/
theorem blind_service {s : ServiceStateOver κ} {r : ServiceCall} (hr : r.Storable Accepts env) {cache' : κ'}
    (hrel : R (r.now + env.auth.skew) s.auth.cache cache') :
    ∃ after', (s.withCache cache').handle env r = ((s.handle env r).1.withCache after', (s.handle env r).2) ∧
      R (r.now + env.auth.skew) (s.handle env r).1.auth.cache after' := by
  obtain ⟨now, request⟩ := r
  cases request with
  | auth request ip =>
    obtain ⟨after', hop, hafter⟩ := blind_handle hsim hr s.auth cache' hrel
    have hhandle : env.auth.handle (s.withCache cache').auth ⟨now, request⟩ = _ := hop
    refine ⟨after', ?_, hafter⟩
    simp only [ServiceStateOver.handle, hhandle]
    have haudit : env.auth.auditRow (s.withCache cache').auth ⟨now, request⟩ ip = _ :=
      funext fun reply => auditRow_related hsim (r := ⟨now, request⟩) hrel ip reply
    rw [haudit]
    rfl
  | searchFlights credentials flights request =>
    have huser : env.auth.getOptionalUser (s.withCache cache').auth credentials now =
        env.auth.getOptionalUser s.auth credentials now := by
      cases credentials with
      | none => rfl
      | some token => rfl
    simp only [ServiceStateOver.handle, searchFlights, huser]
    refine ⟨cache', ?_, ?_⟩
    · cases env.auth.getOptionalUser s.auth credentials now with
      | error e => rfl
      | ok user =>
        simp only
        cases searchFlightsFor env.auth env.alerts.upper flights user request <;> rfl
    · cases env.auth.getOptionalUser s.auth credentials now with
      | error e => exact hrel
      | ok user =>
        simp only
        cases searchFlightsFor env.auth env.alerts.upper flights user request <;> exact hrel
  | alert credentials action =>
    obtain ⟨after', hop, hafter⟩ := blind_mandatoryUser env.auth now hsim credentials s.auth cache' hrel
    have huser : env.auth.mandatoryUser (s.withCache cache').auth credentials now = _ := hop
    simp only [ServiceStateOver.handle, ServiceStateOver.alert, huser]
    cases hs : env.auth.mandatoryUser s.auth credentials now with
    | mk auth answer =>
      simp only [hs] at hafter
      cases answer with
      | error e => exact ⟨after', rfl, hafter⟩
      | ok user => exact ⟨after', rfl, hafter⟩
  | metrics credentials order =>
    obtain ⟨after', hop, hafter⟩ := blind_mandatoryUser env.auth now hsim credentials s.auth cache' hrel
    have huser : env.auth.mandatoryUser (s.withCache cache').auth credentials now = _ := hop
    simp only [ServiceStateOver.handle, ServiceStateOver.adminMetrics, Backend.requireAdmin, huser]
    cases hs : env.auth.mandatoryUser s.auth credentials now with
    | mk auth answer =>
      simp only [hs] at hafter
      cases answer with
      | error e => exact ⟨after', rfl, hafter⟩
      | ok user =>
        simp only
        by_cases hrole : user.role ≠ .admin
        · simp only [if_pos hrole]
          exact ⟨after', rfl, hafter⟩
        · simp only [if_neg hrole]
          exact ⟨after', rfl, hafter⟩
  | monitorPrices run =>
    simp only [ServiceStateOver.handle, ServiceStateOver.monitorPrices]
    cases hcheck : checkAll env.auth.lower env.fromisoformat run s.auth.users (run.arrange s.alerts.active) with
    | mk sent outcome =>
      have hother : checkAll env.auth.lower env.fromisoformat run (s.withCache cache').auth.users
          (run.arrange (s.withCache cache').alerts.active) = (sent, outcome) := hcheck
      rw [hother]
      cases outcome with
      | error e => exact ⟨cache', rfl, hrel⟩
      | ok marked => exact ⟨cache', rfl, hrel⟩
  | cleanupAuditLog retentionDays =>
    simp only [ServiceStateOver.handle, ServiceStateOver.cleanupAuditLog]
    split <;> exact ⟨cache', rfl, hrel⟩

omit hsim in
variable (R env) in
/-- The second state is the first with a cache that is related from the time on. -/
def Swapped (t : ℚ) (s : ServiceStateOver κ) (s' : ServiceStateOver κ') : Prop :=
  ∃ cache', s' = s.withCache cache' ∧ R (t + env.auth.skew) s.auth.cache cache'

theorem Swapped.step {t : ℚ} {s : ServiceStateOver κ} {s' : ServiceStateOver κ'} (h : Swapped R env t s s')
    {r : ServiceCall} (hle : t ≤ r.now) (hr : r.Storable Accepts env) :
    Swapped R env r.now (s.handle env r).1 (s'.handle env r).1 ∧ (s.handle env r).2 = (s'.handle env r).2 := by
  obtain ⟨cache', rfl, hrel⟩ := h
  obtain ⟨after', hstep, hafter⟩ := blind_service hsim hr (hsim.later hrel (add_le_add_left hle _))
  rw [hstep]
  exact ⟨⟨after', rfl, hafter⟩, rfl⟩

theorem Swapped.get_eq {t now : ℚ} {s : ServiceStateOver κ} {s' : ServiceStateOver κ'} (h : Swapped R env t s s')
    (hle : t ≤ now) (key : String) : (CacheProtocol.get s.auth.cache key (now + env.auth.skew)).2 =
      (CacheProtocol.get s'.auth.cache key (now + env.auth.skew)).2 := by
  obtain ⟨cache', rfl, hrel⟩ := h
  exact (hsim.get (hsim.later hrel (add_le_add_left hle _)) key).1

/-- **A cache that simulates another can take its place**: along a clock that does not run backwards, as long as what
is set is accepted, every call is answered alike, and afterwards every key reads alike. -/
theorem CacheSimulation.service_log (env : ServiceEnv) {s : ServiceStateOver κ} {cache' : κ'}
    (hstart : ∀ t, R t s.auth.cache cache') {rs : List ServiceCall} (hclock : NonDecreasing ServiceCall.now rs)
    (hstorable : ∀ r ∈ rs, r.Storable Accepts env) :
    (serviceOver κ env).log s rs = (serviceOver κ' env).log (s.withCache cache') rs ∧
      ∀ key now, (∀ r ∈ rs, r.now ≤ now) →
        (CacheProtocol.get ((serviceOver κ env).run s rs).auth.cache key (now + env.auth.skew)).2 =
        (CacheProtocol.get ((serviceOver κ' env).run (s.withCache cache') rs).auth.cache key
          (now + env.auth.skew)).2 := by
  have hswapped : ∀ t, Swapped R env t s (s.withCache cache') := fun t => ⟨cache', rfl, hstart _⟩
  cases rs with
  | nil => exact ⟨rfl, fun key now _ => (hswapped now).get_eq hsim le_rfl key⟩
  | cons first rest =>
    have hfirst : ∀ r ∈ first :: rest, first.now ≤ r.now := by
      intro r hr
      rcases List.mem_cons.mp hr with rfl | hr
      · exact le_rfl
      · exact (List.pairwise_cons.mp hclock).1 r hr
    obtain ⟨hlog, last, hlast, hle⟩ := (serviceOver κ env).bisim_of_clocked (serviceOver κ' env)
      (fun r => r.Storable Accepts env) (Swapped R env) (fun t s s' r h hle hr => h.step hsim hle hr)
      (hswapped first.now) hfirst hclock hstorable
    exact ⟨hlog, fun key now hnow => hlast.get_eq hsim (hle now (hnow first List.mem_cons_self) hnow) key⟩

end

/-- **The cache backends are interchangeable.** Let a Redis server do what is documented of `GET`, `SET ... EX` and
`DEL`, and start the service on an in-memory cache and on a `RedisCache` that hold the same. In every run with a clock
that does not run backwards, in which every time to live that is set, and the rest of the lifetime of every token that
is presented with a logout, is valid for the server, all requests are answered alike, and afterwards every key reads
alike. The service over the in-memory cache answers like the service that the other results are about. -/
theorem cache_backends_interchangeable {σ : Type} {server : RedisServer σ} (hserver : server.Documented)
    (env : ServiceEnv) (init : ServiceState) (memory : InMemoryCache) (redis : RedisCacheOn server)
    (hsame : ∀ key, server.held redis.client key = memory.store.get? key) (rs : List ServiceCall)
    (hclock : NonDecreasing ServiceCall.now rs) (hstorable : ∀ r ∈ rs, r.Storable server.Accepts env) :
    (serviceOver InMemoryCache env).log (init.withCache memory) rs =
        (serviceOver (RedisCacheOn server) env).log (init.withCache redis) rs ∧
      (∀ key now, (∀ r ∈ rs, r.now ≤ now) →
        (CacheProtocol.get ((serviceOver InMemoryCache env).run (init.withCache memory) rs).auth.cache key
          (now + env.auth.skew)).2 =
        (CacheProtocol.get ((serviceOver (RedisCacheOn server) env).run (init.withCache redis) rs).auth.cache key
          (now + env.auth.skew)).2) ∧
      (serviceMachine env).log (init.withCache (Cache.inMemory memory)) rs =
        (serviceOver InMemoryCache env).log (init.withCache memory) rs := by
  have hstart : ∀ t, SameEntries server t memory redis := by
    intro t key value deadline _
    rw [hsame key]
  obtain ⟨hlog, hreads⟩ := (redis_simulates hserver).service_log env (s := init.withCache memory) hstart hclock
    hstorable
  have hfits : ∀ r ∈ rs, r.Storable (fun ttl _ => FitsFloat ttl) env :=
    fun r hr => (hstorable r hr).mono fun _ _ h => h.fitsFloat
  exact ⟨hlog, hreads, (inMemory_simulates.service_log env (s := init.withCache (Cache.inMemory memory))
    (fun _ => rfl) hclock hfits).1⟩

/-- A user logs in and out, a provider's answer is cached, and the access token of the ended session is tried. -/
def endedSession : List ServiceCall :=
  [⟨0, .auth (.login "watcher@example.com" "secret") none⟩, ⟨5, .auth (.logout (some "0") (some "1")) none⟩,
    ⟨6, .auth (.cache (httpCacheKey "weather" "1f") (.set "\x7b\x7d" 300)) none⟩,
    ⟨10, .alert (some "0") (.list sampleOrder)⟩]

/-- The server takes what the sessions of the sample set. -/
theorem endedSession_storable : ∀ r ∈ endedSession, r.Storable boundedServer.Accepts auditedEnv := by
  intro r hr
  simp only [endedSession, List.mem_cons, List.not_mem_nil, or_false] at hr
  rcases hr with rfl | rfl | rfl | rfl
  · trivial
  · intro token _ payload hdecode _
    have htaken : ∀ p ∈ [firstAccess, firstRefresh], boundedServer.Accepts (remainingTtl p 5) (5 + 0) := by
      decide +kernel
    exact htaken payload (mem_of_tableJwt_decode hdecode)
  · have htaken : boundedServer.Accepts 300 (6 + 0) := by decide +kernel
    exact htaken
  · trivial

/-- How the last request is refused. -/
def lastRefusal (log : List (ServiceCall × ServiceAnswer)) : Option String :=
  match log.getLast? with
  | some (_, .alert (.error (.authentication detail))) => some detail
  | _ => none

/-- It is refused on both backends. -/
theorem endedSession_refused_alike :
    let memory : ServiceStateOver InMemoryCache := quietService.withCache ⟨Dict.empty⟩
    let redis : ServiceStateOver (RedisCacheOn boundedServer) := quietService.withCache ⟨⟨Dict.empty⟩⟩
    NonDecreasing ServiceCall.now endedSession ∧
    lastRefusal ((serviceOver InMemoryCache auditedEnv).log memory endedSession) =
      some "this session has been revoked" ∧
    (serviceOver InMemoryCache auditedEnv).log memory endedSession =
      (serviceOver (RedisCacheOn boundedServer) auditedEnv).log redis endedSession := by
  have hclock : NonDecreasing ServiceCall.now endedSession := by
    unfold NonDecreasing endedSession
    decide +kernel
  refine ⟨hclock, by decide +kernel, ?_⟩
  exact (cache_backends_interchangeable boundedServer_documented auditedEnv quietService ⟨Dict.empty⟩
    ⟨⟨Dict.empty⟩⟩ (fun _ => rfl) endedSession hclock endedSession_storable).1

end SmartTravel
