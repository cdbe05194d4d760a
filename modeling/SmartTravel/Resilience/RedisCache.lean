import SmartTravel.Resilience.Cache

/-!
# Redis in the place of the in-memory cache

A cache can take the place of another if a relation between the two is kept by every operation of the `CacheProtocol`
and related caches answer alike (`CacheSimulation`). The server behind `RedisCache` is any that does what is documented
of `GET`, `SET ... EX` and `DEL` (`RedisServer.Documented`): a valid `SET` holds for its time to live, a time to live
is valid if it is positive and the deadline is a signed 64-bit number of milliseconds, and the server may drop what has
expired whenever it likes. Such a server simulates `InMemoryCache` (`redis_simulates`): both hold the same entries, of
those that have not expired.
-/

namespace SmartTravel

open Py

/-! ## Caches that answer alike -/

/-- The relation, at a time, between two caches of which one can take the place of the other as long as every time to
live that is set is accepted. -/
structure CacheSimulation {κ κ' : Type} [CacheProtocol κ] [CacheProtocol κ'] (R : ℚ → κ → κ' → Prop)
    (Accepts : ℤ → ℚ → Prop) : Prop where
  later : ∀ {t now cache cache'}, R t cache cache' → t ≤ now → R now cache cache'
  get : ∀ {now cache cache'}, R now cache cache' → ∀ key,
    (CacheProtocol.get cache key now).2 = (CacheProtocol.get cache' key now).2 ∧
      R now (CacheProtocol.get cache key now).1 (CacheProtocol.get cache' key now).1
  set : ∀ {now cache cache'}, R now cache cache' → ∀ key value {ttl}, Accepts ttl now → ∃ after after',
    CacheProtocol.set cache key value ttl now = .ok after ∧ CacheProtocol.set cache' key value ttl now = .ok after' ∧
      R now after after'
  delete : ∀ {now cache cache'}, R now cache cache' → ∀ key,
    R now (CacheProtocol.delete cache key now) (CacheProtocol.delete cache' key now)

/-! ## The server -/

/-- A Redis server with the states `σ`: the commands that `RedisCache` sends, what is held under a key and until when,
and the last moment that can be a deadline. -/
structure RedisServer (σ : Type) where
  get : σ → String → ℚ → σ × Option String
  setEx : σ → String → String → ℤ → ℚ → Except CacheError σ
  del : σ → String → ℚ → σ
  held : σ → String → Option (String × ℚ)
  lastDeadline : ℚ

/-- The most seconds whose milliseconds are a signed 64-bit number. -/
def maxExpireSeconds : ℤ := 9223372036854775

namespace RedisServer

variable {σ : Type} (server : RedisServer σ)

/-- The time to live is valid in a `SET ... EX` at the time. -/
def Accepts (ttl : ℤ) (now : ℚ) : Prop := 0 < ttl ∧ ttl ≤ maxExpireSeconds ∧ now + ttl ≤ server.lastDeadline

instance (ttl : ℤ) (now : ℚ) : Decidable (server.Accepts ttl now) :=
  inferInstanceAs (Decidable (0 < ttl ∧ ttl ≤ maxExpireSeconds ∧ now + ttl ≤ server.lastDeadline))

/-- The server holds these entries, of those that expire after the time. -/
def Holds (s : σ) (now : ℚ) (entries : String → Option (String × ℚ)) : Prop :=
  ∀ key value deadline, now < deadline →
    (server.held s key = some (value, deadline) ↔ entries key = some (value, deadline))

/-- What is documented of the commands: `GET` answers the value until its deadline, a valid `SET ... EX` replaces it,
`DEL` removes it, and apart from that keys only expire. That a key may expire up to a millisecond late is set aside. -/
structure Documented : Prop where
  get : ∀ s key now value, (server.get s key now).2 = some value ↔
    ∃ deadline, server.held s key = some (value, deadline) ∧ now < deadline
  held_get : ∀ s key now, server.Holds (server.get s key now).1 now (server.held s)
  setEx : ∀ s key value ttl now, server.Accepts ttl now → ∃ after, server.setEx s key value ttl now = .ok after ∧
    server.Holds after now fun k => if k = key then some (value, now + ttl) else server.held s k
  held_del : ∀ s key now, server.Holds (server.del s key now) now fun k => if k = key then none else server.held s k

end RedisServer

/-- `RedisCache`, with a client of the server. The text of a value is the same as bytes and decoded. -/
structure RedisCacheOn {σ : Type} (server : RedisServer σ) where
  client : σ

instance {σ : Type} (server : RedisServer σ) : CacheProtocol (RedisCacheOn server) where
  get cache key now := (⟨(server.get cache.client key now).1⟩, (server.get cache.client key now).2)
  set cache key value ttl now := (server.setEx cache.client key value ttl now).map RedisCacheOn.mk
  delete cache key now := ⟨server.del cache.client key now⟩

/-- A time to live that the server accepts fits a float. -/
theorem RedisServer.Accepts.fitsFloat {σ : Type} {server : RedisServer σ} {ttl : ℤ} {now : ℚ}
    (h : server.Accepts ttl now) : FitsFloat ttl := by
  obtain ⟨hpos, hle, -⟩ := h
  have hbound : ((maxExpireSeconds : ℤ) : ℚ) < overflowBound := by decide +kernel
  have hcast : (ttl : ℚ) ≤ (maxExpireSeconds : ℤ) := Int.cast_le.mpr hle
  have hnonneg : (0 : ℚ) ≤ ttl := Int.cast_nonneg hpos.le
  rw [FitsFloat, abs_of_nonneg hnonneg]
  exact hcast.trans_lt hbound

/-! ## The simulation -/

/-- Reading the in-memory cache keeps what has not expired. -/
theorem InMemoryCache.get?_get {cache : InMemoryCache} {key k value : String} {now deadline : ℚ}
    (hlive : now < deadline) : (cache.get key now).1.store.get? k = some (value, deadline) ↔
      cache.store.get? k = some (value, deadline) := by
  refine ⟨InMemoryCache.mem_of_mem_get, fun h => ?_⟩
  have hentry : (Cache.inMemory cache).entry k = some (value, deadline) := h
  exact Cache.entry_get hentry hlive

section
variable {σ : Type} (server : RedisServer σ)

/-- Both hold the same, of what expires after the time. -/
def SameEntries (now : ℚ) (memory : InMemoryCache) (redis : RedisCacheOn server) : Prop :=
  server.Holds redis.client now memory.store.get?

variable {server}

/-- **Redis simulates the in-memory cache.** -/
theorem redis_simulates (h : server.Documented) : CacheSimulation (SameEntries server) server.Accepts where
  later hsame hle := fun key value deadline hlive => hsame key value deadline (hle.trans_lt hlive)
  get := by
    intro now memory redis hsame key
    refine ⟨Option.ext fun value => ?_, fun k value deadline hlive => ?_⟩
    · change (memory.get key now).2 = some value ↔ (server.get redis.client key now).2 = some value
      rw [InMemoryCache.get_eq_some_iff, h.get]
      exact exists_congr fun deadline => and_congr_left fun hlive => (hsame key value deadline hlive).symm
    · change server.held (server.get redis.client key now).1 k = _ ↔ (memory.get key now).1.store.get? k = _
      rw [h.held_get _ _ _ _ _ _ hlive, hsame k value deadline hlive, InMemoryCache.get?_get hlive]
  set := by
    intro now memory redis hsame key value ttl haccepts
    obtain ⟨after, hset, hholds⟩ := h.setEx redis.client key value ttl now haccepts
    refine ⟨memory.put key value (now + ttl), ⟨after⟩, ?_, ?_, fun k v deadline hlive => ?_⟩
    · change (memory.set key value ttl now).mapError _ = _
      rw [memory.set_of_fits key value haccepts.fitsFloat now]
      rfl
    · change (server.setEx redis.client key value ttl now).map _ = _
      rw [hset]
      rfl
    · change server.held after k = _ ↔ (memory.store.set key (value, now + ttl)).get? k = _
      rw [hholds k v deadline hlive, Dict.get?_set]
      beta_reduce
      split
      · rfl
      · exact hsame k v deadline hlive
  delete := by
    intro now memory redis hsame key k value deadline hlive
    change server.held (server.del redis.client key now) k = _ ↔ (memory.store.pop key).get? k = _
    rw [h.held_del _ _ _ _ _ _ hlive, Dict.get?_pop]
    beta_reduce
    split
    · rfl
    · exact hsame k value deadline hlive

end

/-- The in-memory cache stands for itself among the caches of both kinds. -/
theorem inMemory_simulates : CacheSimulation (fun _ cache memory => cache = Cache.inMemory memory)
    fun ttl _ => FitsFloat ttl where
  later h _ := h
  get h key := by
    subst h
    exact ⟨rfl, rfl⟩
  set := by
    rintro now _ memory rfl key value ttl hfits
    refine ⟨_, memory.put key value (now + ttl), rfl, ?_, rfl⟩
    change (memory.set key value ttl now).mapError _ = _
    rw [memory.set_of_fits key value hfits now]
    rfl
  delete h key := by
    subst h
    rfl

/-! ## A server -/

/-- The server of `RedisCache` with the bounds on the time to live. -/
def boundedServer : RedisServer RedisCache where
  get cache key now := (cache, cache.get key now)
  setEx cache key value ttl now :=
    if ttl ≤ maxExpireSeconds ∧ now + ttl ≤ maxExpireSeconds then cache.set key value ttl now
    else .error .invalidExpireTime
  del cache key _ := cache.delete key
  held cache key := cache.server.get? key
  lastDeadline := maxExpireSeconds

/-- What is found has not expired. -/
theorem RedisCache.get_eq_some_iff {cache : RedisCache} {key value : String} {now : ℚ} :
    cache.get key now = some value ↔ ∃ deadline, cache.server.get? key = some (value, deadline) ∧ now < deadline := by
  unfold RedisCache.get
  cases hentry : cache.server.get? key with
  | none => simp
  | some entry =>
    obtain ⟨v, d⟩ := entry
    simp only
    split
    · rename_i hexpired
      refine ⟨fun h => (by cases h), ?_⟩
      rintro ⟨deadline, heq, hlive⟩
      cases heq
      exact absurd hlive (not_lt.mpr hexpired)
    · rename_i hlive
      constructor
      · rintro ⟨⟩
        exact ⟨d, rfl, not_le.mp hlive⟩
      · rintro ⟨deadline, heq, -⟩
        cases heq
        rfl

/-- It does what is documented. -/
theorem boundedServer_documented : boundedServer.Documented where
  get _ _ _ _ := RedisCache.get_eq_some_iff
  held_get _ _ _ := fun _ _ _ _ => Iff.rfl
  setEx cache key value ttl now h := by
    obtain ⟨hpos, hle, hlast⟩ := h
    refine ⟨⟨cache.server.set key (value, now + ttl)⟩, ?_, fun k v deadline _ => ?_⟩
    · simp only [boundedServer]
      rw [if_pos ⟨hle, hlast⟩, RedisCache.set, if_neg (not_le.mpr hpos)]
    · change (cache.server.set key (value, now + ttl)).get? k = _ ↔ _
      rw [Dict.get?_set]
      exact Iff.rfl
  held_del cache key now := fun k value deadline _ => by
    change (cache.server.pop key).get? k = _ ↔ _
    rw [Dict.get?_pop]
    exact Iff.rfl

end SmartTravel
