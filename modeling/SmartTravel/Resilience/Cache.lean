import SmartTravel.Lib.Binary64
import SmartTravel.Lib.Dict
import Mathlib.Data.Rat.Floor

/-!
# Caches with a time to live

`InMemoryCache` keeps each value with its deadline and drops an expired entry when it is read; a time to live that is
too large for a float raises in `set` and leaves the store as it is. `RedisCache` leaves expiry to the server, here one
that keeps a key exactly `ttl` seconds and refuses only a time to live that is not positive. Both are a `Cache`; what is
stored under a key is its `entry`, and every operation is described by the entries it leaves (`entry_set`, `entry_get`,
`entry_delete`). The services are written over the `CacheProtocol`. A clock reading is a rational number of seconds.
-/

namespace SmartTravel

open Py

/-- How `set` fails: `SET ... EX` answers `invalid expire time`, or the deadline does not become a float. -/
inductive CacheError where
  | invalidExpireTime
  | overflowError
deriving DecidableEq

/-- The `Cache` protocol; each call comes with the reading of the clock. -/
class CacheProtocol (κ : Type) where
  get : κ → String → ℚ → κ × Option String
  set : κ → String → String → ℤ → ℚ → Except CacheError κ
  delete : κ → String → ℚ → κ

/-- `InMemoryCache`: the value and the deadline of each key. -/
structure InMemoryCache where
  store : Dict String (String × ℚ)

namespace InMemoryCache

/-- `get`, with the reading of the clock. -/
def get (cache : InMemoryCache) (key : String) (now : ℚ) : InMemoryCache × Option String :=
  match cache.store.get? key with
  | none => (cache, none)
  | some (value, expiresAt) => if expiresAt ≤ now then (⟨cache.store.pop key⟩, none) else (cache, some value)

/-- The assignment of `set`. -/
def put (cache : InMemoryCache) (key value : String) (deadline : ℚ) : InMemoryCache :=
  ⟨cache.store.set key (value, deadline)⟩

/-- `set`. The clock is a float, so what is added to it must become one: `time.monotonic() + ttl` raises before the
assignment. -/
def set (cache : InMemoryCache) (key value : String) (ttl : ℤ) (now : ℚ) : Except PyError InMemoryCache :=
  if FitsFloat ttl then .ok (cache.put key value (now + ttl)) else .error .overflowError

/-- `delete`. -/
def delete (cache : InMemoryCache) (key : String) : InMemoryCache := ⟨cache.store.pop key⟩

/-- `clear`. -/
def clear (_ : InMemoryCache) : InMemoryCache := ⟨Dict.empty⟩

theorem set_of_fits (cache : InMemoryCache) (key value : String) {ttl : ℤ} (h : FitsFloat ttl) (now : ℚ) :
    cache.set key value ttl now = .ok (cache.put key value (now + ttl)) := if_pos h

theorem set_of_huge (cache : InMemoryCache) (key value : String) {ttl : ℤ} (h : ¬FitsFloat ttl) (now : ℚ) :
    cache.set key value ttl now = .error .overflowError := if_neg h

/-- What is found has not expired. -/
theorem get_eq_some_iff {cache : InMemoryCache} {key value : String} {now : ℚ} :
    (cache.get key now).2 = some value ↔
      ∃ deadline, cache.store.get? key = some (value, deadline) ∧ now < deadline := by
  unfold get
  cases hkey : cache.store.get? key with
  | none => simp
  | some entry =>
    obtain ⟨stored, deadline⟩ := entry
    simp only [Option.some.injEq, Prod.mk.injEq]
    split
    · rename_i hexpired
      simp only [reduceCtorEq, false_iff]
      rintro ⟨d, ⟨-, rfl⟩, hlive⟩
      exact absurd hlive (not_lt.mpr hexpired)
    · rename_i hlive
      simp only [Option.some.injEq]
      constructor
      · intro h
        exact ⟨deadline, ⟨h, rfl⟩, not_le.mp hlive⟩
      · rintro ⟨d, ⟨h, -⟩, -⟩
        exact h

/-- Reading adds no entry. -/
theorem mem_of_mem_get {cache : InMemoryCache} {key k : String} {now : ℚ} {entry : String × ℚ}
    (h : (cache.get key now).1.store.get? k = some entry) : cache.store.get? k = some entry := by
  unfold get at h
  split at h
  · exact h
  · split at h
    · rw [Dict.get?_pop] at h
      split at h
      · cases h
      · exact h
    · exact h

end InMemoryCache

instance : CacheProtocol InMemoryCache where
  get := InMemoryCache.get
  set cache key value ttl now := (cache.set key value ttl now).mapError fun _ => .overflowError
  delete cache key _ := cache.delete key

/-- `RedisCache` on a server that takes every positive time to live: the keys it holds, with their deadlines. -/
structure RedisCache where
  server : Dict String (String × ℚ)

namespace RedisCache

/-- `get`: a key is there until its deadline. -/
def get (cache : RedisCache) (key : String) (now : ℚ) : Option String :=
  match cache.server.get? key with
  | none => none
  | some (value, deadline) => if deadline ≤ now then none else some value

/-- `set`. -/
def set (cache : RedisCache) (key value : String) (ttl : ℤ) (now : ℚ) : Except CacheError RedisCache :=
  if ttl ≤ 0 then .error .invalidExpireTime else .ok ⟨cache.server.set key (value, now + ttl)⟩

/-- `delete`. -/
def delete (cache : RedisCache) (key : String) : RedisCache := ⟨cache.server.pop key⟩

end RedisCache

/-- A cache of one of the two kinds. -/
inductive Cache where
  | inMemory (cache : InMemoryCache)
  | redis (cache : RedisCache)

namespace Cache

/-- What is stored under a key, expired or not. -/
def entry : Cache → String → Option (String × ℚ)
  | .inMemory cache, key => cache.store.get? key
  | .redis cache, key => cache.server.get? key

/-- `get`. -/
def get : Cache → String → ℚ → Cache × Option String
  | .inMemory cache, key, now => (.inMemory (cache.get key now).1, (cache.get key now).2)
  | .redis cache, key, now => (.redis cache, cache.get key now)

/-- `set`, for a time to live that fits a float. -/
def set : Cache → String → String → ℤ → ℚ → Except CacheError Cache
  | .inMemory cache, key, value, ttl, now => .ok (.inMemory (cache.put key value (now + ttl)))
  | .redis cache, key, value, ttl, now => (cache.set key value ttl now).map .redis

/-- `delete`. -/
def delete : Cache → String → Cache
  | .inMemory cache, key => .inMemory (cache.delete key)
  | .redis cache, key => .redis (cache.delete key)

instance : CacheProtocol Cache where
  get := Cache.get
  set := Cache.set
  delete cache key _ := cache.delete key

variable {cache : Cache} {key : String} {now : ℚ}

/-- An entry that has not expired is found. -/
theorem get_of_live {value : String} {deadline : ℚ} (h : cache.entry key = some (value, deadline))
    (hlive : now < deadline) : (cache.get key now).2 = some value := by
  cases cache with
  | inMemory cache =>
    simp only [entry] at h
    simp only [get, InMemoryCache.get, h, not_le.mpr hlive, if_false]
  | redis cache =>
    simp only [entry] at h
    simp only [get, RedisCache.get, h, not_le.mpr hlive, if_false]

/-- Reading drops expired entries only. -/
theorem entry_get {k : String} {value : String} {deadline : ℚ} (h : cache.entry k = some (value, deadline))
    (hlive : now < deadline) : (cache.get key now).1.entry k = some (value, deadline) := by
  cases cache with
  | redis cache => exact h
  | inMemory cache =>
    simp only [entry] at h
    simp only [get, InMemoryCache.get, entry]
    split
    · exact h
    · rename_i v d hkey
      split
      · rename_i hexpired
        have hne : k ≠ key := by
          rintro rfl
          rw [h] at hkey
          obtain ⟨-, rfl⟩ := Prod.mk.inj (Option.some.inj hkey)
          exact absurd hlive (not_lt.mpr hexpired)
        rw [Dict.get?_pop, if_neg hne, h]
      · exact h

/-- Writing replaces the entry of its key. -/
theorem entry_set {value : String} {ttl : ℤ} {cache' : Cache} (h : cache.set key value ttl now = .ok cache')
    (k : String) : cache'.entry k = if k = key then some (value, now + ttl) else cache.entry k := by
  cases cache with
  | inMemory cache =>
    cases h
    exact Dict.get?_set _ _ _ _
  | redis cache =>
    simp only [set, RedisCache.set] at h
    split at h
    · cases h
    · cases h
      exact Dict.get?_set _ _ _ _

/-- A positive time to live is accepted. -/
theorem set_ok (cache : Cache) (key value : String) {ttl : ℤ} (h : 0 < ttl) (now : ℚ) :
    ∃ cache', cache.set key value ttl now = .ok cache' := by
  cases cache with
  | inMemory cache => exact ⟨_, rfl⟩
  | redis cache => exact ⟨_, by simp only [set, RedisCache.set, not_le.mpr h, if_false]; rfl⟩

theorem entry_delete (cache : Cache) (key k : String) :
    (cache.delete key).entry k = if k = key then none else cache.entry k := by
  cases cache <;> exact Dict.get?_pop _ _ _

end Cache

end SmartTravel
