import SmartTravel.Core.Security
import SmartTravel.Resilience.Cache

/-!
# Token revocation

`revoke` stores the `jti` of a token for its remaining lifetime, in whole seconds. The wall clock and the cache's clock
differ by a constant `skew`. A token is `Barred` when it has expired or its entry outlives it: `revoke` bars it
(`barred_revoke`), reading and writing other keys keep it barred, and while it has not expired `is_revoked` sees it
(`isRevoked_of_barred`).
-/

namespace SmartTravel

/-- The cache key of a revoked token. -/
def revokedKey (jti : String) : String := "revoked:" ++ jti

/-- `_remaining_ttl`. -/
def remainingTtl (payload : Payload) (now : ℚ) : ℤ :=
  match payload.exp with
  | none => 0
  | some exp => max 0 (exp - ⌊now⌋)

/-- The `jti` of a payload, when it is there and not empty. -/
def Payload.usableJti (payload : Payload) : Option String := payload.jti.filter (fun jti => jti ≠ "")

/-- `revoke`. -/
def revoke {κ : Type} [CacheProtocol κ] (cache : κ) (skew : ℚ) (payload : Payload) (now : ℚ) : Except CacheError κ :=
  match payload.usableJti with
  | none => .ok cache
  | some jti =>
    let ttl := remainingTtl payload now
    if 0 < ttl then CacheProtocol.set cache (revokedKey jti) "1" ttl (now + skew) else .ok cache

/-- `is_revoked`. -/
def isRevoked {κ : Type} [CacheProtocol κ] (cache : κ) (skew : ℚ) (payload : Payload) (now : ℚ) : κ × Bool :=
  match payload.usableJti with
  | none => (cache, false)
  | some jti =>
    let (cache, value) := CacheProtocol.get cache (revokedKey jti) (now + skew)
    (cache, value.isSome)

theorem revokedKey_injective : Function.Injective revokedKey := by
  intro a b h
  have hlist := congrArg String.toList h
  simp only [revokedKey, String.toList_append, List.append_cancel_left_eq] at hlist
  exact String.toList_injective hlist

/-- `revoke` never fails: it stores only for a positive number of seconds. -/
theorem revoke_ok (cache : Cache) (skew : ℚ) (payload : Payload) (now : ℚ) :
    ∃ cache', revoke cache skew payload now = .ok cache' := by
  simp only [revoke]
  split
  · exact ⟨cache, rfl⟩
  · split
    · rename_i h
      exact Cache.set_ok cache _ _ h _
    · exact ⟨cache, rfl⟩

section
variable (skew : ℚ) (jti : String) (exp : ℤ)

/-- The token has expired, or the cache holds its `jti` at least until then. -/
def Barred (cache : Cache) (now : ℚ) : Prop :=
  (exp : ℚ) ≤ now ∨ ∃ value deadline, cache.entry (revokedKey jti) = some (value, deadline) ∧ exp + skew ≤ deadline

variable {skew jti exp}

/-- Time does not unbar a token. -/
theorem Barred.later {cache : Cache} {now now' : ℚ} (h : Barred skew jti exp cache now) (hle : now ≤ now') :
    Barred skew jti exp cache now' := h.imp (fun hexp => hexp.trans hle) id

/-- Reading any key does not. -/
theorem Barred.get {cache : Cache} {now : ℚ} (h : Barred skew jti exp cache now) (key : String) :
    Barred skew jti exp (cache.get key (now + skew)).1 now := by
  rcases h with hexp | ⟨value, deadline, hentry, hdeadline⟩
  · exact .inl hexp
  · by_cases hlt : now < exp
    · exact .inr ⟨value, deadline, Cache.entry_get hentry (by linarith), hdeadline⟩
    · exact .inl (not_lt.mp hlt)

/-- Writing another key does not. -/
theorem Barred.set {cache cache' : Cache} {now : ℚ} (h : Barred skew jti exp cache now) {key value : String} {ttl : ℤ}
    {t : ℚ} (hset : cache.set key value ttl t = .ok cache') (hne : revokedKey jti ≠ key) :
    Barred skew jti exp cache' now := by
  refine h.imp id ?_
  rintro ⟨v, deadline, hentry, hdeadline⟩
  exact ⟨v, deadline, by rw [Cache.entry_set hset, if_neg hne, hentry], hdeadline⟩

/-- Deleting another key does not. -/
theorem Barred.delete {cache : Cache} {now : ℚ} (h : Barred skew jti exp cache now) {key : String}
    (hne : revokedKey jti ≠ key) : Barred skew jti exp (cache.delete key) now := by
  refine h.imp id ?_
  rintro ⟨v, deadline, hentry, hdeadline⟩
  exact ⟨v, deadline, by rw [Cache.entry_delete, if_neg hne, hentry], hdeadline⟩

/-- **Revoking a token bars it**: rounding the clock down makes the entry outlive the token. -/
theorem barred_revoke {cache cache' : Cache} {payload : Payload} {now : ℚ}
    (h : revoke cache skew payload now = .ok cache') (hjti : payload.usableJti = some jti)
    (hexp : payload.exp = some exp) : Barred skew jti exp cache' now := by
  have hfloor : (⌊now⌋ : ℚ) ≤ now := Int.floor_le now
  simp only [revoke, hjti, remainingTtl, hexp] at h
  split at h
  · rename_i hpos
    have httl : max 0 (exp - ⌊now⌋) = exp - ⌊now⌋ := max_eq_right (by omega)
    refine .inr ⟨"1", now + skew + ((max 0 (exp - ⌊now⌋) : ℤ) : ℚ), ?_, ?_⟩
    · rw [Cache.entry_set h, if_pos rfl]
    · rw [httl]
      push_cast
      linarith
  · rename_i hzero
    left
    have hle : exp ≤ ⌊now⌋ := by omega
    exact (Int.cast_le.mpr hle).trans hfloor

/-- Revoking any token keeps it barred, if tokens with its `jti` have its expiry time. -/
theorem Barred.revoke {cache cache' : Cache} {payload : Payload} {now : ℚ} (h : Barred skew jti exp cache now)
    (hrevoke : revoke cache skew payload now = .ok cache')
    (hsame : payload.usableJti = some jti → payload.exp = some exp) : Barred skew jti exp cache' now := by
  by_cases hjti : payload.usableJti = some jti
  · exact barred_revoke hrevoke hjti (hsame hjti)
  · simp only [SmartTravel.revoke] at hrevoke
    split at hrevoke
    · cases hrevoke
      exact h
    · rename_i jti' hjti'
      split at hrevoke
      · refine h.set hrevoke fun hkey => hjti ?_
        rw [hjti', revokedKey_injective hkey]
      · cases hrevoke
        exact h

/-- Asking about any token keeps it barred. -/
theorem Barred.isRevoked {cache : Cache} {now : ℚ} (h : Barred skew jti exp cache now) (payload : Payload) :
    Barred skew jti exp (isRevoked cache skew payload now).1 now := by
  unfold SmartTravel.isRevoked
  split
  · exact h
  · exact h.get _

/-- **A barred token that has not expired is seen as revoked.** -/
theorem isRevoked_of_barred {cache : Cache} {payload : Payload} {now : ℚ} (h : Barred skew jti exp cache now)
    (hjti : payload.usableJti = some jti) (hlt : now < exp) : (isRevoked cache skew payload now).2 = true := by
  rcases h with hexp | ⟨value, deadline, hentry, hdeadline⟩
  · exact absurd hlt (not_lt.mpr hexp)
  · have hlive : now + skew < deadline := by linarith
    simp only [SmartTravel.isRevoked, hjti]
    exact congrArg Option.isSome (Cache.get_of_live hentry hlive)

end

end SmartTravel
