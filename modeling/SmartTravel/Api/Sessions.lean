import SmartTravel.Api.Accounts

/-!
# The session table behind the denylist

What the denylist is for: a service that keeps a list of the tokens that were logged out, for ever and in no cache
(`SessionTable`). `Backend.idealHandle` is that service. It knows neither a `jti` nor a time to live, and the other uses
of the shared cache do not exist for it.

The real service answers every request as the ideal one does (`denylist_refines_sessions`): a stored `jti` stands for
one token, its entry outlives the token, nothing else is written under its key, and a token that is looked up has not
expired. The relation is `Tracks`; `tracks_handle` is its step.
-/

namespace SmartTravel

open Py Runs

/-- The tables of the service, whose cache is not used, and the payloads of the tokens that were logged out. -/
structure SessionTable where
  tables : AuthState
  ended : List Payload

namespace Backend

variable (env : Backend)

/-- A bearer token is good while its session has not ended. -/
def idealAccessPayload (t : SessionTable) (credentials : Option String) (now : ℚ) : Except AuthError Payload :=
  match credentials with
  | none => .error (.authentication "missing bearer token")
  | some token =>
    match env.decode token .access now with
    | .error e => .error e
    | .ok payload =>
      if payload ∈ t.ended then .error (.authentication "this session has been revoked") else .ok payload

/-- New tokens for a session that has not ended. -/
def idealRefresh (t : SessionTable) (refreshToken : String) (now : ℚ) : SessionTable × Except AuthError TokenPair :=
  match env.decode refreshToken .refresh now with
  | .error e => (t, .error e)
  | .ok payload =>
    if payload ∈ t.ended then (t, .error (.authentication "this session has been revoked"))
    else
      match env.subjectOf t.tables payload with
      | .error e => (t, .error e)
      | .ok none => (t, .error (.authentication "the account is no longer valid"))
      | .ok (some user) =>
        if !user.isActive then (t, .error (.authentication "the account is no longer valid"))
        else ({ t with tables := (env.issueTokens t.tables user now).1 }, .ok (env.issueTokens t.tables user now).2)

/-- The sessions of a logout end. -/
def idealLogout (t : SessionTable) (credentials refreshToken : Option String) (now : ℚ) :
    SessionTable × Except AuthError Unit :=
  match env.idealAccessPayload t credentials now with
  | .error e => (t, .error e)
  | .ok payload => ({ t with ended := t.ended ++ env.revokedBy payload refreshToken now },
      if (payload.sub.bind env.uuid.parse).isSome then .ok () else .error .valueError)

/-- One request to the ideal service; those that do not look at sessions are answered from the tables. -/
def idealHandle (t : SessionTable) (r : Timed) : SessionTable × Except AuthError AuthReply :=
  match r.request with
  | .refresh token => ((env.idealRefresh t token r.now).1, (env.idealRefresh t token r.now).2.map .tokens)
  | .logout credentials refreshToken => ((env.idealLogout t credentials refreshToken r.now).1,
      (env.idealLogout t credentials refreshToken r.now).2.map fun _ => .message)
  | .bearer credentials =>
    (t, ((env.idealAccessPayload t credentials r.now).bind (env.getCurrentUser t.tables)).map .user)
  | .cache _ _ => (t, .ok .message)
  | _ => ({ t with tables := (env.handle t.tables r).1 }, (env.handle t.tables r).2)

end Backend

/-- The ideal service as a machine. -/
def sessionMachine (env : Backend) : Machine SessionTable Timed (Except AuthError AuthReply) := ⟨env.idealHandle⟩

/-- The request is one to the authentication endpoints, not another use of the cache. -/
def AuthRequest.visible : AuthRequest → Bool
  | .cache _ _ => false
  | _ => true

/-- The request looks at the denylist. -/
def AuthRequest.looksUp : AuthRequest → Bool
  | .refresh _ => true
  | .logout _ _ => true
  | .bearer _ => true
  | _ => false

/-! ## Requests that do not look at the cache -/

/-- The state with another cache. -/
def AuthStateOver.withCache {κ κ' : Type} (s : AuthStateOver κ) (cache : κ') : AuthStateOver κ' :=
  { s with cache := cache }

/-- What is done to the state, over any cache. -/
abbrev Operation (α : Type) := ∀ κ : Type, [CacheProtocol κ] → AuthStateOver κ → AuthStateOver κ × α

/-- The operation neither reads nor writes the cache. -/
def CacheFree {α : Type} (operation : Operation α) : Prop :=
  ∀ (κ κ' : Type) [CacheProtocol κ] [CacheProtocol κ'] (s : AuthStateOver κ) (cache : κ'),
    operation κ' (s.withCache cache) = ((operation κ s).1.withCache cache, (operation κ s).2)

section
variable (env : Backend)

theorem CacheFree.transaction {α : Type} {operation : Operation (Except AuthError α)} (h : CacheFree operation) :
    CacheFree fun κ _ => transaction (operation κ) := by
  intro κ κ' _ _ s cache
  simp only [SmartTravel.transaction, h κ κ' s cache]
  cases hop : operation κ s with
  | mk s' answer => cases answer <;> rfl

/-- An operation that leaves the rows alone has nothing to roll back. -/
theorem transaction_eq_self {α : Type} (operation : AuthState → AuthState × Except AuthError α) {s : AuthState}
    (h : (operation s).1.users = s.users) : transaction operation s = operation s := by
  unfold transaction
  split
  · rename_i heq
    rw [heq]
  · rename_i s' e heq
    rw [heq] at h ⊢
    rw [← h]

theorem CacheFree.reply {α β : Type} {operation : Operation (Except AuthError α)} (h : CacheFree operation)
    (f : α → β) : CacheFree fun κ _ s => ((operation κ s).1, (operation κ s).2.map f) := by
  intro κ κ' _ _ s cache
  simp only [h κ κ' s cache]

theorem cacheFree_send (mail : Mail) (raises : Bool) : CacheFree fun _ _ s => s.send mail raises := by
  intro κ κ' _ _ s cache
  cases raises <;> rfl

theorem cacheFree_sendVerification (user : User) (now : ℚ) (raises : Bool) :
    CacheFree fun _ _ s => env.sendVerification s user now raises := fun κ κ' _ _ s cache =>
  cacheFree_send _ raises κ κ' (env.createToken s (env.uuid.str user.id) .verify now).1 cache

theorem cacheFree_register (email password : String) (fullName : Option String) (now : ℚ) (raises : Bool) :
    CacheFree fun _ _ s => env.register s email password fullName now raises := by
  intro κ κ' _ _ s cache
  have hfound : (s.withCache cache).getByEmail env.lower email = s.getByEmail env.lower email := rfl
  simp only [Backend.register, hfound]
  split
  · rfl
  · cases raises <;> rfl

theorem cacheFree_resendVerification (email : String) (now : ℚ) (raises : Bool) :
    CacheFree fun _ _ s => env.resendVerification s email now raises := by
  intro κ κ' _ _ s cache
  have hfound : (s.withCache cache).getByEmail env.lower email = s.getByEmail env.lower email := rfl
  simp only [Backend.resendVerification, hfound]
  split
  · rfl
  · split
    · rfl
    · exact cacheFree_sendVerification env _ now raises κ κ' s cache

theorem cacheFree_requestPasswordReset (email : String) (now : ℚ) (raises : Bool) :
    CacheFree fun _ _ s => env.requestPasswordReset s email now raises := by
  intro κ κ' _ _ s cache
  have hfound : (s.withCache cache).getByEmail env.lower email = s.getByEmail env.lower email := rfl
  simp only [Backend.requestPasswordReset, hfound]
  split
  · rfl
  · rename_i user _
    split
    · rfl
    · exact cacheFree_send _ raises κ κ' (env.createToken s (env.uuid.str user.id) .reset now).1 cache

theorem cacheFree_verifyEmail (token : String) (now : ℚ) : CacheFree fun _ _ s => env.verifyEmail s token now := by
  intro κ κ' _ _ s cache
  have hsub : ∀ payload, env.subjectOf (s.withCache cache) payload = env.subjectOf s payload := fun _ => rfl
  simp only [Backend.verifyEmail, hsub]
  repeat' split
  all_goals rfl

theorem cacheFree_resetPassword (token newPassword : String) (now : ℚ) :
    CacheFree fun _ _ s => env.resetPassword s token newPassword now := by
  intro κ κ' _ _ s cache
  have hsub : ∀ payload, env.subjectOf (s.withCache cache) payload = env.subjectOf s payload := fun _ => rfl
  simp only [Backend.resetPassword, hsub]
  repeat' split
  all_goals rfl

theorem cacheFree_authenticate (email password : String) :
    CacheFree fun _ _ s => env.authenticate s email password := by
  intro κ κ' _ _ s cache
  have hfound : (s.withCache cache).getByEmail env.lower email = s.getByEmail env.lower email := rfl
  simp only [Backend.authenticate, hfound]
  repeat' split
  all_goals rfl

theorem cacheFree_login (email password : String) (now : ℚ) :
    CacheFree fun _ _ s => env.login s email password now := by
  intro κ κ' _ _ s cache
  have hauth := cacheFree_authenticate env email password κ κ' s cache
  simp only [Backend.login] at hauth ⊢
  rw [hauth]
  cases env.authenticate s email password with
  | mk s' answer => cases answer <;> rfl

/-- **A request that does not look at the denylist** neither reads nor writes the cache. -/
theorem cacheFree_handle {r : Timed} (hlooks : r.request.looksUp = false) (hvisible : r.request.visible = true) :
    CacheFree fun _ _ s => env.handle s r := by
  obtain ⟨now, request⟩ := r
  cases request with
  | register => exact (cacheFree_register env _ _ _ now _).transaction.reply _
  | resendVerification => exact (cacheFree_resendVerification env _ now _).transaction.reply _
  | verifyEmail => exact (cacheFree_verifyEmail env _ now).transaction.reply _
  | login => exact (cacheFree_login env _ _ now).transaction.reply _
  | requestPasswordReset => exact (cacheFree_requestPasswordReset env _ now _).transaction.reply _
  | resetPassword => exact (cacheFree_resetPassword env _ _ now).transaction.reply _
  | refresh => cases hlooks
  | logout => cases hlooks
  | bearer => cases hlooks
  | cache => cases hvisible

end

/-! ## What is listed -/

theorem Cache.get_of_none {cache : Cache} {key : String} (h : cache.entry key = none) (now : ℚ) :
    (cache.get key now).2 = none := by
  cases cache with
  | inMemory cache =>
    simp only [Cache.entry] at h
    simp only [Cache.get, InMemoryCache.get, h]
  | redis cache =>
    simp only [Cache.entry] at h
    simp only [Cache.get, RedisCache.get, h]

/-- Reading adds no entry. -/
theorem Cache.entry_of_get {cache : Cache} {key k : String} {now : ℚ} {entry : String × ℚ}
    (h : (cache.get key now).1.entry k = some entry) : cache.entry k = some entry := by
  cases cache with
  | inMemory cache => exact InMemoryCache.mem_of_mem_get h
  | redis cache => exact h

/-- Looking a token up adds no entry. -/
theorem entry_of_isRevoked {cache : Cache} {skew : ℚ} {payload : Payload} {now : ℚ} {k : String} {entry : String × ℚ}
    (h : (isRevoked cache skew payload now).1.entry k = some entry) : cache.entry k = some entry := by
  unfold isRevoked at h
  split at h
  · exact h
  · exact Cache.entry_of_get h

/-- Revoking a token writes at most its own entry. -/
theorem entry_of_revoke {cache cache' : Cache} {skew : ℚ} {payload : Payload} {now : ℚ}
    (h : revoke cache skew payload now = .ok cache') {jti : String} {entry : String × ℚ}
    (hentry : cache'.entry (revokedKey jti) = some entry) :
    payload.jti = some jti ∨ cache.entry (revokedKey jti) = some entry := by
  simp only [revoke] at h
  split at h
  · cases h
    exact .inr hentry
  · rename_i jti' hjti'
    split at h
    · rw [Cache.entry_set h] at hentry
      split at hentry
      · rename_i hkey
        rw [revokedKey_injective hkey]
        exact .inl (jti_of_usableJti hjti')
      · exact .inr hentry
    · cases h
      exact .inr hentry

section
variable (env : Backend)

/-- Every entry of the denylist is that of an ended session. -/
def Listed (ended : List Payload) (s : AuthState) : Prop :=
  ∀ jti entry, s.cache.entry (revokedKey jti) = some entry → ∃ p ∈ ended, p.jti = some jti

variable {env}

/-- Revoking tokens touches nothing but the cache. -/
theorem withCache_foldl_revoke {now : ℚ} : ∀ (payloads : List Payload) (s : AuthState),
    ∃ cache, payloads.foldl (fun s p => (env.revokePayload s p now).1) s = s.withCache cache
  | [], s => ⟨s.cache, rfl⟩
  | p :: payloads, s => by
    obtain ⟨cache, -, hrevoke⟩ := Backend.revokePayload_spec env s p now
    obtain ⟨cache', hrest⟩ := withCache_foldl_revoke payloads (s.withCache cache)
    refine ⟨cache', ?_⟩
    rw [List.foldl_cons, hrevoke]
    exact hrest

/-- `logout` never raises. -/
theorem logout_ok (s : AuthState) (access : Payload) (refreshToken : Option String) (now : ℚ) :
    (env.logout s access refreshToken now).2 = .ok () := by
  obtain ⟨cache, -, hrevoke⟩ := Backend.revokePayload_spec env s access now
  simp only [Backend.logout, hrevoke]
  split
  · rfl
  · split
    · rfl
    · rename_i payload _
      obtain ⟨cache', -, hrevoke'⟩ := Backend.revokePayload_spec env { s with cache := cache } payload now
      rw [hrevoke']

theorem Listed.foldl_revoke {now : ℚ} : ∀ {payloads : List Payload} {ended : List Payload} {s : AuthState},
    Listed ended s → Listed (ended ++ payloads) (payloads.foldl (fun s p => (env.revokePayload s p now).1) s)
  | [], ended, s, h => by simpa using h
  | p :: payloads, ended, s, h => by
    obtain ⟨cache, hcache, hrevoke⟩ := Backend.revokePayload_spec env s p now
    rw [List.foldl_cons, hrevoke, List.append_cons]
    refine Listed.foldl_revoke fun jti entry hentry => ?_
    rcases entry_of_revoke hcache hentry with hjti | hold
    · exact ⟨p, by simp, hjti⟩
    · obtain ⟨q, hq, hjti⟩ := h jti entry hold
      exact ⟨q, List.mem_append_left _ hq, hjti⟩

theorem Listed.useCache {ended : List Payload} {s : AuthState} (h : Listed ended s) (key : ForeignKey) (now : ℚ)
    (use : CacheUse) : Listed ended (env.useCache s key now use).1 := by
  intro jti entry hentry
  cases use with
  | get => exact h jti entry (Cache.entry_of_get hentry)
  | set value ttl =>
    simp only [Backend.useCache] at hentry
    split at hentry
    · exact h jti entry hentry
    · rename_i hset
      rw [Cache.entry_set hset, if_neg (key.ne_revokedKey jti)] at hentry
      exact h jti entry hentry
  | delete =>
    have hdelete := Cache.entry_delete s.cache key.key (revokedKey jti)
    rw [if_neg (key.ne_revokedKey jti)] at hdelete
    exact h jti entry (hdelete.symm.trans hentry)

/-! ## The real service and the ideal one -/

variable (env)

/-- The tables agree, an ended session is barred and no other is listed. -/
structure Tracks (now : ℚ) (s : AuthState) (t : SessionTable) : Prop where
  tables : t.tables.withCache s.cache = s
  minted : Mints env.uuid.hex [] s.minted
  ended : ∀ p ∈ t.ended, p ∈ s.minted
  barred : ∀ p ∈ t.ended, ∀ jti exp, p.usableJti = some jti → p.exp = some exp →
    Barred env.skew jti exp s.cache now
  listed : Listed t.ended s

variable {env} {now now' : ℚ} {s : AuthState} {t : SessionTable}

theorem Tracks.later (h : Tracks env now s t) (hle : now ≤ now') : Tracks env now' s t :=
  { h with barred := fun p hp jti exp hjti hexp => (h.barred p hp jti exp hjti hexp).later hle }

/-- What does not look at the cache and mints tokens with fresh ids keeps the two together and answers alike. -/
theorem Tracks.cacheFree (h : Tracks env now s t) {α : Type} {operation : Operation α} (hfree : CacheFree operation)
    (hminted : Mints env.uuid.hex s.minted (operation Cache s).1.minted) :
    Tracks env now (operation Cache s).1 { t with tables := (operation Cache t.tables).1 } ∧
      (operation Cache s).2 = (operation Cache t.tables).2 := by
  have hcache : (operation Cache s).1.cache = s.cache := congrArg (fun r => r.1.cache) (hfree Cache Cache s s.cache)
  have hstep : operation Cache s = ((operation Cache t.tables).1.withCache s.cache, (operation Cache t.tables).2) := by
    rw [← hfree Cache Cache, h.tables]
  refine ⟨⟨?_, h.minted.trans hminted, fun p hp => hminted.1.subset (h.ended p hp), ?_, ?_⟩, by rw [hstep]⟩
  · rw [hcache, hstep]
  · intro p hp jti exp hjti hexp
    rw [hcache]
    exact h.barred p hp jti exp hjti hexp
  · intro jti entry hentry
    rw [hcache] at hentry
    exact h.listed jti entry hentry

/-- Another cache in which what was barred is barred, and nothing else is listed. -/
theorem Tracks.withCache (h : Tracks env now s t) (hle : now ≤ now') {cache : Cache}
    (hbarred : ∀ jti exp, Barred env.skew jti exp s.cache now' → Barred env.skew jti exp cache now')
    (hlisted : Listed t.ended (s.withCache cache)) : Tracks env now' (s.withCache cache) t where
  tables := by
    rw [← h.tables]
    rfl
  minted := h.minted
  ended := h.ended
  barred p hp jti exp hjti hexp := hbarred jti exp ((h.barred p hp jti exp hjti hexp).later hle)
  listed := hlisted

/-- A look at the denylist keeps the two together. -/
theorem Tracks.lookUp (h : Tracks env now s t) (hle : now ≤ now') (payload : Payload) :
    Tracks env now' (s.withCache (isRevoked s.cache env.skew payload now').1) t :=
  h.withCache hle (fun _ _ hbarred => hbarred.isRevoked payload)
    fun jti entry hentry => h.listed jti entry (entry_of_isRevoked hentry)

/-- So does another use of the cache, which the ideal service does not see. -/
theorem Tracks.useCache (h : Tracks env now s t) (hle : now ≤ now') (key : ForeignKey) (use : CacheUse) :
    Tracks env now' (env.useCache s key now' use).1 t := by
  have hroutine := routine_useCache env now' s key use
  have hlisted : Listed t.ended (env.useCache s key now' use).1 := h.listed.useCache key now' use
  obtain ⟨cache, hcache⟩ : ∃ cache, (env.useCache s key now' use).1 = s.withCache cache := by
    cases use with
    | get => exact ⟨_, rfl⟩
    | set value ttl =>
      simp only [Backend.useCache]
      split
      · exact ⟨s.cache, rfl⟩
      · exact ⟨_, rfl⟩
    | delete => exact ⟨_, rfl⟩
  rw [hcache] at hroutine hlisted ⊢
  exact h.withCache hle hroutine.barred hlisted

/-- Revoking minted tokens ends their sessions. -/
theorem Tracks.foldl_revoke (hinj : Function.Injective env.uuid.hex) (h : Tracks env now s t)
    {payloads : List Payload} (hmem : ∀ p ∈ payloads, p ∈ s.minted) :
    Tracks env now (payloads.foldl (fun s p => (env.revokePayload s p now).1) s)
      { t with ended := t.ended ++ payloads } := by
  obtain ⟨cache, hcache⟩ : ∃ cache, payloads.foldl (fun s p => (env.revokePayload s p now).1) s = s.withCache cache :=
    withCache_foldl_revoke payloads s
  have hall : ∀ p ∈ t.ended ++ payloads, p ∈ s.minted := by
    intro p hp
    rcases List.mem_append.mp hp with hp | hp
    · exact h.ended p hp
    · exact hmem p hp
  refine ⟨?_, ?_, ?_, ?_, h.listed.foldl_revoke⟩
  · rw [hcache, ← h.tables]
    rfl
  · rw [hcache]
    exact h.minted
  · rw [hcache]
    exact hall
  · intro p hp jti exp hjti hexp
    apply Backend.barred_foldl_revoke
    · -- A revoked payload with this `jti` is the payload itself.
      intro q hq hqjti
      have heq : q.jti = p.jti := by rw [jti_of_usableJti hqjti, jti_of_usableJti hjti]
      rw [eq_of_jti hinj h.minted (hmem q hq) (hall p hp) heq, hexp]
    · rcases List.mem_append.mp hp with hp | hp
      · exact .inl (h.barred p hp jti exp hjti hexp)
      · exact .inr ⟨p, hp, hjti⟩

/-- The accepted tokens of the list were minted here and have not expired. -/
def Genuine (env : Backend) (s : AuthState) (tokens : List String) (now : ℚ) : Prop :=
  ∀ token ∈ tokens, ∀ payload, env.jwt.decode now token = .ok payload →
    payload ∈ s.minted ∧ ∃ exp : ℤ, payload.exp = some exp ∧ now < exp

variable (hinj : Function.Injective env.uuid.hex) (hne : ∀ n, env.uuid.hex n ≠ "")
include hinj hne

/-- **The denylist knows the ended sessions**: of the tokens that have not expired it lists exactly those. -/
theorem Tracks.revoked_eq (h : Tracks env now s t) {payload : Payload} (hmem : payload ∈ s.minted) (hle : now ≤ now')
    {exp : ℤ} (hexp : payload.exp = some exp)
    (hlt : now' < exp) : (isRevoked s.cache env.skew payload now').2 = decide (payload ∈ t.ended) := by
  obtain ⟨i, hi⟩ := List.mem_iff_getElem?.mp hmem
  obtain ⟨hjti, -⟩ := h.minted.2 i payload hi (Nat.zero_le _)
  have husable : payload.usableJti = some (env.uuid.hex i) := by simp [Payload.usableJti, hjti, Option.filter, hne]
  by_cases hended : payload ∈ t.ended
  · rw [isRevoked_of_barred ((h.barred payload hended _ exp husable hexp).later hle) husable hlt, decide_eq_true hended]
  · have hentry : s.cache.entry (revokedKey (env.uuid.hex i)) = none := by
      refine Option.eq_none_iff_forall_not_mem.mpr fun entry hentry => hended ?_
      obtain ⟨q, hq, hqjti⟩ := h.listed _ entry hentry
      rw [eq_of_jti hinj h.minted hmem (h.ended q hq) (hjti.trans hqjti.symm)]
      exact hq
    simp only [isRevoked, husable, decide_eq_false hended]
    exact congrArg Option.isSome (Cache.get_of_none hentry _)

/-- A bearer token gets the same answer from both. -/
theorem Tracks.getAccessPayload (h : Tracks env now s t) (hle : now ≤ now') {credentials : Option String}
    (hgenuine : Genuine env s credentials.toList now') :
    Tracks env now' (env.getAccessPayload s credentials now').1 t ∧
      (env.getAccessPayload s credentials now').2 = env.idealAccessPayload t credentials now' := by
  cases credentials with
  | none => exact ⟨h.later hle, rfl⟩
  | some token =>
    cases hdecode : decodeToken env.jwt token .access now' with
    | error detail =>
      simp only [Backend.getAccessPayload, Backend.idealAccessPayload, env.decode_of_error hdecode]
      exact ⟨h.later hle, trivial⟩
    | ok payload =>
      obtain ⟨hmem, exp, hexp, hlt⟩ := hgenuine token (by simp) payload (decodeToken_ok hdecode).1
      have hrevoked := h.revoked_eq hinj hne hmem hle hexp hlt
      rw [getAccessPayload_of_decode hdecode, hrevoked]
      refine ⟨h.lookUp hle payload, ?_⟩
      simp only [Backend.idealAccessPayload, env.decode_of_ok hdecode, decide_eq_true_eq]

/-- So does the user behind it. -/
theorem Tracks.mandatoryUser (h : Tracks env now s t) (hle : now ≤ now') {credentials : Option String}
    (hgenuine : Genuine env s credentials.toList now') :
    Tracks env now' (env.mandatoryUser s credentials now').1 t ∧ (env.mandatoryUser s credentials now').2 =
      (env.idealAccessPayload t credentials now').bind (env.getCurrentUser t.tables) := by
  obtain ⟨hlook, hanswer⟩ := h.getAccessPayload hinj hne hle hgenuine
  rw [← hanswer]
  simp only [Backend.mandatoryUser]
  cases hacc : env.getAccessPayload s credentials now' with
  | mk s' answer =>
    rw [hacc] at hlook
    cases answer with
    | error e => exact ⟨hlook, rfl⟩
    | ok payload =>
      refine ⟨hlook, ?_⟩
      have htables : t.tables.withCache s'.cache = s' := hlook.tables
      rw [← htables]
      rfl

/-- So does a refresh token. -/
theorem Tracks.refresh (h : Tracks env now s t) (hle : now ≤ now') {token : String}
    (hgenuine : Genuine env s [token] now') :
    Tracks env now' (env.refresh s token now').1 (env.idealRefresh t token now').1 ∧
      (env.refresh s token now').2 = (env.idealRefresh t token now').2 := by
  cases hdecode : decodeToken env.jwt token .refresh now' with
  | error detail =>
    simp only [Backend.refresh, Backend.idealRefresh, env.decode_of_error hdecode]
    exact ⟨h.later hle, trivial⟩
  | ok payload =>
    obtain ⟨hmem, exp, hexp, hlt⟩ := hgenuine token (by simp) payload (decodeToken_ok hdecode).1
    have hrevoked := h.revoked_eq hinj hne hmem hle hexp hlt
    have hlook := h.lookUp hle payload
    have htables : env.subjectOf t.tables payload = env.subjectOf s payload := by
      rw [← h.tables]
      rfl
    have hcache : env.subjectOf { s with cache := (isRevoked s.cache env.skew payload now').1 } payload =
        env.subjectOf s payload := rfl
    simp only [Backend.refresh, Backend.idealRefresh, env.decode_of_ok hdecode, hrevoked, decide_eq_true_eq, htables,
      hcache]
    split
    · exact ⟨hlook, rfl⟩
    · cases env.subjectOf s payload with
      | error e => exact ⟨hlook, rfl⟩
      | ok found =>
        cases found with
        | none => exact ⟨hlook, rfl⟩
        | some user =>
          simp only
          split
          · exact ⟨hlook, rfl⟩
          · have hfree : CacheFree fun _ _ s => env.issueTokens s user now' := fun _ _ _ _ _ _ => rfl
            obtain ⟨htracks, htokens⟩ := hlook.cacheFree hfree ((routine_frame env now').issueTokens _ user).minted
            exact ⟨htracks, congrArg Except.ok htokens⟩

/-- A logout ends the same sessions in both. -/
theorem Tracks.logout (h : Tracks env now s t) (hle : now ≤ now') {credentials refreshToken : Option String}
    (hgenuine : Genuine env s (credentials.toList ++ refreshToken.toList) now') :
    Tracks env now' (env.logoutEndpoint s credentials refreshToken now').1
        (env.idealLogout t credentials refreshToken now').1 ∧
      (env.logoutEndpoint s credentials refreshToken now').2 =
        (env.idealLogout t credentials refreshToken now').2 := by
  obtain ⟨hlook, hanswer⟩ := h.getAccessPayload hinj hne hle
    fun token htoken => hgenuine token (List.mem_append_left _ htoken)
  cases hacc : env.getAccessPayload s credentials now' with
  | mk s' answer =>
    rw [hacc] at hlook hanswer
    cases answer with
    | error e =>
      simp only [Backend.logoutEndpoint, Backend.idealLogout, hacc, ← hanswer]
      exact ⟨hlook, trivial⟩
    | ok access =>
      have haccess : (env.getAccessPayload s credentials now').2 = .ok access := by rw [hacc]
      have hunforged : Unforged env s ⟨now', .logout credentials refreshToken⟩ :=
        fun token htoken payload hdecode => (hgenuine token htoken payload hdecode).1
      have hreply : (env.logoutEndpoint s credentials refreshToken now').2 =
          if (access.sub.bind env.uuid.parse).isSome then .ok () else .error .valueError := by
        have hok : (env.logout s' access refreshToken now').2 = .ok () := logout_ok s' access refreshToken now'
        simp only [Backend.logoutEndpoint, hacc]
        split <;> rename_i heq <;> rw [heq] at hok
        cases hok
      have hminted := ((routine_frame env now').getAccessPayload s credentials).minted.1.subset
      rw [hacc] at hminted
      rw [logoutEndpoint_state hacc, hreply]
      simp only [Backend.idealLogout, ← hanswer]
      refine ⟨hlook.foldl_revoke hinj fun p hp => ?_, trivial⟩
      exact hminted (mem_minted_of_revokedBy hunforged rfl haccess hp).1

/-- **One request** is answered alike by the real service and the ideal one. -/
theorem tracks_handle {r : Timed} (h : Tracks env now s t) (hle : now ≤ r.now) (hminted : OnlyMinted env s r)
    (hvisible : r.request.visible = true) :
    Tracks env r.now (env.handle s r).1 (env.idealHandle t r).1 ∧ (env.handle s r).2 = (env.idealHandle t r).2 := by
  have hgenuine : Genuine env s r.request.presented r.now := by
    intro token htoken payload hdecode
    obtain ⟨hmem, -, hexp⟩ := hminted token htoken payload hdecode
    exact ⟨hmem, hexp⟩
  obtain ⟨now', request⟩ := r
  by_cases hlooks : request.looksUp = true
  · cases request with
    | refresh token =>
      have hsession := transaction_eq_self (fun s => env.refresh s token now')
        ((keeps_frame env now').refresh s token).users
      obtain ⟨htracks, hanswer⟩ := h.refresh hinj hne hle hgenuine
      simp only [Backend.handle, Backend.idealHandle, hsession, hanswer]
      exact ⟨htracks, trivial⟩
    | logout credentials refreshToken =>
      have hsession := transaction_eq_self (fun s => env.logoutEndpoint s credentials refreshToken now')
        (keeps_logoutEndpoint env now' s credentials refreshToken).users
      obtain ⟨htracks, hanswer⟩ := h.logout hinj hne hle hgenuine
      simp only [Backend.handle, Backend.idealHandle, hsession, hanswer]
      exact ⟨htracks, trivial⟩
    | bearer credentials =>
      have hsession := transaction_eq_self (fun s => env.mandatoryUser s credentials now')
        ((keeps_frame env now').mandatoryUser s credentials).users
      obtain ⟨htracks, hanswer⟩ := h.mandatoryUser hinj hne hle hgenuine
      simp only [Backend.handle, Backend.idealHandle, hsession, hanswer]
      exact ⟨htracks, trivial⟩
    | _ => cases hlooks
  · rw [Bool.not_eq_true] at hlooks
    have hother : ∀ credentials token, request ≠ .logout credentials token := by
      rintro credentials token rfl
      cases hlooks
    have hroutine := routine_handle env s (r := ⟨now', request⟩) hother
    obtain ⟨htracks, hanswer⟩ := (h.later hle).cacheFree (cacheFree_handle env hlooks hvisible) hroutine.minted
    have hideal : env.idealHandle t ⟨now', request⟩ =
        ({ t with tables := (env.handle t.tables ⟨now', request⟩).1 }, (env.handle t.tables ⟨now', request⟩).2) := by
      cases request with
      | refresh => cases hlooks
      | logout => cases hlooks
      | bearer => cases hlooks
      | cache => cases hvisible
      | _ => rfl
    rw [hideal]
    exact ⟨htracks, hanswer⟩

/-- **The denylist refines the session table.** In every run from a state in which nothing was minted or revoked yet,
with any other use of the shared cache in between, the service answers as the one that remembers for ever which sessions
were logged out: a token that has not expired is refused as revoked if and only if it was. -/
theorem denylist_refines_sessions (init : AuthState) (hinit : init.minted = [])
    (hclean : ∀ jti, init.cache.entry (revokedKey jti) = none) (requests : List Timed)
    (hclock : NonDecreasing Timed.now requests)
    (hminted : (authMachine env).Enabled (OnlyMinted env) init requests) :
    ((authMachine env).log init requests).filter (fun e => e.1.request.visible) =
      (sessionMachine env).log ⟨init, []⟩ (requests.filter fun r => r.request.visible) := by
  cases requests with
  | nil => rfl
  | cons first rest =>
    have htracks : Tracks env first.now init ⟨init, []⟩ := by
      refine ⟨rfl, ?_, ?_, ?_, ?_⟩
      · rw [hinit]
        exact Mints.refl []
      · intro p hp
        cases hp
      · intro p hp
        cases hp
      · intro jti entry hentry
        rw [hclean] at hentry
        cases hentry
    refine Machine.log_filter_of_clocked (authMachine env) (sessionMachine env)
      (fun r => r.request.visible) (Tracks env) (fun now s t r h hle hen hvisible => ?_)
      (fun now s t r h hle _ hhidden => ?_) htracks (fun r hr => ?_) hclock hminted
    · exact tracks_handle hinj hne h hle hen hvisible
    · obtain ⟨now', request⟩ := r
      cases request with
      | cache key use => exact h.useCache hle key use
      | _ => cases hhidden
    · rcases List.mem_cons.mp hr with rfl | hr
      · exact le_refl _
      · exact List.rel_of_pairwise_cons hclock hr

end

/-- What the sample backend accepts is unexpired, and minted if its table is. -/
theorem onlyMinted_sampleBackend {issued : List Payload} {s : AuthState} {r : Timed}
    (hissued : r.request.presented ≠ [] → issued ⊆ s.minted) : OnlyMinted (sampleBackend issued) s r := by
  intro token htoken payload hdecode
  refine ⟨hissued (List.ne_nil_of_mem htoken) (mem_of_tableJwt_decode hdecode), ?_⟩
  simp only [sampleBackend, tableJwt] at hdecode ⊢
  split at hdecode
  · cases hdecode
  · rename_i p hfind
    split at hdecode
    · rename_i hlive
      cases hdecode
      have hfound := List.find?_some hfind
      have hjti : payload.jti = some token := of_decide_eq_true hfound
      rw [Option.any_eq_true] at hlive
      obtain ⟨exp, hexp, hlt⟩ := hlive
      exact ⟨by rw [hjti]; rfl, exp, hexp, of_decide_eq_true hlt⟩
    · cases hdecode

/-- The tokens of a login are used, logged out while a provider's response is cached, and presented again. -/
def sessionRun : List Timed :=
  [⟨0, .login "Watcher@example.com" "secret"⟩, ⟨5, .bearer (some "0")⟩,
    ⟨6, .cache (httpCacheKey "open-meteo" "d") (.set "sunny" 300)⟩, ⟨21 / 2, .logout (some "0") (some "1")⟩,
    ⟨500, .bearer (some "0")⟩, ⟨600, .refresh "1"⟩, ⟨900, .bearer (some "0")⟩]

/-- Both services let the bearer in once, refuse both tokens afterwards as revoked, and the access token as expired once
its time is over. -/
theorem sessionRun_refines :
    ((authMachine (sampleBackend [firstAccess, firstRefresh])).log oneUser sessionRun).filter
        (fun e => e.1.request.visible) =
      (sessionMachine (sampleBackend [firstAccess, firstRefresh])).log ⟨oneUser, []⟩
        (sessionRun.filter fun r => r.request.visible) ∧
    ((authMachine (sampleBackend [firstAccess, firstRefresh])).log oneUser sessionRun).map (fun e => e.2) =
      [.ok (.tokens ⟨"0", "1"⟩), .ok (.user sampleUser), .ok .message, .ok .message,
        .error (.authentication "this session has been revoked"),
        .error (.authentication "this session has been revoked"),
        .error (.authentication "token has expired")] := by
  have hclock : NonDecreasing Timed.now sessionRun := by
    unfold NonDecreasing sessionRun
    decide +kernel
  have hminted : (authMachine (sampleBackend [firstAccess, firstRefresh])).Enabled
      (OnlyMinted (sampleBackend [firstAccess, firstRefresh])) oneUser sessionRun := by
    refine ⟨onlyMinted_sampleBackend ?_, onlyMinted_sampleBackend ?_, onlyMinted_sampleBackend ?_,
      onlyMinted_sampleBackend ?_, onlyMinted_sampleBackend ?_, onlyMinted_sampleBackend ?_,
      onlyMinted_sampleBackend ?_, trivial⟩
    all_goals decide +kernel
  exact ⟨denylist_refines_sessions decimalText_injective decimalText_ne_empty oneUser rfl (fun _ => rfl) sessionRun
    hclock hminted, by decide +kernel⟩

end SmartTravel
