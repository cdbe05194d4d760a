import SmartTravel.Lib.Runs
import SmartTravel.Api.Deps

/-!
# The authentication endpoints

Requests to the `/auth` endpoints, to endpoints behind a bearer token and to the response cache, as inputs of one
machine over the shared state. Each request sees one instant of the clock.

The denylist survives everything else that uses the cache. Every request mints tokens with fresh ids and keeps a barred
token barred (`Routine`, through `RequestFrame` where no row changes); `logout` does so because a token with the same
`jti` is the same token (`eq_of_jti`), and bars what it revokes (`bars_handle`). Hence such a token stays refused
(`logout_is_final`).
-/

namespace SmartTravel

open Py Runs

/-- A cache key outside the denylist. -/
structure ForeignKey where
  key : String
  foreign : ¬ "revoked:".toList <+: key.toList

/-- `ResilientHttpClient._cache_key` for the digest of a request. -/
def httpCacheKey (provider digest : String) : ForeignKey where
  key := "http:" ++ provider ++ ":" ++ digest
  foreign := by
    intro h
    simp only [String.toList_append, List.append_assoc] at h
    exact absurd h (by simp [List.cons_prefix_cons])

/-- What is done with a key. -/
inductive CacheUse where
  | get
  | set (value : String) (ttl : ℤ)
  | delete

/-- A request; `raises` says whether the notifier raises in it. -/
inductive AuthRequest where
  | register (email password : String) (fullName : Option String) (raises : Bool)
  | resendVerification (email : String) (raises : Bool)
  | verifyEmail (token : String)
  | login (email password : String)
  | refresh (token : String)
  | requestPasswordReset (email : String) (raises : Bool)
  | resetPassword (token newPassword : String)
  | logout (credentials refreshToken : Option String)
  | bearer (credentials : Option String)
  | cache (key : ForeignKey) (use : CacheUse)

/-- A request at a time. -/
structure Timed where
  now : ℚ
  request : AuthRequest

/-- What a request answers. -/
inductive AuthReply where
  | message
  | user (user : User)
  | tokens (tokens : TokenPair)
deriving DecidableEq

namespace Backend

variable (env : Backend) {κ : Type}

/-- `POST /auth/login`. -/
def login (s : AuthStateOver κ) (email password : String) (now : ℚ) : AuthStateOver κ × Except AuthError TokenPair :=
  match env.authenticate s email password with
  | (s, .error e) => (s, .error e)
  | (s, .ok user) =>
    let (s, tokens) := env.issueTokens s user now
    (s, .ok tokens)

/-- `POST /auth/logout`. -/
def logoutEndpoint [CacheProtocol κ] (s : AuthStateOver κ) (credentials refreshToken : Option String) (now : ℚ) :
    AuthStateOver κ × Except AuthError Unit :=
  match env.getAccessPayload s credentials now with
  | (s, .error e) => (s, .error e)
  | (s, .ok payload) =>
    match env.logout s payload refreshToken now with
    | (s, .error e) => (s, .error e)
    -- The entry of the audit log names the caller by the primary key.
    | (s, .ok ()) => (s, if (payload.sub.bind env.uuid.parse).isSome then .ok () else .error .valueError)

/-- A use of the shared cache outside the denylist. -/
def useCache [CacheProtocol κ] (s : AuthStateOver κ) (key : ForeignKey) (now : ℚ) :
    CacheUse → AuthStateOver κ × Except AuthError Unit
  | .get => ({ s with cache := (CacheProtocol.get s.cache key.key (now + env.skew)).1 }, .ok ())
  | .set value ttl =>
    match CacheProtocol.set s.cache key.key value ttl (now + env.skew) with
    | .error e => (s, .error (.cache e))
    | .ok cache => ({ s with cache := cache }, .ok ())
  | .delete => ({ s with cache := CacheProtocol.delete s.cache key.key (now + env.skew) }, .ok ())

/-- One request in a session of its own. -/
def handle [CacheProtocol κ] (s : AuthStateOver κ) (r : Timed) : AuthStateOver κ × Except AuthError AuthReply :=
  let reply {α : Type} (f : α → AuthReply) (answer : AuthStateOver κ × Except AuthError α) := (answer.1, answer.2.map f)
  match r.request with
  | .register email password fullName raises =>
    reply .user (transaction (fun s => env.register s email password fullName r.now raises) s)
  | .resendVerification email raises =>
    reply (fun _ => .message) (transaction (fun s => env.resendVerification s email r.now raises) s)
  | .verifyEmail token => reply (fun _ => .message) (transaction (fun s => env.verifyEmail s token r.now) s)
  | .login email password => reply .tokens (transaction (fun s => env.login s email password r.now) s)
  | .refresh token => reply .tokens (transaction (fun s => env.refresh s token r.now) s)
  | .requestPasswordReset email raises =>
    reply (fun _ => .message) (transaction (fun s => env.requestPasswordReset s email r.now raises) s)
  | .resetPassword token newPassword =>
    reply (fun _ => .message) (transaction (fun s => env.resetPassword s token newPassword r.now) s)
  | .logout credentials refreshToken =>
    reply (fun _ => .message) (transaction (fun s => env.logoutEndpoint s credentials refreshToken r.now) s)
  | .bearer credentials => reply .user (transaction (fun s => env.mandatoryUser s credentials r.now) s)
  | .cache key use => reply (fun _ => .message) (env.useCache s key r.now use)

end Backend

/-- The service as a machine. -/
def authMachine (env : Backend) : Machine AuthState Timed (Except AuthError AuthReply) := ⟨env.handle⟩

/-! ## Minted tokens -/

section
variable (hex : ℕ → String)

/-- Tokens were added, each with the id of its position and an expiry time. -/
def Mints (before after : List Payload) : Prop :=
  before <+: after ∧ ∀ i payload, after[i]? = some payload → before.length ≤ i →
    payload.jti = some (hex i) ∧ payload.exp.isSome

variable {hex}

theorem Mints.refl (minted : List Payload) : Mints hex minted minted := by
  refine ⟨List.prefix_refl _, fun i payload hi hle => ?_⟩
  rw [List.getElem?_eq_none hle] at hi
  cases hi

theorem Mints.trans {a b c : List Payload} (hab : Mints hex a b) (hbc : Mints hex b c) : Mints hex a c := by
  refine ⟨hab.1.trans hbc.1, fun i payload hi hle => ?_⟩
  by_cases hb : b.length ≤ i
  · exact hbc.2 i payload hi hb
  · obtain ⟨rest, rfl⟩ := hbc.1
    rw [List.getElem?_append_left (by omega)] at hi
    exact hab.2 i payload hi hle

theorem Mints.snoc (minted : List Payload) {payload : Payload} (hjti : payload.jti = some (hex minted.length))
    (hexp : payload.exp.isSome) : Mints hex minted (minted ++ [payload]) := by
  refine ⟨List.prefix_append _ _, fun i p hi hle => ?_⟩
  rw [List.getElem?_append_right hle, List.getElem?_singleton] at hi
  split at hi
  · rename_i hzero
    cases hi
    have hlen : i = minted.length := by omega
    exact ⟨hlen ▸ hjti, hexp⟩
  · cases hi

/-- **A `jti` names one token.** -/
theorem eq_of_jti (hinj : Function.Injective hex) {minted : List Payload} (h : Mints hex [] minted)
    {p q : Payload} (hp : p ∈ minted) (hq : q ∈ minted) (hjti : p.jti = q.jti) : p = q := by
  obtain ⟨i, hi⟩ := List.mem_iff_getElem?.mp hp
  obtain ⟨j, hj⟩ := List.mem_iff_getElem?.mp hq
  have hpi := (h.2 i p hi (Nat.zero_le _)).1
  have hqj := (h.2 j q hj (Nat.zero_le _)).1
  rw [hpi, hqj, Option.some.injEq] at hjti
  rw [hinj hjti, hj] at hi
  exact (Option.some.inj hi).symm

end

/-! ## What requests are made of -/

section
variable (env : Backend) (now : ℚ)

/-- The relation holds across what a request does to the tokens, the mails and the denylist as it goes: a token for a
user, a mail to the notifier, a look at the denylist. -/
structure RequestFrame (R : AuthState → AuthState → Prop) : Prop where
  refl : ∀ s, R s s
  trans : ∀ {a b c}, R a b → R b c → R a c
  createToken : ∀ s id type, R s (env.createToken s (env.uuid.str id) type now).1
  send : ∀ (s : AuthState) mail raises, R s (s.send mail raises).1
  isRevoked : ∀ (s : AuthState) payload, R s { s with cache := (isRevoked s.cache env.skew payload now).1 }

variable {env now} {R : AuthState → AuthState → Prop} (hR : RequestFrame env now R) (s : AuthState)
include hR

theorem RequestFrame.sendVerification (user : User) (raises : Bool) : R s (env.sendVerification s user now raises).1 :=
  hR.trans (hR.createToken s _ _) (hR.send _ _ _)

theorem RequestFrame.resendVerification (email : String) (raises : Bool) :
    R s (env.resendVerification s email now raises).1 := by
  simp only [Backend.resendVerification]
  split
  · exact hR.refl s
  · split
    · exact hR.refl s
    · exact hR.sendVerification s _ _

theorem RequestFrame.issueTokens (user : User) : R s (env.issueTokens s user now).1 :=
  hR.trans (hR.createToken s _ _) (hR.createToken _ _ _)

theorem RequestFrame.refresh (token : String) : R s (env.refresh s token now).1 := by
  simp only [Backend.refresh]
  split
  · exact hR.refl s
  · rename_i payload _
    refine hR.trans (hR.isRevoked s payload) ?_
    repeat' split
    all_goals first
      | exact hR.refl _
      | exact hR.issueTokens _ _

theorem RequestFrame.requestPasswordReset (email : String) (raises : Bool) :
    R s (env.requestPasswordReset s email now raises).1 := by
  simp only [Backend.requestPasswordReset]
  split
  · exact hR.refl s
  · split
    · exact hR.refl s
    · exact hR.trans (hR.createToken s _ _) (hR.send _ _ _)

theorem RequestFrame.getAccessPayload (credentials : Option String) :
    R s (env.getAccessPayload s credentials now).1 := by
  simp only [Backend.getAccessPayload]
  split
  · exact hR.refl s
  · split
    · exact hR.refl s
    · split <;> exact hR.isRevoked s _

theorem RequestFrame.mandatoryUser (credentials : Option String) : R s (env.mandatoryUser s credentials now).1 := by
  have haccess := hR.getAccessPayload s credentials
  simp only [Backend.mandatoryUser]
  split <;> rename_i heq <;> rwa [heq] at haccess

end

/-! ## What a request leaves alone -/

section
variable (env : Backend) (now : ℚ)

/-- From `s` to `s'` tokens may have been minted, and what was barred still is. -/
structure Routine (s s' : AuthState) : Prop where
  minted : Mints env.uuid.hex s.minted s'.minted
  barred : ∀ jti exp, Barred env.skew jti exp s.cache now → Barred env.skew jti exp s'.cache now

variable {env now}

/-- Neither tokens nor the cache are touched. -/
theorem Routine.of_eq {s s' : AuthState} (hminted : s'.minted = s.minted) (hcache : s'.cache = s.cache) :
    Routine env now s s' :=
  ⟨hminted ▸ Mints.refl _, fun _ _ h => hcache ▸ h⟩

theorem Routine.trans {a b c : AuthState} (hab : Routine env now a b) (hbc : Routine env now b c) :
    Routine env now a c :=
  ⟨hab.minted.trans hbc.minted, fun jti exp h => hbc.barred jti exp (hab.barred jti exp h)⟩

variable (env now)

theorem routine_frame : RequestFrame env now (Routine env now) where
  refl _ := Routine.of_eq rfl rfl
  trans := Routine.trans
  createToken _ _ _ := ⟨Mints.snoc _ rfl rfl, fun _ _ h => h⟩
  send s mail raises := by
    unfold AuthStateOver.send
    split <;> exact Routine.of_eq rfl rfl
  isRevoked _ payload := ⟨Mints.refl _, fun _ _ h => h.isRevoked payload⟩

theorem routine_transaction {α : Type} {operation : AuthState → AuthState × Except AuthError α}
    (hop : ∀ s, Routine env now s (operation s).1) (s : AuthState) : Routine env now s (transaction operation s).1 := by
  obtain ⟨hcache, hminted⟩ := transaction_eq operation s
  exact (hop s).trans (Routine.of_eq hminted hcache)

theorem routine_register (s : AuthState) (email password : String) (fullName : Option String) (raises : Bool) :
    Routine env now s (env.register s email password fullName now raises).1 := by
  simp only [Backend.register]
  split
  · exact Routine.of_eq rfl rfl
  · refine Routine.trans ?_ ((routine_frame env now).sendVerification _ _ _)
    exact Routine.of_eq rfl rfl

theorem routine_verifyEmail (s : AuthState) (token : String) : Routine env now s (env.verifyEmail s token now).1 := by
  simp only [Backend.verifyEmail]
  repeat' split
  all_goals exact Routine.of_eq rfl rfl

theorem routine_authenticate (s : AuthState) (email password : String) :
    Routine env now s (env.authenticate s email password).1 := by
  simp only [Backend.authenticate]
  repeat' split
  all_goals exact Routine.of_eq rfl rfl

theorem routine_login (s : AuthState) (email password : String) :
    Routine env now s (env.login s email password now).1 := by
  have hauth := routine_authenticate env now s email password
  simp only [Backend.login]
  split
  · rename_i heq
    rwa [heq] at hauth
  · rename_i heq
    rw [heq] at hauth
    exact hauth.trans ((routine_frame env now).issueTokens _ _)

theorem routine_resetPassword (s : AuthState) (token newPassword : String) :
    Routine env now s (env.resetPassword s token newPassword now).1 := by
  simp only [Backend.resetPassword]
  repeat' split
  all_goals exact Routine.of_eq rfl rfl

/-- A foreign key is not the key of a revoked token. -/
theorem ForeignKey.ne_revokedKey (key : ForeignKey) (jti : String) : revokedKey jti ≠ key.key := by
  intro h
  apply key.foreign
  rw [← h, revokedKey, String.toList_append]
  exact List.prefix_append _ _

theorem routine_useCache (s : AuthState) (key : ForeignKey) (use : CacheUse) :
    Routine env now s (env.useCache s key now use).1 := by
  cases use with
  | get => exact ⟨Mints.refl _, fun _ _ h => h.get _⟩
  | set value ttl =>
    simp only [Backend.useCache]
    split
    · exact Routine.of_eq rfl rfl
    · rename_i hset
      exact ⟨Mints.refl _, fun jti _ h => h.set hset (key.ne_revokedKey jti)⟩
  | delete => exact ⟨Mints.refl _, fun jti _ h => h.delete (key.ne_revokedKey jti)⟩

/-- Every request but `logout` is routine. -/
theorem routine_handle (s : AuthState) {r : Timed} (hne : ∀ credentials token, r.request ≠ .logout credentials token) :
    Routine env r.now s (env.handle s r).1 := by
  obtain ⟨now, request⟩ := r
  cases request with
  | register => exact routine_transaction env now (fun s => routine_register env now s _ _ _ _) s
  | resendVerification =>
    exact routine_transaction env now (fun s => (routine_frame env now).resendVerification s _ _) s
  | verifyEmail => exact routine_transaction env now (fun s => routine_verifyEmail env now s _) s
  | login => exact routine_transaction env now (fun s => routine_login env now s _ _) s
  | refresh => exact routine_transaction env now (fun s => (routine_frame env now).refresh s _) s
  | requestPasswordReset =>
    exact routine_transaction env now (fun s => (routine_frame env now).requestPasswordReset s _ _) s
  | resetPassword => exact routine_transaction env now (fun s => routine_resetPassword env now s _ _) s
  | logout credentials token => exact absurd rfl (hne credentials token)
  | bearer => exact routine_transaction env now (fun s => (routine_frame env now).mandatoryUser s _) s
  | cache => exact routine_useCache env now s _ _

end

/-! ## Logout -/

section
variable (env : Backend)

/-- The request is a logout that revokes the payload. -/
def Revokes (s : AuthState) (r : Timed) (payload : Payload) : Prop :=
  ∃ credentials refreshToken access, r.request = .logout credentials refreshToken ∧
    (env.getAccessPayload s credentials r.now).2 = .ok access ∧ payload ∈ env.revokedBy access refreshToken r.now

/-- The tokens of a logout that PyJWT accepts were minted here: nobody else has the key. -/
def Unforged (s : AuthState) (r : Timed) : Prop :=
  match r.request with
  | .logout credentials refreshToken => ∀ token ∈ credentials.toList ++ refreshToken.toList, ∀ payload,
      env.jwt.decode r.now token = .ok payload → payload ∈ s.minted
  | _ => True

/-- An answer that refuses the token, as expired or as revoked. -/
def RefusedAs {α : Type} (answer : Except AuthError α) : Prop :=
  answer = .error (.authentication "token has expired") ∨
    answer = .error (.authentication "this session has been revoked")

/-- The token of the payload is refused where it would be used. -/
def Refused (s : AuthState) (payload : Payload) (now : ℚ) : Prop :=
  (payload.type = some TokenType.access.text →
    RefusedAs (env.getAccessPayload s (some (env.jwt.encode payload)) now).2) ∧
  (payload.type = some TokenType.refresh.text → RefusedAs (env.refresh s (env.jwt.encode payload) now).2)

variable {env}

theorem revokes_iff {s : AuthState} {r : Timed} {credentials refreshToken : Option String}
    (hr : r.request = .logout credentials refreshToken) {payload : Payload} :
    Revokes env s r payload ↔ ∃ access, (env.getAccessPayload s credentials r.now).2 = .ok access ∧
      payload ∈ env.revokedBy access refreshToken r.now := by
  constructor
  · rintro ⟨credentials', refreshToken', access, hr', haccess, hin⟩
    rw [hr] at hr'
    cases hr'
    exact ⟨access, haccess, hin⟩
  · rintro ⟨access, haccess, hin⟩
    exact ⟨credentials, refreshToken, access, hr, haccess, hin⟩

theorem getAccessPayload_ok {κ : Type} [CacheProtocol κ] {s : AuthStateOver κ} {credentials : Option String} {now : ℚ}
    {payload : Payload} (h : (env.getAccessPayload s credentials now).2 = .ok payload) :
    ∃ token, credentials = some token ∧ decodeToken env.jwt token .access now = .ok payload := by
  cases credentials with
  | none => cases h
  | some token =>
    cases hdecode : decodeToken env.jwt token .access now with
    | error detail =>
      simp only [Backend.getAccessPayload, env.decode_of_error hdecode] at h
      cases h
    | ok p =>
      simp only [Backend.getAccessPayload, env.decode_of_ok hdecode] at h
      split at h
      · cases h
      · cases h
        exact ⟨token, rfl, hdecode⟩

/-- What a logout revokes was decoded from its tokens, hence minted here, and has a subject. -/
theorem mem_minted_of_revokedBy {s : AuthState} {r : Timed} (hunforged : Unforged env s r)
    {credentials refreshToken : Option String} (hr : r.request = .logout credentials refreshToken) {access p : Payload}
    (haccess : (env.getAccessPayload s credentials r.now).2 = .ok access)
    (hp : p ∈ env.revokedBy access refreshToken r.now) : p ∈ s.minted ∧ p.sub.isSome := by
  obtain ⟨token, rfl, hdecode⟩ := getAccessPayload_ok haccess
  simp only [Unforged, hr] at hunforged
  have hown : access ∈ s.minted ∧ access.sub.isSome := by
    obtain ⟨hjwt, -, hsub⟩ := decodeToken_ok hdecode
    exact ⟨hunforged token (by simp) access hjwt, hsub⟩
  unfold Backend.revokedBy at hp
  split at hp
  · rw [List.mem_singleton] at hp
    exact hp ▸ hown
  · rename_i refresh hrefresh
    split at hp
    · rw [List.mem_singleton] at hp
      exact hp ▸ hown
    · rename_i q hq
      rcases List.mem_cons.mp hp with rfl | hp
      · exact hown
      · rw [List.mem_singleton] at hp
        obtain ⟨hjwt, -, hsub⟩ := decodeToken_ok hq
        have hmem : refresh ∈ refreshToken.toList := by
          rw [Option.filter_eq_some_iff] at hrefresh
          simp [hrefresh.1]
        exact hp ▸ ⟨hunforged refresh (List.mem_append_right _ hmem) q hjwt, hsub⟩

theorem jti_of_usableJti {payload : Payload} {jti : String} (h : payload.usableJti = some jti) :
    payload.jti = some jti := (Option.filter_eq_some_iff.mp h).1

/-- A logout that gets past the denylist revokes its payloads, whatever the audit log makes of its subject. -/
theorem logoutEndpoint_state {s s' : AuthState} {credentials refreshToken : Option String} {now : ℚ} {access : Payload}
    (h : env.getAccessPayload s credentials now = (s', .ok access)) :
    (env.logoutEndpoint s credentials refreshToken now).1 =
      (env.revokedBy access refreshToken now).foldl (fun s p => (env.revokePayload s p now).1) s' := by
  rw [← Backend.logout_eq]
  simp only [Backend.logoutEndpoint, h]
  split <;> rename_i heq <;> rw [heq]

variable (env)

/-- What is barred before the request or revoked by it is barred afterwards, and tokens are minted with fresh ids. -/
structure Bars (s : AuthState) (r : Timed) : Prop where
  minted : Mints env.uuid.hex s.minted (env.handle s r).1.minted
  barred : ∀ payload ∈ s.minted, ∀ jti exp, payload.usableJti = some jti → payload.exp = some exp →
    Barred env.skew jti exp s.cache r.now ∨ Revokes env s r payload →
    Barred env.skew jti exp (env.handle s r).1.cache r.now

variable {env}

/-- **One logout** bars what it revokes. -/
theorem bars_logout (hinj : Function.Injective env.uuid.hex) {s : AuthState} {r : Timed}
    (hunforged : Unforged env s r) {credentials refreshToken : Option String}
    (hr : r.request = .logout credentials refreshToken) (hminted : Mints env.uuid.hex [] s.minted) : Bars env s r := by
  obtain ⟨hcache, hmint⟩ := transaction_eq (fun s => env.logoutEndpoint s credentials refreshToken r.now) s
  have hstate : (env.handle s r).1 =
      (transaction (fun s => env.logoutEndpoint s credentials refreshToken r.now) s).1 := by
    simp only [Backend.handle, hr]
  rw [← hstate] at hcache hmint
  have hroutine := (routine_frame env r.now).getAccessPayload s credentials
  cases hacc : env.getAccessPayload s credentials r.now with
  | mk s' answer =>
    rw [hacc] at hroutine
    cases answer with
    | error e =>
      -- The caller was refused: nothing is revoked.
      simp only [Backend.logoutEndpoint, hacc] at hcache hmint
      refine ⟨hmint ▸ hroutine.minted, fun payload _ jti exp _ _ h => hcache ▸ hroutine.barred jti exp ?_⟩
      refine h.resolve_right fun hrevokes => ?_
      obtain ⟨access, haccess, -⟩ := (revokes_iff hr).mp hrevokes
      rw [hacc] at haccess
      cases haccess
    | ok access =>
      have haccess : (env.getAccessPayload s credentials r.now).2 = .ok access := by rw [hacc]
      rw [logoutEndpoint_state hacc] at hcache hmint
      refine ⟨?_, fun payload hmem jti exp hjti hexp h => ?_⟩
      · rw [hmint, Backend.minted_foldl_revoke]
        exact hroutine.minted
      · rw [hcache]
        apply Backend.barred_foldl_revoke
        · -- A revoked payload with this `jti` is the payload itself.
          intro p hp hpjti
          obtain ⟨hpmem, -⟩ := mem_minted_of_revokedBy hunforged hr haccess hp
          have heq : p.jti = payload.jti := by rw [jti_of_usableJti hpjti, jti_of_usableJti hjti]
          rw [eq_of_jti hinj hminted hpmem hmem heq, hexp]
        · refine h.imp (hroutine.barred jti exp) fun hrevokes => ?_
          obtain ⟨access', haccess', hin⟩ := (revokes_iff hr).mp hrevokes
          rw [haccess] at haccess'
          cases haccess'
          exact ⟨payload, hin, hjti⟩

/-- **One request** bars what it revokes; only a logout revokes anything. -/
theorem bars_handle (hinj : Function.Injective env.uuid.hex) {s : AuthState} {r : Timed} (hunforged : Unforged env s r)
    (hminted : Mints env.uuid.hex [] s.minted) : Bars env s r := by
  by_cases hlogout : ∃ credentials token, r.request = .logout credentials token
  · obtain ⟨credentials, token, hr⟩ := hlogout
    exact bars_logout hinj hunforged hr hminted
  · have hroutine := routine_handle env s fun c t hr => hlogout ⟨c, t, hr⟩
    refine ⟨hroutine.minted, fun payload _ jti exp _ _ h => hroutine.barred jti exp (h.resolve_right ?_)⟩
    rintro ⟨credentials, token, -, hr, -⟩
    exact hlogout ⟨credentials, token, hr⟩

/-! ## Logout is final -/

variable (env)

/-- The payload was minted, and its token has expired or is barred. -/
structure Sealed (payload : Payload) (s : AuthState) (now : ℚ) : Prop where
  minted : Mints env.uuid.hex [] s.minted
  mem : payload ∈ s.minted
  barred : ∀ jti exp, payload.usableJti = some jti → payload.exp = some exp → Barred env.skew jti exp s.cache now

variable {env}

/-- **One request keeps a token sealed.** -/
theorem Sealed.step (hinj : Function.Injective env.uuid.hex) {payload : Payload} {s : AuthState} {now : ℚ}
    (h : Sealed env payload s now) {r : Timed} (hle : now ≤ r.now) (hunforged : Unforged env s r) :
    Sealed env payload (env.handle s r).1 r.now := by
  have hbars := bars_handle hinj hunforged h.minted
  refine ⟨h.minted.trans hbars.minted, hbars.minted.1.subset h.mem, fun jti exp hjti hexp => ?_⟩
  exact hbars.barred payload h.mem jti exp hjti hexp (.inl ((h.barred jti exp hjti hexp).later hle))

/-- A run mints tokens with fresh ids. -/
theorem mints_run (hinj : Function.Injective env.uuid.hex) {requests : List Timed} {s : AuthState}
    (h : Mints env.uuid.hex [] s.minted) (hen : (authMachine env).Enabled (Unforged env) s requests) :
    Mints env.uuid.hex [] ((authMachine env).run s requests).minted :=
  (authMachine env).run_invariant (fun s => Mints env.uuid.hex [] s.minted)
    (fun _ _ hinv hunforged => hinv.trans (bars_handle hinj hunforged hinv).minted) h hen

/-- **A run keeps a token sealed**, until any later time. -/
theorem Sealed.run (hinj : Function.Injective env.uuid.hex) {payload : Payload} {w : ℚ} :
    ∀ {requests : List Timed} {s : AuthState} {now : ℚ}, Sealed env payload s now →
      (authMachine env).Enabled (Unforged env) s requests → NonDecreasing Timed.now requests →
      (∀ r ∈ requests, now ≤ r.now ∧ r.now ≤ w) → now ≤ w →
      Sealed env payload ((authMachine env).run s requests) w
  | [], _, _, h, _, _, _, hw =>
    ⟨h.minted, h.mem, fun jti exp hjti hexp => (h.barred jti exp hjti hexp).later hw⟩
  | r :: _, _, _, h, hen, hclock, htimes, _ => by
    obtain ⟨hle, hrw⟩ := htimes r List.mem_cons_self
    refine (h.step hinj hle hen.1).run hinj hen.2 (List.Pairwise.of_cons hclock) (fun q hq => ?_) hrw
    exact ⟨List.rel_of_pairwise_cons hclock hq, (htimes q (List.mem_cons_of_mem _ hq)).2⟩

section
variable {s : AuthState} {token : String} {payload : Payload} {now : ℚ} {exp : ℤ}
  (hrevoked : now < exp → (isRevoked s.cache env.skew payload now).2 = true)
include hrevoked

/-- A token that decodes until `exp` and is revoked until then is refused as a bearer token. -/
theorem refusedAs_getAccessPayload
    (hdecode : decodeToken env.jwt token .access now = if now < exp then .ok payload else .error "token has expired") :
    RefusedAs (env.getAccessPayload s (some token) now).2 := by
  by_cases hlt : now < exp
  · rw [if_pos hlt] at hdecode
    rw [getAccessPayload_of_decode hdecode, hrevoked hlt]
    exact .inr rfl
  · rw [if_neg hlt] at hdecode
    simp only [Backend.getAccessPayload, env.decode_of_error hdecode]
    exact .inl rfl

/-- Likewise as a refresh token. -/
theorem refusedAs_refresh
    (hdecode : decodeToken env.jwt token .refresh now = if now < exp then .ok payload else .error "token has expired") :
    RefusedAs (env.refresh s token now).2 := by
  by_cases hlt : now < exp
  · rw [if_pos hlt] at hdecode
    simp only [Backend.refresh, env.decode_of_ok hdecode, hrevoked hlt, if_true]
    exact .inr rfl
  · rw [if_neg hlt] at hdecode
    simp only [Backend.refresh, env.decode_of_error hdecode]
    exact .inl rfl

end

/-- The token of a sealed payload is refused. -/
theorem Sealed.refused (hne : ∀ n, env.uuid.hex n ≠ "") {payload : Payload} {s : AuthState} {now : ℚ}
    (h : Sealed env payload s now) (hsub : payload.sub.isSome) (hjwt : env.jwt.AcceptsUntilExpiry payload) :
    Refused env s payload now := by
  obtain ⟨i, hi⟩ := List.mem_iff_getElem?.mp h.mem
  obtain ⟨hjti, hsome⟩ := h.minted.2 i payload hi (Nat.zero_le _)
  obtain ⟨exp, hexp⟩ := Option.isSome_iff_exists.mp hsome
  have husable : payload.usableJti = some (env.uuid.hex i) := by simp [Payload.usableJti, hjti, Option.filter, hne]
  have hrevoked : now < exp → (isRevoked s.cache env.skew payload now).2 = true :=
    isRevoked_of_barred (h.barred _ exp husable hexp) husable
  constructor
  · intro htype
    exact refusedAs_getAccessPayload hrevoked (decodeToken_encode hjwt hexp htype hsub now)
  · intro htype
    exact refusedAs_refresh hrevoked (decodeToken_encode hjwt hexp htype hsub now)

/-- **Logout is final.** In every run from a state in which nothing was minted yet: once a logout has revoked a payload,
its token is refused at every later time, whatever else happens in between. -/
theorem logout_is_final (hinj : Function.Injective env.uuid.hex) (hne : ∀ n, env.uuid.hex n ≠ "")
    (init : AuthState) (hinit : init.minted = []) (pre post : List Timed) {r : Timed}
    (hclock : NonDecreasing Timed.now (pre ++ r :: post))
    (hunforged : (authMachine env).Enabled (Unforged env) init (pre ++ r :: post)) {payload : Payload}
    (hrevokes : Revokes env ((authMachine env).run init pre) r payload)
    (hjwt : env.jwt.AcceptsUntilExpiry payload) {w : ℚ} (hw : ∀ q ∈ r :: post, q.now ≤ w) :
    Refused env ((authMachine env).run init (pre ++ r :: post)) payload w := by
  rw [Machine.enabled_append] at hunforged
  obtain ⟨hpre, hr, hpost⟩ := hunforged
  have hminted : Mints env.uuid.hex [] ((authMachine env).run init pre).minted :=
    mints_run hinj (by rw [hinit]; exact Mints.refl []) hpre
  obtain ⟨credentials, refreshToken, access, hreq, haccess, hin⟩ := id hrevokes
  obtain ⟨hmem, hsub⟩ := mem_minted_of_revokedBy hr hreq haccess hin
  have hbars := bars_handle hinj hr hminted
  have hsealed : Sealed env payload (env.handle ((authMachine env).run init pre) r).1 r.now :=
    ⟨hminted.trans hbars.minted, hbars.minted.1.subset hmem, fun jti exp hjti hexp =>
      hbars.barred payload hmem jti exp hjti hexp (.inr hrevokes)⟩
  obtain ⟨-, hcons, -⟩ := List.pairwise_append.mp hclock
  have hrun := hsealed.run hinj hpost (List.Pairwise.of_cons hcons)
    (fun q hq => ⟨List.rel_of_pairwise_cons hcons hq, hw q (List.mem_cons_of_mem _ hq)⟩) (hw r List.mem_cons_self)
  rw [Machine.run_append]
  exact hrun.refused hne hsub hjwt

end

/-- The tokens of the sample user's login at 0. -/
def firstAccess : Payload := createPayload "7" .access 900 0 "0"

/-- The refresh token of the same login. -/
def firstRefresh : Payload := createPayload "7" .refresh 1209600 0 "1"

/-- The sample user, with an empty cache. -/
def oneUser : AuthState := ⟨[sampleUser], .inMemory ⟨Py.Dict.empty⟩, [], [], 0, 8⟩

/-- A login, a logout with both tokens, and a provider response that is cached afterwards. -/
def loginThenLogout : List Timed :=
  [⟨0, .login "Watcher@example.com" "secret"⟩, ⟨21 / 2, .logout (some "0") (some "1")⟩,
    ⟨20, .cache (httpCacheKey "open-meteo" "d") (.set "sunny" 300)⟩]

/-- Both tokens of the login are refused at 500, when neither has expired. -/
theorem login_then_logout_refused :
    Refused (sampleBackend [firstAccess, firstRefresh])
      ((authMachine (sampleBackend [firstAccess, firstRefresh])).run oneUser loginThenLogout) firstAccess 500 ∧
    Refused (sampleBackend [firstAccess, firstRefresh])
      ((authMachine (sampleBackend [firstAccess, firstRefresh])).run oneUser loginThenLogout) firstRefresh 500 := by
  have hminted : ((authMachine (sampleBackend [firstAccess, firstRefresh])).run oneUser
      (loginThenLogout.take 1)).minted = [firstAccess, firstRefresh] := by decide +kernel
  have hclock : NonDecreasing Timed.now loginThenLogout := by
    unfold NonDecreasing loginThenLogout
    decide +kernel
  have hunforged : (authMachine (sampleBackend [firstAccess, firstRefresh])).Enabled
      (Unforged (sampleBackend [firstAccess, firstRefresh])) oneUser loginThenLogout := by
    refine ⟨trivial, fun token _ payload hdecode => ?_, trivial, trivial⟩
    exact hminted ▸ mem_of_tableJwt_decode hdecode
  have hrevokes : ∀ payload ∈ [firstAccess, firstRefresh], Revokes (sampleBackend [firstAccess, firstRefresh])
      ((authMachine (sampleBackend [firstAccess, firstRefresh])).run oneUser (loginThenLogout.take 1))
      ⟨21 / 2, .logout (some "0") (some "1")⟩ payload := by
    intro payload hpayload
    refine ⟨some "0", some "1", firstAccess, rfl, by decide +kernel, ?_⟩
    have hrevoked : (sampleBackend [firstAccess, firstRefresh]).revokedBy firstAccess (some "1") (21 / 2) =
        [firstAccess, firstRefresh] := by decide +kernel
    rw [hrevoked]
    exact hpayload
  have hw : ∀ q ∈ loginThenLogout.drop 1, q.now ≤ 500 := by
    unfold loginThenLogout
    decide +kernel
  constructor
  · exact logout_is_final decimalText_injective decimalText_ne_empty oneUser rfl (loginThenLogout.take 1)
      (loginThenLogout.drop 2) hclock hunforged (hrevokes firstAccess (by simp))
      (tableJwt_accepts (by decide +kernel)) hw
  · exact logout_is_final decimalText_injective decimalText_ne_empty oneUser rfl (loginThenLogout.take 1)
      (loginThenLogout.drop 2) hclock hunforged (hrevokes firstRefresh (by simp))
      (tableJwt_accepts (by decide +kernel)) hw

end SmartTravel
