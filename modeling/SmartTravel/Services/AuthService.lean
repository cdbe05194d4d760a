import SmartTravel.Lib.Numeral
import SmartTravel.Db.Models
import SmartTravel.Services.TokenBlocklist

/-!
# Authentication use-cases

The operations of `AuthService` over the user table, a shared cache of any type with the `CacheProtocol`, and the
outgoing mail. Each returns the new state and its value or the exception it raises; what the session wrote before an
exception is still in the state and is discarded by `transaction`, while the cache and the mail are not rolled back.
Argon2 is a parameter that draws a salt for each hash.
-/

namespace SmartTravel

/-- `PasswordHasher`: hash with a salt, verify a plain text against a hash, and whether a hash is out of date. -/
structure Hasher where
  hash : ℕ → String → String
  verify : String → String → Bool
  needsRehash : String → Bool

/-- What the services are built from. `skew` is what the cache's clock is ahead of the wall clock. -/
structure Backend where
  jwt : Jwt
  uuid : Uuid
  hasher : Hasher
  settings : Settings
  lower : String → String
  skew : ℚ

/-- A message handed to the notifier. -/
structure Mail where
  recipient : String
  subject : String
  body : String
deriving DecidableEq

/-- The user table, the cache, the mail that went out, the payloads of all tokens minted so far, the number of salts
drawn and the next primary key. -/
structure AuthStateOver (κ : Type) where
  users : List User
  cache : κ
  mail : List Mail
  minted : List Payload
  salts : ℕ
  nextUserId : ℕ

/-- With a cache of one of the two kinds. -/
abbrev AuthState := AuthStateOver Cache

/-- The exceptions of the operations: the two application errors with their texts, `uuid.UUID` on a malformed text, a
notifier or a cache that raises. -/
inductive AuthError where
  | authentication (detail : String)
  | conflict (detail : String)
  | valueError
  | notifier
  | cache (error : CacheError)
deriving DecidableEq

/-- `TokenPair`. -/
structure TokenPair where
  accessToken : String
  refreshToken : String
deriving DecidableEq

variable {κ : Type}

/-- A session: commit, or discard what was written to the tables. -/
def transaction {α : Type} (operation : AuthStateOver κ → AuthStateOver κ × Except AuthError α) (s : AuthStateOver κ) :
    AuthStateOver κ × Except AuthError α :=
  match operation s with
  | (s', .ok a) => (s', .ok a)
  | (s', .error e) => ({ s' with users := s.users }, .error e)

theorem transaction_eq {α : Type} (operation : AuthState → AuthState × Except AuthError α) (s : AuthState) :
    (transaction operation s).1.cache = (operation s).1.cache ∧
      (transaction operation s).1.minted = (operation s).1.minted := by
  unfold transaction
  split <;> rename_i heq <;> rw [heq] <;> exact ⟨rfl, rfl⟩

namespace AuthStateOver

/-- `UserRepository.get_by_id`. -/
def getById (s : AuthStateOver κ) (id : ℕ) : Option User := s.users.find? fun u => u.id = id

/-- `UserRepository.get_by_email`. -/
def getByEmail (s : AuthStateOver κ) (lower : String → String) (email : String) : Option User :=
  s.users.find? fun u => u.email = lower email

theorem getById_eq_some {s : AuthState} {id : ℕ} {user : User} (h : s.getById id = some user) :
    user ∈ s.users ∧ user.id = id := by
  have hfound := List.find?_some h
  exact ⟨List.mem_of_find?_eq_some h, of_decide_eq_true hfound⟩

theorem getByEmail_eq_some {s : AuthState} {lower : String → String} {email : String} {user : User}
    (h : s.getByEmail lower email = some user) : user ∈ s.users ∧ user.email = lower email := by
  have hfound := List.find?_some h
  exact ⟨List.mem_of_find?_eq_some h, of_decide_eq_true hfound⟩

/-- Change the row of a user. -/
def updateUser (s : AuthStateOver κ) (id : ℕ) (f : User → User) : AuthStateOver κ :=
  { s with users := s.users.map fun u => if u.id = id then f u else u }

/-- `notifier.send`, which may raise. -/
def send (s : AuthStateOver κ) (mail : Mail) (raises : Bool) : AuthStateOver κ × Except AuthError Unit :=
  if raises then (s, .error .notifier) else ({ s with mail := s.mail ++ [mail] }, .ok ())

end AuthStateOver

namespace Backend

variable (env : Backend)

/-- `_create_token` with the lifetime of its type: the minted payload is remembered, its `jti` was never used before. -/
def createToken (s : AuthStateOver κ) (subject : String) (type : TokenType) (now : ℚ) : AuthStateOver κ × String :=
  let payload := createPayload subject type (env.settings.ttl type) now (env.uuid.hex s.minted.length)
  ({ s with minted := s.minted ++ [payload] }, env.jwt.encode payload)

/-- `_decode`. -/
def decode (token : String) (expected : TokenType) (now : ℚ) : Except AuthError Payload :=
  (decodeToken env.jwt token expected now).mapError .authentication

theorem decode_of_ok {token : String} {expected : TokenType} {now : ℚ} {payload : Payload}
    (h : decodeToken env.jwt token expected now = .ok payload) : env.decode token expected now = .ok payload := by
  rw [decode, h]; rfl

theorem decode_of_error {token : String} {expected : TokenType} {now : ℚ} {detail : String}
    (h : decodeToken env.jwt token expected now = .error detail) :
    env.decode token expected now = .error (.authentication detail) := by
  rw [decode, h]; rfl

/-- `uuid.UUID(payload["sub"])` and the row with that key. -/
def subjectOf (s : AuthStateOver κ) (payload : Payload) : Except AuthError (Option User) :=
  match payload.sub.bind env.uuid.parse with
  | none => .error .valueError
  | some id => .ok (s.getById id)

/-- `_send_verification`. -/
def sendVerification (s : AuthStateOver κ) (user : User) (now : ℚ) (raises : Bool) :
    AuthStateOver κ × Except AuthError Unit :=
  let (s, token) := env.createToken s (env.uuid.str user.id) .verify now
  s.send ⟨user.email, "Verify your Smart Travel account",
    "Welcome! Confirm your email to activate your account. Verification token: " ++ token⟩ raises

/-- `register`. -/
def register (s : AuthStateOver κ) (email password : String) (fullName : Option String) (now : ℚ) (raises : Bool) :
    AuthStateOver κ × Except AuthError User :=
  if (s.getByEmail env.lower email).isSome then (s, .error (.conflict "an account with this email already exists"))
  else
    let user : User := ⟨s.nextUserId, env.lower email, env.hasher.hash s.salts password, fullName, .user, true, false⟩
    let s := { s with users := s.users ++ [user], salts := s.salts + 1, nextUserId := s.nextUserId + 1 }
    let (s, sent) := env.sendVerification s user now raises
    (s, sent.map fun () => user)

/-- `resend_verification`. -/
def resendVerification (s : AuthStateOver κ) (email : String) (now : ℚ) (raises : Bool) :
    AuthStateOver κ × Except AuthError Unit :=
  match s.getByEmail env.lower email with
  | none => (s, .ok ())
  | some user => if user.isVerified then (s, .ok ()) else env.sendVerification s user now raises

/-- `verify_email`. -/
def verifyEmail (s : AuthStateOver κ) (token : String) (now : ℚ) : AuthStateOver κ × Except AuthError Unit :=
  match env.decode token .verify now with
  | .error e => (s, .error e)
  | .ok payload =>
    match env.subjectOf s payload with
    | .error e => (s, .error e)
    | .ok none => (s, .error (.authentication "the account no longer exists"))
    | .ok (some user) =>
      (if user.isVerified then s else s.updateUser user.id fun u => { u with isVerified := true }, .ok ())

/-- `authenticate`. For an unknown address the password is verified against a dummy hash, to the same answer. -/
def authenticate (s : AuthStateOver κ) (email password : String) : AuthStateOver κ × Except AuthError User :=
  match s.getByEmail env.lower email with
  | none => (s, .error (.authentication "incorrect email or password"))
  | some user =>
    if !env.hasher.verify user.hashedPassword password then
      (s, .error (.authentication "incorrect email or password"))
    else if !user.isActive then (s, .error (.authentication "this account is disabled"))
    else if env.hasher.needsRehash user.hashedPassword then
      let hashed := env.hasher.hash s.salts password
      ({ s.updateUser user.id (fun u => { u with hashedPassword := hashed }) with salts := s.salts + 1 },
        .ok { user with hashedPassword := hashed })
    else (s, .ok user)

/-- `issue_tokens`. -/
def issueTokens (s : AuthStateOver κ) (user : User) (now : ℚ) : AuthStateOver κ × TokenPair :=
  let (s, access) := env.createToken s (env.uuid.str user.id) .access now
  let (s, refresh) := env.createToken s (env.uuid.str user.id) .refresh now
  (s, ⟨access, refresh⟩)

/-- `refresh`. -/
def refresh [CacheProtocol κ] (s : AuthStateOver κ) (refreshToken : String) (now : ℚ) :
    AuthStateOver κ × Except AuthError TokenPair :=
  match env.decode refreshToken .refresh now with
  | .error e => (s, .error e)
  | .ok payload =>
    let (cache, revoked) := isRevoked s.cache env.skew payload now
    let s := { s with cache := cache }
    if revoked then (s, .error (.authentication "this session has been revoked"))
    else
      match env.subjectOf s payload with
      | .error e => (s, .error e)
      | .ok none => (s, .error (.authentication "the account is no longer valid"))
      | .ok (some user) =>
        if !user.isActive then (s, .error (.authentication "the account is no longer valid"))
        else
          let (s, tokens) := env.issueTokens s user now
          (s, .ok tokens)

/-- `request_password_reset`. -/
def requestPasswordReset (s : AuthStateOver κ) (email : String) (now : ℚ) (raises : Bool) :
    AuthStateOver κ × Except AuthError Unit :=
  match s.getByEmail env.lower email with
  | none => (s, .ok ())
  | some user =>
    if !user.isActive then (s, .ok ())
    else
      let (s, token) := env.createToken s (env.uuid.str user.id) .reset now
      s.send ⟨user.email, "Reset your Smart Travel password", "Use this token to set a new password: " ++ token⟩ raises

/-- `reset_password`. -/
def resetPassword (s : AuthStateOver κ) (token newPassword : String) (now : ℚ) :
    AuthStateOver κ × Except AuthError Unit :=
  match env.decode token .reset now with
  | .error e => (s, .error e)
  | .ok payload =>
    match env.subjectOf s payload with
    | .error e => (s, .error e)
    | .ok none => (s, .error (.authentication "the account is no longer valid"))
    | .ok (some user) =>
      if !user.isActive then (s, .error (.authentication "the account is no longer valid"))
      else
        let hashed := env.hasher.hash s.salts newPassword
        ({ s.updateUser user.id (fun u => { u with hashedPassword := hashed }) with salts := s.salts + 1 }, .ok ())

/-- `TokenBlocklist.revoke` on the shared cache. -/
def revokePayload [CacheProtocol κ] (s : AuthStateOver κ) (payload : Payload) (now : ℚ) :
    AuthStateOver κ × Except AuthError Unit :=
  match revoke s.cache env.skew payload now with
  | .error e => (s, .error (.cache e))
  | .ok cache => ({ s with cache := cache }, .ok ())

/-- `logout`. -/
def logout [CacheProtocol κ] (s : AuthStateOver κ) (accessPayload : Payload) (refreshToken : Option String) (now : ℚ) :
    AuthStateOver κ × Except AuthError Unit :=
  match env.revokePayload s accessPayload now with
  | (s, .error e) => (s, .error e)
  | (s, .ok ()) =>
    match refreshToken.filter (fun t => t ≠ "") with
    | none => (s, .ok ())
    | some token =>
      match decodeToken env.jwt token .refresh now with
      | .error _ => (s, .ok ())
      | .ok refreshPayload => env.revokePayload s refreshPayload now

/-- The payloads that `logout` revokes: the caller's own, and the one of a refresh token that decodes. -/
def revokedBy (accessPayload : Payload) (refreshToken : Option String) (now : ℚ) : List Payload :=
  match refreshToken.filter (fun t => t ≠ "") with
  | none => [accessPayload]
  | some token =>
    match decodeToken env.jwt token .refresh now with
    | .error _ => [accessPayload]
    | .ok refreshPayload => [accessPayload, refreshPayload]

theorem revokePayload_spec (s : AuthState) (payload : Payload) (now : ℚ) :
    ∃ cache, revoke s.cache env.skew payload now = .ok cache ∧
      env.revokePayload s payload now = ({ s with cache := cache }, .ok ()) := by
  obtain ⟨cache, hcache⟩ := revoke_ok s.cache env.skew payload now
  exact ⟨cache, hcache, by simp only [revokePayload, hcache]⟩

variable {env}

/-- `logout` revokes these payloads one after the other. -/
theorem logout_eq (s : AuthState) (accessPayload : Payload) (refreshToken : Option String) (now : ℚ) :
    (env.logout s accessPayload refreshToken now).1 =
      (env.revokedBy accessPayload refreshToken now).foldl (fun s p => (env.revokePayload s p now).1) s := by
  obtain ⟨cache, -, hrevoke⟩ := revokePayload_spec env s accessPayload now
  simp only [logout, revokedBy, hrevoke]
  split
  · simp only [List.foldl_cons, List.foldl_nil, hrevoke]
  · split
    · simp only [List.foldl_cons, List.foldl_nil, hrevoke]
    · simp only [List.foldl_cons, List.foldl_nil, hrevoke]

/-- **Revoking several tokens** bars each of them and unbars none, if tokens with one `jti` expire together. -/
theorem barred_foldl_revoke {jti : String} {exp : ℤ} {now : ℚ} : ∀ {payloads : List Payload} {s : AuthState},
    (∀ p ∈ payloads, p.usableJti = some jti → p.exp = some exp) →
    (Barred env.skew jti exp s.cache now ∨ ∃ p ∈ payloads, p.usableJti = some jti) →
    Barred env.skew jti exp (payloads.foldl (fun s p => (env.revokePayload s p now).1) s).cache now
  | [], s, _, h => by simpa using h
  | p :: payloads, s, hsame, h => by
    obtain ⟨cache, hcache, hrevoke⟩ := revokePayload_spec env s p now
    rw [List.foldl_cons, hrevoke]
    refine barred_foldl_revoke (fun q hq => hsame q (List.mem_cons_of_mem _ hq)) ?_
    have hp := hsame p List.mem_cons_self
    rcases h with h | ⟨q, hq, hjti⟩
    · exact .inl (h.revoke hcache hp)
    · rcases List.mem_cons.mp hq with rfl | hq
      · exact .inl (barred_revoke hcache hjti (hp hjti))
      · exact .inr ⟨q, hq, hjti⟩

theorem minted_foldl_revoke {now : ℚ} : ∀ (payloads : List Payload) (s : AuthState),
    (payloads.foldl (fun s p => (env.revokePayload s p now).1) s).minted = s.minted
  | [], _ => rfl
  | p :: payloads, s => by
    obtain ⟨cache, -, hrevoke⟩ := revokePayload_spec env s p now
    rw [List.foldl_cons, hrevoke, minted_foldl_revoke payloads]

end Backend

/-! ## A sample backend -/

/-- PyJWT for the payloads of a list: the token of a payload is its `jti`. -/
def tableJwt (issued : List Payload) : Jwt where
  encode := fun payload => payload.jti.getD ""
  decode := fun now token =>
    match issued.find? (fun p => p.jti = some token) with
    | none => .error .other
    | some payload =>
      if payload.exp.any (fun exp : ℤ => decide (now < (exp : ℚ))) then .ok payload else .error .expiredSignature

/-- A payload that the table finds under its `jti` is accepted until it expires. -/
theorem tableJwt_accepts {issued : List Payload} {payload : Payload}
    (h : issued.find? (fun p => p.jti = some (payload.jti.getD "")) = some payload) :
    (tableJwt issued).AcceptsUntilExpiry payload := by
  intro exp hexp now
  simp only [tableJwt, h, hexp, Option.any_some, decide_eq_true_eq]

/-- The table decodes only what it holds. -/
theorem mem_of_tableJwt_decode {issued : List Payload} {now : ℚ} {token : String} {payload : Payload}
    (h : (tableJwt issued).decode now token = .ok payload) : payload ∈ issued := by
  simp only [tableJwt] at h
  split at h
  · cases h
  · rename_i p hfind
    split at h
    · cases h
      exact List.mem_of_find?_eq_some hfind
    · cases h

/-- The decimal digits of a number. -/
def decimalText (n : ℕ) : String := String.ofList (Nat.toDigits 10 n)

theorem decimalText_injective : Function.Injective decimalText := by
  intro a b h
  have hdigits : Nat.toDigits 10 a = Nat.toDigits 10 b := by
    simpa [decimalText, String.toList_ofList] using congrArg String.toList h
  rw [← Nat.ofDigitChars_ten_toDigits (n := a), hdigits, Nat.ofDigitChars_ten_toDigits]

theorem decimalText_ne_empty (n : ℕ) : decimalText n ≠ "" := by
  intro h
  apply Nat.toDigits_ne_nil (n := n) (b := 10)
  simpa [decimalText, String.toList_ofList] using congrArg String.toList h

/-- A backend that knows the given payloads, with ids written in decimal and hashes that show the password. -/
def sampleBackend (issued : List Payload) : Backend where
  jwt := tableJwt issued
  uuid := ⟨decimalText, decimalText, fun text => (Py.int text).map Int.toNat⟩
  hasher := ⟨fun _ plain => "hash:" ++ plain, fun hashed plain => hashed == "hash:" ++ plain, fun _ => false⟩
  settings := ⟨900, 1209600, 86400, 3600⟩
  lower := Py.asciiLower
  skew := 0

/-- An active user. -/
def sampleUser : User := ⟨7, "watcher@example.com", "hash:secret", none, .user, true, true⟩

end SmartTravel
