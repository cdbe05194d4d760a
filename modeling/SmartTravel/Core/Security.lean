import Mathlib.Data.Rat.Floor

/-!
# Tokens

`_create_token` mints a payload with whole-second times and a fresh `jti`; `decode_token` checks what PyJWT accepts for
the expected type and a subject. PyJWT itself and the random source of `uuid` are parameters of the model: `Jwt` encodes
a payload and decodes a text at a time, `Uuid` gives the n-th random id and the text of a primary key. Wall-clock times
are seconds since the epoch, so `int` rounds them down.
-/

namespace SmartTravel

/-- `TokenType`. -/
inductive TokenType where
  | access
  | refresh
  | verify
  | reset
deriving DecidableEq

/-- The text of a token type. -/
def TokenType.text : TokenType → String
  | .access => "access"
  | .refresh => "refresh"
  | .verify => "verify"
  | .reset => "reset"

/-- The claims of a token that the code reads; a decoded token may lack any of them. -/
structure Payload where
  sub : Option String
  type : Option String
  iat : Option ℤ
  exp : Option ℤ
  jti : Option String
deriving DecidableEq

/-- The exceptions of `jwt.decode`. -/
inductive JwtError where
  | expiredSignature
  | other
deriving DecidableEq

/-- PyJWT under one key. -/
structure Jwt where
  encode : Payload → String
  decode : ℚ → String → Except JwtError Payload

/-- What is assumed of PyJWT for a payload: its token is accepted exactly while it has not expired. -/
def Jwt.AcceptsUntilExpiry (jwt : Jwt) (payload : Payload) : Prop :=
  ∀ exp : ℤ, payload.exp = some exp → ∀ now : ℚ,
    jwt.decode now (jwt.encode payload) = if now < exp then .ok payload else .error .expiredSignature

/-- The module `uuid`: the n-th `uuid4().hex`, the text of a primary key, and `uuid.UUID(text)`. -/
structure Uuid where
  hex : ℕ → String
  str : ℕ → String
  parse : String → Option ℕ

/-- The lifetimes of `Settings`, in seconds. -/
structure Settings where
  accessTokenTtl : ℤ
  refreshTokenTtl : ℤ
  verifyTokenTtl : ℤ
  resetTokenTtl : ℤ
deriving DecidableEq

/-- The lifetime of each kind of token, as `create_access_token` and its siblings pass it. -/
def Settings.ttl (settings : Settings) : TokenType → ℤ
  | .access => settings.accessTokenTtl
  | .refresh => settings.refreshTokenTtl
  | .verify => settings.verifyTokenTtl
  | .reset => settings.resetTokenTtl

/-- The payload of `_create_token`. -/
def createPayload (subject : String) (type : TokenType) (ttl : ℤ) (now : ℚ) (jti : String) : Payload where
  sub := some subject
  type := some type.text
  iat := some ⌊now⌋
  exp := some ⌊now + ttl⌋
  jti := some jti

/-- `decode_token` at a time, or the text of its `TokenError`. -/
def decodeToken (jwt : Jwt) (token : String) (expected : TokenType) (now : ℚ) : Except String Payload :=
  match jwt.decode now token with
  | .error .expiredSignature => .error "token has expired"
  | .error .other => .error "token is invalid"
  | .ok payload =>
    if payload.type ≠ some expected.text then .error ("expected a " ++ expected.text ++ " token")
    else if payload.sub = none then .error "token is missing a subject"
    else .ok payload

/-- A decoded token is what PyJWT accepted, of the expected type and with a subject. -/
theorem decodeToken_ok {jwt : Jwt} {token : String} {expected : TokenType} {now : ℚ} {payload : Payload}
    (h : decodeToken jwt token expected now = .ok payload) :
    jwt.decode now token = .ok payload ∧ payload.type = some expected.text ∧ payload.sub.isSome := by
  unfold decodeToken at h
  split at h
  · cases h
  · cases h
  · rename_i p hdecode
    split at h
    · cases h
    · rename_i htype
      split at h
      · cases h
      · rename_i hsub
        cases h
        exact ⟨hdecode, not_not.mp htype, Option.isSome_iff_ne_none.mpr hsub⟩

/-- The token of a payload of the expected type decodes until it expires. -/
theorem decodeToken_encode {jwt : Jwt} {payload : Payload} (hjwt : jwt.AcceptsUntilExpiry payload) {exp : ℤ}
    (hexp : payload.exp = some exp) {expected : TokenType} (htype : payload.type = some expected.text)
    (hsub : payload.sub.isSome) (now : ℚ) :
    decodeToken jwt (jwt.encode payload) expected now =
      if now < exp then .ok payload else .error "token has expired" := by
  have hne : payload.sub ≠ none := Option.isSome_iff_ne_none.mp hsub
  unfold decodeToken
  rw [hjwt exp hexp now]
  by_cases hlt : now < exp
  · simp [hlt, htype, hne]
  · simp [hlt]

end SmartTravel
