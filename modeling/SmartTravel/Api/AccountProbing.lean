import SmartTravel.Core.Errors
import SmartTravel.Services.AuthService

/-!
# Probing for accounts

`POST /auth/password-reset/request` and `POST /auth/resend-verification` answer with one text whether or not there is an
account to write to. A caller who sees the responses of both learns something about an address only if two user tables
that differ in this address alone are answered differently.

A mail is sent only if there is an account to write to, and the exception of a notifier that raises leaves the endpoint:
it is answered by 500. So the responses agree exactly when the notifier takes the mail, or when both tables lead to a
mail or neither does (`unprobeable_iff`).
-/

namespace SmartTravel

open Py

/-- The exceptions of the service as the handlers see them. -/
def AuthError.raised : AuthError → Raised
  | .authentication detail => .app ⟨.authentication, detail, Dict.empty⟩
  | .conflict detail => .app ⟨.conflict, detail, Dict.empty⟩
  | .valueError | .notifier | .cache _ => .other

/-- The response of an endpoint that returns a `MessageResponse`. -/
def messageResponse (requestId : Option String) (message : String) : Except AuthError Unit → Response
  | .ok () => jsonResponse 200 (.obj [("message", .str message)])
  | .error e => e.raised.response requestId

namespace Backend

variable (env : Backend)

/-- The message of `_send_verification`. -/
def verificationMail (s : AuthState) (user : User) (now : ℚ) : Mail :=
  ⟨user.email, "Verify your Smart Travel account",
    "Welcome! Confirm your email to activate your account. Verification token: " ++
      (env.createToken s (env.uuid.str user.id) .verify now).2⟩

/-- The message of `request_password_reset`. -/
def resetMail (s : AuthState) (user : User) (now : ℚ) : Mail :=
  ⟨user.email, "Reset your Smart Travel password",
    "Use this token to set a new password: " ++ (env.createToken s (env.uuid.str user.id) .reset now).2⟩

theorem sendVerification_eq (s : AuthState) (user : User) (now : ℚ) (raises : Bool) :
    env.sendVerification s user now raises =
      (env.createToken s (env.uuid.str user.id) .verify now).1.send (env.verificationMail s user now) raises := rfl

/-- Who is written to by `resend_verification`. -/
def unverifiedAccount (s : AuthState) (email : String) : Option User :=
  (s.getByEmail env.lower email).filter (!·.isVerified)

/-- Who is written to by `request_password_reset`. -/
def activeAccount (s : AuthState) (email : String) : Option User := (s.getByEmail env.lower email).filter (·.isActive)

section
variable (notifier : Mail → Bool) (requestId : Option String) (s : AuthState) (email : String) (now : ℚ)

/-- `POST /auth/resend-verification` with a notifier that raises on some messages. -/
def postResendVerification : Response :=
  let raises := (s.getByEmail env.lower email).any fun user => notifier (env.verificationMail s user now)
  messageResponse requestId "if the account exists, a verification email was sent"
    (transaction (fun s => env.resendVerification s email now raises) s).2

/-- `POST /auth/password-reset/request`. -/
def postRequestPasswordReset : Response :=
  let raises := (s.getByEmail env.lower email).any fun user => notifier (env.resetMail s user now)
  messageResponse requestId "if the account exists, a reset email was sent"
    (transaction (fun s => env.requestPasswordReset s email now raises) s).2

/-- An endpoint that hands a message to the notifier, if there is one: 500 if it raises, else the text. -/
def mailResponse (message : String) (mail : Option Mail) : Response :=
  if mail.any notifier then Raised.other.response requestId
  else jsonResponse 200 (.obj [("message", .str message)])

/-- What the session of a mail leads to. -/
theorem messageResponse_transaction_send (message : String) {mail : Mail} (s₁ : AuthState)
    {operation : AuthState → AuthState × Except AuthError Unit} (h : operation s = s₁.send mail (notifier mail)) :
    messageResponse requestId message (transaction operation s).2 =
      mailResponse notifier requestId message (some mail) := by
  rw [transaction, h]
  unfold AuthStateOver.send mailResponse
  cases hraises : notifier mail with
  | true => simp only [Option.any_some, hraises, if_true]; rfl
  | false => simp only [Option.any_some, hraises, Bool.false_eq_true, if_false]; rfl

theorem messageResponse_transaction_ok (message : String) {operation : AuthState → AuthState × Except AuthError Unit}
    (h : operation s = (s, .ok ())) :
    messageResponse requestId message (transaction operation s).2 = mailResponse notifier requestId message none := by
  rw [transaction, h]; rfl

theorem postResendVerification_eq : env.postResendVerification notifier requestId s email now =
    mailResponse notifier requestId "if the account exists, a verification email was sent"
      ((env.unverifiedAccount s email).map fun user => env.verificationMail s user now) := by
  unfold postResendVerification unverifiedAccount
  cases hfound : s.getByEmail env.lower email with
  | none => exact messageResponse_transaction_ok _ _ _ _ (by simp only [resendVerification, hfound])
  | some user =>
    cases hverified : user.isVerified with
    | true =>
      simp only [Option.filter, hverified, Bool.not_true, Bool.false_eq_true, if_false, Option.map_none]
      exact messageResponse_transaction_ok _ _ _ _ (by simp only [resendVerification, hfound, hverified, if_true])
    | false =>
      simp only [Option.filter, hverified, Bool.not_false, if_true, Option.map_some, Option.any_some]
      refine messageResponse_transaction_send _ _ _ _ (env.createToken s (env.uuid.str user.id) .verify now).1 ?_
      simp only [resendVerification, hfound, hverified, Bool.false_eq_true, if_false, sendVerification_eq]

theorem postRequestPasswordReset_eq : env.postRequestPasswordReset notifier requestId s email now =
    mailResponse notifier requestId "if the account exists, a reset email was sent"
      ((env.activeAccount s email).map fun user => env.resetMail s user now) := by
  unfold postRequestPasswordReset activeAccount
  cases hfound : s.getByEmail env.lower email with
  | none => exact messageResponse_transaction_ok _ _ _ _ (by simp only [requestPasswordReset, hfound])
  | some user =>
    cases hactive : user.isActive with
    | false =>
      simp only [Option.filter, hactive, Bool.false_eq_true, if_false, Option.map_none]
      exact messageResponse_transaction_ok _ _ _ _
        (by simp only [requestPasswordReset, hfound, hactive, Bool.not_false, if_true])
    | true =>
      simp only [Option.filter, hactive, if_true, Option.map_some, Option.any_some]
      refine messageResponse_transaction_send _ _ _ _ (env.createToken s (env.uuid.str user.id) .reset now).1 ?_
      simp only [requestPasswordReset, hfound, hactive, Bool.not_true, Bool.false_eq_true, if_false]
      rfl

end

end Backend

/-! ## Two tables -/

/-- The tables differ at most in whether the address is registered, verified and active. -/
structure DifferAt (address : String) (users₁ users₂ : List User) : Prop where
  others : users₁.filter (fun u => u.email ≠ address) = users₂.filter (fun u => u.email ≠ address)
  account : ∀ u₁ ∈ users₁, ∀ u₂ ∈ users₂, u₁.email = address → u₂.email = address →
    u₂ = { u₁ with isVerified := u₂.isVerified, isActive := u₂.isActive }

/-- Status and body are all a caller sees. -/
def Response.Alike (r₁ r₂ : Response) : Prop := r₁.status = r₂.status ∧ r₁.body = r₂.body

section
variable (env : Backend) (notifier : Mail → Bool) (requestId : Option String) (s : AuthState) (email : String) (now : ℚ)
  (users₁ users₂ : List User)

/-- **The two tables are answered alike** by both endpoints. -/
def Unprobeable : Prop :=
  (env.postRequestPasswordReset notifier requestId { s with users := users₁ } email now).Alike
      (env.postRequestPasswordReset notifier requestId { s with users := users₂ } email now) ∧
    (env.postResendVerification notifier requestId { s with users := users₁ } email now).Alike
      (env.postResendVerification notifier requestId { s with users := users₂ } email now)

/-- The notifier takes the message to the account, or there is one to write to in both tables or in neither. -/
def Harmless (mail : User → Mail) (account₁ account₂ : Option User) : Prop :=
  (∀ user, user ∈ account₁ ∨ user ∈ account₂ → notifier (mail user) = false) ∨ (account₁.isSome ↔ account₂.isSome)

variable {notifier}

theorem mailResponse_alike_iff (message : String) (mail₁ mail₂ : Option Mail) :
    (Backend.mailResponse notifier requestId message mail₁).Alike
        (Backend.mailResponse notifier requestId message mail₂) ↔ mail₁.any notifier = mail₂.any notifier := by
  unfold Backend.mailResponse
  cases mail₁.any notifier <;> cases mail₂.any notifier
  · simp [Response.Alike]
  · simp [Response.Alike, Raised.response_status, jsonResponse]
  · simp [Response.Alike, Raised.response_status, jsonResponse]
  · simp [Response.Alike]

/-- Where both tables lead to one message, this is all there is to compare. -/
theorem any_map_eq_iff {mail : User → Mail} {account₁ account₂ : Option User}
    (h : ∀ u₁ ∈ account₁, ∀ u₂ ∈ account₂, mail u₁ = mail u₂) :
    (account₁.map mail).any notifier = (account₂.map mail).any notifier ↔ Harmless notifier mail account₁ account₂ := by
  unfold Harmless
  cases account₁ with
  | none =>
    cases account₂ with
    | none => simp
    | some u₂ =>
      show false = notifier (mail u₂) ↔ _
      rw [eq_comm]
      simp
  | some u₁ =>
    cases account₂ with
    | none => simp
    | some u₂ => simp [h u₁ rfl u₂ rfl]

variable {env s email users₁ users₂}

/-- The accounts that the tables have for the address get the same messages. -/
theorem DifferAt.same_mail (h : DifferAt (env.lower email) users₁ users₂) (mail : String → ℕ → Mail)
    (p : User → Bool) : ∀ u₁ ∈ (AuthStateOver.getByEmail { s with users := users₁ } env.lower email).filter p,
      ∀ u₂ ∈ (AuthStateOver.getByEmail { s with users := users₂ } env.lower email).filter p,
        mail u₁.email u₁.id = mail u₂.email u₂.id := by
  intro u₁ hu₁ u₂ hu₂
  obtain ⟨hmem₁, haddress₁⟩ := AuthStateOver.getByEmail_eq_some (Option.filter_eq_some_iff.mp hu₁).1
  obtain ⟨hmem₂, haddress₂⟩ := AuthStateOver.getByEmail_eq_some (Option.filter_eq_some_iff.mp hu₂).1
  have hsame := h.account u₁ hmem₁ u₂ hmem₂ haddress₁ haddress₂
  rw [hsame]

end

/-- **Probing is impossible exactly where the mail is harmless.** Two tables that differ at most in whether an address
is registered, verified and active are answered alike by both endpoints if and only if, for the reset mail to an active
account and for the verification mail to an unverified one, the notifier does not raise or the two tables agree on
whether there is such an account. -/
theorem unprobeable_iff (env : Backend) (notifier : Mail → Bool) (requestId : Option String) (s : AuthState)
    (email : String) (now : ℚ) (users₁ users₂ : List User) (h : DifferAt (env.lower email) users₁ users₂) :
    Unprobeable env notifier requestId s email now users₁ users₂ ↔
      Harmless notifier (fun user => env.resetMail s user now)
        (env.activeAccount { s with users := users₁ } email) (env.activeAccount { s with users := users₂ } email) ∧
      Harmless notifier (fun user => env.verificationMail s user now)
        (env.unverifiedAccount { s with users := users₁ } email)
        (env.unverifiedAccount { s with users := users₂ } email) := by
  -- The messages depend on the table through the address and the key of the account only.
  have hreset := h.same_mail (s := s) (fun address id => env.resetMail s ⟨id, address, "", none, .user, true, true⟩ now)
    (·.isActive)
  have hverify := h.same_mail (s := s)
    (fun address id => env.verificationMail s ⟨id, address, "", none, .user, true, true⟩ now) (!·.isVerified)
  rw [Unprobeable, Backend.postRequestPasswordReset_eq, Backend.postRequestPasswordReset_eq,
    Backend.postResendVerification_eq, Backend.postResendVerification_eq, mailResponse_alike_iff,
    mailResponse_alike_iff]
  exact and_congr (any_map_eq_iff hreset) (any_map_eq_iff hverify)

/-- With a notifier that takes every message, an address that is registered and one that is not are answered alike. -/
theorem unregistered_unprobeable :
    DifferAt "watcher@example.com" [sampleUser] [] ∧
      Unprobeable (sampleBackend []) (fun _ => false) none ⟨[], .inMemory ⟨Dict.empty⟩, [], [], 0, 8⟩
        "Watcher@example.com" 0 [sampleUser] [] := by
  have hdiffer : DifferAt "watcher@example.com" [sampleUser] [] :=
    ⟨by decide +kernel, fun u₁ _ u₂ hu₂ => absurd hu₂ List.not_mem_nil⟩
  have haddress : (sampleBackend []).lower "Watcher@example.com" = "watcher@example.com" := by decide +kernel
  exact ⟨hdiffer, (unprobeable_iff _ _ _ _ _ _ _ _ (haddress ▸ hdiffer)).mpr
    ⟨.inl fun _ _ => rfl, .inl fun _ _ => rfl⟩⟩

/-- With a notifier that raises, a reset for a registered address is answered by 500 and for an unknown one by 200. -/
theorem raising_notifier_reveals_account :
    let s : AuthState := ⟨[], .inMemory ⟨Dict.empty⟩, [], [], 0, 8⟩
    DifferAt "watcher@example.com" [sampleUser] [] ∧
      ((sampleBackend []).postRequestPasswordReset (fun _ => true) none { s with users := [sampleUser] }
        "watcher@example.com" 0).status = 500 ∧
      ((sampleBackend []).postRequestPasswordReset (fun _ => true) none { s with users := [] }
        "watcher@example.com" 0).status = 200 ∧
      ¬ Unprobeable (sampleBackend []) (fun _ => true) none s "watcher@example.com" 0 [sampleUser] [] := by
  intro s
  have hregistered : ((sampleBackend []).postRequestPasswordReset (fun _ => true) none { s with users := [sampleUser] }
      "watcher@example.com" 0).status = 500 := by decide +kernel
  have hunknown : ((sampleBackend []).postRequestPasswordReset (fun _ => true) none { s with users := [] }
      "watcher@example.com" 0).status = 200 := by decide +kernel
  refine ⟨⟨by decide +kernel, fun u₁ _ u₂ hu₂ => absurd hu₂ List.not_mem_nil⟩, hregistered, hunknown, fun h => ?_⟩
  have hstatus := h.1.1
  rw [hregistered, hunknown] at hstatus
  cases hstatus

end SmartTravel
