import SmartTravel.Api.Service

/-!
# The audit log

Who registered, logged in and logged out. The table is described by the answers alone: `trail` reads a row off every
successful answer of these three endpoints, and `cleanup_audit_log` removes the rows that are older than its cutoff,
whenever it runs later. The table is exactly that (`audit_log_is_exact`): an actor is found by an address that keeps its
row for ever, or by the subject of the token that was presented.

Every session is accounted for (`sessions_are_audited`): an access or refresh token is only minted at a login or from a
refresh token, so behind each there is a login of its subject among the calls, and the row of this call is in the table
until a later cleanup removes it.
-/

namespace SmartTravel

open Py Runs

section
variable (env : Backend)

/-- The row that the answer to a call stands for, when these are the users. -/
def auditEntry (users : List User) (e : ServiceCall × ServiceAnswer) : Option AuditLog :=
  match e.1.request, e.2 with
  | .auth (.register _ _ _ _) ip, .auth (.ok (.user user)) =>
    some ⟨some user.id, "user.register", "", ip, e.1.now⟩
  | .auth (.login email _) ip, .auth (.ok _) =>
    some ⟨(users.find? fun u => u.email = env.lower email).map (·.id), "user.login", "", ip, e.1.now⟩
  | .auth (.logout credentials _) ip, .auth (.ok _) =>
    some ⟨credentials.bind fun token => target env token e.1.now, "user.logout", "", ip, e.1.now⟩
  | _, _ => none

/-- The cutoff of a cleanup that does not overflow. -/
def ServiceCall.cutoff? (r : ServiceCall) : Option ℚ :=
  match r.request with
  | .cleanupAuditLog retentionDays =>
    if ServiceStateOver.firstMoment ≤ r.now - retentionDays * 86400 ∧
        r.now - retentionDays * 86400 < ServiceStateOver.endOfTime
    then some (r.now - retentionDays * 86400) else none
  | _ => none

/-- No later cleanup removes the row. -/
def survives (later : List ServiceCall) (row : AuditLog) : Bool :=
  later.all fun r => r.cutoff?.all fun cutoff => ¬ row.createdAt < cutoff

/-- The rows that a run leaves in the audit log. -/
def trail (users : List User) : List (ServiceCall × ServiceAnswer) → List AuditLog
  | [] => []
  | e :: es => ((auditEntry env users e).filter (survives (es.map (·.1)))).toList ++ trail users es

/-! ## Addresses keep their rows -/

/-- In these users every address that the state knows has the key it has there. -/
def Knows (users : List User) (s : AuthState) : Prop :=
  ∀ address user, s.users.find? (fun u => u.email = address) = some user →
    (users.find? fun u => u.email = address).map (·.id) = some user.id

theorem find?_email_eq (users : List User) (address : String) :
    (users.find? fun u => u.email = address).map (·.id) =
      ((users.map fun u => (u.id, u.email)).find? fun e => e.2 = address).map (·.1) := by
  rw [List.find?_map, Option.map_map]
  rfl

/-- **A run keeps every address with its key.** -/
theorem knows_run (rs : List Timed) (s : AuthState) : Knows ((authMachine env).run s rs).users s := by
  intro address user hfound
  obtain ⟨added, hmap, -⟩ := map_users_run env (fun u => (u.id, u.email)) (fun _ _ _ => rfl) rs s
  have hid : (s.users.find? fun u => u.email = address).map (·.id) = some user.id := by rw [hfound]; rfl
  rw [find?_email_eq] at hid ⊢
  obtain ⟨e, he, hkey⟩ := Option.map_eq_some_iff.mp hid
  rw [hmap, List.find?_append, he]
  exact congrArg some hkey

/-! ## Successful answers -/

variable {env}

theorem login_ok {s : AuthState} {email password : String} {now : ℚ} {reply : AuthReply}
    (h : (env.handle s ⟨now, .login email password⟩).2 = .ok reply) :
    ∃ user row, (env.authenticate s email password).2 = .ok user ∧ s.getByEmail env.lower email = some row ∧
      row.id = user.id := by
  simp only [Backend.handle, transaction, Backend.login] at h
  cases hauth : env.authenticate s email password with
  | mk s' answer =>
    rw [hauth] at h
    cases answer with
    | error e => cases h
    | ok user =>
      refine ⟨user, ?_⟩
      have hanswer := congrArg Prod.snd hauth
      simp only [Backend.authenticate] at hanswer
      cases hrow : s.getByEmail env.lower email with
      | none => rw [hrow] at hanswer; cases hanswer
      | some row =>
        rw [hrow] at hanswer
        refine ⟨row, rfl, rfl, ?_⟩
        simp only at hanswer
        split at hanswer
        · cases hanswer
        · split at hanswer
          · cases hanswer
          · split at hanswer <;> cases hanswer <;> rfl

theorem logout_ok_subject {s : AuthState} {credentials refreshToken : Option String} {now : ℚ} {reply : AuthReply}
    (h : (env.handle s ⟨now, .logout credentials refreshToken⟩).2 = .ok reply) :
    ∃ payload id token, (env.getAccessPayload s credentials now).2 = .ok payload ∧ credentials = some token ∧
      payload.sub.bind env.uuid.parse = some id ∧ target env token now = some id := by
  have hsession := transaction_eq_self (fun s => env.logoutEndpoint s credentials refreshToken now)
    (keeps_logoutEndpoint env now s credentials refreshToken).users
  simp only [Backend.handle, hsession] at h
  simp only [Backend.logoutEndpoint] at h
  cases hacc : env.getAccessPayload s credentials now with
  | mk s' answer =>
    rw [hacc] at h
    cases answer with
    | error e => cases h
    | ok payload =>
      have haccess : (env.getAccessPayload s credentials now).2 = .ok payload := congrArg Prod.snd hacc
      obtain ⟨token, htoken, hdecode⟩ := getAccessPayload_ok haccess
      simp only at h
      split at h
      · cases h
      · cases hsub : payload.sub.bind env.uuid.parse with
        | none => rw [hsub] at h; cases h
        | some id => exact ⟨payload, id, token, rfl, htoken, hsub, by rw [target_of_decode hdecode, hsub]⟩

/-- The row of a request is the one that its answer stands for. -/
theorem auditRow_eq {users : List User} {s : AuthState} (hknows : Knows users s) (now : ℚ) (request : AuthRequest)
    (ip : Option String) :
    env.auditRow s ⟨now, request⟩ ip (env.handle s ⟨now, request⟩).2 =
      auditEntry env users (⟨now, .auth request ip⟩, .auth (env.handle s ⟨now, request⟩).2) := by
  cases hreply : (env.handle s ⟨now, request⟩).2 with
  | error e => cases request <;> rfl
  | ok reply =>
    cases request with
    | register => cases reply <;> rfl
    | login email password =>
      obtain ⟨user, row, hauth, hrow, hid⟩ := login_ok hreply
      have hfound := hknows (env.lower email) row hrow
      simp only [Backend.auditRow, auditEntry, hauth, hfound, hid, Except.toOption, Option.map_some]
    | logout credentials refreshToken =>
      obtain ⟨payload, id, token, haccess, rfl, hsub, htarget⟩ := logout_ok_subject hreply
      simp only [Backend.auditRow, auditEntry, haccess, hsub, htarget, Except.toOption, Option.bind_some,
        Option.map_some]
    | _ => rfl

end

/-! ## The table -/

section
variable (env : ServiceEnv)

theorem survives_singleton (r : ServiceCall) (row : AuditLog) :
    survives [r] row = r.cutoff?.all fun cutoff => ¬ row.createdAt < cutoff := by
  simp only [survives, List.all_cons, List.all_nil, Bool.and_true]

/-- A call that is no cleanup removes nothing. -/
theorem filter_survives {r : ServiceCall} (hr : r.cutoff? = none) (rows : List AuditLog) :
    rows.filter (survives [r]) = rows := by
  refine List.filter_eq_self.mpr fun row _ => ?_
  rw [survives_singleton, hr]
  rfl

/-- The audit log after a cleanup. -/
theorem audit_cleanup (s : ServiceState) (retentionDays : ℤ) (now : ℚ) :
    (s.cleanupAuditLog retentionDays now).1.audit =
      s.audit.filter (survives [⟨now, .cleanupAuditLog retentionDays⟩]) := by
  simp only [ServiceStateOver.cleanupAuditLog]
  split
  · rename_i hvalid
    refine List.filter_congr fun row _ => ?_
    simp only [survives_singleton, ServiceCall.cutoff?, if_pos hvalid, Option.all_some]
  · rename_i hinvalid
    exact (filter_survives (by simp only [ServiceCall.cutoff?, if_neg hinvalid]) s.audit).symm

/-- **One call** adds the row of its answer and removes what its cleanup removes. -/
theorem audit_handle {users : List User} {s : ServiceState} (hknows : Knows users s.auth) (r : ServiceCall) :
    (s.handle env r).1.audit =
      s.audit.filter (survives [r]) ++ (auditEntry env.auth users (r, (s.handle env r).2)).toList := by
  obtain ⟨now, request⟩ := r
  cases request with
  | auth request ip =>
    rw [filter_survives rfl]
    simp only [ServiceStateOver.handle]
    rw [auditRow_eq hknows]
  | searchFlights credentials flights request =>
    rw [filter_survives rfl]
    simp only [ServiceStateOver.handle]
    split <;> exact (List.append_nil _).symm
  | alert credentials action =>
    rw [filter_survives rfl]
    simp only [ServiceStateOver.handle, ServiceStateOver.alert]
    split <;> exact (List.append_nil _).symm
  | metrics credentials order =>
    rw [filter_survives rfl]
    simp only [ServiceStateOver.handle, ServiceStateOver.adminMetrics]
    split <;> exact (List.append_nil _).symm
  | monitorPrices run =>
    rw [filter_survives rfl]
    simp only [ServiceStateOver.handle, ServiceStateOver.monitorPrices]
    split <;> exact (List.append_nil _).symm
  | cleanupAuditLog retentionDays => exact (audit_cleanup s retentionDays now).trans (List.append_nil _).symm

theorem survives_cons (r : ServiceCall) (later : List ServiceCall) (row : AuditLog) :
    survives (r :: later) row = (survives [r] row && survives later row) := by
  simp only [survives, List.all_cons, List.all_nil, Bool.and_true]

theorem filter_toList {α : Type} (p : α → Bool) (o : Option α) : o.toList.filter p = (o.filter p).toList := by
  cases o with
  | none => rfl
  | some a => cases h : p a <;> simp [Option.filter, h]

theorem audit_run : ∀ (rs : List ServiceCall) (init : ServiceState),
    ((serviceMachine env).run init rs).audit = init.audit.filter (survives rs) ++
      trail env.auth ((serviceMachine env).run init rs).auth.users ((serviceMachine env).log init rs)
  | [], init => by
    have hall : init.audit.filter (survives []) = init.audit := List.filter_eq_self.mpr fun _ _ => rfl
    rw [hall]
    exact (List.append_nil _).symm
  | r :: rs, init => by
    have hknows : Knows ((serviceMachine env).run init (r :: rs)).auth.users init.auth := by
      rw [auth_run]
      exact knows_run env.auth _ init.auth
    have hstep : ((serviceMachine env).step init r).1.audit = _ := audit_handle env hknows r
    have ih := audit_run rs ((serviceMachine env).step init r).1
    have hlater : ((serviceMachine env).log ((serviceMachine env).step init r).1 rs).map (·.1) = rs :=
      Machine.map_fst_log _ _ _
    rw [Machine.run_cons] at hknows hstep ⊢
    rw [ih, hstep, List.filter_append, List.filter_filter, filter_toList, Machine.log, trail, hlater,
      List.append_assoc]
    congr 1
    refine List.filter_congr fun row _ => ?_
    rw [survives_cons r rs, Bool.and_comm]

/-- **The audit log is exact.** After every run it holds the rows it held before and one row, in order, for each
registration, login and logout that was answered with success, with its actor, address and time, except for those that a
later cleanup removed; it holds nothing else. -/
theorem audit_log_is_exact (init : ServiceState) (rs : List ServiceCall) :
    ((serviceMachine env).run init rs).audit = init.audit.filter (survives rs) ++
      trail env.auth ((serviceMachine env).run init rs).auth.users ((serviceMachine env).log init rs) :=
  audit_run env rs init

end

/-! ## Where session tokens come from -/

/-- The token is an access or a refresh token. -/
def Payload.IsSession (payload : Payload) : Prop :=
  payload.type = some TokenType.access.text ∨ payload.type = some TokenType.refresh.text

theorem not_isSession {p : Payload} {type : TokenType} (htype : p.type = some type.text)
    (h : type = .verify ∨ type = .reset) : ¬ p.IsSession := by
  unfold Payload.IsSession
  rw [htype]
  rcases h with rfl | rfl <;> decide

section
variable (env : Backend)

/-- The request minted the payload for the user `id`: a login of that user, or a refresh token for that user. -/
inductive SessionOrigin (s : AuthState) (r : Timed) (id : ℕ) : Prop
  | login {email password reply row} (hr : r.request = .login email password) (hok : (env.handle s r).2 = .ok reply)
      (hrow : s.getByEmail env.lower email = some row) (hid : row.id = id)
  | refresh {token payload} (hr : r.request = .refresh token)
      (hdecode : decodeToken env.jwt token .refresh r.now = .ok payload)
      (hsub : payload.sub.bind env.uuid.parse = some id)

variable {env} {s : AuthState} {now : ℚ}

/-- What a token request mints is no session token, if it is of another type. -/
theorem mem_createToken {subject : String} {type : TokenType} {p : Payload}
    (hp : p ∈ (env.createToken s subject type now).1.minted) :
    p ∈ s.minted ∨ p.type = some type.text ∧ p.iat = some ⌊now⌋ ∧ p.sub = some subject := by
  rcases List.mem_append.mp hp with hp | hp
  · exact .inl hp
  · rw [List.mem_singleton.mp hp]
    exact .inr ⟨rfl, rfl, rfl⟩

theorem minted_send (mail : Mail) (raises : Bool) : (s.send mail raises).1.minted = s.minted := by
  cases raises <;> rfl

theorem minted_getAccessPayload (credentials : Option String) :
    (env.getAccessPayload s credentials now).1.minted = s.minted := by
  simp only [Backend.getAccessPayload]
  repeat' split
  all_goals rfl

theorem minted_logoutEndpoint (credentials refreshToken : Option String) :
    (env.logoutEndpoint s credentials refreshToken now).1.minted = s.minted := by
  have haccess : (env.getAccessPayload s credentials now).1.minted = s.minted := minted_getAccessPayload credentials
  cases hacc : env.getAccessPayload s credentials now with
  | mk s' answer =>
    rw [hacc] at haccess
    cases answer with
    | error e => simpa only [Backend.logoutEndpoint, hacc] using haccess
    | ok access => rw [logoutEndpoint_state hacc, Backend.minted_foldl_revoke, haccess]

/-- A verification mail mints no session token. -/
theorem session_sendVerification {user : User} {raises : Bool} {p : Payload} (hsession : p.IsSession)
    (hp : p ∈ (env.sendVerification s user now raises).1.minted) : p ∈ s.minted := by
  simp only [Backend.sendVerification, minted_send] at hp
  rcases mem_createToken hp with hp | ⟨htype, -, -⟩
  · exact hp
  · exact absurd hsession (not_isSession htype (.inl rfl))

/-- The two tokens of `issue_tokens`. -/
theorem mem_issueTokens {user : User} {p : Payload} (hp : p ∈ (env.issueTokens s user now).1.minted) :
    p ∈ s.minted ∨ p.iat = some ⌊now⌋ ∧ p.sub = some (env.uuid.str user.id) := by
  rcases mem_createToken (s := (env.createToken s (env.uuid.str user.id) .access now).1) hp with hp | ⟨-, h⟩
  · exact (mem_createToken hp).imp_right fun h => h.2
  · exact .inr h

theorem minted_transaction {α : Type} (operation : AuthState → AuthState × Except AuthError α) (s : AuthState) :
    (transaction operation s).1.minted = (operation s).1.minted := (transaction_eq operation s).2

theorem session_login {email password : String} {p : Payload}
    (hp : p ∈ (env.handle s ⟨now, .login email password⟩).1.minted) :
    p ∈ s.minted ∨ p.iat = some ⌊now⌋ ∧
      ∃ id, p.sub = some (env.uuid.str id) ∧ SessionOrigin env s ⟨now, .login email password⟩ id := by
  have hminted : (env.authenticate s email password).1.minted = s.minted := by
    simp only [Backend.authenticate]
    repeat' split
    all_goals rfl
  cases hauth : env.authenticate s email password with
  | mk s' answer =>
    rw [hauth] at hminted
    cases answer with
    | error e =>
      simp only [Backend.handle, minted_transaction, Backend.login, hauth] at hp
      exact .inl (hminted ▸ hp)
    | ok user =>
      obtain ⟨reply, hreply⟩ : ∃ reply, (env.handle s ⟨now, .login email password⟩).2 = .ok reply := by
        simp only [Backend.handle, transaction, Backend.login, hauth]
        exact ⟨_, rfl⟩
      obtain ⟨user', row, hauth', hrow, hid⟩ := login_ok hreply
      rw [hauth] at hauth'
      cases hauth'
      simp only [Backend.handle, minted_transaction, Backend.login, hauth] at hp
      rcases mem_issueTokens hp with hp | ⟨hiat, hsub⟩
      · exact .inl (hminted ▸ hp)
      · exact .inr ⟨hiat, user.id, hsub, .login rfl hreply hrow hid⟩

theorem session_refresh {token : String} {p : Payload} (hp : p ∈ (env.handle s ⟨now, .refresh token⟩).1.minted) :
    p ∈ s.minted ∨ p.iat = some ⌊now⌋ ∧
      ∃ id, p.sub = some (env.uuid.str id) ∧ SessionOrigin env s ⟨now, .refresh token⟩ id := by
  simp only [Backend.handle, minted_transaction, Backend.refresh] at hp
  cases hdecode : env.decode token .refresh now with
  | error e =>
    rw [hdecode] at hp
    exact .inl hp
  | ok payload =>
    rw [hdecode] at hp
    simp only at hp
    split at hp
    · exact .inl hp
    · cases hsub : env.subjectOf { s with cache := (isRevoked s.cache env.skew payload now).1 } payload with
      | error e =>
        rw [hsub] at hp
        exact .inl hp
      | ok found =>
        cases found with
        | none =>
          rw [hsub] at hp
          exact .inl hp
        | some user =>
          rw [hsub] at hp
          simp only at hp
          split at hp
          · exact .inl hp
          · rcases mem_issueTokens hp with hp | ⟨hiat, hstr⟩
            · exact .inl hp
            · exact .inr ⟨hiat, user.id, hstr, .refresh rfl (decodeToken_of_decode hdecode) (subjectOf_some hsub)⟩

/-- **One request** mints session tokens at a login or from a refresh token only. -/
theorem session_handle {r : Timed} {p : Payload} (hsession : p.IsSession) (hp : p ∈ (env.handle s r).1.minted) :
    p ∈ s.minted ∨ p.iat = some ⌊r.now⌋ ∧ ∃ id, p.sub = some (env.uuid.str id) ∧ SessionOrigin env s r id := by
  obtain ⟨now, request⟩ := r
  cases request with
  | login email password => exact session_login hp
  | refresh token => exact session_refresh hp
  | register email password fullName raises =>
    left
    simp only [Backend.handle, minted_transaction, Backend.register] at hp
    split at hp
    · exact hp
    · have hold := session_sendVerification hsession hp
      exact hold
  | resendVerification email raises =>
    left
    simp only [Backend.handle, minted_transaction, Backend.resendVerification] at hp
    split at hp
    · exact hp
    · split at hp
      · exact hp
      · exact session_sendVerification hsession hp
  | verifyEmail token =>
    left
    simp only [Backend.handle, minted_transaction, Backend.verifyEmail] at hp
    repeat' split at hp
    all_goals exact hp
  | requestPasswordReset email raises =>
    left
    simp only [Backend.handle, minted_transaction, Backend.requestPasswordReset] at hp
    split at hp
    · exact hp
    · split at hp
      · exact hp
      · simp only [minted_send] at hp
        rcases mem_createToken hp with hp | ⟨htype, -, -⟩
        · exact hp
        · exact absurd hsession (not_isSession htype (.inr rfl))
  | resetPassword token newPassword =>
    left
    simp only [Backend.handle, minted_transaction, Backend.resetPassword] at hp
    repeat' split at hp
    all_goals exact hp
  | logout credentials refreshToken =>
    left
    simp only [Backend.handle, minted_transaction, minted_logoutEndpoint] at hp
    exact hp
  | bearer credentials =>
    left
    have haccess : (env.getAccessPayload s credentials now).1.minted = s.minted := minted_getAccessPayload credentials
    simp only [Backend.handle, minted_transaction, Backend.mandatoryUser] at hp
    split at hp <;> rename_i heq <;> rw [heq] at haccess <;> exact haccess ▸ hp
  | cache key use =>
    left
    cases use with
    | set value ttl =>
      simp only [Backend.handle, Backend.useCache] at hp
      split at hp <;> exact hp
    | _ => exact hp

end

/-! ## Sessions are accounted for -/

section
variable (env : ServiceEnv)

/-- The row is the one of a successful login of the payload's user; the login is not younger than the payload, where the
clock is `ordered`. -/
structure LoginRow (ordered : Prop) (users : List User) (payload : Payload) (e : ServiceCall × ServiceAnswer)
    (row : AuditLog) (id : ℕ) : Prop where
  entry : auditEntry env.auth users e = some row
  action : row.action = "user.login"
  actor : row.actorId = some id
  subject : payload.sub = some (env.auth.uuid.str id)
  age : ordered → ∀ i, payload.iat = some i → ⌊row.createdAt⌋ ≤ i

/-- A login of the payload's user stands behind the payload. -/
def Accounted (ordered : Prop) (users : List User) (log : List (ServiceCall × ServiceAnswer)) (payload : Payload) :
    Prop := ∃ e ∈ log, ∃ row id, LoginRow env ordered users payload e row id

variable {env} {ordered : Prop}

theorem auditEntry_createdAt {users : List User} {e : ServiceCall × ServiceAnswer} {row : AuditLog}
    (h : auditEntry env.auth users e = some row) : row.createdAt = e.1.now := by
  unfold auditEntry at h
  split at h <;> cases h <;> rfl

/-- An actor that was found stays found. -/
theorem auditEntry_knows {users : List User} {s : AuthState} (hknows : Knows users s)
    {e : ServiceCall × ServiceAnswer} {row : AuditLog} {id : ℕ} (h : auditEntry env.auth s.users e = some row)
    (hactor : row.actorId = some id) : auditEntry env.auth users e = some row := by
  unfold auditEntry at h ⊢
  split at h
  · exact h
  · rename_i email password ip reply hrequest hreply
    cases h
    obtain ⟨user, huser, -⟩ := Option.map_eq_some_iff.mp hactor
    simp only [hknows _ user huser, huser, Option.map_some]
  · exact h
  · cases h

/-- A login reaches the users as itself. -/
theorem authView_login {r : ServiceCall} {q : Timed} (h : r.authView = some q) {email password : String}
    (hq : q.request = .login email password) :
    ∃ ip, r.request = .auth (.login email password) ip ∧ q = ⟨r.now, .login email password⟩ := by
  obtain ⟨now, request⟩ := r
  cases request with
  | auth request ip =>
    cases h
    simp only at hq
    exact ⟨ip, by rw [hq], by rw [hq]⟩
  | alert => cases h; cases hq
  | metrics => cases h; cases hq
  | _ => cases h

theorem now_of_authView {r : ServiceCall} {q : Timed} (h : r.authView = some q) : q.now = r.now := by
  obtain ⟨now, request⟩ := r
  cases request <;> cases h <;> rfl

theorem Accounted.later {s : AuthState} {users : List User} {log : List (ServiceCall × ServiceAnswer)}
    {e : ServiceCall × ServiceAnswer} {payload : Payload} (h : Accounted env ordered s.users log payload)
    (hknows : Knows users s) : Accounted env ordered users (log ++ [e]) payload := by
  obtain ⟨e', he', row, id, hlogin⟩ := h
  exact ⟨e', List.mem_append_left _ he', row, id,
    { hlogin with entry := auditEntry_knows hknows hlogin.entry hlogin.actor }⟩

/-- **One call keeps every session accounted for.** A login writes the row itself; what is minted from a refresh token
inherits the login behind that token. -/
theorem accounted_handle (hparse : ∀ n, env.auth.uuid.parse (env.auth.uuid.str n) = some n) {s : ServiceState}
    {r : ServiceCall} {log : List (ServiceCall × ServiceAnswer)}
    (hinv : ∀ p ∈ s.auth.minted, p.IsSession → Accounted env ordered s.auth.users log p)
    (htimes : ordered → ∀ e ∈ log, e.1.now ≤ r.now) (hminted : ∀ q ∈ r.authView, OnlyMinted env.auth s.auth q)
    {p : Payload} (hp : p ∈ (s.handle env r).1.auth.minted) (hsession : p.IsSession) :
    Accounted env ordered (s.handle env r).1.auth.users (log ++ [(r, (s.handle env r).2)]) p := by
  have hauth := auth_handle env s r
  cases hview : r.authView with
  | none =>
    rw [hview] at hauth
    rw [hauth] at hp ⊢
    exact (hinv p hp hsession).later (knows_run env.auth [] s.auth)
  | some q =>
    rw [hview] at hauth
    have hknows : Knows (s.handle env r).1.auth.users s.auth := by
      rw [hauth]
      exact knows_run env.auth [q] s.auth
    rw [hauth] at hp
    rcases session_handle hsession hp with hold | ⟨hiat, id, hsub, horigin⟩
    · exact (hinv p hold hsession).later hknows
    · cases horigin with
      | @login email password reply row hr hok hrow hid =>
        obtain ⟨ip, hrequest, hq⟩ := authView_login hview hr
        have hentry : auditEntry env.auth (s.handle env r).1.auth.users (r, (s.handle env r).2) =
            some ⟨some id, "user.login", "", ip, r.now⟩ := by
          have hanswer : (s.handle env r).2 = .auth (.ok reply) := by
            rw [← hok, hq]
            simp only [ServiceStateOver.handle, hrequest]
          have hfound := hknows (env.auth.lower email) row hrow
          simp only [auditEntry, hrequest, hanswer, hfound, hid]
        refine ⟨_, List.mem_append_right _ List.mem_cons_self, _, id, hentry, rfl, rfl, hsub, fun _ i hi => ?_⟩
        rw [hiat, hq] at hi
        exact (Option.some.inj hi).le
      | @refresh token payload hr hdecode hid =>
        obtain ⟨hjwt, htype, -⟩ := decodeToken_ok hdecode
        have hpresented : token ∈ q.request.presented := by rw [hr]; exact List.mem_cons_self
        obtain ⟨hmem, -, -⟩ := hminted q hview token hpresented payload hjwt
        obtain ⟨e, he, row, id', hlogin⟩ := hinv payload hmem (.inr htype)
        have hsame : id' = id := by
          rw [hlogin.subject, Option.bind_some, hparse] at hid
          exact Option.some.inj hid
        subst hsame
        refine ⟨e, List.mem_append_left _ he, row, id', auditEntry_knows hknows hlogin.entry hlogin.actor,
          hlogin.action, hlogin.actor, hsub, fun hordered i hi => ?_⟩
        rw [hiat] at hi
        rw [← Option.some.inj hi, auditEntry_createdAt hlogin.entry, now_of_authView hview]
        exact Int.floor_le_floor (htimes hordered e he)

/-- The row of a call is in the trail, unless a cleanup after the call removed it. -/
theorem mem_trail {users : List User} {row : AuditLog} {e : ServiceCall × ServiceAnswer}
    (hentry : auditEntry env.auth users e = some row) (after : List (ServiceCall × ServiceAnswer)) :
    ∀ before, row ∈ trail env.auth users (before ++ e :: after) ∨
      ∃ later ∈ after, ∃ cutoff ∈ later.1.cutoff?, row.createdAt < cutoff
  | [] => by
    cases hsurvives : survives (after.map (·.1)) row with
    | true =>
      left
      rw [List.nil_append, trail, hentry, Option.filter_some_pos hsurvives]
      exact List.mem_append_left _ List.mem_cons_self
    | false =>
      right
      obtain ⟨r, hr, hcut⟩ := List.all_eq_false.mp hsurvives
      obtain ⟨later, hlater, rfl⟩ := List.mem_map.mp hr
      cases hcutoff : later.1.cutoff? with
      | none => simp [hcutoff] at hcut
      | some cutoff =>
        simp only [hcutoff, Option.all_some, decide_eq_true_eq, not_not] at hcut
        exact ⟨later, hlater, cutoff, hcutoff, hcut⟩
  | e' :: before => (mem_trail hentry after before).imp_left fun h => List.mem_append_right _ h

variable (env) (hparse : ∀ n, env.auth.uuid.parse (env.auth.uuid.str n) = some n) (init : ServiceState)
  (hinit : init.auth.minted = []) (rs : List ServiceCall)
  (hminted : (authMachine env.auth).Enabled (OnlyMinted env.auth) init.auth (rs.filterMap ServiceCall.authView))
include hparse hinit hminted

/-- **A run keeps every session accounted for.** -/
theorem accounted_run : ∀ payload ∈ ((serviceMachine env).run init rs).auth.minted, payload.IsSession →
    Accounted env (NonDecreasing ServiceCall.now rs) ((serviceMachine env).run init rs).auth.users
      ((serviceMachine env).log init rs) payload := by
  -- The clock of the whole run is handed down to its beginnings.
  refine (serviceMachine env).run_rule
    (fun is => (NonDecreasing ServiceCall.now rs → NonDecreasing ServiceCall.now is) ∧
      (authMachine env.auth).Enabled (OnlyMinted env.auth) init.auth (is.filterMap ServiceCall.authView))
    (fun log s => ∀ p ∈ s.auth.minted, p.IsSession →
      Accounted env (NonDecreasing ServiceCall.now rs) s.auth.users log p) ?_ ?_ ?_ rs ⟨id, hminted⟩
  · rintro is i ⟨hclock, hen⟩
    rw [List.filterMap_append, Machine.enabled_append] at hen
    exact ⟨fun hordered => (hclock hordered).init, hen.1⟩
  · intro p hp
    rw [hinit] at hp
    cases hp
  · rintro is i ⟨hclock, hen⟩ hinv p hp hsession
    rw [List.filterMap_append, Machine.enabled_append, ← auth_run] at hen
    refine accounted_handle hparse hinv (fun hordered => (hclock hordered).log_le (serviceMachine env)) (fun q hq => ?_)
      hp hsession
    have hlast := hen.2
    rw [List.filterMap_cons, hq] at hlast
    exact hlast.1

/-- **Every session is audited.** In every run from a state without tokens: for each access or refresh token that was
minted there is a successful login of its subject among the calls, not younger than the token if the clock does not run
backwards, and the row of this login is in the audit log, unless a cleanup after the login had a later cutoff. -/
theorem sessions_are_audited : ∀ payload ∈ ((serviceMachine env).run init rs).auth.minted, payload.IsSession →
    ∃ before e after row id, (serviceMachine env).log init rs = before ++ e :: after ∧
      LoginRow env (NonDecreasing ServiceCall.now rs) ((serviceMachine env).run init rs).auth.users payload e row id ∧
      (row ∈ ((serviceMachine env).run init rs).audit ∨
        ∃ later ∈ after, ∃ cutoff ∈ later.1.cutoff?, row.createdAt < cutoff) := by
  intro payload hmem hsession
  obtain ⟨e, he, row, id, hlogin⟩ := accounted_run env hparse init hinit rs hminted payload hmem hsession
  obtain ⟨before, after, hlog⟩ := List.append_of_mem he
  refine ⟨before, e, after, row, id, hlog, hlogin, ?_⟩
  rw [audit_run env rs init, hlog]
  exact (mem_trail hlogin.entry after before).imp_left fun h => List.mem_append_right _ h

end

/-- The sample backend, whose tokens are those of one login, with keys that parse. -/
def auditedEnv : ServiceEnv where
  auth := { sampleBackend [firstAccess, firstRefresh] with uuid := ⟨decimalText, decimalText, decimalParse⟩ }
  alerts := sampleAlertsEnv
  fromisoformat := fun _ => none

/-- The sample user alone. -/
def quietService : ServiceState := ⟨oneUser, .empty, [], [], []⟩

/-- A login, a look at the alerts, a refresh, and the cleanup of the audit log. -/
def auditedRun : List ServiceCall :=
  [⟨0, .auth (.login "Watcher@example.com" "secret") (some "203.0.113.7")⟩, ⟨5, .alert (some "0") (.list sampleOrder)⟩,
    ⟨10, .auth (.refresh "1") none⟩, ⟨20, .cleanupAuditLog 90⟩]

/-- The access token of the refresh is accounted for by the login, whose row outlives the cleanup. -/
theorem auditedRun_sessions : (∃ before e after row id,
      (serviceMachine auditedEnv).log quietService auditedRun = before ++ e :: after ∧
      LoginRow auditedEnv (NonDecreasing ServiceCall.now auditedRun)
        ((serviceMachine auditedEnv).run quietService auditedRun).auth.users
        (createPayload "7" .access 900 10 "2") e row id ∧
      (row ∈ ((serviceMachine auditedEnv).run quietService auditedRun).audit ∨
        ∃ later ∈ after, ∃ cutoff ∈ later.1.cutoff?, row.createdAt < cutoff)) ∧
    ((serviceMachine auditedEnv).run quietService auditedRun).audit =
      [⟨some 7, "user.login", "", some "203.0.113.7", 0⟩] := by
  have hminted : (authMachine auditedEnv.auth).Enabled (OnlyMinted auditedEnv.auth) quietService.auth
      (auditedRun.filterMap ServiceCall.authView) := by
    have hsample : ∀ {s : AuthState} {r : Timed},
        (r.request.presented ≠ [] → [firstAccess, firstRefresh] ⊆ s.minted) → OnlyMinted auditedEnv.auth s r :=
      fun h => onlyMinted_sampleBackend h
    refine ⟨hsample ?_, hsample ?_, hsample ?_, trivial⟩
    all_goals decide +kernel
  have hmem : createPayload "7" .access 900 10 "2" ∈
      ((serviceMachine auditedEnv).run quietService auditedRun).auth.minted := by decide +kernel
  refine ⟨?_, by decide +kernel⟩
  exact sessions_are_audited auditedEnv decimalParse_decimalText quietService rfl auditedRun hminted _ hmem (.inl rfl)

end SmartTravel
