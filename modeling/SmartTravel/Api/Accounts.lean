import SmartTravel.Api.Auth

/-!
# Account state and credentials

Who can change a row of `users`. `RowChange` lists everything that a request can do to the table: nothing, a new row, a
verified address, a hash renewed at login, a new password (`rowChange_handle`). Along a run the rows stay identified by
their key and address, every minted token names a key, and each stored hash verifies exactly the password that was last
given for its user (`Accounts`, kept by every request).

It is assumed that PyJWT accepts of the presented tokens only those that were minted here and have not expired
(`OnlyMinted`), that a key is parsed from its own text, and that Argon2 verifies a hash for its own password.
-/

namespace SmartTravel

open Py Runs

section
variable (env : Backend)

/-- The tokens that a request presents. -/
def AuthRequest.presented : AuthRequest → List String
  | .verifyEmail token => [token]
  | .refresh token => [token]
  | .resetPassword token _ => [token]
  | .logout credentials refreshToken => credentials.toList ++ refreshToken.toList
  | .bearer credentials => credentials.toList
  | _ => []

/-- A presented token that PyJWT accepts is the token of a payload minted before, and has not expired. -/
def OnlyMinted (s : AuthState) (r : Timed) : Prop :=
  ∀ token ∈ r.request.presented, ∀ payload, env.jwt.decode r.now token = .ok payload →
    payload ∈ s.minted ∧ token = env.jwt.encode payload ∧ ∃ exp : ℤ, payload.exp = some exp ∧ r.now < exp

/-- The user whose key is the subject of a token. -/
def target (token : String) (now : ℚ) : Option ℕ :=
  match env.jwt.decode now token with
  | .error _ => none
  | .ok payload => payload.sub.bind env.uuid.parse

/-- The password that a request gave for user `id`: at a registration or at a reset, if it succeeded. -/
def given (id : ℕ) (e : Timed × Except AuthError AuthReply) : Option String :=
  match e.1.request, e.2 with
  | .register _ password _ _, .ok (.user user) => if user.id = id then some password else none
  | .resetPassword token newPassword, .ok _ => if target env token e.1.now = some id then some newPassword else none
  | _, _ => none

/-- The password last given for user `id` in a run; `known` are the passwords of the rows that were there before. -/
def passwordOf (known : ℕ → Option String) (log : List (Timed × Except AuthError AuthReply)) (id : ℕ) :
    Option String := (log.reverse.findSome? (given env id)).or (known id)

theorem passwordOf_snoc (known : ℕ → Option String) (log : List (Timed × Except AuthError AuthReply))
    (e : Timed × Except AuthError AuthReply) (id : ℕ) :
    passwordOf env known (log ++ [e]) id = (given env id e).or (passwordOf env known log id) := by
  simp only [passwordOf, List.reverse_append, List.reverse_singleton, List.singleton_append, List.findSome?_cons]
  cases given env id e <;> rfl

end

/-! ## What leaves the rows alone -/

section
variable (env : Backend)

/-- The rows and the next key stay, and what is minted names a key. -/
structure Keeps (s s' : AuthState) : Prop where
  users : s'.users = s.users
  nextUserId : s'.nextUserId = s.nextUserId
  subjects : ∀ p ∈ s'.minted, p ∈ s.minted ∨ ∃ id, p.sub = some (env.uuid.str id)

variable {env}

theorem Keeps.of_eq {s s' : AuthState} (husers : s'.users = s.users) (hnext : s'.nextUserId = s.nextUserId)
    (hminted : s'.minted = s.minted) : Keeps env s s' :=
  ⟨husers, hnext, fun _ hp => .inl (hminted ▸ hp)⟩

theorem Keeps.trans {a b c : AuthState} (hab : Keeps env a b) (hbc : Keeps env b c) : Keeps env a c := by
  refine ⟨hbc.users.trans hab.users, hbc.nextUserId.trans hab.nextUserId, fun p hp => ?_⟩
  rcases hbc.subjects p hp with hp | hp
  · exact hab.subjects p hp
  · exact .inr hp

variable (env) (now : ℚ)

theorem keeps_frame : RequestFrame env now (Keeps env) where
  refl _ := Keeps.of_eq rfl rfl rfl
  trans := Keeps.trans
  createToken s id type := by
    refine ⟨rfl, rfl, fun p hp => ?_⟩
    rcases List.mem_append.mp hp with hp | hp
    · exact .inl hp
    · rw [List.mem_singleton.mp hp]
      exact .inr ⟨id, rfl⟩
  send s mail raises := by
    unfold AuthStateOver.send
    split <;> exact Keeps.of_eq rfl rfl rfl
  isRevoked _ _ := Keeps.of_eq rfl rfl rfl

theorem keeps_foldl_revoke : ∀ (payloads : List Payload) (s : AuthState),
    Keeps env s (payloads.foldl (fun s p => (env.revokePayload s p now).1) s)
  | [], _ => Keeps.of_eq rfl rfl rfl
  | p :: payloads, s => by
    obtain ⟨cache, -, hrevoke⟩ := Backend.revokePayload_spec env s p now
    rw [List.foldl_cons, hrevoke]
    refine Keeps.trans ?_ (keeps_foldl_revoke payloads _)
    exact Keeps.of_eq rfl rfl rfl

theorem keeps_logoutEndpoint (s : AuthState) (credentials refreshToken : Option String) :
    Keeps env s (env.logoutEndpoint s credentials refreshToken now).1 := by
  have haccess := (keeps_frame env now).getAccessPayload s credentials
  cases hacc : env.getAccessPayload s credentials now with
  | mk s' answer =>
    rw [hacc] at haccess
    cases answer with
    | error e => simpa only [Backend.logoutEndpoint, hacc] using haccess
    | ok access =>
      rw [logoutEndpoint_state hacc]
      exact haccess.trans (keeps_foldl_revoke env now _ _)

theorem keeps_useCache (s : AuthState) (key : ForeignKey) (use : CacheUse) :
    Keeps env s (env.useCache s key now use).1 := by
  cases use with
  | get => exact Keeps.of_eq rfl rfl rfl
  | set value ttl =>
    simp only [Backend.useCache]
    split <;> exact Keeps.of_eq rfl rfl rfl
  | delete => exact Keeps.of_eq rfl rfl rfl

theorem keeps_transaction {α : Type} {operation : AuthState → AuthState × Except AuthError α}
    (hop : ∀ s, Keeps env s (operation s).1) (s : AuthState) : Keeps env s (transaction operation s).1 := by
  have hs := hop s
  unfold transaction
  split <;> rename_i heq <;> rw [heq] at hs
  · exact hs
  · exact ⟨rfl, hs.nextUserId, hs.subjects⟩

end

/-! ## What changes a row -/

section
variable (env : Backend)

/-- The row that `register` inserts. -/
def newUser (s : AuthState) (email password : String) (fullName : Option String) : User :=
  ⟨s.nextUserId, env.lower email, env.hasher.hash s.salts password, fullName, .user, true, false⟩

/-- The rows with one user changed. -/
def changeUser (users : List User) (id : ℕ) (f : User → User) : List User :=
  users.map fun u => if u.id = id then f u else u

/-- What a request does to the rows and to the next key, with the answer it gives. -/
inductive RowChange (s : AuthState) (r : Timed) : List User → ℕ → Except AuthError AuthReply → Prop
  | nothing {next reply} (hnext : s.nextUserId ≤ next) (hgiven : ∀ id, given env id (r, reply) = none) :
      RowChange s r s.users next reply
  | registered {email password fullName raises} (hr : r.request = .register email password fullName raises)
      (hfresh : s.getByEmail env.lower email = none) :
      RowChange s r (s.users ++ [newUser env s email password fullName]) (s.nextUserId + 1)
        (.ok (.user (newUser env s email password fullName)))
  | verified {token payload} {user : User} (hr : r.request = .verifyEmail token)
      (hdecode : decodeToken env.jwt token .verify r.now = .ok payload)
      (hsub : payload.sub.bind env.uuid.parse = some user.id) :
      RowChange s r (changeUser s.users user.id fun u => { u with isVerified := true }) s.nextUserId (.ok .message)
  | rehashed {email password tokens} {user : User} (hr : r.request = .login email password)
      (huser : s.getByEmail env.lower email = some user)
      (hpassword : env.hasher.verify user.hashedPassword password = true) :
      RowChange s r (changeUser s.users user.id fun u => { u with hashedPassword := env.hasher.hash s.salts password })
        s.nextUserId (.ok (.tokens tokens))
  | reset {token newPassword payload} {user : User} (hr : r.request = .resetPassword token newPassword)
      (hdecode : decodeToken env.jwt token .reset r.now = .ok payload)
      (hsub : payload.sub.bind env.uuid.parse = some user.id) :
      RowChange s r
        (changeUser s.users user.id fun u => { u with hashedPassword := env.hasher.hash s.salts newPassword })
        s.nextUserId (.ok .message)

/-- The rows change in one of these ways, and what is minted names a key. -/
structure Handled (s : AuthState) (r : Timed) (s' : AuthState) (reply : Except AuthError AuthReply) : Prop where
  rows : RowChange env s r s'.users s'.nextUserId reply
  subjects : ∀ p ∈ s'.minted, p ∈ s.minted ∨ ∃ id, p.sub = some (env.uuid.str id)

variable {env}

theorem Keeps.handled {s s' : AuthState} {r : Timed} {reply : Except AuthError AuthReply} (h : Keeps env s s')
    (hgiven : ∀ id, given env id (r, reply) = none) : Handled env s r s' reply := by
  refine ⟨?_, h.subjects⟩
  rw [h.users]
  exact .nothing h.nextUserId.ge hgiven

variable (env) (now : ℚ) (s : AuthState)

theorem decodeToken_of_decode {env : Backend} {token : String} {expected : TokenType} {now : ℚ} {payload : Payload}
    (h : env.decode token expected now = .ok payload) : decodeToken env.jwt token expected now = .ok payload := by
  cases hdecode : decodeToken env.jwt token expected now with
  | error detail => rw [env.decode_of_error hdecode] at h; cases h
  | ok p => rw [env.decode_of_ok hdecode] at h; cases h; rfl

/-- The subject that a token's user was loaded by. -/
theorem subjectOf_some {env : Backend} {s : AuthState} {payload : Payload} {user : User}
    (h : env.subjectOf s payload = .ok (some user)) : payload.sub.bind env.uuid.parse = some user.id := by
  simp only [Backend.subjectOf] at h
  split at h
  · cases h
  · rename_i id hid
    rw [hid, (AuthStateOver.getById_eq_some (Except.ok.inj h)).2]

theorem handled_register (email password : String) (fullName : Option String) (raises : Bool) :
    Handled env s ⟨now, .register email password fullName raises⟩
      (env.handle s ⟨now, .register email password fullName raises⟩).1
      (env.handle s ⟨now, .register email password fullName raises⟩).2 := by
  have hsend := (keeps_frame env now).sendVerification { s with
    users := s.users ++ [newUser env s email password fullName], salts := s.salts + 1, nextUserId := s.nextUserId + 1 }
    (newUser env s email password fullName) raises
  cases hfound : s.getByEmail env.lower email with
  | some user =>
    simp only [Backend.handle, transaction, Backend.register, hfound, Option.isSome_some, if_true]
    exact (Keeps.of_eq rfl rfl rfl).handled fun _ => rfl
  | none =>
    cases raises with
    | true =>
      -- The mail is not sent: the row is rolled back, its key is not used again.
      simp only [Backend.handle, transaction, Backend.register, hfound, Option.isSome_none]
      exact ⟨.nothing (Nat.le_succ _) fun _ => rfl, hsend.subjects⟩
    | false =>
      simp only [Backend.handle, transaction, Backend.register, hfound, Option.isSome_none]
      exact ⟨.registered rfl hfound, hsend.subjects⟩

theorem handled_verifyEmail (token : String) : Handled env s ⟨now, .verifyEmail token⟩
    (env.handle s ⟨now, .verifyEmail token⟩).1 (env.handle s ⟨now, .verifyEmail token⟩).2 := by
  cases hdecode : env.decode token .verify now with
  | error e =>
    simp only [Backend.handle, transaction, Backend.verifyEmail, hdecode]
    exact (Keeps.of_eq rfl rfl rfl).handled fun _ => rfl
  | ok payload =>
    cases hsub : env.subjectOf s payload with
    | error e =>
      simp only [Backend.handle, transaction, Backend.verifyEmail, hdecode, hsub]
      exact (Keeps.of_eq rfl rfl rfl).handled fun _ => rfl
    | ok found =>
      cases found with
      | none =>
        simp only [Backend.handle, transaction, Backend.verifyEmail, hdecode, hsub]
        exact (Keeps.of_eq rfl rfl rfl).handled fun _ => rfl
      | some user =>
        simp only [Backend.handle, transaction, Backend.verifyEmail, hdecode, hsub]
        split
        · exact (Keeps.of_eq rfl rfl rfl).handled fun _ => rfl
        · exact ⟨.verified rfl (decodeToken_of_decode hdecode) (subjectOf_some hsub), fun p hp => .inl hp⟩

theorem handled_login (email password : String) : Handled env s ⟨now, .login email password⟩
    (env.handle s ⟨now, .login email password⟩).1 (env.handle s ⟨now, .login email password⟩).2 := by
  cases hfound : s.getByEmail env.lower email with
  | none =>
    simp only [Backend.handle, transaction, Backend.login, Backend.authenticate, hfound]
    exact (Keeps.of_eq rfl rfl rfl).handled fun _ => rfl
  | some user =>
    cases hverify : env.hasher.verify user.hashedPassword password with
    | false =>
      simp only [Backend.handle, transaction, Backend.login, Backend.authenticate, hfound, hverify, Bool.not_false,
        if_true]
      exact (Keeps.of_eq rfl rfl rfl).handled fun _ => rfl
    | true =>
      cases hactive : user.isActive with
      | false =>
        simp only [Backend.handle, transaction, Backend.login, Backend.authenticate, hfound, hverify, hactive,
          Bool.not_false, Bool.not_true, Bool.false_eq_true, if_true, if_false]
        exact (Keeps.of_eq rfl rfl rfl).handled fun _ => rfl
      | true =>
        cases hrehash : env.hasher.needsRehash user.hashedPassword with
        | false =>
          simp only [Backend.handle, transaction, Backend.login, Backend.authenticate, hfound, hverify, hactive,
            hrehash, Bool.not_true, Bool.false_eq_true, if_false]
          exact ((keeps_frame env now).issueTokens s user).handled fun _ => rfl
        | true =>
          simp only [Backend.handle, transaction, Backend.login, Backend.authenticate, hfound, hverify, hactive,
            hrehash, Bool.not_true, Bool.false_eq_true, if_false, if_true]
          refine ⟨.rehashed rfl hfound hverify, ?_⟩
          exact ((keeps_frame env now).issueTokens { s.updateUser user.id (fun u =>
            { u with hashedPassword := env.hasher.hash s.salts password }) with salts := s.salts + 1 } _).subjects

theorem handled_resetPassword (token newPassword : String) : Handled env s ⟨now, .resetPassword token newPassword⟩
    (env.handle s ⟨now, .resetPassword token newPassword⟩).1
    (env.handle s ⟨now, .resetPassword token newPassword⟩).2 := by
  cases hdecode : env.decode token .reset now with
  | error e =>
    simp only [Backend.handle, transaction, Backend.resetPassword, hdecode]
    exact (Keeps.of_eq rfl rfl rfl).handled fun _ => rfl
  | ok payload =>
    cases hsub : env.subjectOf s payload with
    | error e =>
      simp only [Backend.handle, transaction, Backend.resetPassword, hdecode, hsub]
      exact (Keeps.of_eq rfl rfl rfl).handled fun _ => rfl
    | ok found =>
      cases found with
      | none =>
        simp only [Backend.handle, transaction, Backend.resetPassword, hdecode, hsub]
        exact (Keeps.of_eq rfl rfl rfl).handled fun _ => rfl
      | some user =>
        cases hactive : user.isActive with
        | false =>
          simp only [Backend.handle, transaction, Backend.resetPassword, hdecode, hsub, hactive, Bool.not_false,
            if_true]
          exact (Keeps.of_eq rfl rfl rfl).handled fun _ => rfl
        | true =>
          simp only [Backend.handle, transaction, Backend.resetPassword, hdecode, hsub, hactive, Bool.not_true,
            Bool.false_eq_true, if_false]
          exact ⟨.reset rfl (decodeToken_of_decode hdecode) (subjectOf_some hsub), fun p hp => .inl hp⟩

/-- **One request** changes the rows in one of the listed ways. -/
theorem handled_handle (r : Timed) : Handled env s r (env.handle s r).1 (env.handle s r).2 := by
  obtain ⟨now, request⟩ := r
  cases request with
  | register => exact handled_register env now s _ _ _ _
  | resendVerification =>
    exact (keeps_transaction env (fun s => (keeps_frame env now).resendVerification s _ _) s).handled fun _ => rfl
  | verifyEmail => exact handled_verifyEmail env now s _
  | login => exact handled_login env now s _ _
  | refresh => exact (keeps_transaction env (fun s => (keeps_frame env now).refresh s _) s).handled fun _ => rfl
  | requestPasswordReset =>
    exact (keeps_transaction env (fun s => (keeps_frame env now).requestPasswordReset s _ _) s).handled fun _ => rfl
  | resetPassword => exact handled_resetPassword env now s _ _
  | logout => exact (keeps_transaction env (fun s => keeps_logoutEndpoint env now s _ _) s).handled fun _ => rfl
  | bearer => exact (keeps_transaction env (fun s => (keeps_frame env now).mandatoryUser s _) s).handled fun _ => rfl
  | cache => exact (keeps_useCache env now s _ _).handled fun _ => rfl

end

/-! ## Rows and their passwords along a run -/

theorem map_changeUser {β : Type} {f : User → User} {g : User → β} (hf : ∀ u, g (f u) = g u) (users : List User)
    (id : ℕ) : (changeUser users id f).map g = users.map g := by
  simp only [changeUser, List.map_map]
  refine List.map_congr_left fun u _ => ?_
  simp only [Function.comp_apply]
  split
  · exact hf u
  · rfl

theorem find?_changeUser {f : User → User} (hf : ∀ u, (f u).id = u.id) (id id' : ℕ) : ∀ users : List User,
    (changeUser users id f).find? (fun u => u.id = id') =
      (users.find? fun u => u.id = id').map fun u => if u.id = id then f u else u
  | [] => rfl
  | u :: users => by
    have ih := find?_changeUser hf id id' users
    have hid : (if u.id = id then f u else u).id = u.id := by
      split
      · exact hf u
      · rfl
    simp only [changeUser, List.map_cons, List.find?_cons, hid] at ih ⊢
    split
    · rfl
    · exact ih

section
variable (env : Backend) (known : ℕ → Option String)

/-- Keys and addresses name one row each, minted tokens name keys, and a stored hash verifies exactly the password that
was last given for its user. -/
structure Accounts (log : List (Timed × Except AuthError AuthReply)) (s : AuthState) : Prop where
  keys_lt : ∀ u ∈ s.users, u.id < s.nextUserId
  keys : (s.users.map (·.id)).Nodup
  emails : (s.users.map (·.email)).Nodup
  subjects : ∀ p ∈ s.minted, ∃ id, p.sub = some (env.uuid.str id)
  passwords : ∀ u ∈ s.users, ∃ password, passwordOf env known log u.id = some password ∧
    ∀ q, env.hasher.verify u.hashedPassword q = true ↔ password = q

variable {env known} {log : List (Timed × Except AuthError AuthReply)} {s : AuthState} {r : Timed}
  {reply : Except AuthError AuthReply}

/-- A request that gives no password for a user leaves the last one. -/
theorem passwordOf_of_not_given {id : ℕ} (h : given env id (r, reply) = none) :
    passwordOf env known (log ++ [(r, reply)]) id = passwordOf env known log id := by
  rw [passwordOf_snoc, h, Option.none_or]

theorem passwordOf_of_given {id : ℕ} {password : String} (h : given env id (r, reply) = some password) :
    passwordOf env known (log ++ [(r, reply)]) id = some password := by
  rw [passwordOf_snoc, h, Option.some_or]

/-- The user that a token names. -/
theorem target_of_decode {token : String} {type : TokenType} {now : ℚ} {payload : Payload}
    (h : decodeToken env.jwt token type now = .ok payload) :
    target env token now = payload.sub.bind env.uuid.parse := by
  rw [target, (decodeToken_ok h).1]

/-- A row of the changed table is a row of the old one, changed if it has the key. -/
theorem mem_changeUser {users : List User} {id : ℕ} {f : User → User} {u : User} (h : u ∈ changeUser users id f) :
    ∃ v ∈ users, u = if v.id = id then f v else v := by
  obtain ⟨v, hv, rfl⟩ := List.mem_map.mp h
  exact ⟨v, hv, rfl⟩

/-- A changed table keeps the account invariant if keys and addresses stay and each hash fits the last password. -/
theorem Accounts.change (h : Accounts env known log s) {s' : AuthState} {id : ℕ} {f : User → User}
    (husers : s'.users = changeUser s.users id f) (hid : ∀ u, (f u).id = u.id) (hemail : ∀ u, (f u).email = u.email)
    (hnext : s'.nextUserId = s.nextUserId) (hminted : ∀ p ∈ s'.minted, ∃ id, p.sub = some (env.uuid.str id))
    (hpasswords : ∀ u ∈ s.users, ∃ password, passwordOf env known (log ++ [(r, reply)]) u.id = some password ∧
      ∀ q, env.hasher.verify (if u.id = id then f u else u).hashedPassword q = true ↔ password = q) :
    Accounts env known (log ++ [(r, reply)]) s' := by
  have hsame : ∀ v : User, (if v.id = id then f v else v).id = v.id := by
    intro v
    split
    · exact hid v
    · rfl
  refine ⟨fun u hu => ?_, ?_, ?_, hminted, fun u hu => ?_⟩
  · rw [husers] at hu
    obtain ⟨v, hv, rfl⟩ := mem_changeUser hu
    rw [hsame, hnext]
    exact h.keys_lt v hv
  · rw [husers, map_changeUser hid]
    exact h.keys
  · rw [husers, map_changeUser hemail]
    exact h.emails
  · rw [husers] at hu
    obtain ⟨v, hv, rfl⟩ := mem_changeUser hu
    rw [hsame]
    exact hpasswords v hv

/-- A table with one more row keeps the account invariant if the row has the next key, a new address and a hash of the
password that was given for it, and no password was given for the others. -/
theorem Accounts.add (h : Accounts env known log s) {s' : AuthState} {user : User}
    (husers : s'.users = s.users ++ [user]) (hnext : s'.nextUserId = s.nextUserId + 1) (hid : user.id = s.nextUserId)
    (hemail : ∀ u ∈ s.users, u.email ≠ user.email) (hminted : ∀ p ∈ s'.minted, ∃ id, p.sub = some (env.uuid.str id))
    (hothers : ∀ id, user.id ≠ id → given env id (r, reply) = none)
    (hpassword : ∃ password, given env user.id (r, reply) = some password ∧
      ∀ q, env.hasher.verify user.hashedPassword q = true ↔ password = q) :
    Accounts env known (log ++ [(r, reply)]) s' := by
  have hold : ∀ u ∈ s.users, user.id ≠ u.id := fun u hu => hid ▸ (h.keys_lt u hu).ne'
  refine ⟨fun u hu => ?_, ?_, ?_, hminted, fun u hu => ?_⟩
  · rw [husers] at hu
    rcases List.mem_append.mp hu with hu | hu
    · have hlt := h.keys_lt u hu
      omega
    · rw [List.mem_singleton.mp hu, hnext, hid]
      exact Nat.lt_succ_self _
  · rw [husers]
    refine nodup_map_snoc h.keys fun hin => ?_
    obtain ⟨u, hu, heq⟩ := List.mem_map.mp hin
    exact hold u hu heq.symm
  · rw [husers]
    refine nodup_map_snoc h.emails fun hin => ?_
    obtain ⟨u, hu, heq⟩ := List.mem_map.mp hin
    exact hemail u hu heq
  · rw [husers] at hu
    rcases List.mem_append.mp hu with hu | hu
    · rw [passwordOf_of_not_given (hothers u.id (hold u hu))]
      exact h.passwords u hu
    · rw [List.mem_singleton.mp hu]
      obtain ⟨password, hgiven, hverify⟩ := hpassword
      exact ⟨password, passwordOf_of_given hgiven, hverify⟩

variable (hhash : ∀ salt p q, env.hasher.verify (env.hasher.hash salt p) q = true ↔ p = q)
include hhash

/-- **One request** keeps the account invariant. -/
theorem Accounts.handle (h : Accounts env known log s) {s' : AuthState} (hr : Handled env s r s' reply) :
    Accounts env known (log ++ [(r, reply)]) s' := by
  have hminted : ∀ p ∈ s'.minted, ∃ id, p.sub = some (env.uuid.str id) := by
    intro p hp
    rcases hr.subjects p hp with hp | hp
    · exact h.subjects p hp
    · exact hp
  have hrows := hr.rows
  generalize husers : s'.users = users, hnext : s'.nextUserId = next at hrows
  cases hrows with
  | nothing hle hgiven =>
    refine ⟨fun u hu => ?_, by rw [husers]; exact h.keys, by rw [husers]; exact h.emails, hminted, fun u hu => ?_⟩
    · rw [husers] at hu
      have hlt := h.keys_lt u hu
      omega
    · rw [husers] at hu
      rw [passwordOf_of_not_given (hgiven u.id)]
      exact h.passwords u hu
  | @registered email password fullName raises hreq hfresh =>
    have hnew : ∀ u ∈ s.users, u.email ≠ env.lower email := by
      intro u hu hemail
      have := List.find?_eq_none.mp hfresh u hu
      simp [hemail] at this
    refine h.add husers hnext rfl hnew hminted (fun id hid => ?_) ⟨password, ?_, hhash s.salts password⟩
    · have hne : ¬s.nextUserId = id := hid
      simp [given, hreq, newUser, hne]
    · simp [given, hreq]
  | @verified token payload user hreq hdecode hsub =>
    refine h.change husers (fun _ => rfl) (fun _ => rfl) hnext hminted fun u hu => ?_
    rw [passwordOf_of_not_given (by simp [given, hreq])]
    obtain ⟨password, hlast, hverify⟩ := h.passwords u hu
    refine ⟨password, hlast, fun q => ?_⟩
    rw [← hverify q]
    split <;> rfl
  | @rehashed email password tokens user hreq huser hpassword =>
    refine h.change husers (fun _ => rfl) (fun _ => rfl) hnext hminted fun u hu => ?_
    rw [passwordOf_of_not_given (by simp [given, hreq])]
    obtain ⟨last, hlast, hverify⟩ := h.passwords u hu
    by_cases hid : u.id = user.id
    · -- The new hash is of the password that the old one verified.
      obtain ⟨last', hlast', hverify'⟩ := h.passwords user (List.mem_of_find?_eq_some huser)
      rw [hid, hlast'] at hlast
      have hsame : last' = password := (hverify' password).mp hpassword
      refine ⟨password, by rw [hid, hlast', hsame], fun q => ?_⟩
      rw [if_pos hid]
      exact hhash s.salts password q
    · refine ⟨last, hlast, fun q => ?_⟩
      rw [if_neg hid]
      exact hverify q
  | @reset token newPassword payload user hreq hdecode hsub =>
    have htarget := target_of_decode hdecode
    rw [hsub] at htarget
    refine h.change husers (fun _ => rfl) (fun _ => rfl) hnext hminted fun u hu => ?_
    by_cases hid : u.id = user.id
    · refine ⟨newPassword, passwordOf_of_given (by simp [given, hreq, htarget, hid]), fun q => ?_⟩
      rw [if_pos hid]
      exact hhash s.salts newPassword q
    · have hne : ¬ user.id = u.id := fun he => hid he.symm
      rw [passwordOf_of_not_given (by simp [given, hreq, htarget, hne]), if_neg hid]
      exact h.passwords u hu

/-- **Every run** keeps the account invariant. -/
theorem Accounts.run {init : AuthState} (hinit : Accounts env known [] init) (rs : List Timed) :
    Accounts env known ((authMachine env).log init rs) ((authMachine env).run init rs) :=
  (authMachine env).run_rule (fun _ => True) (Accounts env known) (fun _ _ _ => trivial) hinit
    (fun _ r _ h => h.handle hhash (handled_handle env _ r)) rs trivial

end

/-! ## Only through the right credential -/

section
variable (env : Backend)

/-- The text is an unexpired token of the type, minted for the user with this key. -/
def Credential (s : AuthState) (token : String) (now : ℚ) (type : TokenType) (id : ℕ) : Prop :=
  ∃ payload ∈ s.minted, token = env.jwt.encode payload ∧ payload.type = some type.text ∧
    payload.sub = some (env.uuid.str id) ∧ ∃ exp : ℤ, payload.exp = some exp ∧ now < exp

/-- What a request may do to the accounts. -/
structure Guarded (s : AuthState) (r : Timed) (s' : AuthState) : Prop where
  /-- A row stays, with its role and its standing; -/
  kept : ∀ id u, s.getById id = some u →
    ∃ u', s'.getById id = some u' ∧ u'.email = u.email ∧ u'.role = u.role ∧ u'.isActive = u.isActive
  /-- a verified address stays verified, and others are verified with a token sent there; -/
  verified : ∀ id u u', s.getById id = some u → s'.getById id = some u' →
    (u.isVerified = true → u'.isVerified = true) ∧
    (u.isVerified = false → u'.isVerified = true →
      ∃ token, r.request = .verifyEmail token ∧ Credential env s token r.now .verify id)
  /-- the password that is accepted changes with a reset token; -/
  password : ∀ id u u' q, s.getById id = some u → s'.getById id = some u' →
    env.hasher.verify u'.hashedPassword q ≠ env.hasher.verify u.hashedPassword q →
    ∃ token newPassword, r.request = .resetPassword token newPassword ∧ Credential env s token r.now .reset id
  /-- a row appears by a registration, as an active user who is not verified. -/
  created : ∀ id u', s.getById id = none → s'.getById id = some u' →
    u'.role = .user ∧ u'.isActive = true ∧ u'.isVerified = false ∧
      ∃ email password fullName raises, r.request = .register email password fullName raises

variable {env} {known : ℕ → Option String} {log : List (Timed × Except AuthError AuthReply)} {s s' : AuthState}
  {r : Timed} {reply : Except AuthError AuthReply}

/-- A decoded token whose subject is the key of a user was minted for that user. -/
theorem credential_of_decode (hparse : ∀ n, env.uuid.parse (env.uuid.str n) = some n)
    (hsubjects : ∀ p ∈ s.minted, ∃ id, p.sub = some (env.uuid.str id)) (honly : OnlyMinted env s r) {token : String}
    (hmem : token ∈ r.request.presented) {type : TokenType} {payload : Payload}
    (hdecode : decodeToken env.jwt token type r.now = .ok payload) {id : ℕ}
    (hsub : payload.sub.bind env.uuid.parse = some id) : Credential env s token r.now type id := by
  obtain ⟨hjwt, htype, -⟩ := decodeToken_ok hdecode
  obtain ⟨hminted, htoken, hexp⟩ := honly token hmem payload hjwt
  obtain ⟨n, hn⟩ := hsubjects payload hminted
  rw [hn, Option.bind_some, hparse, Option.some.injEq] at hsub
  exact ⟨payload, hminted, htoken, htype, hsub ▸ hn, hexp⟩

/-- Rows of a changed table, by key. -/
theorem getById_change {id id' : ℕ} {f : User → User} (husers : s'.users = changeUser s.users id f)
    (hid : ∀ u, (f u).id = u.id) :
    s'.getById id' = (s.getById id').map fun u => if u.id = id then f u else u := by
  rw [AuthStateOver.getById, husers, find?_changeUser hid]
  rfl

/-- Nothing happens to a flag that stays as it is. -/
theorem verified_same {b : Bool} {P : Prop} : (b = true → b = true) ∧ (b = false → b = true → P) :=
  ⟨fun h => h, fun hf ht => by rw [hf] at ht; cases ht⟩

/-- A table that keeps every row is guarded if the new rows are registered. -/
theorem guarded_extend (hget : ∀ id u, s.getById id = some u → s'.getById id = some u)
    (hcreated : ∀ id u', s.getById id = none → s'.getById id = some u' →
      u'.role = .user ∧ u'.isActive = true ∧ u'.isVerified = false ∧
        ∃ email password fullName raises, r.request = .register email password fullName raises) :
    Guarded env s r s' := by
  refine ⟨fun id u hu => ⟨u, hget id u hu, rfl, rfl, rfl⟩, fun id u u' hu hu' => ?_, fun id u u' q hu hu' hne => ?_,
    hcreated⟩
  · rw [hget id u hu, Option.some.injEq] at hu'
    exact hu' ▸ verified_same
  · rw [hget id u hu, Option.some.injEq] at hu'
    exact absurd (hu' ▸ rfl) hne

/-- A table in which one row changes is guarded if the change of that row is. -/
theorem guarded_change {id : ℕ} {f : User → User} (husers : s'.users = changeUser s.users id f)
    (hid : ∀ u, (f u).id = u.id)
    (hkept : ∀ u, (f u).email = u.email ∧ (f u).role = u.role ∧ (f u).isActive = u.isActive)
    (hverified : ∀ u, s.getById id = some u → (u.isVerified = true → (f u).isVerified = true) ∧
      (u.isVerified = false → (f u).isVerified = true →
        ∃ token, r.request = .verifyEmail token ∧ Credential env s token r.now .verify id))
    (hpassword : ∀ u q, s.getById id = some u →
      env.hasher.verify (f u).hashedPassword q ≠ env.hasher.verify u.hashedPassword q →
      ∃ token newPassword, r.request = .resetPassword token newPassword ∧ Credential env s token r.now .reset id) :
    Guarded env s r s' := by
  have hget : ∀ id', s'.getById id' = (s.getById id').map fun u => if u.id = id then f u else u :=
    fun id' => getById_change husers hid
  refine ⟨fun id' u hu => ?_, fun id' u u' hu hu' => ?_, fun id' u u' q hu hu' hne => ?_, fun id' u' hu hu' => ?_⟩
  · refine ⟨if u.id = id then f u else u, by rw [hget, hu]; rfl, ?_⟩
    split
    · exact hkept u
    · exact ⟨rfl, rfl, rfl⟩
  · rw [hget, hu, Option.map_some, Option.some.injEq] at hu'
    subst hu'
    by_cases huid : u.id = id
    · have hid' : id' = id := (AuthStateOver.getById_eq_some hu).2.symm.trans huid
      subst hid'
      rw [if_pos huid]
      exact hverified u hu
    · rw [if_neg huid]
      exact verified_same
  · rw [hget, hu, Option.map_some, Option.some.injEq] at hu'
    subst hu'
    by_cases huid : u.id = id
    · have hid' : id' = id := (AuthStateOver.getById_eq_some hu).2.symm.trans huid
      subst hid'
      rw [if_pos huid] at hne
      exact hpassword u q hu hne
    · rw [if_neg huid] at hne
      exact absurd rfl hne
  · rw [hget, hu] at hu'
    cases hu'

/-- **One request** is guarded. -/
theorem guarded_handle (hparse : ∀ n, env.uuid.parse (env.uuid.str n) = some n)
    (hhash : ∀ salt p q, env.hasher.verify (env.hasher.hash salt p) q = true ↔ p = q)
    (h : Accounts env known log s) (honly : OnlyMinted env s r) (hr : Handled env s r s' reply) :
    Guarded env s r s' := by
  have hrows := hr.rows
  generalize husers : s'.users = users, s'.nextUserId = next at hrows
  cases hrows with
  | nothing hle hgiven =>
    have hget : ∀ id, s'.getById id = s.getById id := fun id => by rw [AuthStateOver.getById, husers]; rfl
    refine guarded_extend (fun id u hu => by rw [hget, hu]) fun id u' hu hu' => ?_
    rw [hget, hu] at hu'
    cases hu'
  | @registered email password fullName raises hreq hfresh =>
    have hget : ∀ id, s'.getById id =
        (s.getById id).or (if s.nextUserId = id then some (newUser env s email password fullName) else none) := by
      intro id
      rw [AuthStateOver.getById, husers, List.find?_append]
      simp [AuthStateOver.getById, newUser, List.find?_singleton]
    refine guarded_extend (fun id u hu => by rw [hget, hu, Option.some_or]) fun id u' hu hu' => ?_
    rw [hget, hu, Option.none_or] at hu'
    split at hu' <;> cases hu'
    exact ⟨rfl, rfl, rfl, email, password, fullName, raises, hreq⟩
  | @verified token payload user hreq hdecode hsub =>
    refine guarded_change husers (fun _ => rfl) (fun _ => ⟨rfl, rfl, rfl⟩) (fun u hu => ?_) fun u q hu hne => ?_
    · refine ⟨fun _ => rfl, fun _ _ => ⟨token, hreq, ?_⟩⟩
      exact credential_of_decode hparse h.subjects honly (by simp [hreq, AuthRequest.presented]) hdecode hsub
    · exact absurd rfl hne
  | @rehashed email password tokens user hreq huser hpassword =>
    refine guarded_change husers (fun _ => rfl) (fun _ => ⟨rfl, rfl, rfl⟩) (fun u hu => ?_) fun u q hu hne => ?_
    · exact verified_same
    · -- Old and new hash are of the same password.
      obtain ⟨last, hlast, hverify⟩ := h.passwords u (List.mem_of_find?_eq_some hu)
      obtain ⟨last', hlast', hverify'⟩ := h.passwords user (List.mem_of_find?_eq_some huser)
      rw [(AuthStateOver.getById_eq_some hu).2, hlast', Option.some.injEq] at hlast
      have hsame : last' = password := (hverify' password).mp hpassword
      refine absurd (Bool.eq_iff_iff.mpr ?_) hne
      rw [hhash, hverify, ← hlast, hsame]
  | @reset token newPassword payload user hreq hdecode hsub =>
    refine guarded_change husers (fun _ => rfl) (fun _ => ⟨rfl, rfl, rfl⟩) (fun u hu => ?_) fun u q hu _ => ?_
    · exact verified_same
    · refine ⟨token, newPassword, hreq, ?_⟩
      exact credential_of_decode hparse h.subjects honly (by simp [hreq, AuthRequest.presented]) hdecode hsub

/-- With one row per address, a login needs that row to be active and to have the password. -/
theorem authenticate_iff (h : Accounts env known log s) (email password : String) :
    (∃ user, (env.authenticate s email password).2 = .ok user) ↔
      ∃ user ∈ s.users, user.isActive = true ∧ user.email = env.lower email ∧
        passwordOf env known log user.id = some password := by
  have huser : ∀ user ∈ s.users, (env.hasher.verify user.hashedPassword password = true ↔
      passwordOf env known log user.id = some password) := by
    intro user hmem
    obtain ⟨last, hlast, hverify⟩ := h.passwords user hmem
    rw [hverify, hlast, Option.some.injEq]
  have hok : (∃ user, (env.authenticate s email password).2 = .ok user) ↔
      ∃ user, s.getByEmail env.lower email = some user ∧
        env.hasher.verify user.hashedPassword password = true ∧ user.isActive = true := by
    cases hfound : s.getByEmail env.lower email with
    | none => simp [Backend.authenticate, hfound]
    | some user =>
      simp only [Backend.authenticate, hfound, Option.some.injEq, exists_eq_left']
      cases env.hasher.verify user.hashedPassword password <;> cases user.isActive <;>
        cases env.hasher.needsRehash user.hashedPassword <;> simp
  rw [hok]
  constructor
  · rintro ⟨user, hfound, hverify, hactive⟩
    obtain ⟨hmem, hemail⟩ := AuthStateOver.getByEmail_eq_some hfound
    exact ⟨user, hmem, hactive, hemail, (huser user hmem).mp hverify⟩
  · rintro ⟨user, hmem, hactive, hemail, hlast⟩
    refine ⟨user, ?_, (huser user hmem).mpr hlast, hactive⟩
    -- The row that is found has the same address, hence is this one.
    have hsome : (s.getByEmail env.lower email).isSome := by
      rw [AuthStateOver.getByEmail, List.find?_isSome]
      exact ⟨user, hmem, by simp [hemail]⟩
    obtain ⟨found, hfound⟩ := Option.isSome_iff_exists.mp hsome
    obtain ⟨hmem', hemail'⟩ := AuthStateOver.getByEmail_eq_some hfound
    have heq := List.inj_on_of_nodup_map h.emails hmem' hmem (hemail'.trans hemail.symm)
    rw [hfound, heq]

variable (env known)

/-- **Account state changes only through the right credential.** In every run, from rows that are told apart by key and
address and whose passwords are known, whatever tokens are presented where: each request is `Guarded`, and at each
point `authenticate` accepts an active user's address with the password last given for that user, and nothing else. -/
theorem accounts_change_only_by_credential (hparse : ∀ n, env.uuid.parse (env.uuid.str n) = some n)
    (hhash : ∀ salt p q, env.hasher.verify (env.hasher.hash salt p) q = true ↔ p = q) (init : AuthState)
    (hinit : Accounts env known [] init) (rs : List Timed)
    (honly : (authMachine env).Enabled (OnlyMinted env) init rs) :
    (∀ pre r post, rs = pre ++ r :: post →
      Guarded env ((authMachine env).run init pre) r ((authMachine env).run init (pre ++ [r]))) ∧
    (∀ pre post, rs = pre ++ post → ∀ email password,
      (∃ user, (env.authenticate ((authMachine env).run init pre) email password).2 = .ok user) ↔
        ∃ user ∈ ((authMachine env).run init pre).users, user.isActive = true ∧ user.email = env.lower email ∧
          passwordOf env known ((authMachine env).log init pre) user.id = some password) := by
  constructor
  · rintro pre r post rfl
    rw [Machine.enabled_append] at honly
    rw [Machine.run_snoc]
    exact guarded_handle hparse hhash (hinit.run hhash pre) honly.2.1 (handled_handle env _ r)
  · rintro pre post rfl email password
    exact authenticate_iff (hinit.run hhash pre) email password

end

/-! ## A sample run -/

/-- The number with this decimal text. -/
def decimalParse (text : String) : Option ℕ :=
  if decimalText (Nat.ofDigitChars 10 text.toList 0) = text then some (Nat.ofDigitChars 10 text.toList 0) else none

theorem decimalParse_decimalText (n : ℕ) : decimalParse (decimalText n) = some n := by
  simp [decimalParse, decimalText, Nat.ofDigitChars_ten_toDigits]

/-- The token that registering user 8 at 0 sends, and the one for a reset at 10. -/
def annTokens : List Payload := [createPayload "8" .verify 86400 0 "0", createPayload "8" .reset 3600 10 "1"]

/-- The sample backend that knows these tokens. -/
def annBackend : Backend := { sampleBackend annTokens with uuid := ⟨decimalText, decimalText, decimalParse⟩ }

theorem annBackend_verify (salt : ℕ) (p q : String) :
    annBackend.hasher.verify (annBackend.hasher.hash salt p) q = true ↔ p = q := by
  show ("hash:" ++ p == "hash:" ++ q) = true ↔ p = q
  rw [beq_iff_eq]
  constructor
  · intro h
    have hlist := congrArg String.toList h
    simp only [String.toList_append, List.append_cancel_left_eq] at hlist
    exact String.toList_injective hlist
  · rintro rfl
    rfl

/-- Ann registers, verifies, and sets a new password; the reset token is also tried where it does not belong. -/
def annRun : List Timed :=
  [⟨0, .register "Ann@example.com" "first" none false⟩, ⟨5, .verifyEmail "0"⟩,
    ⟨10, .requestPasswordReset "ann@EXAMPLE.com" false⟩, ⟨15, .refresh "1"⟩, ⟨20, .resetPassword "1" "second"⟩,
    ⟨30, .login "ann@example.com" "second"⟩]

/-- The sample user was there before, with a known password. -/
theorem accounts_oneUser :
    Accounts annBackend (fun id => if id = 7 then some "secret" else none) [] oneUser := by
  refine ⟨by decide, by decide, by decide, fun p hp => absurd hp List.not_mem_nil, fun u hu => ?_⟩
  rw [List.mem_singleton.mp hu]
  refine ⟨"secret", rfl, fun q => ?_⟩
  exact annBackend_verify 0 "secret" q

theorem annRun_onlyMinted : (authMachine annBackend).Enabled (OnlyMinted annBackend) oneUser annRun := by
  have haccepted : ∀ (s : AuthState) (now : ℚ) (token : String) (payload : Payload),
      annBackend.jwt.decode now token = .ok payload → payload ∈ s.minted → payload.jti = some token →
      (∃ exp : ℤ, payload.exp = some exp ∧ now < exp) → ∀ p, annBackend.jwt.decode now token = .ok p →
      p ∈ s.minted ∧ token = annBackend.jwt.encode p ∧ ∃ exp : ℤ, p.exp = some exp ∧ now < exp := by
    intro s now token payload hdecode hmem hjti hexp p hp
    rw [hdecode] at hp
    cases hp
    refine ⟨hmem, ?_, hexp⟩
    show token = payload.jti.getD ""
    rw [hjti]
    rfl
  have hnone : ∀ (s : AuthState) (r : Timed), r.request.presented = [] → OnlyMinted annBackend s r := by
    intro s r hr token hmem
    rw [hr] at hmem
    cases hmem
  refine ⟨hnone _ _ rfl, fun token h => ?_, hnone _ _ rfl, fun token h => ?_, fun token h => ?_, hnone _ _ rfl,
    trivial⟩
  · rw [List.mem_singleton.mp h]
    exact haccepted _ 5 "0" (createPayload "8" .verify 86400 0 "0") (by decide +kernel) (by decide +kernel) rfl
      ⟨86400, by decide +kernel, by norm_num⟩
  · rw [List.mem_singleton.mp h]
    exact haccepted _ 15 "1" (createPayload "8" .reset 3600 10 "1") (by decide +kernel) (by decide +kernel) rfl
      ⟨3610, by decide +kernel, by norm_num⟩
  · rw [List.mem_singleton.mp h]
    exact haccepted _ 20 "1" (createPayload "8" .reset 3600 10 "1") (by decide +kernel) (by decide +kernel) rfl
      ⟨3610, by decide +kernel, by norm_num⟩

/-- The reset token changed the password, and the earlier one is refused. -/
theorem annRun_second_password :
    (∃ user, (annBackend.authenticate ((authMachine annBackend).run oneUser annRun) "ann@example.com" "second").2 =
      .ok user) ∧
    ¬ ∃ user, (annBackend.authenticate ((authMachine annBackend).run oneUser annRun) "ann@example.com" "first").2 =
      .ok user := by
  have hguard := (accounts_change_only_by_credential annBackend (fun id => if id = 7 then some "secret" else none)
    decimalParse_decimalText annBackend_verify oneUser accounts_oneUser annRun annRun_onlyMinted).2 annRun []
    (List.append_nil _).symm "ann@example.com"
  rw [hguard "second", hguard "first"]
  decide +kernel

end SmartTravel
