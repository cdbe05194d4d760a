import SmartTravel.Api.AuditTrail

/-!
# Whose data a run changes

The price alerts and the search history of a user, over every endpoint of the service. A call reaches them only through
the user that its token resolves to (`own_handle`); the price monitor marks alerts and changes nothing else. A token
resolves to a user only if it was minted for that user, and behind such a token is a login (`accounted_run`). So the data
of a user who did not log in stays as it was, whatever everybody else requests (`data_changes_only_after_login`).
-/

namespace SmartTravel

open Py Runs

/-- The row without the marks of the price monitor. -/
def AlertRow.terms (row : AlertRow) : AlertRow :=
  { row with alert := { row.alert with isActive := true, triggeredAt := none } }

namespace ServiceStateOver

variable {κ : Type}

/-- The alerts of a user, as the user stated them. -/
def ownAlerts (s : ServiceStateOver κ) (userId : ℕ) : List AlertRow := (s.alerts.ownedBy userId).map AlertRow.terms

/-- The searches of a user. -/
def ownSearches (s : ServiceStateOver κ) (userId : ℕ) : List SearchHistory :=
  s.history.filter fun row => row.userId = userId

end ServiceStateOver

/-- The bearer request whose token the call presents, also where a token is optional. -/
def ServiceCall.tokenView (r : ServiceCall) : Option Timed :=
  match r.request with
  | .searchFlights credentials _ _ => some ⟨r.now, .bearer credentials⟩
  | _ => r.authView

/-- A token of the call that PyJWT accepts was minted here and has not expired. -/
def OnlyMintedTokens (env : ServiceEnv) (s : ServiceState) (r : ServiceCall) : Prop :=
  ∀ q ∈ r.tokenView, OnlyMinted env.auth s.auth q

/-! ## One call -/

section
variable {env : ServiceEnv} {s : ServiceState} {userId : ℕ}

/-- A request of another user leaves the rows of this one. -/
theorem ownedBy_foreign {table : AlertTable} {alertsEnv : AlertsEnv} {r : AlertRequest} (h : r.user ≠ userId) :
    (table.handle alertsEnv r).1.ownedBy userId = table.ownedBy userId := by
  cases r with
  | create user payload id now =>
    simp only [AlertTable.handle]
    repeat' split
    · rfl
    · rfl
    · rfl
    · simp only [AlertTable.ownedBy, AlertTable.insert, List.filter_append]
      have hother : (payload.row alertsEnv user id now).alert.userId ≠ userId := h
      simp [hother]
  | list => rfl
  | delete user alertId =>
    simp only [AlertTable.handle]
    repeat' split
    · rfl
    · rfl
    · rename_i row hfound
      obtain ⟨hmem, -, hown⟩ := getOwned_eq_some hfound
      have hother : row.alert.userId ≠ userId := hown ▸ h
      rw [ownedBy_delete hmem]
      exact List.filter_eq_self.mpr fun r _ => by simp [hother]

/-- A monitor run marks alerts. -/
theorem ownAlerts_write (table : AlertTable) (marked : List PriceAlert) :
    ((table.write marked).ownedBy userId).map AlertRow.terms = (table.ownedBy userId).map AlertRow.terms := by
  have hkeeps : ∀ alert, (writeBack marked alert).userId = alert.userId := by
    intro alert
    unfold writeBack
    split <;> rfl
  have hterms : ∀ row : AlertRow, AlertRow.terms { row with alert := writeBack marked row.alert } = row.terms := by
    intro row
    unfold writeBack
    split <;> rfl
  simp only [AlertTable.ownedBy, AlertTable.write, List.filter_map, List.map_map, Function.comp_def, hkeeps, hterms]

/-- A search is recorded for the user it was resolved to. -/
theorem searchFlightsFor_rows {backend : Backend} {upper : String → String} {service : FlightAggregationService}
    {user : Option User} {request : FlightSearchRequest} {result : SearchResult RankedFlight}
    {rows : List SearchHistory} (h : searchFlightsFor backend upper service user request = .ok (result, rows)) :
    ∀ row ∈ rows, ∃ u, user = some u ∧ row.userId = u.id := by
  unfold searchFlightsFor at h
  split at h
  · cases h
  · simp only at h
    split at h
    · cases h
    · cases h
      intro row hrow
      cases user with
      | none => cases hrow
      | some u =>
        rw [List.mem_singleton.mp hrow]
        exact ⟨u, rfl, rfl⟩

/-- **One call** changes the data of the user it resolves to only. -/
theorem own_handle {r : ServiceCall}
    (halert : ∀ credentials action, r.request = .alert credentials action → ∀ user,
      (env.auth.mandatoryUser s.auth credentials r.now).2 = .ok user → user.id ≠ userId)
    (hsearch : ∀ credentials flights request, r.request = .searchFlights credentials flights request → ∀ user,
      env.auth.getOptionalUser s.auth credentials r.now = .ok (some user) → user.id ≠ userId) :
    (s.handle env r).1.ownAlerts userId = s.ownAlerts userId ∧
      (s.handle env r).1.ownSearches userId = s.ownSearches userId := by
  obtain ⟨now, request⟩ := r
  cases request with
  | auth => exact ⟨rfl, rfl⟩
  | searchFlights credentials flights request =>
    simp only [ServiceStateOver.handle, searchFlights]
    cases huser : env.auth.getOptionalUser s.auth credentials now with
    | error e => exact ⟨rfl, rfl⟩
    | ok found =>
      simp only
      split
      · exact ⟨rfl, rfl⟩
      · rename_i result rows heq
        refine ⟨rfl, ?_⟩
        have hforeign : rows.filter (fun row => row.userId = userId) = [] := by
          refine List.filter_eq_nil_iff.mpr fun row hrow => ?_
          obtain ⟨user, hfound, hid⟩ := searchFlightsFor_rows heq row hrow
          rw [hid, decide_eq_true_eq]
          exact hsearch credentials flights request rfl user (hfound ▸ huser)
        simp only [ServiceStateOver.ownSearches, List.filter_append, hforeign, List.append_nil]
  | alert credentials action =>
    simp only [ServiceStateOver.handle, ServiceStateOver.alert]
    cases hmand : env.auth.mandatoryUser s.auth credentials now with
    | mk auth answer =>
      cases answer with
      | error e => exact ⟨rfl, rfl⟩
      | ok user =>
        have hne := halert credentials action rfl user (congrArg Prod.snd hmand)
        refine ⟨congrArg (List.map AlertRow.terms) (ownedBy_foreign ?_), rfl⟩
        cases action <;> exact hne
  | metrics credentials order =>
    simp only [ServiceStateOver.handle, ServiceStateOver.adminMetrics]
    split <;> exact ⟨rfl, rfl⟩
  | monitorPrices run =>
    simp only [ServiceStateOver.handle, ServiceStateOver.monitorPrices]
    split
    · exact ⟨rfl, rfl⟩
    · exact ⟨ownAlerts_write s.alerts _, rfl⟩
  | cleanupAuditLog retentionDays =>
    simp only [ServiceStateOver.handle, ServiceStateOver.cleanupAuditLog]
    split <;> exact ⟨rfl, rfl⟩

/-- The token behind the user of an endpoint. -/
theorem token_of_mandatoryUser {backend : Backend} {auth : AuthState} {credentials : Option String} {now : ℚ}
    {user : User} (h : (backend.mandatoryUser auth credentials now).2 = .ok user) :
    ∃ token payload, credentials = some token ∧ decodeToken backend.jwt token .access now = .ok payload ∧
      payload.sub.bind backend.uuid.parse = some user.id := by
  cases hacc : backend.getAccessPayload auth credentials now with
  | mk auth' answer =>
    rw [Backend.mandatoryUser, hacc] at h
    cases answer with
    | error e => cases h
    | ok payload =>
      obtain ⟨token, htoken, hdecode⟩ := getAccessPayload_ok (congrArg Prod.snd hacc)
      refine ⟨token, payload, htoken, hdecode, ?_⟩
      simp only [Backend.getCurrentUser] at h
      split at h
      · cases h
      · cases h
      · rename_i row hsub
        split at h
        · cases h
        · cases h
          exact subjectOf_some hsub

theorem token_of_getOptionalUser {backend : Backend} {auth : AuthState} {credentials : Option String} {now : ℚ}
    {user : User} (h : backend.getOptionalUser auth credentials now = .ok (some user)) :
    ∃ token payload, credentials = some token ∧ decodeToken backend.jwt token .access now = .ok payload ∧
      payload.sub.bind backend.uuid.parse = some user.id := by
  cases credentials with
  | none => cases h
  | some token =>
    cases hdecode : decodeToken backend.jwt token .access now with
    | error detail =>
      simp only [Backend.getOptionalUser, hdecode] at h
      cases h
    | ok payload =>
      rw [getOptionalUser_of_decode hdecode] at h
      exact ⟨token, payload, rfl, hdecode, subjectOf_some h⟩

/-! ## Runs -/

variable (env)

/-- The answer is a login of the user, found by the address in the table. -/
def LoginOf (users : List User) (userId : ℕ) (e : ServiceCall × ServiceAnswer) : Prop :=
  ∃ row, auditEntry env.auth users e = some row ∧ row.action = "user.login" ∧ row.actorId = some userId

variable {env} (hparse : ∀ n, env.auth.uuid.parse (env.auth.uuid.str n) = some n)
include hparse

/-- **A token does not resolve to a user who did not log in**, if sessions are accounted for. -/
theorem ne_of_no_login {ordered : Prop} {log : List (ServiceCall × ServiceAnswer)}
    (haccounted : ∀ p ∈ s.auth.minted, p.IsSession → Accounted env ordered s.auth.users log p)
    (hnone : ∀ e ∈ log, ¬ LoginOf env s.auth.users userId e) {r : ServiceCall} (hminted : OnlyMintedTokens env s r)
    {credentials : Option String} (hview : r.tokenView = some ⟨r.now, .bearer credentials⟩) {id : ℕ}
    (htoken : ∃ token payload, credentials = some token ∧
      decodeToken env.auth.jwt token .access r.now = .ok payload ∧ payload.sub.bind env.auth.uuid.parse = some id) :
    id ≠ userId := by
  rintro rfl
  obtain ⟨token, payload, rfl, hdecode, hsub⟩ := htoken
  obtain ⟨hjwt, htype, -⟩ := decodeToken_ok hdecode
  obtain ⟨hmem, -, -⟩ := hminted _ hview token (by simp [AuthRequest.presented]) payload hjwt
  obtain ⟨e, he, row, id', hlogin⟩ := haccounted payload hmem (.inl htype)
  rw [hlogin.subject, Option.bind_some, hparse] at hsub
  cases hsub
  exact hnone e he ⟨row, hlogin.entry, hlogin.action, hlogin.actor⟩

end

/-- Tokens that are minted here in the calls are minted here in what the sessions see of them. -/
theorem enabled_authView {env : ServiceEnv} : ∀ {rs : List ServiceCall} {s : ServiceState},
    (serviceMachine env).Enabled (OnlyMintedTokens env) s rs →
      (authMachine env.auth).Enabled (OnlyMinted env.auth) s.auth (rs.filterMap ServiceCall.authView)
  | [], _, _ => trivial
  | r :: rs, s, hen => by
    have ih := enabled_authView hen.2
    have hstep : ((serviceMachine env).step s r).1.auth = _ := auth_handle env s r
    rw [hstep] at ih
    rw [List.filterMap_cons]
    cases hview : r.authView with
    | none =>
      rw [hview] at ih
      exact ih
    | some q =>
      rw [hview] at ih
      refine ⟨hen.1 q ?_, ih⟩
      obtain ⟨now, request⟩ := r
      cases request with
      | searchFlights => cases hview
      | _ => exact hview

/-- **The data of a user who does not log in stays.** In every run from a state without tokens in which no login of the
user succeeds, the user's alerts keep their terms, none is added or deleted, and no search is recorded for the user,
whatever others request and whatever they present as tokens. -/
theorem data_changes_only_after_login (env : ServiceEnv)
    (hparse : ∀ n, env.auth.uuid.parse (env.auth.uuid.str n) = some n) (init : ServiceState)
    (hinit : init.auth.minted = []) (rs : List ServiceCall)
    (hminted : (serviceMachine env).Enabled (OnlyMintedTokens env) init rs) (userId : ℕ)
    (hnone : ∀ e ∈ (serviceMachine env).log init rs,
      ¬ LoginOf env ((serviceMachine env).run init rs).auth.users userId e) :
    ((serviceMachine env).run init rs).ownAlerts userId = init.ownAlerts userId ∧
      ((serviceMachine env).run init rs).ownSearches userId = init.ownSearches userId := by
  induction rs using List.reverseRecOn with
  | nil => exact ⟨rfl, rfl⟩
  | append_singleton rs r ih =>
    rw [Machine.enabled_snoc] at hminted
    obtain ⟨hbefore, hlast⟩ := hminted
    rw [Machine.run_snoc, Machine.log_snoc] at hnone
    have haccounted := accounted_run env hparse init hinit rs (enabled_authView hbefore)
    generalize hs : (serviceMachine env).run init rs = s at *
    -- A login that is found among the users now is found among the users afterwards.
    have hknows : Knows (s.handle env r).1.auth.users s.auth := by
      rw [auth_handle]
      cases r.authView with
      | none => exact knows_run env.auth [] s.auth
      | some q => exact knows_run env.auth [q] s.auth
    have hnone' : ∀ e ∈ (serviceMachine env).log init rs, ¬ LoginOf env s.auth.users userId e := by
      rintro e he ⟨row, hentry, haction, hactor⟩
      exact hnone e (List.mem_append_left _ he) ⟨row, auditEntry_knows hknows hentry hactor, haction, hactor⟩
    obtain ⟨halerts, hsearches⟩ := ih hbefore hnone'
    rw [Machine.run_snoc, hs]
    obtain ⟨halerts', hsearches'⟩ : (s.handle env r).1.ownAlerts userId = s.ownAlerts userId ∧
        (s.handle env r).1.ownSearches userId = s.ownSearches userId := by
      apply own_handle
      · intro credentials action hr user huser
        exact ne_of_no_login hparse haccounted hnone' hlast
          (by simp only [ServiceCall.tokenView, ServiceCall.authView, hr]) (token_of_mandatoryUser huser)
      · intro credentials flights request hr user huser
        exact ne_of_no_login hparse haccounted hnone' hlast
          (by simp only [ServiceCall.tokenView, hr]) (token_of_getOptionalUser huser)
    exact ⟨halerts'.trans halerts, hsearches'.trans hsearches⟩

/-- The sample user and another one, who has an alert. -/
def twoTenants : ServiceState where
  auth := { oneUser with users := [sampleUser, { sampleUser with id := 8, email := "other@example.com" }] }
  alerts := ⟨[⟨⟨1, 8, "THR", "IST", "2026-08-10", 10000, "USD", .email, true, none⟩, 0⟩], List.nodup_singleton _⟩
  history := []
  audit := []
  sent := []

/-- The sample user logs in and tries to delete the other user's alert. -/
def intrusion : List ServiceCall :=
  [⟨0, .auth (.login "Watcher@example.com" "secret") none⟩, ⟨5, .alert (some "0") (.delete "1")⟩]

/-- The other user's data stays. -/
theorem intrusion_changes_nothing :
    ((serviceMachine auditedEnv).run twoTenants intrusion).ownAlerts 8 = twoTenants.ownAlerts 8 ∧
      ((serviceMachine auditedEnv).run twoTenants intrusion).ownSearches 8 = twoTenants.ownSearches 8 := by
  have hsample : ∀ {s : ServiceState} {r : ServiceCall} {q : Timed}, r.tokenView = some q →
      (q.request.presented ≠ [] → [firstAccess, firstRefresh] ⊆ s.auth.minted) → OnlyMintedTokens auditedEnv s r := by
    intro s r q hview h q' hq'
    rw [hview] at hq'
    cases hq'
    exact onlyMinted_sampleBackend h
  have hminted : (serviceMachine auditedEnv).Enabled (OnlyMintedTokens auditedEnv) twoTenants intrusion := by
    refine ⟨hsample rfl ?_, hsample rfl ?_, trivial⟩
    all_goals decide +kernel
  have hothers : (((serviceMachine auditedEnv).log twoTenants intrusion).all fun e =>
      (auditEntry auditedEnv.auth ((serviceMachine auditedEnv).run twoTenants intrusion).auth.users e).all fun row =>
        row.actorId ≠ some 8) = true := by decide +kernel
  refine data_changes_only_after_login auditedEnv decimalParse_decimalText twoTenants rfl intrusion hminted 8 ?_
  rintro e he ⟨row, hentry, -, hactor⟩
  have hrow := List.all_eq_true.mp hothers e he
  rw [hentry] at hrow
  exact of_decide_eq_true hrow hactor

end SmartTravel
