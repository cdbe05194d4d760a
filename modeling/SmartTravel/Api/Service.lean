import SmartTravel.Api.Sessions
import SmartTravel.Api.PriceAlerts
import SmartTravel.Services.PriceMonitor

/-!
# The service

Every endpoint that touches the database, and the two periodic tasks, as inputs of one machine over all tables: the
authentication endpoints with their entries in the audit log, flight searches with the search history, the price alerts
of the current user, the metrics for administrators, `monitor_prices` and `cleanup_audit_log`. Each input is one session
that commits or is rolled back.

The users, the tokens and the denylist see of all this only what they see of the authentication endpoints: a run of the
service is a run of `authMachine` for them (`auth_run`), with a bearer request for each endpoint behind a token. So what
holds along the runs of that machine holds along the runs of the service.
-/

namespace SmartTravel

open Py Runs

/-- The tables of the database with the cache and the mail, and the announcements of the price monitor. -/
structure ServiceStateOver (κ : Type) where
  auth : AuthStateOver κ
  alerts : AlertTable
  history : List SearchHistory
  audit : List AuditLog
  sent : List Announcement

/-- With a cache of one of the two kinds. -/
abbrev ServiceState := ServiceStateOver Cache

/-- What the endpoints are built from. -/
structure ServiceEnv where
  auth : Backend
  alerts : AlertsEnv
  fromisoformat : String → Option Date

/-- An endpoint below `/price-alerts`. -/
inductive AlertAction where
  | create (payload : PriceAlertCreate) (id : ℕ)
  | list (order : NewestFirst)
  | delete (alertId : String)

/-- The request of the current user. -/
def AlertAction.request (userId : ℕ) (now : ℚ) : AlertAction → AlertRequest
  | .create payload id => .create userId payload id now
  | .list order => .list userId order
  | .delete alertId => .delete userId alertId

/-- How often a route was searched. -/
structure RouteCount where
  origin : String
  destination : String
  searches : ℕ
deriving DecidableEq

/-- How the database returns groups in `ORDER BY count(*) DESC`. -/
structure MostSearchedFirst where
  arrange : List RouteCount → List RouteCount
  perm : ∀ groups, (arrange groups).Perm groups
  most : ∀ groups, (arrange groups).Pairwise fun a b => b.searches ≤ a.searches

/-- An entry of `popular_routes`. -/
structure PopularRoute where
  route : String
  searches : ℕ
deriving DecidableEq

/-- `AdminMetrics`. -/
structure AdminMetrics where
  totalUsers : ℕ
  totalSearches : ℕ
  activeAlerts : ℕ
  popularRoutes : List PopularRoute
deriving DecidableEq

/-- How an endpoint for administrators refuses. -/
inductive AdminError where
  | auth (error : AuthError)
  | permissionDenied (detail : String)
deriving DecidableEq

/-- A request, with the address of its client where that is recorded, or a task. -/
inductive ServiceRequest where
  | auth (request : AuthRequest) (ip : Option String)
  | searchFlights (credentials : Option String) (flights : FlightAggregationService) (request : FlightSearchRequest)
  | alert (credentials : Option String) (action : AlertAction)
  | metrics (credentials : Option String) (order : MostSearchedFirst)
  | monitorPrices (run : MonitorRun)
  | cleanupAuditLog (retentionDays : ℤ)

/-- A request at a time. -/
structure ServiceCall where
  now : ℚ
  request : ServiceRequest

/-- What a request is answered, or a task returns; `none` is the `OverflowError` of a cutoff that is no date. -/
inductive ServiceAnswer where
  | auth (answer : Except AuthError AuthReply)
  | search (answer : Except FlightSearchError (SearchResult RankedFlight))
  | alert (answer : Except AuthError AlertAnswer)
  | metrics (answer : Except AdminError AdminMetrics)
  | monitor (answer : Except MonitorError MonitorReport)
  | cleanup (removed : Option ℕ)

namespace Backend

variable (env : Backend) {κ : Type}

/-- `require_admin` behind `get_current_user`. -/
def requireAdmin [CacheProtocol κ] (s : AuthStateOver κ) (credentials : Option String) (now : ℚ) :
    AuthStateOver κ × Except AdminError User :=
  match env.mandatoryUser s credentials now with
  | (s, .error e) => (s, .error (.auth e))
  | (s, .ok user) =>
    (s, if user.role ≠ .admin then .error (.permissionDenied "admin privileges required") else .ok user)

/-- The row that `register`, `login` and `logout` add to the audit log, in the session of the request. -/
def auditRow [CacheProtocol κ] (s : AuthStateOver κ) (r : Timed) (ip : Option String)
    (reply : Except AuthError AuthReply) : Option AuditLog :=
  match r.request, reply with
  | .register _ _ _ _, .ok (.user user) => some ⟨some user.id, "user.register", "", ip, r.now⟩
  | .login email password, .ok _ =>
    (env.authenticate s email password).2.toOption.map fun user => ⟨some user.id, "user.login", "", ip, r.now⟩
  | .logout credentials _, .ok _ =>
    ((env.getAccessPayload s credentials r.now).2.toOption.bind fun payload => payload.sub.bind env.uuid.parse).map
      fun id => ⟨some id, "user.logout", "", ip, r.now⟩
  | _, _ => none

end Backend

namespace AlertTable

/-- The commit of a monitor run. -/
def write (table : AlertTable) (marked : List PriceAlert) : AlertTable where
  rows := table.rows.map fun row => { row with alert := writeBack marked row.alert }
  ids_nodup := by
    have hids : (table.rows.map fun row => { row with alert := writeBack marked row.alert : AlertRow }).map
        (·.alert.id) = table.rows.map (·.alert.id) := by
      rw [List.map_map]
      exact List.map_congr_left fun row _ => writeBack_id marked row.alert
    exact hids ▸ table.ids_nodup

/-- `list_active`, before the database puts the rows in an order. -/
def active (table : AlertTable) : List PriceAlert := (table.rows.map (·.alert)).filter (·.isActive)

end AlertTable

namespace ServiceStateOver

variable {κ : Type}

/-- `GROUP BY origin, destination` with `count(*)`. -/
def routeCounts (history : List SearchHistory) : List RouteCount :=
  (history.map fun row => (row.origin, row.destination)).dedup.map fun route =>
    ⟨route.1, route.2, history.countP fun row => (row.origin, row.destination) = route⟩

/-- What `metrics` reads. -/
def metrics (s : ServiceStateOver κ) (order : MostSearchedFirst) : AdminMetrics where
  totalUsers := s.auth.users.length
  totalSearches := s.history.length
  activeAlerts := s.alerts.active.length
  popularRoutes := ((order.arrange (routeCounts s.history)).take 10).map fun group =>
    ⟨group.origin ++ "-" ++ group.destination, group.searches⟩

/-- The first moment that `datetime` can express, and the first one after its last. -/
def firstMoment : ℚ := -62135596800

def endOfTime : ℚ := 253402300800

/-- `_cleanup_audit_log`. -/
def cleanupAuditLog (s : ServiceStateOver κ) (retentionDays : ℤ) (now : ℚ) : ServiceStateOver κ × Option ℕ :=
  let cutoff := now - retentionDays * 86400
  if firstMoment ≤ cutoff ∧ cutoff < endOfTime then
    ({ s with audit := s.audit.filter fun row => ¬ row.createdAt < cutoff },
      some (s.audit.countP fun row => row.createdAt < cutoff))
  else (s, none)

variable (env : ServiceEnv)

/-- `_monitor_prices`, with nothing deleted while it runs. -/
def monitorPrices (s : ServiceStateOver κ) (run : MonitorRun) :
    ServiceStateOver κ × Except MonitorError MonitorReport :=
  let active := run.arrange s.alerts.active
  match checkAll env.auth.lower env.fromisoformat run s.auth.users active with
  | (sent, .error e) => ({ s with sent := s.sent ++ sent }, .error e)
  | (sent, .ok marked) =>
    ({ s with sent := s.sent ++ sent, alerts := s.alerts.write marked }, .ok ⟨active.length, marked.length⟩)

/-- An endpoint below `/price-alerts`. -/
def alert [CacheProtocol κ] (s : ServiceStateOver κ) (credentials : Option String) (action : AlertAction) (now : ℚ) :
    ServiceStateOver κ × Except AuthError AlertAnswer :=
  match env.auth.mandatoryUser s.auth credentials now with
  | (auth, .error e) => ({ s with auth := auth }, .error e)
  | (auth, .ok user) =>
    let (alerts, answer) := s.alerts.handle env.alerts (action.request user.id now)
    ({ s with auth := auth, alerts := alerts }, .ok answer)

/-- `GET /admin/metrics`. -/
def adminMetrics [CacheProtocol κ] (s : ServiceStateOver κ) (credentials : Option String) (order : MostSearchedFirst)
    (now : ℚ) : ServiceStateOver κ × Except AdminError AdminMetrics :=
  match env.auth.requireAdmin s.auth credentials now with
  | (auth, .error e) => ({ s with auth := auth }, .error e)
  | (auth, .ok _) => ({ s with auth := auth }, .ok (s.metrics order))

/-- One request or task. -/
def handle [CacheProtocol κ] (s : ServiceStateOver κ) (r : ServiceCall) : ServiceStateOver κ × ServiceAnswer :=
  match r.request with
  | .auth request ip =>
    let (auth, reply) := env.auth.handle s.auth ⟨r.now, request⟩
    ({ s with auth := auth, audit := s.audit ++ (env.auth.auditRow s.auth ⟨r.now, request⟩ ip reply).toList },
      .auth reply)
  | .searchFlights credentials flights request =>
    match searchFlights env.auth env.alerts.upper flights s.auth credentials r.now request with
    | .error e => (s, .search (.error e))
    | .ok (result, rows) => ({ s with history := s.history ++ rows }, .search (.ok result))
  | .alert credentials action =>
    let (s, answer) := s.alert env credentials action r.now
    (s, .alert answer)
  | .metrics credentials order =>
    let (s, answer) := s.adminMetrics env credentials order r.now
    (s, .metrics answer)
  | .monitorPrices run =>
    let (s, answer) := s.monitorPrices env run
    (s, .monitor answer)
  | .cleanupAuditLog retentionDays =>
    let (s, removed) := s.cleanupAuditLog retentionDays r.now
    (s, .cleanup removed)

end ServiceStateOver

/-- The service over a cache, as a machine. -/
def serviceOver (κ : Type) [CacheProtocol κ] (env : ServiceEnv) :
    Machine (ServiceStateOver κ) ServiceCall ServiceAnswer := ⟨fun s r => s.handle env r⟩

/-- The service over a cache of one of the two kinds. -/
def serviceMachine (env : ServiceEnv) : Machine ServiceState ServiceCall ServiceAnswer := ⟨fun s r => s.handle env r⟩

/-- The price monitor of the service is the one on its own store, when nothing is deleted while it runs. -/
theorem monitorPrices_eq (env : ServiceEnv) (s : ServiceState) {run : MonitorRun} (hdeleted : run.deleted = [])
    {store : MonitorStore} (husers : store.users = s.auth.users) (halerts : store.alerts = s.alerts.rows.map (·.alert))
    (hsent : store.sent = s.sent) :
    let after := monitorPrices env.auth.lower env.fromisoformat run store
    (s.monitorPrices env run).2 = after.2 ∧ (s.monitorPrices env run).1.sent = after.1.sent ∧
      (s.monitorPrices env run).1.alerts.rows.map (·.alert) = after.1.alerts := by
  have hactive : s.alerts.active = store.active := by rw [AlertTable.active, MonitorStore.active, halerts]
  have hkept : (store.delete run.deleted).alerts = store.alerts := by
    rw [hdeleted]
    exact List.filter_eq_self.mpr fun _ _ => by simp
  simp only [ServiceStateOver.monitorPrices, monitorPrices, hactive, ← husers]
  cases checkAll env.auth.lower env.fromisoformat run store.users (run.arrange store.active) with
  | mk sent outcome =>
    cases outcome with
    | error e =>
      refine ⟨rfl, by rw [← hsent]; rfl, ?_⟩
      change s.alerts.rows.map (·.alert) = (store.delete run.deleted).alerts
      rw [hkept, halerts]
    | ok marked =>
      have hstale : (marked.any fun m => m.id ∈ run.deleted) = false := by simp [hdeleted]
      simp only [hstale, Bool.false_eq_true, if_false]
      refine ⟨trivial, by rw [← hsent]; rfl, ?_⟩
      change (s.alerts.write marked).rows.map (·.alert) = (store.delete run.deleted).alerts.map (writeBack marked)
      rw [hkept, halerts, AlertTable.write, List.map_map, List.map_map]
      rfl

/-! ## What the users and their sessions see -/

/-- The request to the authentication endpoints that the call is for the users, the tokens and the denylist. -/
def ServiceCall.authView (r : ServiceCall) : Option Timed :=
  match r.request with
  | .auth request _ => some ⟨r.now, request⟩
  | .alert credentials _ => some ⟨r.now, .bearer credentials⟩
  | .metrics credentials _ => some ⟨r.now, .bearer credentials⟩
  | .searchFlights _ _ _ | .monitorPrices _ | .cleanupAuditLog _ => none

section
variable (env : ServiceEnv) (s : ServiceState)

theorem auth_alert (credentials : Option String) (action : AlertAction) (now : ℚ) :
    (s.alert env credentials action now).1.auth = (env.auth.mandatoryUser s.auth credentials now).1 := by
  unfold ServiceStateOver.alert
  split <;> rename_i heq <;> rw [heq]

theorem auth_adminMetrics (credentials : Option String) (order : MostSearchedFirst) (now : ℚ) :
    (s.adminMetrics env credentials order now).1.auth = (env.auth.mandatoryUser s.auth credentials now).1 := by
  unfold ServiceStateOver.adminMetrics Backend.requireAdmin
  cases env.auth.mandatoryUser s.auth credentials now with
  | mk auth answer =>
    cases answer with
    | error e => rfl
    | ok user =>
      simp only
      split <;> rename_i heq <;> exact (congrArg Prod.fst heq).symm

theorem auth_monitorPrices (run : MonitorRun) : (s.monitorPrices env run).1.auth = s.auth := by
  unfold ServiceStateOver.monitorPrices
  simp only
  split <;> rfl

theorem auth_cleanupAuditLog (retentionDays : ℤ) (now : ℚ) : (s.cleanupAuditLog retentionDays now).1.auth = s.auth := by
  unfold ServiceStateOver.cleanupAuditLog
  simp only
  split <;> rfl

/-- A bearer request leaves the state that its dependency leaves. -/
theorem handle_bearer (s : AuthState) (credentials : Option String) (now : ℚ) :
    (env.auth.handle s ⟨now, .bearer credentials⟩).1 = (env.auth.mandatoryUser s credentials now).1 := by
  have hsession := transaction_eq_self (fun s => env.auth.mandatoryUser s credentials now)
    ((keeps_frame env.auth now).mandatoryUser s credentials).users
  simp only [Backend.handle, hsession]

/-- **One call** is a request to the authentication endpoints, or nothing, for the users and their sessions. -/
theorem auth_handle (r : ServiceCall) : (s.handle env r).1.auth =
    (r.authView.elim s.auth fun q => (env.auth.handle s.auth q).1) := by
  obtain ⟨now, request⟩ := r
  cases request with
  | auth request ip => rfl
  | searchFlights credentials flights request =>
    simp only [ServiceStateOver.handle, ServiceCall.authView]
    split <;> rfl
  | alert credentials action =>
    simp only [ServiceStateOver.handle, ServiceCall.authView, Option.elim, handle_bearer]
    exact auth_alert env s credentials action now
  | metrics credentials order =>
    simp only [ServiceStateOver.handle, ServiceCall.authView, Option.elim, handle_bearer]
    exact auth_adminMetrics env s credentials order now
  | monitorPrices run => exact auth_monitorPrices env s run
  | cleanupAuditLog retentionDays => exact auth_cleanupAuditLog s retentionDays now

/-- **A run of the service** is a run of the authentication endpoints for them. -/
theorem auth_run : ∀ (rs : List ServiceCall) (s : ServiceState), ((serviceMachine env).run s rs).auth =
    (authMachine env.auth).run s.auth (rs.filterMap ServiceCall.authView)
  | [], _ => rfl
  | r :: rs, s => by
    have hstep : ((serviceMachine env).step s r).1.auth =
        (r.authView.elim s.auth fun q => (env.auth.handle s.auth q).1) := auth_handle env s r
    rw [Machine.run_cons, auth_run rs, hstep, List.filterMap_cons]
    cases r.authView <;> rfl

end

/-! ## What is left of a row -/

section
variable (env : Backend) {β : Type} (g : User → β)
  (hg : ∀ (u : User) hashed verified, g { u with hashedPassword := hashed, isVerified := verified } = g u)
include hg

/-- **One request** adds rows of plain users, and of a row it changes at most the hash and the mark that the address is
verified. -/
theorem map_users_handle (s : AuthState) (r : Timed) : ∃ added : List User,
    (env.handle s r).1.users.map g = s.users.map g ++ added.map g ∧ ∀ u ∈ added, u.role = .user := by
  have hrows := (handled_handle env s r).rows
  generalize (env.handle s r).1.users = users at hrows
  generalize (env.handle s r).1.nextUserId = next at hrows
  generalize (env.handle s r).2 = reply at hrows
  have hsame : ∀ {f : User → User} {id : ℕ}, (∀ u, g (f u) = g u) → ∃ added : List User,
      (changeUser s.users id f).map g = s.users.map g ++ added.map g ∧ ∀ u ∈ added, u.role = .user := by
    intro f id hf
    refine ⟨[], ?_, fun u hu => absurd hu List.not_mem_nil⟩
    rw [map_changeUser hf, List.map_nil, List.append_nil]
  cases hrows with
  | nothing => exact ⟨[], by rw [List.map_nil, List.append_nil], fun u hu => absurd hu List.not_mem_nil⟩
  | @registered email password fullName raises =>
    refine ⟨[newUser env s email password fullName], List.map_append, fun u hu => ?_⟩
    rw [List.mem_singleton.mp hu]
    rfl
  | verified =>
    apply hsame
    exact fun u => hg u u.hashedPassword true
  | rehashed =>
    apply hsame
    exact fun u => hg u _ u.isVerified
  | reset =>
    apply hsame
    exact fun u => hg u _ u.isVerified

theorem map_users_run : ∀ (rs : List Timed) (s : AuthState), ∃ added : List User,
    ((authMachine env).run s rs).users.map g = s.users.map g ++ added.map g ∧ ∀ u ∈ added, u.role = .user
  | [], s => ⟨[], by rw [List.map_nil, List.append_nil]; rfl, fun u hu => absurd hu List.not_mem_nil⟩
  | r :: rs, s => by
    obtain ⟨added, hstep, hplain⟩ := map_users_handle env g hg s r
    obtain ⟨added', hrest, hplain'⟩ := map_users_run rs (env.handle s r).1
    refine ⟨added ++ added', ?_, fun u hu => ?_⟩
    · rw [List.map_append, ← List.append_assoc, ← hstep, ← hrest]
      rfl
    · rcases List.mem_append.mp hu with hu | hu
      · exact hplain u hu
      · exact hplain' u hu

end

end SmartTravel
