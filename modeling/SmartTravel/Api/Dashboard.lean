import Mathlib.Data.List.Dedup
import SmartTravel.Api.Service
import SmartTravel.Services.MonitorOverlap

/-!
# The figures of the dashboard

`GET /admin/metrics` counts rows of three tables. Here the figures are described by what happened: registrations that
were answered with success, searches of callers that were recognised, alerts created, announced and deleted. One call
changes each table by what it stands for (`users_handle`, `routes_handle`, `active_handle`), and the figures after a run
are the sums (`dashboard_is_exact`).

The popular routes are the first ten groups of `GROUP BY origin, destination` in the order of their counts. Whichever
order the database chooses among equal counts, none that is left out was searched more often than one that is shown.
-/

namespace SmartTravel

open Py Runs

/-! ## What a call stands for -/

/-- A registration was answered with success. -/
def registered (e : ServiceCall × ServiceAnswer) : Bool :=
  match e.1.request, e.2 with
  | .auth (.register _ _ _ _) _, .auth (.ok (.user _)) => true
  | _, _ => false

/-- An alert was created. -/
def AlertAnswer.isCreated : AlertAnswer → Bool
  | .created _ => true
  | _ => false

def createdAlert (e : ServiceCall × ServiceAnswer) : Bool :=
  match e.2 with
  | .alert (.ok answer) => answer.isCreated
  | _ => false

/-- How many alerts a monitor run reported as triggered. -/
def triggeredBy (e : ServiceCall × ServiceAnswer) : ℕ :=
  match e.2 with
  | .monitor (.ok report) => report.triggered
  | _ => 0

/-- The request deletes an alert that is still active. -/
def AlertTable.discards (table : AlertTable) (env : AlertsEnv) : AlertRequest → Bool
  | .delete userId alertId =>
    ((env.parse alertId).bind fun id => table.getOwned id userId).any fun row => row.alert.isActive
  | _ => false

section
variable (env : ServiceEnv)

/-- The route of a successful search of a caller who is recognised. -/
def recorded (s : ServiceState) (r : ServiceCall) : Option (String × String) :=
  match r.request with
  | .searchFlights credentials _ request =>
    match env.auth.getOptionalUser s.auth credentials r.now, (s.handle env r).2 with
    | .ok (some _), .search (.ok _) => some (env.alerts.upper request.origin, env.alerts.upper request.destination)
    | _, _ => none
  | _ => none

/-- The call deletes an alert that is still active. -/
def discards (s : ServiceState) (r : ServiceCall) : Bool :=
  match r.request with
  | .alert credentials action =>
    (env.auth.mandatoryUser s.auth credentials r.now).2.toOption.any fun user =>
      s.alerts.discards env.alerts (action.request user.id r.now)
  | _ => false

end

/-! ## Users -/

/-- **One request** to the authentication endpoints adds a user exactly if it is a registration that succeeds. -/
theorem length_users_handle (env : Backend) (s : AuthState) (now : ℚ) (request : AuthRequest) (ip : Option String) :
    (env.handle s ⟨now, request⟩).1.users.length = s.users.length +
      (registered (⟨now, .auth request ip⟩, .auth (env.handle s ⟨now, request⟩).2)).toNat := by
  have hrows := (handled_handle env s ⟨now, request⟩).rows
  generalize (env.handle s ⟨now, request⟩).1.users = users at hrows
  generalize (env.handle s ⟨now, request⟩).1.nextUserId = next at hrows
  generalize (env.handle s ⟨now, request⟩).2 = reply at hrows
  cases hrows with
  | nothing hnext hgiven =>
    suffices h : registered (⟨now, .auth request ip⟩, .auth reply) = false by rw [h]; rfl
    unfold registered
    split
    · rename_i hrequest hanswer
      cases hrequest
      cases hanswer
      rename_i user
      have hnone := hgiven user.id
      simp only [given, if_true, reduceCtorEq] at hnone
    · rfl
  | registered hr =>
    cases hr
    simp only [List.length_append, List.length_singleton, registered, Bool.toNat_true]
  | verified hr =>
    cases hr
    exact List.length_map _
  | rehashed hr =>
    cases hr
    exact List.length_map _
  | reset hr =>
    cases hr
    exact List.length_map _

/-- The users that the call leaves. -/
theorem users_handle (env : ServiceEnv) (s : ServiceState) (r : ServiceCall) :
    (s.handle env r).1.auth.users.length = s.auth.users.length + (registered (r, (s.handle env r).2)).toNat := by
  obtain ⟨now, request⟩ := r
  cases request with
  | auth request ip => exact length_users_handle env.auth s.auth now request ip
  | searchFlights credentials flights request =>
    simp only [ServiceStateOver.handle]
    split <;> rfl
  | alert credentials action =>
    have hkeeps := ((keeps_frame env.auth now).mandatoryUser s.auth credentials).users
    change (s.alert env credentials action now).1.auth.users.length = _
    rw [auth_alert, hkeeps]
    rfl
  | metrics credentials order =>
    have hkeeps := ((keeps_frame env.auth now).mandatoryUser s.auth credentials).users
    change (s.adminMetrics env credentials order now).1.auth.users.length = _
    rw [auth_adminMetrics, hkeeps]
    rfl
  | monitorPrices run =>
    change (s.monitorPrices env run).1.auth.users.length = _
    rw [auth_monitorPrices]
    rfl
  | cleanupAuditLog retentionDays =>
    change (s.cleanupAuditLog retentionDays now).1.auth.users.length = _
    rw [auth_cleanupAuditLog]
    rfl

/-! ## Searches -/

/-- The route of a row of the search history. -/
def SearchHistory.route (row : SearchHistory) : String × String := (row.origin, row.destination)

/-- **One call** adds the route that it stands for to the history. -/
theorem routes_handle (env : ServiceEnv) (s : ServiceState) (r : ServiceCall) :
    (s.handle env r).1.history.map SearchHistory.route =
      s.history.map SearchHistory.route ++ (recorded env s r).toList := by
  obtain ⟨now, request⟩ := r
  cases request with
  | searchFlights credentials flights request =>
    simp only [recorded, ServiceStateOver.handle, searchFlights]
    cases env.auth.getOptionalUser s.auth credentials now with
    | error e => exact (List.append_nil _).symm
    | ok user =>
      simp only [searchFlightsFor]
      by_cases hroute : env.alerts.upper request.origin = env.alerts.upper request.destination
      · simp only [hroute, if_true]
        cases user <;> exact (List.append_nil _).symm
      · simp only [hroute, if_false]
        cases flights.search env.auth.lower _ request.sort _ request.limit request.cursor with
        | error e => cases user <;> exact (List.append_nil _).symm
        | ok result =>
          cases user with
          | none => exact List.map_append
          | some user => exact List.map_append
  | alert credentials action =>
    simp only [ServiceStateOver.handle, ServiceStateOver.alert]
    split <;> exact (List.append_nil _).symm
  | metrics credentials order =>
    simp only [ServiceStateOver.handle, ServiceStateOver.adminMetrics]
    split <;> exact (List.append_nil _).symm
  | monitorPrices run =>
    simp only [ServiceStateOver.handle, ServiceStateOver.monitorPrices]
    split <;> exact (List.append_nil _).symm
  | cleanupAuditLog retentionDays =>
    simp only [ServiceStateOver.handle, ServiceStateOver.cleanupAuditLog]
    split <;> exact (List.append_nil _).symm
  | auth => exact (List.append_nil _).symm

/-! ## Alerts -/

/-- The row with a key is counted where it stands. -/
theorem countP_filter_key {ρ κ : Type} [DecidableEq κ] {key : ρ → κ} {row : ρ} (p : ρ → Bool) : ∀ {rows : List ρ},
    (rows.map key).Nodup → row ∈ rows →
    (rows.filter fun r => key r ≠ key row).countP p + (p row).toNat = rows.countP p
  | first :: rows, hnodup, hrow => by
    rw [List.map_cons, List.nodup_cons] at hnodup
    by_cases hfirst : key first = key row
    · have hother : ∀ r ∈ rows, key r ≠ key row := fun r hr he =>
        hnodup.1 (hfirst.trans he.symm ▸ List.mem_map_of_mem hr)
      have hrow : row = first := (List.mem_cons.mp hrow).resolve_right fun hr => hother row hr rfl
      have hrest : rows.filter (fun r => key r ≠ key row) = rows := by
        refine List.filter_eq_self.mpr fun r hr => ?_
        exact decide_eq_true (hother r hr)
      rw [List.filter_cons_of_neg (by simp [hfirst]), hrest, List.countP_cons, hrow]
      cases p first <;> rfl
    · have hin : row ∈ rows := (List.mem_cons.mp hrow).resolve_left fun h => hfirst (congrArg key h.symm)
      have ih := countP_filter_key p hnodup.2 hin
      rw [List.filter_cons_of_pos (by simp [hfirst]), List.countP_cons, List.countP_cons]
      omega

namespace AlertTable

variable (table : AlertTable)

theorem length_active : table.active.length = table.rows.countP fun row => row.alert.isActive := by
  rw [active, ← List.countP_eq_length_filter, List.countP_map]
  rfl

/-- A deletion takes its row from the active ones, if it is one. -/
theorem length_active_delete {row : AlertRow} (hrow : row ∈ table.rows) :
    (table.delete row).active.length + row.alert.isActive.toNat = table.active.length := by
  rw [length_active, length_active]
  exact countP_filter_key (fun r => r.alert.isActive) table.ids_nodup hrow

/-- What a monitor run marks of the active alerts is what is due. -/
theorem find?_marked_isNone {run : MonitorRun} {due : PriceAlert → Bool} {a : PriceAlert} (ha : a ∈ table.active) :
    ((((run.arrange table.active).filter due).map (mark run)).find? fun m => m.id = a.id).isNone = !due a := by
  have hids : (table.active.map (·.id)).Nodup := by
    refine List.Nodup.sublist (List.filter_sublist.map _) ?_
    rw [List.map_map]
    exact table.ids_nodup
  have hmem : ∀ b, b ∈ run.arrange table.active ↔ b ∈ table.active := fun b => (run.arrange_perm _).mem_iff
  rw [← Option.not_isSome, Bool.not_inj_iff, Bool.eq_iff_iff, List.find?_isSome]
  constructor
  · rintro ⟨m, hm, hid⟩
    obtain ⟨b, hb, rfl⟩ := List.mem_map.mp hm
    obtain ⟨hb, hdue⟩ := List.mem_filter.mp hb
    have hba : b = a := List.inj_on_of_nodup_map hids ((hmem b).mp hb) ha (of_decide_eq_true hid)
    exact hba ▸ hdue
  · intro hdue
    exact ⟨mark run a, List.mem_map_of_mem (List.mem_filter.mpr ⟨(hmem a).mpr ha, hdue⟩), decide_eq_true rfl⟩

theorem length_active_write {marked : List PriceAlert} (hmarked : ∀ m ∈ marked, m.isActive = false) :
    (table.write marked).active.length =
      table.active.countP fun a => (marked.find? fun m => m.id = a.id).isNone := by
  rw [length_active, active, List.countP_filter, List.countP_map, write, List.countP_map]
  refine List.countP_congr fun row _ => ?_
  simp only [Function.comp_apply, isActive_writeBack hmarked, Bool.and_comm]

/-- The commit of a monitor run takes from the active ones those that it marked. -/
theorem length_active_monitor (run : MonitorRun) (due : PriceAlert → Bool) :
    (table.write (((run.arrange table.active).filter due).map (mark run))).active.length +
      (((run.arrange table.active).filter due).map (mark run)).length = table.active.length := by
  have hinactive : ∀ m ∈ ((run.arrange table.active).filter due).map (mark run), m.isActive = false := by
    intro m hm
    obtain ⟨b, -, rfl⟩ := List.mem_map.mp hm
    rfl
  have hleft : (table.write (((run.arrange table.active).filter due).map (mark run))).active.length =
      table.active.countP fun a => !due a := by
    rw [table.length_active_write hinactive]
    exact List.countP_congr fun a ha => by rw [table.find?_marked_isNone ha]
  have hmarked : ((run.arrange table.active).filter due).length = table.active.countP due := by
    rw [((run.arrange_perm table.active).filter due).length_eq, List.countP_eq_length_filter]
  have hsplit := List.length_eq_countP_add_countP due (l := table.active)
  rw [hleft, List.length_map, hmarked]
  simp only [decide_not, Bool.decide_eq_true] at hsplit
  omega

/-- **One request** for alerts changes the active ones by what it creates and discards. -/
theorem length_active_handle (env : AlertsEnv) (r : AlertRequest) :
    (table.handle env r).1.active.length + (table.discards env r).toNat =
      table.active.length + (table.handle env r).2.isCreated.toNat := by
  cases r with
  | create userId payload id now =>
    simp only [handle]
    repeat' split
    · rfl
    · rfl
    · rfl
    · rw [length_active, length_active, insert, List.countP_append]
      rfl
  | list userId order => rfl
  | delete userId alertId =>
    simp only [handle, discards]
    cases env.parse alertId with
    | none => rfl
    | some id =>
      simp only [Option.bind_some]
      cases hrow : table.getOwned id userId with
      | none => rfl
      | some row => exact table.length_active_delete (getOwned_eq_some hrow).1

end AlertTable

/-- **One call** changes the active alerts by what it creates, discards and triggers. -/
theorem active_handle (env : ServiceEnv) (s : ServiceState) (r : ServiceCall) :
    (s.handle env r).1.alerts.active.length + triggeredBy (r, (s.handle env r).2) + (discards env s r).toNat =
      s.alerts.active.length + (createdAlert (r, (s.handle env r).2)).toNat := by
  obtain ⟨now, request⟩ := r
  cases request with
  | auth => rfl
  | searchFlights credentials flights request =>
    simp only [ServiceStateOver.handle]
    split <;> rfl
  | alert credentials action =>
    simp only [ServiceStateOver.handle, ServiceStateOver.alert, discards]
    cases env.auth.mandatoryUser s.auth credentials now with
    | mk auth answer =>
      cases answer with
      | error e => rfl
      | ok user => exact s.alerts.length_active_handle env.alerts (action.request user.id now)
  | metrics credentials order =>
    simp only [ServiceStateOver.handle, ServiceStateOver.adminMetrics]
    split <;> rfl
  | monitorPrices run =>
    simp only [ServiceStateOver.handle, ServiceStateOver.monitorPrices, checkAll_eq]
    split
    · rename_i heq
      rfl
    · rename_i sent marked heq
      have hanswer := congrArg Prod.snd heq
      simp only at hanswer
      split at hanswer
      · cases hanswer
      · cases hanswer
        exact s.alerts.length_active_monitor run _
  | cleanupAuditLog retentionDays =>
    simp only [ServiceStateOver.handle, ServiceStateOver.cleanupAuditLog]
    split <;> rfl

/-! ## Popular routes -/

/-- The route of a group. -/
def RouteCount.route (group : RouteCount) : String × String := (group.origin, group.destination)

/-- The groups are the routes that were searched most, where `searches` says how often each was. -/
structure MostSearched (searches : String × String → ℕ) (groups : List RouteCount) : Prop where
  /-- At most ten, each once, the most searched first. -/
  length_le : groups.length ≤ 10
  routes_nodup : (groups.map RouteCount.route).Nodup
  ordered : groups.Pairwise fun a b => b.searches ≤ a.searches
  /-- Each with the number of its searches, of which there are some. -/
  exact : ∀ g ∈ groups, g.searches = searches g.route ∧ 0 < g.searches
  /-- A route that is left out was not searched more often than any that is shown, and not at all if there is room. -/
  others : ∀ route ∉ groups.map RouteCount.route,
    (∀ g ∈ groups, searches route ≤ g.searches) ∧ (groups.length < 10 → searches route = 0)

section
variable (history : List SearchHistory)

/-- How often a route is in the history. -/
def searchesOf (route : String × String) : ℕ := history.countP fun row => row.route = route

theorem mem_routeCounts {g : RouteCount} : g ∈ ServiceStateOver.routeCounts history ↔
    g.searches = searchesOf history g.route ∧ 0 < g.searches := by
  have hpos : ∀ route, route ∈ history.map SearchHistory.route ↔ 0 < searchesOf history route := by
    intro route
    rw [searchesOf, List.countP_pos_iff, List.mem_map]
    simp only [decide_eq_true_eq]
  constructor
  · intro h
    obtain ⟨route, hroute, rfl⟩ := List.mem_map.mp h
    refine ⟨rfl, (hpos route).mp ?_⟩
    exact List.mem_dedup.mp hroute
  · rintro ⟨hsearches, hsome⟩
    refine List.mem_map.mpr ⟨g.route, List.mem_dedup.mpr ((hpos g.route).mpr (hsearches ▸ hsome)), ?_⟩
    obtain ⟨origin, destination, searches⟩ := g
    exact congrArg (RouteCount.mk origin destination) hsearches.symm

theorem routes_routeCounts : ((ServiceStateOver.routeCounts history).map RouteCount.route).Nodup := by
  rw [ServiceStateOver.routeCounts, List.map_map]
  exact (List.nodup_dedup _).map fun _ _ h => h

/-- **The first ten groups** in an order by their counts. -/
theorem mostSearched_take (order : MostSearchedFirst) :
    MostSearched (searchesOf history) ((order.arrange (ServiceStateOver.routeCounts history)).take 10) := by
  have hperm := order.perm (ServiceStateOver.routeCounts history)
  have hmost := order.most (ServiceStateOver.routeCounts history)
  generalize order.arrange (ServiceStateOver.routeCounts history) = groups at hperm hmost
  have hmem : ∀ g, g ∈ groups ↔ g.searches = searchesOf history g.route ∧ 0 < g.searches := fun g =>
    hperm.mem_iff.trans (mem_routeCounts history)
  have hnodup : (groups.map RouteCount.route).Nodup := (hperm.map _).nodup_iff.mpr (routes_routeCounts history)
  refine ⟨List.length_take_le _ _, hnodup.sublist ((List.take_sublist _ _).map _),
    hmost.sublist (List.take_sublist _ _), fun g hg => (hmem g).mp (List.mem_of_mem_take hg), fun route hout => ?_⟩
  by_cases hzero : searchesOf history route = 0
  · exact ⟨fun g _ => hzero ▸ Nat.zero_le _, fun _ => hzero⟩
  · -- The route has a group, so that group comes after the first ten.
    have hgroup : (⟨route.1, route.2, searchesOf history route⟩ : RouteCount) ∈ groups :=
      (hmem _).mpr ⟨rfl, Nat.pos_of_ne_zero hzero⟩
    rw [← List.take_append_drop 10 groups] at hgroup hmost
    have hdrop := (List.mem_append.mp hgroup).resolve_left fun h => hout (List.mem_map_of_mem (f := RouteCount.route) h)
    refine ⟨fun g hg => (List.pairwise_append.mp hmost).2.2 g hg _ hdrop, fun hroom => ?_⟩
    have hlength := List.length_pos_of_mem hdrop
    rw [List.length_take] at hroom
    rw [List.length_drop] at hlength
    omega

end

/-! ## Runs -/

/-- The figures, by what happened in a run. -/
structure DashboardExact (env : ServiceEnv) (init : ServiceState) (rs : List ServiceCall) (shown : AdminMetrics) :
    Prop where
  /-- Every user was there or registered. -/
  users : shown.totalUsers = init.auth.users.length + ((serviceMachine env).log init rs).countP registered
  /-- Every search was there or was made by a caller who was recognised. -/
  searches : shown.totalSearches =
    init.history.length + (serviceMachine env).count (fun s r => (recorded env s r).isSome) init rs
  /-- Every alert that was active or created is active, was triggered, or was deleted while it was active. -/
  alerts : shown.activeAlerts + (((serviceMachine env).log init rs).map triggeredBy).sum +
      (serviceMachine env).count (discards env) init rs =
    init.alerts.active.length + ((serviceMachine env).log init rs).countP createdAlert
  /-- The routes shown are those that were searched most, before and in the run. -/
  routes : ∃ groups, MostSearched (fun route => searchesOf init.history route +
      (serviceMachine env).count (fun s r => decide (recorded env s r = some route)) init rs) groups ∧
    shown.popularRoutes = groups.map fun g => ⟨g.origin ++ "-" ++ g.destination, g.searches⟩

section
variable (env : ServiceEnv) (init : ServiceState) (rs : List ServiceCall)

theorem searchesOf_eq (history : List SearchHistory) (route : String × String) :
    searchesOf history route = (history.map SearchHistory.route).count route := by
  rw [searchesOf, List.count, List.countP_map]
  refine List.countP_congr fun row _ => ?_
  simp only [Function.comp_apply, decide_eq_true_eq, beq_iff_eq]

theorem searchesOf_run (route : String × String) :
    searchesOf ((serviceMachine env).run init rs).history route = searchesOf init.history route +
      (serviceMachine env).count (fun s r => decide (recorded env s r = some route)) init rs := by
  rw [← Machine.total_toNat]
  refine (serviceMachine env).growth (fun s => searchesOf s.history route) _ (fun s r => ?_) init rs
  have hroutes : ((serviceMachine env).step s r).1.history.map SearchHistory.route = _ := routes_handle env s r
  rw [searchesOf_eq, searchesOf_eq, hroutes, List.count_append]
  cases recorded env s r with
  | none => rfl
  | some found =>
    simp only [Option.toList_some, List.count_singleton, Option.some.injEq]
    by_cases h : found = route <;> simp [h]

theorem length_history_run : ((serviceMachine env).run init rs).history.length =
    init.history.length + (serviceMachine env).count (fun s r => (recorded env s r).isSome) init rs := by
  rw [← Machine.total_toNat]
  refine (serviceMachine env).growth (fun s => s.history.length) _ (fun s r => ?_) init rs
  have hroutes : ((serviceMachine env).step s r).1.history.map SearchHistory.route = _ := routes_handle env s r
  have hlength := congrArg List.length hroutes
  rw [List.length_map, List.length_append, List.length_map] at hlength
  rw [hlength]
  cases recorded env s r <;> rfl

theorem length_users_run : ((serviceMachine env).run init rs).auth.users.length =
    init.auth.users.length + ((serviceMachine env).log init rs).countP registered := by
  rw [← Machine.total_countP]
  exact (serviceMachine env).growth (fun s => s.auth.users.length) _ (users_handle env) init rs

theorem length_active_run : ((serviceMachine env).run init rs).alerts.active.length +
      (((serviceMachine env).log init rs).map triggeredBy).sum + (serviceMachine env).count (discards env) init rs =
    init.alerts.active.length + ((serviceMachine env).log init rs).countP createdAlert := by
  rw [← Machine.total_countP, ← Machine.total_log, ← Machine.total_toNat, Nat.add_assoc, ← Machine.total_add]
  refine (serviceMachine env).balance (fun s => s.alerts.active.length) _ _ (fun s r => ?_) init rs
  rw [← Nat.add_assoc]
  exact active_handle env s r

/-- **The dashboard is exact**, after every run of the service and whatever order the database chooses among routes that
were searched equally often. -/
theorem dashboard_is_exact (order : MostSearchedFirst) :
    DashboardExact env init rs (((serviceMachine env).run init rs).metrics order) where
  users := length_users_run env init rs
  searches := length_history_run env init rs
  alerts := length_active_run env init rs
  routes := by
    refine ⟨_, ?_, rfl⟩
    have hcounts : (fun route => searchesOf init.history route + (serviceMachine env).count
        (fun s r => decide (recorded env s r = some route)) init rs) =
        searchesOf ((serviceMachine env).run init rs).history :=
      funext fun route => (searchesOf_run env init rs route).symm
    rw [hcounts]
    exact mostSearched_take _ order

end

end SmartTravel
