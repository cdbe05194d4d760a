import SmartTravel.Api.Service

/-!
# Administrators

No endpoint grants a role: `register` inserts a plain user, and what else a request does to a row leaves the role alone
(`map_users_handle`). Hence the keys and roles of the table only grow, by plain users (`roles_run`), and `GET /admin/metrics`
is answered exactly to callers who were administrators from the beginning (`admins_are_appointed`).
-/

namespace SmartTravel

open Py Runs

/-- The key and the role of each row. -/
def roles (users : List User) : List (ℕ × UserRole) := users.map fun u => (u.id, u.role)

/-- The role that the table gives to a key. -/
def roleOf (users : List User) (id : ℕ) : Option UserRole := (users.find? fun u => u.id = id).map (·.role)

theorem roleOf_eq (users : List User) (id : ℕ) :
    roleOf users id = ((roles users).find? fun e => e.1 = id).map (·.2) := by
  rw [roleOf, roles, List.find?_map, Option.map_map]
  rfl

section
variable (env : Backend)

/-- **A run** adds plain users to the table and leaves the roles that are there. -/
theorem roles_run (rs : List Timed) (s : AuthState) :
    ∃ ids : List ℕ, roles ((authMachine env).run s rs).users = roles s.users ++ ids.map fun id => (id, .user) := by
  obtain ⟨added, hmap, hplain⟩ := map_users_run env (fun u => (u.id, u.role)) (fun _ _ _ => rfl) rs s
  refine ⟨added.map (·.id), ?_⟩
  rw [roles, hmap, List.map_map]
  congr 1
  refine List.map_congr_left fun u hu => ?_
  rw [hplain u hu]
  rfl

/-- After a run a key is an administrator's exactly if it was before. -/
theorem roleOf_run (rs : List Timed) (s : AuthState) (id : ℕ) :
    roleOf ((authMachine env).run s rs).users id = some .admin ↔ roleOf s.users id = some .admin := by
  obtain ⟨ids, hroles⟩ := roles_run env rs s
  rw [roleOf_eq, roleOf_eq, hroles, List.find?_append]
  cases (roles s.users).find? (fun e => e.1 = id) with
  | some e => rfl
  | none =>
    simp only [Option.none_or, Option.map_none, reduceCtorEq, iff_false]
    intro h
    obtain ⟨e, hfound, hadmin⟩ := Option.map_eq_some_iff.mp h
    obtain ⟨id', -, rfl⟩ := List.mem_map.mp (List.mem_of_find?_eq_some hfound)
    cases hadmin

end

/-- The user that a token resolves to is the row with its key. -/
theorem role_of_mandatoryUser {env : Backend} {s : AuthState} {credentials : Option String} {now : ℚ} {user : User}
    (h : (env.mandatoryUser s credentials now).2 = .ok user) : roleOf s.users user.id = some user.role := by
  have hkeeps := ((keeps_frame env now).getAccessPayload s credentials).users
  unfold Backend.mandatoryUser at h
  cases hacc : env.getAccessPayload s credentials now with
  | mk s' answer =>
    rw [hacc] at h hkeeps
    cases answer with
    | error e => cases h
    | ok payload =>
      simp only [Backend.getCurrentUser] at h
      cases hsub : env.subjectOf s' payload with
      | error e => rw [hsub] at h; cases h
      | ok found =>
        cases found with
        | none => rw [hsub] at h; cases h
        | some row =>
          rw [hsub] at h
          simp only at h
          split at h
          · cases h
          · cases h
            simp only [Backend.subjectOf] at hsub
            split at hsub
            · cases hsub
            · rename_i id hid
              have hfound : s'.getById id = some user := Except.ok.inj hsub
              have hkey := (AuthStateOver.getById_eq_some hfound).2
              have husers : s'.users = s.users := hkeeps
              rw [AuthStateOver.getById, husers] at hfound
              rw [roleOf, hkey, hfound]
              rfl

/-- **Administrators are appointed, not made.** After every run of the service, whatever was requested in it: the rows of
the table have the keys and roles they had, followed by those of plain users; and the metrics are shown to a caller with
a good token if and only if the row with the caller's key was an administrator's at the start. -/
theorem admins_are_appointed (env : ServiceEnv) (init : ServiceState) (rs : List ServiceCall) :
    (∃ ids : List ℕ, roles ((serviceMachine env).run init rs).auth.users =
      roles init.auth.users ++ ids.map fun id => (id, .user)) ∧
    ∀ credentials order now, (((serviceMachine env).run init rs).adminMetrics env credentials order now).2 =
      match (env.auth.mandatoryUser ((serviceMachine env).run init rs).auth credentials now).2 with
      | .error e => .error (.auth e)
      | .ok user =>
        if roleOf init.auth.users user.id = some .admin then .ok (((serviceMachine env).run init rs).metrics order)
        else .error (.permissionDenied "admin privileges required") := by
  have hrun := auth_run env rs init
  constructor
  · rw [hrun]
    exact roles_run env.auth _ init.auth
  · intro credentials order now
    generalize hs : (serviceMachine env).run init rs = s at hrun
    simp only [ServiceStateOver.adminMetrics, Backend.requireAdmin]
    cases hmand : env.auth.mandatoryUser s.auth credentials now with
    | mk auth answer =>
      cases answer with
      | error e => rfl
      | ok user =>
        have hrole := role_of_mandatoryUser (congrArg Prod.snd hmand)
        have hadmin := roleOf_run env.auth (rs.filterMap ServiceCall.authView) init.auth user.id
        rw [← hrun, hrole, Option.some.injEq] at hadmin
        by_cases hrow : user.role = .admin
        · simp only [hrow, ne_eq, not_true_eq_false, if_false, hadmin.mp hrow, if_true]
        · simp only [hrow, ne_eq, not_false_eq_true, if_true, mt hadmin.mpr hrow, if_false]

end SmartTravel
