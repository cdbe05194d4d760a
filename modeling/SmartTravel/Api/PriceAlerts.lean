import SmartTravel.Lib.Runs
import SmartTravel.Lib.Numeral
import SmartTravel.Lib.StableSort
import SmartTravel.Core.Errors
import SmartTravel.Db.Models

/-!
# The price-alert endpoints

Requests to create, list and delete price alerts, each by the user of its token and in a session that commits. The
random id of a new row and the clock come with the request, and so does the order in which the database returns rows
that were created at the same time.

A user meets only rows of their own: `ownMachine` answers the requests of one user from the rows of that user, and the
table simulates it for every user at once (`step_own`, `step_foreign`). So the answers are those of a run without the
others, and a listing shows what the user created and has not deleted (`alerts_private`).
-/

namespace SmartTravel

open Py Runs

/-- The pattern `^\d{4}-\d{2}-\d{2}$` of a departure date, with decimal digits of any script. -/
def dateShaped (s : String) : Bool :=
  match s.toList with
  | [y₁, y₂, y₃, y₄, a, m₁, m₂, b, d₁, d₂] =>
    [y₁, y₂, y₃, y₄, m₁, m₂, d₁, d₂].all (fun c => (decimal? c).isSome) && a == '-' && b == '-'
  | _ => false

/-- `PriceAlertCreate`. -/
structure PriceAlertCreate where
  origin : String
  destination : String
  departureDate : String
  targetAmountMinor : ℕ
  currency : String
  channel : AlertChannel
  origin_length : origin.length = 3
  destination_length : destination.length = 3
  date_shaped : dateShaped departureDate = true
  target_pos : 0 < targetAmountMinor
  currency_length : currency.length = 3

/-- A row of `price_alerts` with its `created_at`. -/
structure AlertRow where
  alert : PriceAlert
  createdAt : ℚ
deriving DecidableEq

/-- `PriceAlertOut`. -/
structure PriceAlertOut where
  id : ℕ
  origin : String
  destination : String
  departureDate : String
  targetAmountMinor : ℕ
  currency : String
  channel : AlertChannel
  isActive : Bool
  createdAt : ℚ
deriving DecidableEq

/-- `PriceAlertOut.model_validate`. -/
def PriceAlertOut.ofRow (row : AlertRow) : PriceAlertOut :=
  ⟨row.alert.id, row.alert.origin, row.alert.destination, row.alert.departureDate, row.alert.targetAmountMinor,
    row.alert.currency, row.alert.channel, row.alert.isActive, row.createdAt⟩

/-- The table, with `id` as its primary key. -/
structure AlertTable where
  rows : List AlertRow
  ids_nodup : (rows.map (·.alert.id)).Nodup

/-- How the database returns selected rows in `ORDER BY created_at DESC`. -/
structure NewestFirst where
  arrange : List AlertRow → List AlertRow
  perm : ∀ rows, (arrange rows).Perm rows
  newest : ∀ rows, (arrange rows).Pairwise fun a b => b.createdAt ≤ a.createdAt

/-- A request and the user it is made by. -/
inductive AlertRequest where
  | create (userId : ℕ) (payload : PriceAlertCreate) (id : ℕ) (now : ℚ)
  | list (userId : ℕ) (order : NewestFirst)
  | delete (userId : ℕ) (alertId : String)

/-- The current user. -/
def AlertRequest.user : AlertRequest → ℕ
  | .create userId _ _ _ | .list userId _ | .delete userId _ => userId

/-- What a request is answered with; `databaseError` is an insert that the database refuses. -/
inductive AlertAnswer where
  | created (alert : PriceAlertOut)
  | listed (alerts : List PriceAlertOut)
  | deleted
  | failed (error : AppError)
  | databaseError

/-- `str.upper`, `uuid.UUID(text)`, and whether the columns of the database take a row. -/
structure AlertsEnv where
  upper : String → String
  parse : String → Option ℕ
  fits : PriceAlert → Bool

/-- The two errors of the endpoints. -/
def sameRoute : AppError := ⟨.appError, "origin and destination must differ", Dict.empty⟩

def alertNotFound : AppError := ⟨.notFound, "alert not found", Dict.empty⟩

namespace AlertTable

/-- No alerts. -/
def empty : AlertTable := ⟨[], List.nodup_nil⟩

/-- `PriceAlertRepository.list_for_user`, before it is put in order. -/
def ownedBy (table : AlertTable) (userId : ℕ) : List AlertRow :=
  table.rows.filter fun row => row.alert.userId = userId

/-- `PriceAlertRepository.get_owned`. -/
def getOwned (table : AlertTable) (id userId : ℕ) : Option AlertRow :=
  table.rows.find? fun row => row.alert.id = id && row.alert.userId = userId

/-- The row goes, by its primary key. -/
def delete (table : AlertTable) (row : AlertRow) : AlertTable :=
  ⟨table.rows.filter fun r => r.alert.id ≠ row.alert.id, table.ids_nodup.sublist (List.filter_sublist.map _)⟩

/-- A row with a new id. -/
def insert (table : AlertTable) (row : AlertRow) (h : row.alert.id ∉ table.rows.map (·.alert.id)) : AlertTable where
  rows := table.rows ++ [row]
  ids_nodup := nodup_map_snoc table.ids_nodup h

end AlertTable

section
variable (env : AlertsEnv)

/-- The row of a new alert. -/
def PriceAlertCreate.row (payload : PriceAlertCreate) (userId id : ℕ) (now : ℚ) : AlertRow :=
  ⟨⟨id, userId, env.upper payload.origin, env.upper payload.destination, payload.departureDate,
    payload.targetAmountMinor, env.upper payload.currency, payload.channel, true, none⟩, now⟩

/-- The endpoints `create_alert`, `list_alerts` and `delete_alert`. -/
def AlertTable.handle (table : AlertTable) : AlertRequest → AlertTable × AlertAnswer
  | .create userId payload id now =>
    if env.upper payload.origin = env.upper payload.destination then (table, .failed sameRoute)
    else
      let row := payload.row env userId id now
      if env.fits row.alert = false then (table, .databaseError)
      else if h : row.alert.id ∈ table.rows.map (·.alert.id) then (table, .databaseError)
      else (table.insert row h, .created (.ofRow row))
  | .list userId order => (table, .listed ((order.arrange (table.ownedBy userId)).map .ofRow))
  | .delete userId alertId =>
    match env.parse alertId with
    | none => (table, .failed alertNotFound)
    | some id =>
      match table.getOwned id userId with
      | none => (table, .failed alertNotFound)
      | some row => (table.delete row, .deleted)

/-- The endpoints as a machine over the table. -/
def alertsMachine : Machine AlertTable AlertRequest AlertAnswer := ⟨AlertTable.handle env⟩

/-! ## What a user has -/

/-- The row that a request creates. -/
def AlertRequest.creates : AlertRequest → Option AlertRow
  | .create userId payload id now =>
    if env.upper payload.origin = env.upper payload.destination then none
    else some (payload.row env userId id now) |>.filter fun row => env.fits row.alert
  | _ => none

/-- Whether the request asks to delete the alert on behalf of the user. -/
def AlertRequest.deletes (userId id : ℕ) : AlertRequest → Bool
  | .delete user alertId => decide (user = userId) && decide (env.parse alertId = some id)
  | _ => false

/-- The alerts that the user created in these requests and did not delete later. -/
def remaining (userId : ℕ) : List AlertRequest → List AlertRow
  | [] => []
  | r :: rs =>
    ((r.creates env).filter fun row =>
      row.alert.userId = userId && !rs.any (AlertRequest.deletes env userId row.alert.id)).toList ++ remaining userId rs

end

/-! ## One request -/

section
variable (env : AlertsEnv)

/-- What a user is answered who has these rows. -/
def ownAnswer (userId : ℕ) (rows : List AlertRow) : AlertRequest → AlertAnswer
  | .create user payload id now =>
    match AlertRequest.creates env (.create user payload id now) with
    | some row => .created (.ofRow row)
    | none =>
      if env.upper payload.origin = env.upper payload.destination then .failed sameRoute else .databaseError
  | .list _ order => .listed ((order.arrange rows).map .ofRow)
  | .delete user alertId =>
    if rows.any fun row => AlertRequest.deletes env userId row.alert.id (.delete user alertId) then .deleted
    else .failed alertNotFound

/-- The endpoints as they are for one user. -/
def ownMachine (userId : ℕ) : Machine (List AlertRow) AlertRequest AlertAnswer where
  step rows r := (rows.filter (fun row => !r.deletes env userId row.alert.id) ++
    ((r.creates env).filter fun row => row.alert.userId = userId).toList, ownAnswer env userId rows r)

/-- The id of a row that the request creates is new. -/
def FreshId (table : AlertTable) (r : AlertRequest) : Prop :=
  ∀ row, r.creates env = some row → row.alert.id ∉ table.rows.map (·.alert.id)

variable {env}

theorem handle_create {table : AlertTable} {userId id : ℕ} {payload : PriceAlertCreate} {now : ℚ} {row : AlertRow}
    (hrow : AlertRequest.creates env (.create userId payload id now) = some row)
    (hfresh : row.alert.id ∉ table.rows.map (·.alert.id)) :
    table.handle env (.create userId payload id now) = (table.insert row hfresh, .created (.ofRow row)) := by
  simp only [AlertRequest.creates] at hrow
  split at hrow
  · cases hrow
  · rename_i hroute
    obtain ⟨hrow, hfits⟩ := Option.filter_eq_some_iff.mp hrow
    rw [Option.some.injEq] at hrow
    subst hrow
    simp only [AlertTable.handle, if_neg hroute, hfits, Bool.true_eq_false, if_false, dif_neg hfresh]

/-- A creation that fails leaves the table alone. -/
theorem handle_create_none {table : AlertTable} {userId id : ℕ} {payload : PriceAlertCreate} {now : ℚ}
    (hnone : AlertRequest.creates env (.create userId payload id now) = none) :
    table.handle env (.create userId payload id now) = (table,
      if env.upper payload.origin = env.upper payload.destination then .failed sameRoute else .databaseError) := by
  simp only [AlertRequest.creates] at hnone
  split at hnone
  · rename_i hroute
    simp only [AlertTable.handle, if_pos hroute]
  · rename_i hroute
    have hfits : env.fits (payload.row env userId id now).alert = false := by simpa using hnone
    simp only [AlertTable.handle, if_neg hroute, hfits, if_true]

/-- A row that a request creates belongs to its user. -/
theorem userId_of_creates {r : AlertRequest} {row : AlertRow} (h : r.creates env = some row) :
    row.alert.userId = r.user := by
  cases r with
  | create userId payload id now =>
    simp only [AlertRequest.creates] at h
    split at h
    · cases h
    · rw [← Option.some.inj (Option.filter_eq_some_iff.mp h).1]
      rfl
  | list | delete => cases h

theorem getOwned_eq_some {table : AlertTable} {id userId : ℕ} {row : AlertRow}
    (h : table.getOwned id userId = some row) :
    row ∈ table.rows ∧ row.alert.id = id ∧ row.alert.userId = userId := by
  have hfound := List.find?_some h
  simp only [Bool.and_eq_true, decide_eq_true_eq] at hfound
  exact ⟨List.mem_of_find?_eq_some h, hfound⟩

theorem getOwned_eq_none {table : AlertTable} {id userId : ℕ} (h : table.getOwned id userId = none) :
    ∀ row ∈ table.ownedBy userId, row.alert.id ≠ id := by
  intro row hrow hid
  obtain ⟨hmem, hown⟩ := List.mem_filter.mp hrow
  have hno := List.find?_eq_none.mp h row hmem
  simp only [Bool.and_eq_true, decide_eq_true_eq] at hno
  exact hno ⟨hid, of_decide_eq_true hown⟩

/-- The primary key: rows with one id are one row. -/
theorem AlertTable.eq_of_id (table : AlertTable) {row row' : AlertRow} (h : row ∈ table.rows) (h' : row' ∈ table.rows)
    (hid : row.alert.id = row'.alert.id) : row = row' := List.inj_on_of_nodup_map table.ids_nodup h h' hid

/-- Deleting a row takes it from its owner and nothing from anyone else. -/
theorem ownedBy_delete {table : AlertTable} {row : AlertRow} (hrow : row ∈ table.rows) (userId : ℕ) :
    (table.delete row).ownedBy userId = (table.ownedBy userId).filter fun r =>
      !(decide (row.alert.userId = userId) && decide (r.alert.id = row.alert.id)) := by
  simp only [AlertTable.ownedBy, AlertTable.delete, List.filter_filter]
  refine List.filter_congr fun r hr => ?_
  by_cases hid : r.alert.id = row.alert.id
  · have heq := table.eq_of_id hr hrow hid
    subst heq
    simp
  · simp [hid]

/-- **The rows of a user after a request**: those it does not delete for them, and the one it creates for them. -/
theorem ownedBy_handle {table : AlertTable} {r : AlertRequest} (hfresh : FreshId env table r) (userId : ℕ) :
    (table.handle env r).1.ownedBy userId =
      (table.ownedBy userId).filter (fun row => !r.deletes env userId row.alert.id) ++
        ((r.creates env).filter fun row => row.alert.userId = userId).toList := by
  cases r with
  | create user payload id now =>
    cases hrow : AlertRequest.creates env (.create user payload id now) with
    | none => simp [handle_create_none hrow, AlertRequest.deletes]
    | some row =>
      rw [handle_create hrow (hfresh row hrow)]
      by_cases hown : row.alert.userId = userId <;>
        simp [AlertTable.ownedBy, AlertTable.insert, AlertRequest.deletes, Option.filter, hown]
  | list user order => simp [AlertTable.handle, AlertRequest.deletes, AlertRequest.creates]
  | delete user alertId =>
    simp only [AlertRequest.creates, Option.filter_none, Option.toList_none, List.append_nil]
    cases hparse : env.parse alertId with
    | none => simp [AlertTable.handle, AlertRequest.deletes, hparse]
    | some id =>
      cases hfound : table.getOwned id user with
      | none =>
        simp only [AlertTable.handle, hparse, hfound]
        symm
        rw [List.filter_eq_self]
        intro row hrow
        by_cases huser : user = userId
        · subst huser
          have hne := getOwned_eq_none hfound row hrow
          simp [AlertRequest.deletes, hparse, Ne.symm hne]
        · simp [AlertRequest.deletes, huser]
      | some row =>
        obtain ⟨hmem, hid, hown⟩ := getOwned_eq_some hfound
        simp only [AlertTable.handle, hparse, hfound]
        rw [ownedBy_delete hmem]
        refine List.filter_congr fun r _ => ?_
        rw [hown, hid]
        simp [AlertRequest.deletes, hparse, eq_comm]

/-- **The answer to a request** depends on the rows of its user only. -/
theorem answer_handle {table : AlertTable} {r : AlertRequest} (hfresh : FreshId env table r) :
    (table.handle env r).2 = ownAnswer env r.user (table.ownedBy r.user) r := by
  cases r with
  | create user payload id now =>
    cases hrow : AlertRequest.creates env (.create user payload id now) with
    | none => simp only [handle_create_none hrow, ownAnswer, hrow]
    | some row => simp only [handle_create hrow (hfresh row hrow), ownAnswer, hrow]
  | list user order => rfl
  | delete user alertId =>
    show _ = ownAnswer env user (table.ownedBy user) (.delete user alertId)
    unfold ownAnswer
    cases hparse : env.parse alertId with
    | none => simp [AlertTable.handle, AlertRequest.deletes, hparse]
    | some id =>
      cases hfound : table.getOwned id user with
      | none =>
        have hno := getOwned_eq_none hfound
        simp only [AlertTable.handle, hparse, hfound]
        rw [if_neg]
        simp only [AlertRequest.deletes, hparse, decide_true, Bool.true_and, List.any_eq_true, not_exists, not_and]
        intro row hrow hid
        rw [decide_eq_true_eq, Option.some.injEq] at hid
        exact hno row hrow hid.symm
      | some row =>
        obtain ⟨hmem, hid, hown⟩ := getOwned_eq_some hfound
        simp only [AlertTable.handle, hparse, hfound]
        rw [if_pos]
        rw [List.any_eq_true]
        exact ⟨row, List.mem_filter.mpr ⟨hmem, by simp [hown]⟩, by simp [AlertRequest.deletes, hparse, hid]⟩

end

/-! ## Runs -/

section
variable (env : AlertsEnv)

/-- The ids of the alerts that the requests create. -/
def createdIds (rs : List AlertRequest) : List ℕ := rs.filterMap fun r => (r.creates env).map (·.alert.id)

variable {env}

/-- A request adds the id of the row it creates, at most. -/
theorem ids_handle {table : AlertTable} {r : AlertRequest} (hfresh : FreshId env table r) :
    ((table.handle env r).1.rows.map (·.alert.id)).Sublist
      (table.rows.map (·.alert.id) ++ ((r.creates env).map (·.alert.id)).toList) := by
  cases r with
  | create user payload id now =>
    cases hrow : AlertRequest.creates env (.create user payload id now) with
    | none => simp [handle_create_none hrow]
    | some row => simp [handle_create hrow (hfresh row hrow), AlertTable.insert]
  | list user order => simp [AlertTable.handle, AlertRequest.creates]
  | delete user alertId =>
    simp only [AlertRequest.creates, Option.map_none, Option.toList_none, List.append_nil, AlertTable.handle]
    split
    · exact List.Sublist.refl _
    · split
      · exact List.Sublist.refl _
      · exact List.filter_sublist.map _

/-- When all ids are distinct, every creation finds its id free. -/
theorem enabled_of_distinct : ∀ {rs : List AlertRequest} {table : AlertTable},
    (table.rows.map (·.alert.id) ++ createdIds env rs).Nodup → (alertsMachine env).Enabled (FreshId env) table rs
  | [], _, _ => trivial
  | r :: rs, table, h => by
    have hids : createdIds env (r :: rs) = ((r.creates env).map (·.alert.id)).toList ++ createdIds env rs := by
      simp only [createdIds, List.filterMap_cons]
      cases (r.creates env).map (·.alert.id) <;> rfl
    rw [hids, ← List.append_assoc] at h
    have hfresh : FreshId env table r := by
      intro row hrow hin
      rw [hrow, Option.map_some, Option.toList_some] at h
      exact (List.nodup_append.mp (List.nodup_append.mp h).1).2.2 _ hin _ (List.mem_singleton_self _) rfl
    refine ⟨hfresh, enabled_of_distinct ?_⟩
    exact h.sublist ((ids_handle hfresh).append (List.Sublist.refl _))

/-- **The rows of a user along a run**: the old ones that were not deleted, and what remains of the new ones. -/
theorem ownedBy_run (userId : ℕ) : ∀ {rs : List AlertRequest} {table : AlertTable},
    (alertsMachine env).Enabled (FreshId env) table rs →
    ((alertsMachine env).run table rs).ownedBy userId =
      (table.ownedBy userId).filter (fun row => !rs.any (AlertRequest.deletes env userId row.alert.id)) ++
        remaining env userId rs
  | [], table, _ => by simp [remaining]
  | r :: rs, table, h => by
    have hstep : ((alertsMachine env).step table r).1.ownedBy userId = _ := ownedBy_handle h.1 userId
    rw [Machine.run_cons, ownedBy_run userId h.2, hstep, List.filter_append, List.filter_filter, remaining,
      List.append_assoc]
    congr 1
    · refine List.filter_congr fun row _ => ?_
      rw [List.any_cons, Bool.not_or, Bool.and_comm]
    · congr 1
      cases r.creates env with
      | none => rfl
      | some row =>
        by_cases hown : row.alert.userId = userId <;>
          cases hany : rs.any (AlertRequest.deletes env userId row.alert.id) <;>
          simp [Option.filter, hown, hany]

/-- **Nobody else's requests matter**: a user is answered as by the machine of their own rows. -/
theorem log_own (userId : ℕ) {rs : List AlertRequest} {table : AlertTable}
    (h : (alertsMachine env).Enabled (FreshId env) table rs) :
    ((alertsMachine env).log table rs).filter (fun e => decide (e.1.user = userId)) =
      (ownMachine env userId).log (table.ownedBy userId) (rs.filter fun r => decide (r.user = userId)) := by
  have hmine : ∀ (s : AlertTable) (r : AlertRequest), FreshId env s r → decide (r.user = userId) = true →
      (ownMachine env userId).step (s.ownedBy userId) r =
        (((alertsMachine env).step s r).1.ownedBy userId, ((alertsMachine env).step s r).2) := by
    intro s r hfresh hr
    have huser := of_decide_eq_true hr
    subst huser
    exact Prod.ext (ownedBy_handle hfresh _).symm (answer_handle hfresh).symm
  have hothers : ∀ (s : AlertTable) (r : AlertRequest), FreshId env s r → decide (r.user = userId) = false →
      ((alertsMachine env).step s r).1.ownedBy userId = s.ownedBy userId := by
    intro s r hfresh hr
    have hne : r.user ≠ userId := of_decide_eq_false hr
    refine (ownedBy_handle hfresh userId).trans ?_
    have hcreates : (r.creates env).filter (fun row => row.alert.userId = userId) = none := by
      rw [Option.filter_eq_none_iff]
      intro row hrow
      rw [decide_eq_true_eq, userId_of_creates hrow]
      exact hne
    have hdeletes : ∀ id, r.deletes env userId id = false := by
      intro id
      cases r with
      | create | list => rfl
      | delete user alertId =>
        have huser : user ≠ userId := hne
        simp only [AlertRequest.deletes, decide_eq_false huser, Bool.false_and]
    simp [hcreates, hdeletes]
  exact ((alertsMachine env).log_filter_view (ownMachine env userId) (·.ownedBy userId) _ hmine hothers h).1

variable (env)

/-- Users neither see nor touch each other's alerts in these requests. -/
structure AlertsPrivate (rs : List AlertRequest) : Prop where
  /-- A listing shows the alerts that the user created and has not deleted, as they were created. -/
  lists : ∀ pre userId order post, rs = pre ++ .list userId order :: post →
    (((alertsMachine env).run .empty pre).handle env (.list userId order)).2 =
      .listed ((order.arrange (remaining env userId pre)).map .ofRow)
  /-- Deleting what is not an id, what does not exist and what someone else owns fails alike and changes nothing. -/
  refused : ∀ pre userId alertId post, rs = pre ++ .delete userId alertId :: post →
    (∀ row ∈ ((alertsMachine env).run .empty pre).rows, env.parse alertId = some row.alert.id →
      row.alert.userId ≠ userId) →
    ((alertsMachine env).run .empty pre).handle env (.delete userId alertId) =
      ((alertsMachine env).run .empty pre, .failed alertNotFound)
  /-- Without the requests of the others, the answers are the same. -/
  alone : ∀ userId, ((alertsMachine env).log .empty rs).filter (fun e => decide (e.1.user = userId)) =
    (alertsMachine env).log .empty (rs.filter fun r => decide (r.user = userId))

/-- **Users cannot see or touch each other's alerts**, in every run in which the ids of the created alerts differ. -/
theorem alerts_private (rs : List AlertRequest) (hids : (createdIds env rs).Nodup) : AlertsPrivate env rs := by
  have henabled : ∀ {rs : List AlertRequest}, (createdIds env rs).Nodup →
      (alertsMachine env).Enabled (FreshId env) .empty rs := fun h => enabled_of_distinct h
  constructor
  case lists =>
    rintro pre userId order post rfl
    have hpre := ((alertsMachine env).enabled_append.mp (henabled hids)).1
    simp only [AlertTable.handle, ownedBy_run userId hpre]
    rfl
  case refused =>
    rintro pre userId alertId post rfl hforeign
    simp only [AlertTable.handle]
    split
    · rfl
    · rename_i id hparse
      split
      · rfl
      · rename_i row hrow
        obtain ⟨hmem, hid, hown⟩ := getOwned_eq_some hrow
        exact absurd hown (hforeign row hmem (hid ▸ hparse))
  case alone =>
    intro userId
    have hfilter : ∀ log : List (AlertRequest × AlertAnswer), (∀ e ∈ log, e.1.user = userId) →
        log.filter (fun e => decide (e.1.user = userId)) = log := by
      intro log hlog
      rw [List.filter_eq_self]
      exact fun e he => decide_eq_true (hlog e he)
    have hsub : (createdIds env (rs.filter fun r => decide (r.user = userId))).Nodup :=
      hids.sublist (List.filter_sublist.filterMap _)
    have hmine : ∀ e ∈ (alertsMachine env).log .empty (rs.filter fun r => decide (r.user = userId)),
        e.1.user = userId := by
      intro e he
      have hfst := List.mem_map_of_mem (f := Prod.fst) he
      rw [Machine.map_fst_log] at hfst
      exact of_decide_eq_true (List.mem_filter.mp hfst).2
    have halone := log_own userId (henabled hsub)
    rw [hfilter _ hmine, List.filter_filter] at halone
    simp only [Bool.and_self] at halone
    rw [log_own userId (henabled hids), halone]

end

/-! ## A sample run -/

/-- ASCII letters are changed, every row fits, and the ids are written `1` and `2`. -/
def sampleAlertsEnv : AlertsEnv where
  upper s := s.map Char.toUpper
  parse s := if s = "1" then some 1 else if s = "2" then some 2 else none
  fits _ := true

/-- The order of a database that returns equal times as they were inserted. -/
def sampleOrder : NewestFirst where
  arrange := sorted fun row => -row.createdAt
  perm rows := sorted_perm _ rows
  newest rows := (sorted_pairwise _ rows).imp neg_le_neg_iff.mp

theorem sampleDate_shaped : dateShaped "2026-08-10" = true := by decide +kernel

/-- An alert for a route. -/
def sampleCreate (origin destination : String) (ho : origin.length = 3) (hd : destination.length = 3) :
    PriceAlertCreate :=
  ⟨origin, destination, "2026-08-10", 10000, "usd", .email, ho, hd, sampleDate_shaped, by decide, by decide⟩

/-- Users 7 and 8 create an alert each; user 8 tries to delete both and lists, then user 7 lists. -/
def sampleAlertRequests : List AlertRequest :=
  [.create 7 (sampleCreate "thr" "ist" (by decide) (by decide)) 1 0,
    .create 8 (sampleCreate "fco" "ist" (by decide) (by decide)) 2 5, .delete 8 "1", .delete 8 "2",
    .list 8 sampleOrder, .list 7 sampleOrder]

/-- The alert of user 7 survives the attempt of user 8. -/
theorem foreign_delete_fails : AlertsPrivate sampleAlertsEnv sampleAlertRequests ∧
    (remaining sampleAlertsEnv 7 sampleAlertRequests).map PriceAlertOut.ofRow =
      [⟨1, "THR", "IST", "2026-08-10", 10000, "USD", .email, true, 0⟩] ∧
    remaining sampleAlertsEnv 8 sampleAlertRequests = [] := by
  refine ⟨alerts_private sampleAlertsEnv sampleAlertRequests (by decide +kernel), ?_, ?_⟩ <;> decide +kernel

end SmartTravel
