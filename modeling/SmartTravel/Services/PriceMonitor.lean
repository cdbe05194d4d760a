import SmartTravel.Lib.Runs
import SmartTravel.Db.Models
import SmartTravel.Services.Aggregation

/-!
# Price monitoring

`run_once` checks every active alert against the cheapest fare and notifies its owner; the worker task `monitor_prices`
runs it in a session of its own and commits once at the end. A message that was sent stays sent when the run aborts
afterwards, while the marks of all alerts handled so far are discarded with the session.

`checkAll_eq` says what one run announces and marks. A run that is `Safe` keeps `AnnouncedOnce`
(`AnnouncedOnce.monitor`), so every sequence of safe runs announces an alert at most once (`run_announcedOnce`); after
an unsafe run, the next one repeats a message (`unsafe_run_repeats`).
-/

namespace SmartTravel

open Py Runs

/-- A message that was sent, with the alert it is about. -/
structure Announcement where
  alertId : ℕ
  recipient : String
  subject : String
  body : String
deriving DecidableEq

/-- What the monitor reads and writes: the tables and the messages that went out. Ids are below `nextId`, each used by
one alert. -/
structure MonitorStore where
  users : List User
  alerts : List PriceAlert
  sent : List Announcement
  nextId : ℕ
  ids_nodup : (alerts.map (·.id)).Nodup
  ids_lt : ∀ a ∈ alerts, a.id < nextId

/-- The world of one `monitor_prices` run: the flights on offer, the order in which the database returns the active
rows, which sends raise, the clock, and the alerts that the API deletes between the run's query and its commit. -/
structure MonitorRun where
  flights : FlightAggregationService
  arrange : List PriceAlert → List PriceAlert
  raises : PriceAlert → Bool
  now : PriceAlert → ℚ
  deleted : List ℕ
  arrange_perm : ∀ alerts, (arrange alerts).Perm alerts

/-- How a run can abort: a search or a send raises, or the commit finds that a row to update is gone. -/
inductive MonitorError where
  | search (error : SearchError)
  | send
  | staleData
deriving DecidableEq

/-- `MonitorReport`. -/
structure MonitorReport where
  checked : ℕ
  triggered : ℕ
deriving DecidableEq

section
variable (lower : String → String) (fromisoformat : String → Option Date)

/-- `_cheapest_price`. -/
def cheapestPrice (flights : FlightAggregationService) (alert : PriceAlert) : Except SearchError (Option ℕ) :=
  match fromisoformat alert.departureDate with
  | none => .ok none
  | some departure =>
    match flights.search lower ⟨alert.origin, alert.destination, departure, 1, "economy"⟩ .price none 1 none with
    | .error e => .error e
    | .ok result => .ok (result.items.head?.map fun r => r.flight.price.amountMinor)

/-- `amount / 100` with two decimals, the division taken as exact. -/
def formatMinor (amount : ℕ) : String := zeroPad 1 (amount / 100) ++ "." ++ zeroPad 2 (amount % 100)

/-- The message of `_notify`. -/
def notice (user : User) (alert : PriceAlert) (priceMinor : ℕ) : Announcement where
  alertId := alert.id
  recipient := user.email
  subject := "Price drop: " ++ alert.origin ++ " to " ++ alert.destination
  body := "A fare of " ++ formatMinor priceMinor ++ " " ++ alert.currency ++ " is now available for " ++ alert.origin ++
    "-" ++ alert.destination ++ " on " ++ alert.departureDate ++ ", below your target of " ++
    formatMinor alert.targetAmountMinor ++ " " ++ alert.currency ++ "."

variable (run : MonitorRun) (users : List User)

/-- `_check`: what is sent, and whether the alert triggered or what was raised. -/
def check (alert : PriceAlert) : List Announcement × Except MonitorError Bool :=
  match cheapestPrice lower fromisoformat run.flights alert with
  | .error e => ([], .error (.search e))
  | .ok none => ([], .ok false)
  | .ok (some cheapest) =>
    if cheapest > alert.targetAmountMinor then ([], .ok false)
    else
      match users.find? (fun u => u.id = alert.userId) with
      | none => ([], .ok true)
      | some user => if run.raises alert then ([], .error .send) else ([notice user alert cheapest], .ok true)

/-- The row that `_check` leaves in the session when an alert triggers. -/
def mark (alert : PriceAlert) : PriceAlert := { alert with isActive := false, triggeredAt := some (run.now alert) }

/-- The loop of `run_once`: what is sent, and the marked rows or what was raised. -/
def checkAll : List PriceAlert → List Announcement × Except MonitorError (List PriceAlert)
  | [] => ([], .ok [])
  | alert :: alerts =>
    match check lower fromisoformat run users alert with
    | (sent, .error e) => (sent, .error e)
    | (sent, .ok hit) =>
      match checkAll alerts with
      | (sent', .error e) => (sent ++ sent', .error e)
      | (sent', .ok marked) => (sent ++ sent', .ok (if hit then mark run alert :: marked else marked))

end

/-! ## The store -/

/-- The update of a row at the commit. -/
def writeBack (marked : List PriceAlert) (alert : PriceAlert) : PriceAlert :=
  match marked.find? (fun m => m.id = alert.id) with
  | none => alert
  | some m => { alert with isActive := m.isActive, triggeredAt := m.triggeredAt }

theorem writeBack_id (marked : List PriceAlert) (alert : PriceAlert) : (writeBack marked alert).id = alert.id := by
  unfold writeBack
  split <;> rfl

namespace MonitorStore

variable (store : MonitorStore)

/-- The active alerts. -/
def active : List PriceAlert := store.alerts.filter (·.isActive)

/-- Delete the alerts with these ids. -/
def delete (ids : List ℕ) : MonitorStore :=
  { store with
    alerts := store.alerts.filter fun a => a.id ∉ ids
    ids_nodup := store.ids_nodup.sublist (List.filter_sublist.map _)
    ids_lt := fun a ha => store.ids_lt a (List.mem_of_mem_filter ha) }

/-- Write the marked rows. -/
def write (marked : List PriceAlert) : MonitorStore :=
  { store with
    alerts := store.alerts.map (writeBack marked)
    ids_nodup := by
      have hids : (store.alerts.map (writeBack marked)).map (·.id) = store.alerts.map (·.id) := by
        rw [List.map_map]
        exact List.map_congr_left fun a _ => writeBack_id marked a
      exact hids ▸ store.ids_nodup
    ids_lt := by
      intro a ha
      obtain ⟨b, hb, rfl⟩ := List.mem_map.mp ha
      rw [writeBack_id]
      exact store.ids_lt b hb }

/-- Messages go out. -/
def send (messages : List Announcement) : MonitorStore := { store with sent := store.sent ++ messages }

/-- `PriceAlertRepository.create`, with an id that was never used before. -/
def create (userId : ℕ) (origin destination departureDate : String) (targetAmountMinor : ℕ) (currency : String)
    (channel : AlertChannel) : MonitorStore :=
  { store with
    alerts := store.alerts ++
      [⟨store.nextId, userId, origin, destination, departureDate, targetAmountMinor, currency, channel, true, none⟩]
    nextId := store.nextId + 1
    ids_nodup := by
      refine nodup_map_snoc store.ids_nodup fun hin => ?_
      obtain ⟨a, ha, hid⟩ := List.mem_map.mp hin
      exact (store.ids_lt a ha).ne hid
    ids_lt := by
      intro a ha
      rcases List.mem_append.mp ha with ha | ha
      · exact Nat.lt_succ_of_lt (store.ids_lt a ha)
      · rw [List.mem_singleton] at ha
        exact ha ▸ Nat.lt_succ_self _ }

end MonitorStore

section
variable (lower : String → String) (fromisoformat : String → Option Date)

/-- `monitor_prices`: run once, then commit. An exception, also one of the commit, discards the session, but not what
was sent. -/
def monitorPrices (run : MonitorRun) (store : MonitorStore) : MonitorStore × Except MonitorError MonitorReport :=
  let active := run.arrange store.active
  match checkAll lower fromisoformat run store.users active with
  | (sent, .error e) => ((store.delete run.deleted).send sent, .error e)
  | (sent, .ok marked) =>
    if marked.any (fun m => m.id ∈ run.deleted) then ((store.delete run.deleted).send sent, .error .staleData)
    else (((store.delete run.deleted).write marked).send sent, .ok ⟨active.length, marked.length⟩)

/-- What happens to the store: a monitor run, or the API creates or deletes an alert. -/
inductive MonitorEvent where
  | monitor (run : MonitorRun)
  | create (userId : ℕ) (origin destination departureDate : String) (targetAmountMinor : ℕ) (currency : String)
      (channel : AlertChannel)
  | delete (id : ℕ)

/-- What an event answers: the outcome of a run, or nothing. -/
inductive MonitorAnswer where
  | report (outcome : Except MonitorError MonitorReport)
  | done

/-- One event. -/
def MonitorStore.step (store : MonitorStore) : MonitorEvent → MonitorStore × MonitorAnswer
  | .monitor run =>
    let (store', outcome) := monitorPrices lower fromisoformat run store
    (store', .report outcome)
  | .create userId origin destination departureDate target currency channel =>
    (store.create userId origin destination departureDate target currency channel, .done)
  | .delete id => (store.delete [id], .done)

/-- The store as a machine. -/
def monitorMachine : Machine MonitorStore MonitorEvent MonitorAnswer := ⟨MonitorStore.step lower fromisoformat⟩

end

/-! ## What a run announces -/

section
variable (lower : String → String) (fromisoformat : String → Option Date) (run : MonitorRun) (users : List User)

/-- The target is met by the cheapest fare. -/
def due (alert : PriceAlert) : Bool :=
  match cheapestPrice lower fromisoformat run.flights alert with
  | .ok (some cheapest) => decide (cheapest ≤ alert.targetAmountMinor)
  | _ => false

/-- The owner's account exists. -/
def owned (alert : PriceAlert) : Bool := users.any fun u => u.id = alert.userId

/-- The alert's message cannot be delivered. -/
def failing (alert : PriceAlert) : Bool :=
  due lower fromisoformat run alert && owned users alert && run.raises alert

/-- The message for an alert that is due, when somebody owns it. -/
def message? (alert : PriceAlert) : Option Announcement :=
  match cheapestPrice lower fromisoformat run.flights alert with
  | .ok (some cheapest) =>
    if cheapest ≤ alert.targetAmountMinor then
      (users.find? fun u => u.id = alert.userId).map fun user => notice user alert cheapest
    else none
  | _ => none

/-- The part of the active alerts that is handled before a send raises. -/
def handled (active : List PriceAlert) : List PriceAlert :=
  active.takeWhile fun a => !failing lower fromisoformat run users a

theorem cheapestPrice_ok (flights : FlightAggregationService) (alert : PriceAlert) :
    ∃ cheapest, cheapestPrice lower fromisoformat flights alert = .ok cheapest := by
  unfold cheapestPrice
  split
  · exact ⟨none, rfl⟩
  · rename_i departure _
    obtain ⟨page, hpage⟩ := flights.search_price_ok lower
      ⟨alert.origin, alert.destination, departure, 1, "economy"⟩ none 1 none
    rw [hpage]
    exact ⟨_, rfl⟩

theorem check_eq (alert : PriceAlert) :
    check lower fromisoformat run users alert =
      if failing lower fromisoformat run users alert then ([], .error .send)
      else ((message? lower fromisoformat run users alert).toList, .ok (due lower fromisoformat run alert)) := by
  obtain ⟨cheapest, hcheapest⟩ := cheapestPrice_ok lower fromisoformat run.flights alert
  unfold check failing message? due owned
  rw [hcheapest]
  cases cheapest with
  | none => simp
  | some cheapest =>
    by_cases hle : cheapest ≤ alert.targetAmountMinor
    · cases hfind : users.find? (fun u => u.id = alert.userId) with
      | none =>
        have hany : users.any (fun u => u.id = alert.userId) = false := by
          rw [List.any_eq_false]
          simpa using List.find?_eq_none.mp hfind
        simp [hle, hany, Nat.not_lt.mpr hle]
      | some user =>
        have hany : users.any (fun u => u.id = alert.userId) = true :=
          List.any_eq_true.mpr ⟨user, List.mem_of_find?_eq_some hfind, by simpa using List.find?_some hfind⟩
        cases run.raises alert <;> simp [hle, hany, Nat.not_lt.mpr hle]
    · simp [hle, Nat.lt_of_not_le hle]

/-- **One run**: it announces what is due and owned up to the first send that raises, and marks what is due if none
does. -/
theorem checkAll_eq : ∀ active : List PriceAlert,
    checkAll lower fromisoformat run users active =
      ((handled lower fromisoformat run users active).filterMap (message? lower fromisoformat run users),
        if active.any (failing lower fromisoformat run users) then .error .send
        else .ok ((active.filter (due lower fromisoformat run)).map (mark run)))
  | [] => rfl
  | alert :: alerts => by
    have ih := checkAll_eq alerts
    rw [checkAll, check_eq]
    cases hfail : failing lower fromisoformat run users alert with
    | true => simp [handled, hfail]
    | false =>
      simp only [Bool.false_eq_true, if_false, ih, handled, List.takeWhile_cons, hfail, Bool.not_false, if_true,
        List.any_cons, Bool.false_or, List.filterMap_cons, List.filter_cons]
      cases hany : alerts.any (failing lower fromisoformat run users) <;>
        cases hdue : due lower fromisoformat run alert <;>
          cases hmsg : message? lower fromisoformat run users alert <;> simp

theorem message?_isSome (alert : PriceAlert) :
    (message? lower fromisoformat run users alert).isSome =
      (due lower fromisoformat run alert && owned users alert) := by
  unfold message? due owned
  split
  · split
    · rename_i hle
      rw [Option.isSome_map, decide_eq_true hle, Bool.true_and, Bool.eq_iff_iff, List.find?_isSome, List.any_eq_true]
    · rename_i hle
      simp [hle]
  · rfl

theorem message?_alertId {alert : PriceAlert} {m : Announcement}
    (h : message? lower fromisoformat run users alert = some m) : m.alertId = alert.id := by
  unfold message? at h
  split at h
  · split at h
    · obtain ⟨user, -, rfl⟩ := Option.map_eq_some_iff.mp h
      rfl
    · cases h
  · cases h

/-- The alerts announced by messages about `alerts` are those that are due and owned. -/
theorem map_alertId_messages : ∀ alerts : List PriceAlert,
    (alerts.filterMap (message? lower fromisoformat run users)).map (·.alertId) =
      (alerts.filter fun a => due lower fromisoformat run a && owned users a).map (·.id)
  | [] => rfl
  | alert :: alerts => by
    have ih := map_alertId_messages alerts
    rw [List.filterMap_cons, List.filter_cons, ← message?_isSome]
    cases hmsg : message? lower fromisoformat run users alert with
    | none => exact ih
    | some m =>
      simp only [Option.isSome_some, if_true, List.map_cons, ih, message?_alertId lower fromisoformat run users hmsg]

end

/-! ## Announced at most once -/

section
variable (lower : String → String) (fromisoformat : String → Option Date)

/-- The ids that a run announces. -/
def announcedIds (run : MonitorRun) (store : MonitorStore) : List ℕ :=
  ((handled lower fromisoformat run store.users (run.arrange store.active)).filter fun a =>
    due lower fromisoformat run a && owned store.users a).map (·.id)

/-- The run aborts: the send of an alert that is due raises, or an alert that is due is deleted before the commit. -/
def Aborts (run : MonitorRun) (store : MonitorStore) : Prop :=
  ∃ a ∈ store.active, due lower fromisoformat run a = true ∧
    ((owned store.users a = true ∧ run.raises a = true) ∨ a.id ∈ run.deleted)

/-- If the run aborts, then every alert whose owner was notified before the failing send is deleted meanwhile. -/
def Safe (store : MonitorStore) : MonitorEvent → Prop
  | .monitor run => Aborts lower fromisoformat run store →
      ∀ a ∈ handled lower fromisoformat run store.users (run.arrange store.active),
        due lower fromisoformat run a = true → owned store.users a = true → a.id ∈ run.deleted
  | _ => True

/-- No alert was announced twice, and none that is active was announced at all. -/
structure AnnouncedOnce (store : MonitorStore) : Prop where
  once : (store.sent.map (·.alertId)).Nodup
  known : ∀ id ∈ store.sent.map (·.alertId), id < store.nextId
  unannounced : ∀ a ∈ store.alerts, a.isActive = true → a.id ∉ store.sent.map (·.alertId)

/-- The two ways a run ends: the store without the deleted rows, and the marks written unless it aborts. -/
theorem monitorPrices_cases (run : MonitorRun) (store : MonitorStore) :
    ∃ sent, sent.map (·.alertId) = announcedIds lower fromisoformat run store ∧
      ((Aborts lower fromisoformat run store ∧
          (monitorPrices lower fromisoformat run store).1 = (store.delete run.deleted).send sent) ∨
        (¬ Aborts lower fromisoformat run store ∧ (monitorPrices lower fromisoformat run store).1 =
          ((store.delete run.deleted).write
            (((run.arrange store.active).filter (due lower fromisoformat run)).map (mark run))).send sent)) := by
  refine ⟨_, map_alertId_messages lower fromisoformat run store.users _, ?_⟩
  have hmem : ∀ a, a ∈ run.arrange store.active ↔ a ∈ store.active := fun a => (run.arrange_perm _).mem_iff
  unfold monitorPrices
  simp only [checkAll_eq]
  by_cases hfail : (run.arrange store.active).any (failing lower fromisoformat run store.users) = true
  · left
    obtain ⟨a, ha, hf⟩ := List.any_eq_true.mp hfail
    simp only [failing, Bool.and_eq_true] at hf
    exact ⟨⟨a, (hmem a).mp ha, hf.1.1, .inl ⟨hf.1.2, hf.2⟩⟩, by simp only [hfail, if_true]⟩
  · simp only [hfail, Bool.false_eq_true, if_false]
    split
    · rename_i hstale
      left
      obtain ⟨m, hm, hdel⟩ := List.any_eq_true.mp hstale
      obtain ⟨a, ha, rfl⟩ := List.mem_map.mp hm
      obtain ⟨hact, hdue⟩ := List.mem_filter.mp ha
      exact ⟨⟨a, (hmem a).mp hact, hdue, .inr (of_decide_eq_true hdel)⟩, rfl⟩
    · rename_i hstale
      right
      refine ⟨?_, rfl⟩
      rintro ⟨a, ha, hdue, ⟨hown, hraise⟩ | hdel⟩
      · apply hfail
        exact List.any_eq_true.mpr ⟨a, (hmem a).mpr ha, by simp [failing, hdue, hown, hraise]⟩
      · apply hstale
        have hmarked := List.mem_map_of_mem (f := mark run) (List.mem_filter.mpr ⟨(hmem a).mpr ha, hdue⟩)
        exact List.any_eq_true.mpr ⟨mark run a, hmarked, decide_eq_true hdel⟩

/-- A run announces active alerts, each once. -/
theorem announcedIds_spec (run : MonitorRun) (store : MonitorStore) :
    (announcedIds lower fromisoformat run store).Nodup ∧
      ∀ id ∈ announcedIds lower fromisoformat run store, ∃ a ∈ store.active, a.id = id ∧
        due lower fromisoformat run a = true := by
  have hsub : (handled lower fromisoformat run store.users (run.arrange store.active)).Sublist
      (run.arrange store.active) := List.takeWhile_sublist _
  constructor
  · have hactive : ((run.arrange store.active).map (·.id)).Nodup :=
      ((run.arrange_perm store.active).map _).nodup_iff.mpr
        (store.ids_nodup.sublist (List.filter_sublist.map _))
    exact hactive.sublist ((List.filter_sublist.trans hsub).map _)
  · intro id hid
    obtain ⟨a, ha, rfl⟩ := List.mem_map.mp hid
    obtain ⟨hhandled, hdue⟩ := List.mem_filter.mp ha
    simp only [Bool.and_eq_true] at hdue
    exact ⟨a, (run.arrange_perm _).mem_iff.mp (hsub.mem hhandled), rfl, hdue.1⟩

variable {lower fromisoformat}

/-- After the commit, an alert that is still active was not marked. -/
theorem active_of_writeBack {run : MonitorRun} {alerts : List PriceAlert} {a : PriceAlert}
    (h : (writeBack (alerts.map (mark run)) a).isActive = true) : a.isActive = true ∧ a.id ∉ alerts.map (·.id) := by
  unfold writeBack at h
  split at h
  · rename_i hnone
    refine ⟨h, fun hmem => ?_⟩
    obtain ⟨b, hb, hid⟩ := List.mem_map.mp hmem
    have hno := List.find?_eq_none.mp hnone (mark run b) (List.mem_map_of_mem hb)
    exact hno (decide_eq_true hid)
  · rename_i m hsome
    obtain ⟨b, -, rfl⟩ := List.mem_map.mp (List.mem_of_find?_eq_some hsome)
    cases h

/-- What any run leaves behind, as far as announcements go. -/
theorem AnnouncedOnce.announce {store store' : MonitorStore} {ids : List ℕ} (h : AnnouncedOnce store)
    (hsent : store'.sent.map (·.alertId) = store.sent.map (·.alertId) ++ ids) (hnext : store'.nextId = store.nextId)
    (hnodup : ids.Nodup) (hids : ∀ id ∈ ids, ∃ a ∈ store.active, a.id = id)
    (halerts : ∀ a ∈ store'.alerts, a.isActive = true → (∃ b ∈ store.active, b.id = a.id) ∧ a.id ∉ ids) :
    AnnouncedOnce store' := by
  have hfresh : ∀ b ∈ store.active, b.id ∉ store.sent.map (·.alertId) := by
    intro b hb
    obtain ⟨hmem, hact⟩ := List.mem_filter.mp hb
    exact h.unannounced b hmem hact
  refine ⟨?_, ?_, ?_⟩
  · rw [hsent, List.nodup_append]
    refine ⟨h.once, hnodup, ?_⟩
    intro i hi j hj
    obtain ⟨a, ha, rfl⟩ := hids j hj
    exact fun he => hfresh a ha (he ▸ hi)
  · intro id hid
    rw [hsent] at hid
    rw [hnext]
    rcases List.mem_append.mp hid with hid | hid
    · exact h.known id hid
    · obtain ⟨a, ha, rfl⟩ := hids id hid
      exact store.ids_lt a (List.mem_of_mem_filter ha)
  · intro a ha hact
    obtain ⟨⟨b, hb, hba⟩, hnew⟩ := halerts a ha hact
    rw [hsent, List.mem_append]
    rintro (hold | hin)
    · exact hfresh b hb (hba ▸ hold)
    · exact hnew hin

/-- **A safe run keeps the invariant.** -/
theorem AnnouncedOnce.monitor {store : MonitorStore} (h : AnnouncedOnce store) {run : MonitorRun}
    (hsafe : Safe lower fromisoformat store (.monitor run)) :
    AnnouncedOnce (monitorPrices lower fromisoformat run store).1 := by
  obtain ⟨hnodup, hids⟩ := announcedIds_spec lower fromisoformat run store
  obtain ⟨sent, hsent, ⟨hab, he⟩ | ⟨-, he⟩⟩ := monitorPrices_cases lower fromisoformat run store
  · rw [he]
    refine h.announce ?_ rfl hnodup (fun id hid => ?_) ?_
    · simp only [MonitorStore.send, MonitorStore.delete, List.map_append, hsent]
    · obtain ⟨a, ha, hid', -⟩ := hids id hid
      exact ⟨a, ha, hid'⟩
    · -- The marks are lost, but what was announced is deleted.
      intro a ha hact
      obtain ⟨hmem, hkept⟩ := List.mem_filter.mp ha
      refine ⟨⟨a, List.mem_filter.mpr ⟨hmem, hact⟩, rfl⟩, fun hin => ?_⟩
      obtain ⟨b, hb, hid⟩ := List.mem_map.mp hin
      obtain ⟨hhandled, hdue⟩ := List.mem_filter.mp hb
      simp only [Bool.and_eq_true] at hdue
      exact of_decide_eq_true hkept (hid ▸ hsafe hab b hhandled hdue.1 hdue.2)
  · rw [he]
    refine h.announce ?_ rfl hnodup (fun id hid => ?_) ?_
    · simp only [MonitorStore.send, MonitorStore.write, MonitorStore.delete, List.map_append, hsent]
    · obtain ⟨a, ha, hid', -⟩ := hids id hid
      exact ⟨a, ha, hid'⟩
    · intro a ha hact
      obtain ⟨b, hb, rfl⟩ := List.mem_map.mp ha
      obtain ⟨hmem, -⟩ := List.mem_filter.mp hb
      obtain ⟨hbact, hunmarked⟩ := active_of_writeBack hact
      rw [writeBack_id]
      refine ⟨⟨b, List.mem_filter.mpr ⟨hmem, hbact⟩, rfl⟩, fun hin => ?_⟩
      obtain ⟨c, hc, hid, hdue⟩ := hids _ hin
      have hcmem : c ∈ (run.arrange store.active).filter (due lower fromisoformat run) :=
        List.mem_filter.mpr ⟨(run.arrange_perm _).mem_iff.mpr hc, hdue⟩
      exact hunmarked (hid ▸ List.mem_map_of_mem hcmem)

/-- **Every event keeps the invariant**, a monitor run if it is safe. -/
theorem AnnouncedOnce.step {store : MonitorStore} (h : AnnouncedOnce store) {event : MonitorEvent}
    (hsafe : Safe lower fromisoformat store event) : AnnouncedOnce (store.step lower fromisoformat event).1 := by
  cases event with
  | monitor run => exact h.monitor hsafe
  | create userId origin destination departureDate target currency channel =>
    refine ⟨h.once, fun id hid => Nat.lt_succ_of_lt (h.known id hid), ?_⟩
    intro a ha hact hin
    rcases List.mem_append.mp ha with ha | ha
    · exact h.unannounced a ha hact hin
    · -- The id is new, and every announced id was known before.
      rw [List.mem_singleton] at ha
      have hlt := h.known a.id hin
      rw [ha] at hlt
      exact Nat.lt_irrefl _ hlt
  | delete id =>
    exact ⟨h.once, h.known, fun a ha => h.unannounced a (List.mem_of_mem_filter ha)⟩

/-- **Runs of safe events** announce every alert at most once. -/
theorem run_announcedOnce {store : MonitorStore} (h : AnnouncedOnce store) {events : List MonitorEvent}
    (hen : (monitorMachine lower fromisoformat).Enabled (Safe lower fromisoformat) store events) :
    AnnouncedOnce ((monitorMachine lower fromisoformat).run store events) :=
  (monitorMachine lower fromisoformat).run_invariant AnnouncedOnce (fun _ _ hinv hsafe => hinv.step hsafe) h hen

/-- The run in the same world in which every send succeeds and nothing is deleted. -/
def MonitorRun.retry (run : MonitorRun) : MonitorRun := { run with raises := fun _ => false, deleted := [] }

/-- A run in which nothing fails announces every active alert that is due and owned. -/
theorem mem_announcedIds_retry {run : MonitorRun} {store : MonitorStore} {a : PriceAlert} (ha : a ∈ store.active)
    (hdue : due lower fromisoformat run a = true) (howned : owned store.users a = true) :
    a.id ∈ announcedIds lower fromisoformat run.retry store := by
  have hall : handled lower fromisoformat run.retry store.users (run.retry.arrange store.active) =
      run.retry.arrange store.active := by
    rw [handled, List.takeWhile_eq_self_iff]
    intro b _
    simp [failing, MonitorRun.retry]
  have hdue' : due lower fromisoformat run.retry a = true := hdue
  refine List.mem_map.mpr ⟨a, List.mem_filter.mpr ⟨?_, by rw [hdue', howned]; rfl⟩, rfl⟩
  rw [hall]
  exact (run.retry.arrange_perm _).mem_iff.mpr ha

/-- **After an unsafe run the next one repeats a message.** -/
theorem unsafe_run_repeats {store : MonitorStore} {run : MonitorRun}
    (hrisky : ¬ Safe lower fromisoformat store (.monitor run)) :
    ∃ id, 2 ≤ ((monitorPrices lower fromisoformat run.retry
      (monitorPrices lower fromisoformat run store).1).1.sent.map (·.alertId)).count id := by
  simp only [Safe, not_forall] at hrisky
  obtain ⟨hab, a, hhandled, hdue, howned, hkept⟩ := hrisky
  have hactive : a ∈ store.active := (run.arrange_perm _).mem_iff.mp ((List.takeWhile_sublist _).mem hhandled)
  have hfirst : a.id ∈ announcedIds lower fromisoformat run store :=
    List.mem_map.mpr ⟨a, List.mem_filter.mpr ⟨hhandled, by rw [hdue, howned]; rfl⟩, rfl⟩
  obtain ⟨sent, hsent, ⟨-, he⟩ | ⟨hno, -⟩⟩ := monitorPrices_cases lower fromisoformat run store
  · rw [he]
    -- The alert is still there and still active, so the next run finds it due again.
    have hstill : a ∈ ((store.delete run.deleted).send sent).active := by
      obtain ⟨hmem, hact⟩ := List.mem_filter.mp hactive
      exact List.mem_filter.mpr ⟨List.mem_filter.mpr ⟨hmem, decide_eq_true hkept⟩, hact⟩
    have hsecond : a.id ∈ announcedIds lower fromisoformat run.retry ((store.delete run.deleted).send sent) :=
      mem_announcedIds_retry hstill hdue howned
    obtain ⟨sent', hsent', hcases⟩ := monitorPrices_cases lower fromisoformat run.retry
      ((store.delete run.deleted).send sent)
    have hlog : (monitorPrices lower fromisoformat run.retry ((store.delete run.deleted).send sent)).1.sent =
        store.sent ++ sent ++ sent' := by
      rcases hcases with ⟨-, he'⟩ | ⟨-, he'⟩ <;> rw [he'] <;> rfl
    refine ⟨a.id, ?_⟩
    have hone : 1 ≤ (sent.map (·.alertId)).count a.id := List.count_pos_iff.mpr (hsent ▸ hfirst)
    have htwo : 1 ≤ (sent'.map (·.alertId)).count a.id := List.count_pos_iff.mpr (hsent' ▸ hsecond)
    rw [hlog, List.map_append, List.map_append, List.count_append, List.count_append]
    omega
  · exact absurd hab hno

/-- **Announcements and safe runs.** From a store from which nothing was sent: as long as every monitor run is safe, no
alert is announced twice; and an unsafe run, whatever came before it, can be followed by one that announces an alert
again. -/
theorem announced_at_most_once_when_safe (store : MonitorStore) (hsent : store.sent = []) :
    (∀ events, (monitorMachine lower fromisoformat).Enabled (Safe lower fromisoformat) store events →
      ∀ id, (((monitorMachine lower fromisoformat).run store events).sent.map (·.alertId)).count id ≤ 1) ∧
    ∀ events run, ¬ Safe lower fromisoformat ((monitorMachine lower fromisoformat).run store events) (.monitor run) →
      ∃ next id, 2 ≤ (((monitorMachine lower fromisoformat).run store
        (events ++ [.monitor run, .monitor next])).sent.map (·.alertId)).count id := by
  constructor
  · intro events hen id
    have hinit : AnnouncedOnce store := ⟨by simp [hsent], by simp [hsent], by simp [hsent]⟩
    exact List.nodup_iff_count_le_one.mp (run_announcedOnce hinit hen).once id
  · intro events run hrisky
    obtain ⟨id, hid⟩ := unsafe_run_repeats hrisky
    refine ⟨run.retry, id, ?_⟩
    rw [Machine.run_append]
    exact hid

end

/-! ## Two alerts, of which the second cannot be announced -/

/-- An alert of user 7 for the sample route. -/
def sampleAlert (id : ℕ) : PriceAlert := ⟨id, 7, "THR", "IST", "2026-08-10", 500, "USD", .email, true, none⟩

/-- `date.fromisoformat` on the date of the sample alerts. -/
def sampleFromisoformat (s : String) : Option Date := if s = sampleDate.isoformat then some sampleDate else none

/-- User 7 and two alerts. -/
def twoAlerts : MonitorStore where
  users := [⟨7, "watcher@example.com", "x", none, .user, true, true⟩]
  alerts := [sampleAlert 0, sampleAlert 1]
  sent := []
  nextId := 2
  ids_nodup := by decide
  ids_lt := by decide

theorem id_perm (alerts : List PriceAlert) : (id alerts).Perm alerts := List.Perm.refl alerts

/-- A run with a fare below both targets, in which the second send raises. -/
def secondSendRaises : MonitorRun where
  flights := staticFlights [sampleFlight "1" "KLM" 300 0] one_le_hundred
  arrange := id
  raises := fun a => a.id == 1
  now := fun _ => 0
  deleted := []
  arrange_perm := id_perm

/-- The first alert is announced, the second send raises, and the next run announces the first alert again. -/
theorem failed_send_repeats_announcement :
    twoAlerts.sent = [] ∧ (((monitorMachine asciiLower sampleFromisoformat).run twoAlerts
      [.monitor secondSendRaises, .monitor secondSendRaises.retry]).sent.map (·.alertId)).count 0 = 2 := by
  decide +kernel

/-- Without a failure the two alerts are announced once however often the monitor runs; the failing run is unsafe. -/
theorem retries_are_safe :
    (∀ id, (((monitorMachine asciiLower sampleFromisoformat).run twoAlerts
      [.monitor secondSendRaises.retry, .monitor secondSendRaises.retry]).sent.map (·.alertId)).count id ≤ 1) ∧
    ∃ next id, 2 ≤ (((monitorMachine asciiLower sampleFromisoformat).run twoAlerts
      ([] ++ [.monitor secondSendRaises, .monitor next])).sent.map (·.alertId)).count id := by
  have hsafe : ∀ store, Safe asciiLower sampleFromisoformat store (.monitor secondSendRaises.retry) := by
    rintro store ⟨a, -, -, ⟨-, hraise⟩ | hdel⟩
    · cases hraise
    · cases hdel
  have hrisky : ¬ Safe asciiLower sampleFromisoformat twoAlerts (.monitor secondSendRaises) := by
    intro h
    have hab : Aborts asciiLower sampleFromisoformat secondSendRaises twoAlerts :=
      ⟨sampleAlert 1, by decide +kernel, by decide +kernel, .inl ⟨by decide +kernel, rfl⟩⟩
    exact List.not_mem_nil (h hab (sampleAlert 0) (by decide +kernel) (by decide +kernel) (by decide +kernel))
  exact ⟨(announced_at_most_once_when_safe twoAlerts rfl).1 _ ⟨hsafe _, hsafe _, trivial⟩,
    (announced_at_most_once_when_safe twoAlerts rfl).2 [] secondSendRaises hrisky⟩

end SmartTravel
