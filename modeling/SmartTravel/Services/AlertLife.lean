import SmartTravel.Services.MonitorRuns

/-!
# The life of an alert

Alerts are created, deleted and checked by monitor runs that do not overlap with each other or with a deletion, and no
send raises. An alert waits for the first run, while it exists, in which the cheapest fare meets its target
(`firstMet`); there it is marked and announced to its owner, and afterwards nothing happens to it (`life_of_active`).

Each event keeps the store consistent (`Consistent.step`) and is known exactly by what it does to one row: to an active
one (`active_step`), to an inactive one (`inactive_step`), and to an id that has no row (`absent_step`).
-/

namespace SmartTravel

open Py Runs

section
variable (lower : String → String) (fromisoformat : String → Option Date)

/-! ## What should happen -/

/-- The smallest amount on offer for the route and date of an alert. -/
def cheapestFare (flights : FlightAggregationService) (alert : PriceAlert) : Option ℕ :=
  ((faresFor fromisoformat flights alert).map (·.price.amountMinor)).min?

/-- The date parses and the cheapest fare meets the target. -/
def met (flights : FlightAggregationService) (alert : PriceAlert) : Bool :=
  (cheapestFare fromisoformat flights alert).any fun cheapest => decide (cheapest ≤ alert.targetAmountMinor)

/-- The message to the owner, if there is one, about the cheapest fare. -/
def announcement (flights : FlightAggregationService) (users : List User) (alert : PriceAlert) : List Announcement :=
  match cheapestFare fromisoformat flights alert, users.find? (fun u => u.id = alert.userId) with
  | some cheapest, some user => [notice user alert cheapest]
  | _, _ => []

/-- No send raises, and nothing is deleted while the run lasts. -/
def Smooth : MonitorEvent → Prop
  | .monitor run => (∀ a, run.raises a = false) ∧ run.deleted = []
  | _ => True

/-- The first run, before the alert is deleted, that meets its target. -/
def firstMet (alert : PriceAlert) : List MonitorEvent → Option MonitorRun
  | [] => none
  | .monitor run :: events => if met fromisoformat run.flights alert then some run else firstMet alert events
  | .delete id :: events => if id = alert.id then none else firstMet alert events
  | .create .. :: events => firstMet alert events

/-- The event deletes the alert with this id. -/
def deletes (id : ℕ) : MonitorEvent → Bool
  | .delete id' => decide (id' = id)
  | _ => false

/-- The messages about an alert. -/
def messagesAbout (id : ℕ) (store : MonitorStore) : List Announcement := store.sent.filter fun m => m.alertId = id

theorem cheapestPrice_eq_cheapestFare (flights : FlightAggregationService) (alert : PriceAlert) :
    cheapestPrice lower fromisoformat flights alert = .ok (cheapestFare fromisoformat flights alert) :=
  cheapestPrice_eq lower fromisoformat flights alert

theorem due_eq_met (run : MonitorRun) (alert : PriceAlert) :
    due lower fromisoformat run alert = met fromisoformat run.flights alert := by
  cases hfare : cheapestFare fromisoformat run.flights alert <;>
    simp [due, met, cheapestPrice_eq_cheapestFare, hfare]

theorem toList_message? (run : MonitorRun) (users : List User) (alert : PriceAlert) :
    (message? lower fromisoformat run users alert).toList =
      if met fromisoformat run.flights alert then announcement fromisoformat run.flights users alert else [] := by
  cases hfare : cheapestFare fromisoformat run.flights alert with
  | none => simp [message?, met, cheapestPrice_eq_cheapestFare, hfare]
  | some cheapest =>
    by_cases hle : cheapest ≤ alert.targetAmountMinor
    · cases huser : users.find? (fun u => u.id = alert.userId) <;>
        simp [message?, met, announcement, cheapestPrice_eq_cheapestFare, hfare, hle, huser]
    · simp [message?, met, cheapestPrice_eq_cheapestFare, hfare, hle]

/-! ## One event -/

/-- A store whose marks and messages fit together. -/
structure Consistent (store : MonitorStore) : Prop where
  marks : ∀ a ∈ store.alerts, a.isActive = true ↔ a.triggeredAt = none
  known : ∀ m ∈ store.sent, m.alertId < store.nextId
  unannounced : ∀ a ∈ store.alerts, a.isActive = true → messagesAbout a.id store = []

theorem monitorPrices_frame (run : MonitorRun) (store : MonitorStore) :
    (monitorPrices lower fromisoformat run store).1.users = store.users ∧
      (monitorPrices lower fromisoformat run store).1.nextId = store.nextId := by
  simp only [monitorPrices, checkAll_eq]
  repeat' split
  all_goals exact ⟨rfl, rfl⟩

theorem users_step (store : MonitorStore) (event : MonitorEvent) :
    (store.step lower fromisoformat event).1.users = store.users := by
  cases event with
  | monitor run => exact (monitorPrices_frame lower fromisoformat run store).1
  | create => rfl
  | delete => rfl

variable {run : MonitorRun} (hrun : Smooth (.monitor run)) (store : MonitorStore)
include hrun

theorem not_failing (users : List User) (a : PriceAlert) : failing lower fromisoformat run users a = false := by
  rw [failing, hrun.1 a, Bool.and_false]

/-- **A smooth run**, in terms of the fares. -/
theorem monitorPrices_met :
    (monitorPrices lower fromisoformat run store).1.alerts =
        store.alerts.map (fun a => if a.isActive && met fromisoformat run.flights a then mark run a else a) ∧
      (monitorPrices lower fromisoformat run store).2 = .ok ⟨(store.alerts.filter (·.isActive)).length,
        (store.alerts.filter fun a => a.isActive && met fromisoformat run.flights a).length⟩ := by
  obtain ⟨halerts, -, hreport⟩ := monitorPrices_smooth lower fromisoformat store hrun.2
    fun a _ => not_failing lower fromisoformat hrun store.users a
  simp only [due_eq_met] at halerts hreport
  exact ⟨halerts, hreport⟩

omit hrun in
theorem filter_filterMap_message? (users : List User) (id : ℕ) : ∀ alerts : List PriceAlert,
    (alerts.filterMap (message? lower fromisoformat run users)).filter (fun m => m.alertId = id) =
      (alerts.filter fun a => a.id = id).filterMap (message? lower fromisoformat run users)
  | [] => rfl
  | a :: alerts => by
    have ih := filter_filterMap_message? users id alerts
    rw [List.filterMap_cons]
    cases hm : message? lower fromisoformat run users a with
    | none =>
      rw [ih, List.filter_cons]
      split
      · rw [List.filterMap_cons, hm]
      · rfl
    | some m =>
      have hid := message?_alertId lower fromisoformat run users hm
      rw [List.filter_cons, List.filter_cons, hid, ih]
      split
      · rw [List.filterMap_cons, hm]
      · rfl

/-- What a run sends about an id. -/
theorem messagesAbout_monitor (id : ℕ) :
    messagesAbout id (monitorPrices lower fromisoformat run store).1 = messagesAbout id store ++
      ((run.arrange store.active).filter fun a => a.id = id).filterMap
        (message? lower fromisoformat run store.users) := by
  obtain ⟨-, hsent, -⟩ := monitorPrices_smooth lower fromisoformat store hrun.2
    fun a _ => not_failing lower fromisoformat hrun store.users a
  rw [messagesAbout, hsent, List.filter_append, filter_filterMap_message?]
  rfl

/-- It sends nothing about an id that no active alert has. -/
theorem messagesAbout_monitor_of_absent {id : ℕ} (h : ∀ a ∈ store.active, a.id ≠ id) :
    messagesAbout id (monitorPrices lower fromisoformat run store).1 = messagesAbout id store := by
  have hnone : (run.arrange store.active).filter (fun a => a.id = id) = [] := by
    rw [List.filter_eq_nil_iff]
    intro a ha
    simpa using h a ((mem_arrange run store).mp ha)
  rw [messagesAbout_monitor lower fromisoformat hrun, hnone, List.filterMap_nil, List.append_nil]

/-- It sends the message about an active alert, if its target is met. -/
theorem messagesAbout_monitor_of_active {a : PriceAlert} (ha : a ∈ store.active) :
    messagesAbout a.id (monitorPrices lower fromisoformat run store).1 = messagesAbout a.id store ++
      if met fromisoformat run.flights a then announcement fromisoformat run.flights store.users a else [] := by
  have hone : (run.arrange store.active).filter (fun b => b.id = a.id) = [a] := by
    have hnodup : (run.arrange store.active).Nodup :=
      (run.arrange_perm _).nodup_iff.mpr (store.ids_nodup.of_map.filter _)
    rw [← List.perm_singleton]
    refine (List.perm_ext_iff_of_nodup (hnodup.filter _) (List.nodup_singleton a)).mpr fun b => ?_
    rw [List.mem_filter, mem_arrange, List.mem_singleton, decide_eq_true_eq]
    constructor
    · rintro ⟨hb, hid⟩
      exact store.eq_of_id ((mem_active store).mp hb).1 ((mem_active store).mp ha).1 hid
    · rintro rfl
      exact ⟨ha, rfl⟩
  rw [messagesAbout_monitor lower fromisoformat hrun, hone, ← toList_message? lower]
  cases hm : message? lower fromisoformat run store.users a <;> simp [hm]

end

/-! ## What an event does to one alert -/

section
variable (lower : String → String) (fromisoformat : String → Option Date) {store : MonitorStore} {event : MonitorEvent}

/-- The id has no row, and none will get it. -/
structure Absent (id : ℕ) (store : MonitorStore) : Prop where
  no_row : ∀ a ∈ store.alerts, a.id ≠ id
  used : id < store.nextId

/-- An id without a row stays without one, and nothing more is sent about it. -/
theorem absent_step {id : ℕ} (h : Absent id store) (hevent : Smooth event) :
    Absent id (store.step lower fromisoformat event).1 ∧
      messagesAbout id (store.step lower fromisoformat event).1 = messagesAbout id store := by
  cases event with
  | monitor run =>
    refine ⟨⟨fun a ha => ?_, ?_⟩, ?_⟩
    · have ha : a ∈ (monitorPrices lower fromisoformat run store).1.alerts := ha
      rw [(monitorPrices_met lower fromisoformat hevent store).1] at ha
      obtain ⟨b, hb, rfl⟩ := List.mem_map.mp ha
      have hid := h.no_row b hb
      split
      · exact hid
      · exact hid
    · exact h.used.trans_eq (monitorPrices_frame lower fromisoformat run store).2.symm
    · refine messagesAbout_monitor_of_absent lower fromisoformat hevent store fun a ha => ?_
      exact h.no_row a ((mem_active store).mp ha).1
  | create userId origin destination departureDate target currency channel =>
    refine ⟨⟨fun a ha => ?_, Nat.lt_succ_of_lt h.used⟩, rfl⟩
    rcases List.mem_append.mp ha with ha | ha
    · exact h.no_row a ha
    · rw [List.mem_singleton.mp ha]
      exact h.used.ne'
  | delete id' => exact ⟨⟨fun a ha => h.no_row a (List.mem_of_mem_filter ha), h.used⟩, rfl⟩

/-- Deleting an alert leaves its id without a row. -/
theorem absent_delete {a : PriceAlert} (ha : a ∈ store.alerts) : Absent a.id (store.delete [a.id]) := by
  refine ⟨fun b hb => ?_, store.ids_lt a ha⟩
  have hkept := (List.mem_filter.mp hb).2
  simpa using hkept

/-- An event other than its deletion leaves an inactive alert as it is. -/
theorem inactive_step {a : PriceAlert} (ha : a ∈ store.alerts) (hinactive : a.isActive = false)
    (hevent : Smooth event) (hkept : deletes a.id event = false) :
    a ∈ (store.step lower fromisoformat event).1.alerts ∧
      messagesAbout a.id (store.step lower fromisoformat event).1 = messagesAbout a.id store := by
  cases event with
  | monitor run =>
    refine ⟨?_, messagesAbout_monitor_of_absent lower fromisoformat hevent store fun b hb hid => ?_⟩
    · show a ∈ (monitorPrices lower fromisoformat run store).1.alerts
      rw [(monitorPrices_met lower fromisoformat hevent store).1]
      exact List.mem_map.mpr ⟨a, ha, by rw [hinactive]; rfl⟩
    · obtain ⟨hmem, hactive⟩ := (mem_active store).mp hb
      rw [store.eq_of_id hmem ha hid, hinactive] at hactive
      cases hactive
  | create => exact ⟨List.mem_append_left _ ha, rfl⟩
  | delete id =>
    have hne : a.id ≠ id := fun he => by simp [deletes, he] at hkept
    exact ⟨List.mem_filter.mpr ⟨ha, by simpa using hne⟩, rfl⟩

/-- A run whose fares do not meet its target, and any other event but its deletion, leave an active alert as it is. -/
theorem active_step {a : PriceAlert} (ha : a ∈ store.alerts) (hactive : a.isActive = true) (hevent : Smooth event)
    (hkept : deletes a.id event = false)
    (hmet : ∀ run, event = .monitor run → met fromisoformat run.flights a = false) :
    a ∈ (store.step lower fromisoformat event).1.alerts ∧
      messagesAbout a.id (store.step lower fromisoformat event).1 = messagesAbout a.id store := by
  cases event with
  | monitor run =>
    have hno := hmet run rfl
    constructor
    · show a ∈ (monitorPrices lower fromisoformat run store).1.alerts
      rw [(monitorPrices_met lower fromisoformat hevent store).1]
      exact List.mem_map.mpr ⟨a, ha, by rw [hno, Bool.and_false]; rfl⟩
    · show messagesAbout a.id (monitorPrices lower fromisoformat run store).1 = _
      rw [messagesAbout_monitor_of_active lower fromisoformat hevent store ((mem_active store).mpr ⟨ha, hactive⟩), hno]
      exact List.append_nil _
  | create => exact ⟨List.mem_append_left _ ha, rfl⟩
  | delete id =>
    have hne : a.id ≠ id := fun he => by simp [deletes, he] at hkept
    exact ⟨List.mem_filter.mpr ⟨ha, by simpa using hne⟩, rfl⟩

/-- A smooth monitor run keeps the store consistent. -/
theorem Consistent.monitor {run : MonitorRun} (h : Consistent store) (hevent : Smooth (.monitor run)) :
    Consistent (monitorPrices lower fromisoformat run store).1 := by
  obtain ⟨-, hsent, -⟩ := monitorPrices_smooth lower fromisoformat store hevent.2
    fun a _ => not_failing lower fromisoformat hevent store.users a
  have hrow : ∀ a ∈ (monitorPrices lower fromisoformat run store).1.alerts, ∃ b ∈ store.alerts,
      a = if b.isActive && met fromisoformat run.flights b then mark run b else b := by
    intro a ha
    rw [(monitorPrices_met lower fromisoformat hevent store).1] at ha
    obtain ⟨b, hb, rfl⟩ := List.mem_map.mp ha
    exact ⟨b, hb, rfl⟩
  refine ⟨fun a ha => ?_, fun m hm => ?_, fun a ha hactive => ?_⟩
  · obtain ⟨b, hb, rfl⟩ := hrow a ha
    split
    · simp [mark]
    · exact h.marks b hb
  · rw [(monitorPrices_frame lower fromisoformat run store).2]
    rw [hsent] at hm
    rcases List.mem_append.mp hm with hm | hm
    · exact h.known m hm
    · obtain ⟨b, hb, hmsg⟩ := List.mem_filterMap.mp hm
      rw [message?_alertId lower fromisoformat run store.users hmsg]
      exact store.ids_lt b ((mem_active store).mp ((mem_arrange run store).mp hb)).1
  · -- An alert that is still active was active before, and its target was not met.
    obtain ⟨b, hb, hab⟩ := hrow a ha
    split at hab
    · rw [hab] at hactive
      cases hactive
    · rename_i hno
      subst hab
      rw [hactive, Bool.true_and, Bool.not_eq_true] at hno
      have hmem := (mem_active store).mpr ⟨hb, hactive⟩
      rw [messagesAbout_monitor_of_active lower fromisoformat hevent store hmem, hno, h.unannounced a hb hactive]
      rfl

/-- **Every smooth event keeps the store consistent.** -/
theorem Consistent.step (h : Consistent store) (hevent : Smooth event) :
    Consistent (store.step lower fromisoformat event).1 := by
  cases event with
  | monitor run => exact h.monitor lower fromisoformat hevent
  | create userId origin destination departureDate target currency channel =>
    refine ⟨fun a ha => ?_, fun m hm => Nat.lt_succ_of_lt (h.known m hm), fun a ha hactive => ?_⟩
    · rcases List.mem_append.mp ha with ha | ha
      · exact h.marks a ha
      · rw [List.mem_singleton.mp ha]
        simp
    · rcases List.mem_append.mp ha with ha | ha
      · exact h.unannounced a ha hactive
      · rw [List.mem_singleton.mp ha]
        refine List.filter_eq_nil_iff.mpr fun m hm => ?_
        have hlt := h.known m hm
        simp only [decide_eq_true_eq]
        omega
  | delete id =>
    exact ⟨fun a ha => h.marks a (List.mem_of_mem_filter ha), h.known,
      fun a ha => h.unannounced a (List.mem_of_mem_filter ha)⟩

end

/-! ## Along a run -/

section
variable (lower : String → String) (fromisoformat : String → Option Date)

theorem users_run : ∀ (events : List MonitorEvent) (store : MonitorStore),
    ((monitorMachine lower fromisoformat).run store events).users = store.users
  | [], _ => rfl
  | event :: events, store => by
    rw [Machine.run_cons, users_run events]
    exact users_step lower fromisoformat store event

theorem Consistent.run {store : MonitorStore} (h : Consistent store) : ∀ {events : List MonitorEvent},
    (∀ e ∈ events, Smooth e) → Consistent ((monitorMachine lower fromisoformat).run store events) := by
  intro events hevents
  induction events using List.reverseRecOn with
  | nil => exact h
  | append_singleton events event ih =>
    rw [Machine.run_snoc]
    exact (ih fun e he => hevents e (List.mem_append_left _ he)).step lower fromisoformat
      (hevents event (List.mem_append_right _ (List.mem_singleton_self event)))

/-- Nothing happens to an id without a row. -/
theorem absent_run {id : ℕ} : ∀ {events : List MonitorEvent} {store : MonitorStore}, Absent id store →
    (∀ e ∈ events, Smooth e) → Absent id ((monitorMachine lower fromisoformat).run store events) ∧
      messagesAbout id ((monitorMachine lower fromisoformat).run store events) = messagesAbout id store
  | [], _, h, _ => ⟨h, rfl⟩
  | event :: events, store, h, hevents => by
    obtain ⟨hstep, hsame⟩ := absent_step lower fromisoformat h (hevents event List.mem_cons_self)
    obtain ⟨hrun, hrest⟩ := absent_run hstep fun e he => hevents e (List.mem_cons_of_mem event he)
    exact ⟨hrun, hrest.trans hsame⟩

/-- Where an alert is after some events: gone once it was deleted, else in the table as the given row. -/
def RowAfter (row : PriceAlert) (events : List MonitorEvent) (store : MonitorStore) : Prop :=
  if events.any (deletes row.id) then ∀ b ∈ store.alerts, b.id ≠ row.id else row ∈ store.alerts

/-- **An inactive alert** stays as it is until it is deleted, and nothing more is sent about it. -/
theorem life_of_inactive : ∀ {events : List MonitorEvent} {store : MonitorStore} {a : PriceAlert}, a ∈ store.alerts →
    a.isActive = false → (∀ e ∈ events, Smooth e) →
    messagesAbout a.id ((monitorMachine lower fromisoformat).run store events) = messagesAbout a.id store ∧
      RowAfter a events ((monitorMachine lower fromisoformat).run store events)
  | [], _, _, ha, _, _ => ⟨rfl, ha⟩
  | event :: events, store, a, ha, hinactive, hevents => by
    have hevent := hevents event List.mem_cons_self
    have hrest : ∀ e ∈ events, Smooth e := fun e he => hevents e (List.mem_cons_of_mem event he)
    cases hdel : deletes a.id event with
    | true =>
      obtain ⟨id, rfl⟩ : ∃ id, event = .delete id := by
        cases event with
        | delete id => exact ⟨id, rfl⟩
        | monitor run => cases hdel
        | create => cases hdel
      have hid : id = a.id := of_decide_eq_true hdel
      subst hid
      obtain ⟨habsent, hsame⟩ := absent_run lower fromisoformat (absent_delete ha) hrest
      exact ⟨hsame, by rw [RowAfter, List.any_cons, hdel]; exact habsent.no_row⟩
    | false =>
      obtain ⟨hmem, hsame⟩ := inactive_step lower fromisoformat ha hinactive hevent hdel
      obtain ⟨hmsgs, hrow⟩ := life_of_inactive hmem hinactive hrest
      refine ⟨hmsgs.trans hsame, ?_⟩
      unfold RowAfter at hrow ⊢
      rw [List.any_cons, hdel, Bool.false_or]
      exact hrow

theorem rowAfter_cons {row : PriceAlert} {event : MonitorEvent} (hkept : deletes row.id event = false)
    {events : List MonitorEvent} {store : MonitorStore} :
    RowAfter row (event :: events) store ↔ RowAfter row events store := by
  unfold RowAfter
  rw [List.any_cons, hkept, Bool.false_or]

/-- What has become of an active alert after some events: the first run that met its target has marked it and sent the
only message about it. -/
structure LifeAfter (users : List User) (a : PriceAlert) (events : List MonitorEvent) (store : MonitorStore) :
    Prop where
  messages : messagesAbout a.id store =
    (firstMet fromisoformat a events).elim [] fun run => announcement fromisoformat run.flights users a
  row : RowAfter ((firstMet fromisoformat a events).elim a fun run => mark run a) events store

/-- **An active alert** waits for the first run that meets its target; there it is marked and announced. -/
theorem life_of_active : ∀ {events : List MonitorEvent} {store : MonitorStore} {a : PriceAlert}, a ∈ store.alerts →
    a.isActive = true → messagesAbout a.id store = [] → (∀ e ∈ events, Smooth e) →
    LifeAfter fromisoformat store.users a events ((monitorMachine lower fromisoformat).run store events)
  | [], _, _, ha, _, hnone, _ => ⟨hnone, ha⟩
  | event :: events, store, a, ha, hactive, hnone, hevents => by
    have hevent := hevents event List.mem_cons_self
    have hrest : ∀ e ∈ events, Smooth e := fun e he => hevents e (List.mem_cons_of_mem event he)
    -- Events that leave the alert active hand it over to the rest of the run.
    have hwait : deletes a.id event = false →
        (∀ run, event = .monitor run → met fromisoformat run.flights a = false) →
        firstMet fromisoformat a (event :: events) = firstMet fromisoformat a events →
        LifeAfter fromisoformat store.users a (event :: events)
          ((monitorMachine lower fromisoformat).run store (event :: events)) := by
      intro hkept hmet hfirst
      obtain ⟨hmem, hsame⟩ := active_step lower fromisoformat ha hactive hevent hkept hmet
      obtain ⟨hmsgs, hrow⟩ := life_of_active hmem hactive (hsame.trans hnone) hrest
      rw [users_step] at hmsgs
      refine ⟨by rw [hfirst]; exact hmsgs, ?_⟩
      rw [hfirst]
      refine (rowAfter_cons ?_).mpr hrow
      cases firstMet fromisoformat a events with
      | none => exact hkept
      | some run => exact hkept
    cases event with
    | monitor run =>
      cases hmet : met fromisoformat run.flights a with
      | false =>
        refine hwait rfl (fun run' he => ?_) (by rw [firstMet, hmet]; rfl)
        cases he
        exact hmet
      | true =>
        have hfirst : firstMet fromisoformat a (.monitor run :: events) = some run := by rw [firstMet, hmet]; rfl
        have hmark : mark run a ∈ (monitorPrices lower fromisoformat run store).1.alerts := by
          rw [(monitorPrices_met lower fromisoformat hevent store).1]
          exact List.mem_map.mpr ⟨a, ha, by rw [hactive, hmet]; rfl⟩
        have hmem := (mem_active store).mpr ⟨ha, hactive⟩
        have hsent := messagesAbout_monitor_of_active lower fromisoformat hevent store hmem
        rw [hnone, hmet, List.nil_append, if_pos rfl] at hsent
        obtain ⟨hmsgs, hrow⟩ := life_of_inactive lower fromisoformat hmark rfl hrest
        refine ⟨?_, ?_⟩
        · rw [hfirst]
          exact hmsgs.trans hsent
        · rw [hfirst]
          exact (rowAfter_cons rfl).mpr hrow
    | create => exact hwait rfl (fun _ he => by cases he) rfl
    | delete id =>
      by_cases hid : id = a.id
      · subst hid
        have hfirst : firstMet fromisoformat a (.delete a.id :: events) = none := by rw [firstMet, if_pos rfl]
        obtain ⟨habsent, hsame⟩ := absent_run lower fromisoformat (absent_delete ha) hrest
        refine ⟨?_, ?_⟩
        · rw [hfirst]
          exact hsame.trans hnone
        · rw [hfirst, RowAfter, if_pos (by simp [deletes])]
          exact habsent.no_row
      · refine hwait (decide_eq_false hid) (fun _ he => by cases he) ?_
        rw [firstMet, if_neg hid]

/-! ## Monitoring as a whole -/

/-- What a run of creations, deletions and monitor runs from `init` looks like. -/
structure ExactMonitoring (init : MonitorStore) (events : List MonitorEvent) : Prop where
  /-- A monitor run marks the active alerts whose target is met, leaves every other alert unchanged, and reports the
  numbers of both. -/
  run_once : ∀ pre run post, events = pre ++ .monitor run :: post →
    let before := (monitorMachine lower fromisoformat).run init pre
    (monitorPrices lower fromisoformat run before).1.alerts =
        before.alerts.map (fun a => if a.isActive && met fromisoformat run.flights a then mark run a else a) ∧
      (monitorPrices lower fromisoformat run before).2 = .ok ⟨(before.alerts.filter (·.isActive)).length,
        (before.alerts.filter fun a => a.isActive && met fromisoformat run.flights a).length⟩
  /-- An alert that is active somewhere is later marked by the first run that meets its target while it exists, and by
  no other; the owner gets the message of that run, and no other. -/
  life : ∀ pre mid post, events = pre ++ mid ++ post →
    ∀ a ∈ ((monitorMachine lower fromisoformat).run init pre).alerts, a.isActive = true →
    LifeAfter fromisoformat init.users a mid ((monitorMachine lower fromisoformat).run init (pre ++ mid))
  /-- An alert that is not active stays as it is, and nobody hears of it again. -/
  afterwards : ∀ pre mid post, events = pre ++ mid ++ post →
    ∀ a ∈ ((monitorMachine lower fromisoformat).run init pre).alerts, a.isActive = false →
    messagesAbout a.id ((monitorMachine lower fromisoformat).run init (pre ++ mid)) =
        messagesAbout a.id ((monitorMachine lower fromisoformat).run init pre) ∧
      RowAfter a mid ((monitorMachine lower fromisoformat).run init (pre ++ mid))
  /-- An alert is active as long as it has not triggered. -/
  active_iff : ∀ pre post, events = pre ++ post →
    ∀ a ∈ ((monitorMachine lower fromisoformat).run init pre).alerts, a.isActive = true ↔ a.triggeredAt = none

/-- **Price monitoring is exact when no send fails**, in every order of creations, deletions and monitor runs, whatever
the fares at each of them. -/
theorem monitoring_exact (init : MonitorStore) (hinit : Consistent init) (events : List MonitorEvent)
    (hevents : ∀ e ∈ events, Smooth e) : ExactMonitoring lower fromisoformat init events := by
  constructor
  case run_once =>
    rintro pre run post rfl before
    exact monitorPrices_met lower fromisoformat (hevents (.monitor run) (by simp)) before
  case life =>
    rintro pre mid post rfl a ha hactive
    have hpre : ∀ e ∈ pre, Smooth e := fun e he => hevents e (by simp [he])
    have hmid : ∀ e ∈ mid, Smooth e := fun e he => hevents e (by simp [he])
    have hnone := (hinit.run lower fromisoformat hpre).unannounced a ha hactive
    rw [Machine.run_append, ← users_run lower fromisoformat pre init]
    exact life_of_active lower fromisoformat ha hactive hnone hmid
  case afterwards =>
    rintro pre mid post rfl a ha hinactive
    rw [Machine.run_append]
    exact life_of_inactive lower fromisoformat ha hinactive fun e he => hevents e (by simp [he])
  case active_iff =>
    rintro pre post rfl a ha
    exact (hinit.run lower fromisoformat fun e he => hevents e (List.mem_append_left _ he)).marks a ha

end

/-- User 7 and no alerts. -/
def noAlerts : MonitorStore :=
  ⟨[⟨7, "watcher@example.com", "x", none, .user, true, true⟩], [], [], 0, List.nodup_nil, fun _ h => by cases h⟩

/-- The fare goes from 600 to 500, which is the target, and to 300. -/
def fallingFares : List MonitorEvent :=
  [.create 7 "THR" "IST" "2026-08-10" 500 "USD" .email,
    .monitor (smoothRun (staticFlights [sampleFlight "1" "KLM" 600 0] one_le_hundred)),
    .monitor (smoothRun (staticFlights [sampleFlight "1" "KLM" 500 0] one_le_hundred)),
    .monitor (smoothRun (staticFlights [sampleFlight "1" "KLM" 300 0] one_le_hundred))]

/-- The alert triggers at 500, and once. -/
theorem falling_fares_trigger_once :
    ExactMonitoring asciiLower sampleFromisoformat noAlerts fallingFares ∧
      (((monitorMachine asciiLower sampleFromisoformat).run noAlerts fallingFares).sent.map (·.body) =
        ["A fare of 5.00 USD is now available for THR-IST on 2026-08-10, below your target of 5.00 USD."]) := by
  have hconsistent : Consistent noAlerts :=
    ⟨fun _ h => absurd h List.not_mem_nil, fun _ h => absurd h List.not_mem_nil, fun _ h => absurd h List.not_mem_nil⟩
  have hsmooth : ∀ e ∈ fallingFares, Smooth e := by
    intro e he
    simp only [fallingFares, List.mem_cons, List.not_mem_nil, or_false] at he
    rcases he with rfl | rfl | rfl | rfl
    · trivial
    all_goals exact ⟨fun _ => rfl, rfl⟩
  refine ⟨monitoring_exact asciiLower sampleFromisoformat noAlerts hconsistent fallingFares hsmooth, ?_⟩
  decide +kernel

end SmartTravel
