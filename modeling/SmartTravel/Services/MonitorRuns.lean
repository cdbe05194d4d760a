import SmartTravel.Services.CheapestFare

/-!
# One run of the price monitor

The loop of `run_once` has no boundary around an alert: the first send that raises ends it, and the marks of the session
are lost (`monitorPrices_cases`). A run in which no send raises and nothing is deleted meanwhile marks the active alerts
whose target is met, announces them and reports how many there were (`monitorPrices_smooth`). So one bad alert leaves
the others alone only if there are no others to announce (`isolated_iff`).
-/

namespace SmartTravel

open Py Runs

section
variable (lower : String → String) (fromisoformat : String → Option Date) (run : MonitorRun) (store : MonitorStore)

/-! ## One run -/

/-- The alerts that `run_once` calls `_check` for: up to the first one that raises. -/
def visited (users : List User) : List PriceAlert → List PriceAlert
  | [] => []
  | alert :: alerts =>
    match (check lower fromisoformat run users alert).2 with
    | .error _ => [alert]
    | .ok _ => alert :: visited users alerts

/-- While nothing raises every alert is checked; one that raises is the last. -/
theorem visited_append_failing {users : List User} {alert : PriceAlert} {after : List PriceAlert}
    (hfail : failing lower fromisoformat run users alert = true) : ∀ {before : List PriceAlert},
    (∀ a ∈ before, failing lower fromisoformat run users a = false) →
    visited lower fromisoformat run users (before ++ alert :: after) = before ++ [alert]
  | [], _ => by simp [visited, check_eq, hfail]
  | a :: before, hbefore => by
    have hrest : ∀ b ∈ before, failing lower fromisoformat run users b = false :=
      fun b hb => hbefore b (List.mem_cons_of_mem a hb)
    have ih : visited lower fromisoformat run users (before ++ alert :: after) = before ++ [alert] :=
      visited_append_failing hfail hrest
    simp [visited, check_eq, hbefore a List.mem_cons_self, ih]

theorem visited_of_not_failing {users : List User} : ∀ {alerts : List PriceAlert},
    (∀ a ∈ alerts, failing lower fromisoformat run users a = false) →
    visited lower fromisoformat run users alerts = alerts
  | [], _ => rfl
  | a :: alerts, h => by
    have hrest : ∀ b ∈ alerts, failing lower fromisoformat run users b = false :=
      fun b hb => h b (List.mem_cons_of_mem a hb)
    have ih := visited_of_not_failing hrest
    simp [visited, check_eq, h a List.mem_cons_self, ih]

theorem mem_arrange {a : PriceAlert} : a ∈ run.arrange store.active ↔ a ∈ store.active := (run.arrange_perm _).mem_iff

theorem mem_active {a : PriceAlert} : a ∈ store.active ↔ a ∈ store.alerts ∧ a.isActive = true := List.mem_filter

/-- When nothing raises every active alert is handled. -/
theorem handled_of_not_failing (hfail : ∀ a ∈ store.active, failing lower fromisoformat run store.users a = false) :
    handled lower fromisoformat run store.users (run.arrange store.active) = run.arrange store.active := by
  rw [handled, List.takeWhile_eq_self_iff]
  intro a ha
  simp [hfail a ((mem_arrange run store).mp ha)]

/-- The marked rows of a run. -/
def marked : List PriceAlert := ((run.arrange store.active).filter (due lower fromisoformat run)).map (mark run)

/-- The commit writes the mark of an alert that was active and due, and nothing else. -/
theorem writeBack_marked {a : PriceAlert} (ha : a ∈ store.alerts) :
    writeBack (marked lower fromisoformat run store) a =
      if a.isActive && due lower fromisoformat run a then mark run a else a := by
  have hmem : ∀ b, b ∈ (run.arrange store.active).filter (due lower fromisoformat run) ↔
      (b ∈ store.alerts ∧ b.isActive = true) ∧ due lower fromisoformat run b = true := by
    intro b
    rw [List.mem_filter, mem_arrange, mem_active]
  unfold writeBack
  cases hfind : (marked lower fromisoformat run store).find? (fun m => m.id = a.id) with
  | none =>
    have hno : ¬ (a.isActive && due lower fromisoformat run a) = true := by
      intro hdue
      rw [Bool.and_eq_true] at hdue
      have hmark : mark run a ∈ marked lower fromisoformat run store :=
        List.mem_map_of_mem ((hmem a).mpr ⟨⟨ha, hdue.1⟩, hdue.2⟩)
      have := List.find?_eq_none.mp hfind _ hmark
      simp [mark] at this
    rw [if_neg hno]
  | some m =>
    obtain ⟨b, hb, rfl⟩ := List.mem_map.mp (List.mem_of_find?_eq_some hfind)
    obtain ⟨⟨hbmem, hbactive⟩, hbdue⟩ := (hmem b).mp hb
    have hfound := List.find?_some hfind
    have hid : b.id = a.id := of_decide_eq_true hfound
    have heq : b = a := store.eq_of_id hbmem ha hid
    subst heq
    rw [hbactive, hbdue]
    rfl

variable {run} (hdeleted : run.deleted = [])
include hdeleted

/-- Nothing is deleted meanwhile. -/
theorem delete_none : (store.delete run.deleted).alerts = store.alerts := by
  simp [MonitorStore.delete, hdeleted]

/-- **A run in which no send raises** marks what is active and due, announces it to the owners, and reports both
numbers. -/
theorem monitorPrices_smooth (hfail : ∀ a ∈ store.active, failing lower fromisoformat run store.users a = false) :
    (monitorPrices lower fromisoformat run store).1.alerts =
        store.alerts.map (fun a => if a.isActive && due lower fromisoformat run a then mark run a else a) ∧
      (monitorPrices lower fromisoformat run store).1.sent =
        store.sent ++ (run.arrange store.active).filterMap (message? lower fromisoformat run store.users) ∧
      (monitorPrices lower fromisoformat run store).2 = .ok ⟨store.active.length,
        (store.alerts.filter fun a => a.isActive && due lower fromisoformat run a).length⟩ := by
  have hany : (run.arrange store.active).any (failing lower fromisoformat run store.users) = false := by
    rw [List.any_eq_false]
    intro a ha
    simp [hfail a ((mem_arrange run store).mp ha)]
  have hall := handled_of_not_failing lower fromisoformat run store hfail
  have hrun : monitorPrices lower fromisoformat run store =
      (((store.delete run.deleted).write (marked lower fromisoformat run store)).send
          ((run.arrange store.active).filterMap (message? lower fromisoformat run store.users)),
        .ok ⟨(run.arrange store.active).length, (marked lower fromisoformat run store).length⟩) := by
    have hstale : (marked lower fromisoformat run store).any (fun m => m.id ∈ run.deleted) = false := by
      rw [List.any_eq_false]
      intro m _
      simp [hdeleted]
    unfold marked at hstale ⊢
    simp only [monitorPrices, checkAll_eq, hany, hall, hstale, Bool.false_eq_true, if_false]
  rw [hrun]
  refine ⟨?_, rfl, ?_⟩
  · show (store.delete run.deleted).alerts.map (writeBack (marked lower fromisoformat run store)) = _
    rw [delete_none store hdeleted]
    exact List.map_congr_left fun a ha => writeBack_marked lower fromisoformat run store ha
  · have hlen : (marked lower fromisoformat run store).length =
        (store.alerts.filter fun a => a.isActive && due lower fromisoformat run a).length := by
      rw [marked, List.length_map, ((run.arrange_perm _).filter _).length_eq, MonitorStore.active, List.filter_filter]
      exact congrArg List.length (List.filter_congr fun a _ => Bool.and_comm _ _)
    rw [hlen, (run.arrange_perm _).length_eq]

end

/-! ## One bad alert -/

section
variable (lower : String → String) (fromisoformat : String → Option Date) (run : MonitorRun) (store : MonitorStore)

/-- Every active alert is checked, and one whose target is met and whose owner can be written to is announced to the
owner and inactive in the committed rows. -/
structure Isolated : Prop where
  checked : ∀ a ∈ store.active, a ∈ visited lower fromisoformat run store.users (run.arrange store.active)
  announced : ∀ a ∈ store.active, ∀ user, store.users.find? (fun u => u.id = a.userId) = some user →
    (∃ fare ∈ faresFor fromisoformat run.flights a, fare.price.amountMinor ≤ a.targetAmountMinor) →
    run.raises a = false →
    (∃ m ∈ (checkAll lower fromisoformat run store.users (run.arrange store.active)).1,
      m.alertId = a.id ∧ m.recipient = user.email) ∧
    ∃ b ∈ (monitorPrices lower fromisoformat run store).1.alerts, b.id = a.id ∧ b.isActive = false

/-- Nothing aborts the run; or no message is to be sent; or only the one for the alert that is checked last, and it
raises. -/
def SendsHarmless : Prop :=
  ¬ Aborts lower fromisoformat run store ∨
    (∀ a ∈ store.active, (due lower fromisoformat run a && owned store.users a) = false) ∨
    ∃ before last, run.arrange store.active = before ++ [last] ∧
      failing lower fromisoformat run store.users last = true ∧
      ∀ a ∈ before, (due lower fromisoformat run a && owned store.users a) = false

variable {lower fromisoformat run store}

theorem owned_of_find? {users : List User} {a : PriceAlert} {user : User}
    (h : users.find? (fun u => u.id = a.userId) = some user) : owned users a = true := by
  have hfound := List.find?_some h
  exact List.any_eq_true.mpr ⟨user, List.mem_of_find?_eq_some h, hfound⟩

theorem find?_of_owned {users : List User} {a : PriceAlert} (h : owned users a = true) :
    ∃ user, users.find? (fun u => u.id = a.userId) = some user := by
  rw [← Option.isSome_iff_exists, List.find?_isSome]
  exact List.any_eq_true.mp h

/-- The message for an alert goes to its owner. -/
theorem message?_of_owner {a : PriceAlert} {user : User} {users : List User}
    (huser : users.find? (fun u => u.id = a.userId) = some user) (hdue : due lower fromisoformat run a = true) :
    ∃ m, message? lower fromisoformat run users a = some m ∧ m.alertId = a.id ∧ m.recipient = user.email := by
  have hsome : (message? lower fromisoformat run users a).isSome := by
    rw [message?_isSome, hdue, owned_of_find? huser]
    rfl
  obtain ⟨m, hm⟩ := Option.isSome_iff_exists.mp hsome
  refine ⟨m, hm, message?_alertId lower fromisoformat run users hm, ?_⟩
  unfold message? at hm
  split at hm
  · split at hm
    · rw [huser, Option.map_some, Option.some.injEq] at hm
      rw [← hm]
      rfl
    · cases hm
  · cases hm

theorem not_failing_of_unsent {users : List User} {a : PriceAlert}
    (h : (due lower fromisoformat run a && owned users a) = false) :
    failing lower fromisoformat run users a = false := by
  rw [failing, h]
  rfl

theorem not_failing_of_not_aborts (h : ¬ Aborts lower fromisoformat run store) :
    ∀ a ∈ store.active, failing lower fromisoformat run store.users a = false := by
  intro a ha
  by_contra hf
  simp only [failing, Bool.not_eq_false, Bool.and_eq_true] at hf
  exact h ⟨a, ha, hf.1.1, .inl ⟨hf.1.2, hf.2⟩⟩

/-- When nothing raises every active alert is checked. -/
theorem mem_visited (hfail : ∀ a ∈ store.active, failing lower fromisoformat run store.users a = false) :
    ∀ a ∈ store.active, a ∈ visited lower fromisoformat run store.users (run.arrange store.active) := by
  intro a ha
  rw [visited_of_not_failing lower fromisoformat run fun b hb => hfail b ((mem_arrange run store).mp hb)]
  exact (mem_arrange run store).mpr ha

/-- A run that is not aborted announces what is due and owned, and commits its mark. -/
theorem announced_of_not_aborts (habort : ¬ Aborts lower fromisoformat run store) {a : PriceAlert}
    (ha : a ∈ store.active) {user : User} (huser : store.users.find? (fun u => u.id = a.userId) = some user)
    (hdue : due lower fromisoformat run a = true) :
    (∃ m ∈ (checkAll lower fromisoformat run store.users (run.arrange store.active)).1,
      m.alertId = a.id ∧ m.recipient = user.email) ∧
    ∃ b ∈ (monitorPrices lower fromisoformat run store).1.alerts, b.id = a.id ∧ b.isActive = false := by
  obtain ⟨hmem, hactive⟩ := (mem_active store).mp ha
  constructor
  · obtain ⟨m, hm, hid, hto⟩ := message?_of_owner huser hdue
    refine ⟨m, ?_, hid, hto⟩
    rw [checkAll_eq, handled_of_not_failing lower fromisoformat run store (not_failing_of_not_aborts habort)]
    exact List.mem_filterMap.mpr ⟨a, (mem_arrange run store).mpr ha, hm⟩
  · obtain ⟨sent, -, ⟨haborts, -⟩ | ⟨-, hstore⟩⟩ := monitorPrices_cases lower fromisoformat run store
    · exact absurd haborts habort
    · refine ⟨mark run a, ?_, rfl, rfl⟩
      rw [hstore]
      have hkept : a ∈ (store.delete run.deleted).alerts :=
        List.mem_filter.mpr ⟨hmem, by simpa using fun hdel => habort ⟨a, ha, hdue, .inr hdel⟩⟩
      have hwritten := writeBack_marked lower fromisoformat run store hmem
      rw [hactive, hdue] at hwritten
      exact List.mem_map.mpr ⟨a, hkept, hwritten⟩

theorem SendsHarmless.isolated (h : SendsHarmless lower fromisoformat run store) :
    Isolated lower fromisoformat run store := by
  rcases h with habort | hunsent | ⟨before, last, harrange, hlast, hbefore⟩
  · exact ⟨mem_visited (not_failing_of_not_aborts habort), fun a ha user huser hmet _ =>
      announced_of_not_aborts habort ha huser ((due_iff lower fromisoformat run a).mpr hmet)⟩
  · refine ⟨mem_visited fun a ha => not_failing_of_unsent (hunsent a ha), fun a ha user huser hmet _ => ?_⟩
    have hno := hunsent a ha
    rw [(due_iff lower fromisoformat run a).mpr hmet, owned_of_find? huser] at hno
    cases hno
  · -- The only message is the one that raises.
    refine ⟨fun a ha => ?_, fun a ha user huser hmet hraises => ?_⟩
    · rw [harrange, visited_append_failing lower fromisoformat run hlast fun b hb =>
        not_failing_of_unsent (hbefore b hb), ← harrange]
      exact (mem_arrange run store).mpr ha
    · have hdue := (due_iff lower fromisoformat run a).mpr hmet
      have ha' := (mem_arrange run store).mpr ha
      rw [harrange] at ha'
      rcases List.mem_append.mp ha' with ha' | ha'
      · have hno := hbefore a ha'
        rw [hdue, owned_of_find? huser] at hno
        cases hno
      · rw [List.mem_singleton.mp ha'] at hraises
        simp [failing, hraises] at hlast

/-- An aborted run that is `Isolated` has no message to send but those that raise: the marks are lost. -/
theorem Isolated.unsent (h : Isolated lower fromisoformat run store) (habort : Aborts lower fromisoformat run store)
    {a : PriceAlert} (ha : a ∈ store.active) (hfail : failing lower fromisoformat run store.users a = false) :
    (due lower fromisoformat run a && owned store.users a) = false := by
  by_contra hsent
  rw [Bool.not_eq_false, Bool.and_eq_true] at hsent
  have hraises : run.raises a = false := by simpa [failing, hsent.1, hsent.2] using hfail
  obtain ⟨user, huser⟩ := find?_of_owned hsent.2
  obtain ⟨-, b, hb, hid, hinactive⟩ := h.announced a ha user huser
    ((due_iff lower fromisoformat run a).mp hsent.1) hraises
  -- The row is what it was, if it is still there.
  obtain ⟨sent, -, ⟨-, hstore⟩ | ⟨hno, -⟩⟩ := monitorPrices_cases lower fromisoformat run store
  · rw [hstore] at hb
    obtain ⟨hmem, hactive⟩ := (mem_active store).mp ha
    rw [store.eq_of_id (List.mem_filter.mp hb).1 hmem hid, hactive] at hinactive
    cases hinactive
  · exact hno habort

/-- The alert that raises is the last one: no alert after it would be checked. -/
theorem Isolated.last_fails (h : Isolated lower fromisoformat run store)
    (hfail : ∃ a ∈ store.active, failing lower fromisoformat run store.users a = true) :
    ∃ before last, run.arrange store.active = before ++ [last] ∧
      failing lower fromisoformat run store.users last = true ∧
      ∀ a ∈ before, failing lower fromisoformat run store.users a = false := by
  have hfind : ((run.arrange store.active).find? (failing lower fromisoformat run store.users)).isSome := by
    obtain ⟨a, ha, hf⟩ := hfail
    rw [List.find?_isSome]
    exact ⟨a, (mem_arrange run store).mpr ha, hf⟩
  obtain ⟨last, hlast⟩ := Option.isSome_iff_exists.mp hfind
  obtain ⟨hf, before, after, harrange, hbefore⟩ := List.find?_eq_some_iff_append.mp hlast
  have hbefore : ∀ a ∈ before, failing lower fromisoformat run store.users a = false := by
    intro a ha
    simpa using hbefore a ha
  have hnodup : (before ++ last :: after).Nodup := by
    rw [← harrange, (run.arrange_perm _).nodup_iff]
    exact store.ids_nodup.of_map.filter _
  cases after with
  | nil => exact ⟨before, last, harrange, hf, hbefore⟩
  | cons b after =>
    have hb : b ∈ store.active := by
      rw [← mem_arrange run store, harrange]
      simp
    have hvisited := h.checked b hb
    rw [harrange, visited_append_failing lower fromisoformat run hf hbefore] at hvisited
    rw [List.nodup_append] at hnodup
    rcases List.mem_append.mp hvisited with hin | hin
    · exact absurd rfl (hnodup.2.2 b hin b (by simp))
    · rw [List.mem_singleton.mp hin] at hnodup
      simp at hnodup

theorem Isolated.sendsHarmless (h : Isolated lower fromisoformat run store) :
    SendsHarmless lower fromisoformat run store := by
  by_cases habort : Aborts lower fromisoformat run store
  · right
    by_cases hfail : ∃ a ∈ store.active, failing lower fromisoformat run store.users a = true
    · obtain ⟨before, last, harrange, hlast, hbefore⟩ := h.last_fails hfail
      refine .inr ⟨before, last, harrange, hlast, fun a ha => h.unsent habort ?_ (hbefore a ha)⟩
      rw [← mem_arrange run store, harrange]
      exact List.mem_append_left _ ha
    · left
      intro a ha
      refine h.unsent habort ha ?_
      by_contra hf
      exact hfail ⟨a, ha, by simpa using hf⟩
  · exact .inl habort

/-- **One bad alert does not silence the others** in a run exactly when its sends are harmless. -/
theorem isolated_iff (lower : String → String) (fromisoformat : String → Option Date) (run : MonitorRun)
    (store : MonitorStore) :
    Isolated lower fromisoformat run store ↔ SendsHarmless lower fromisoformat run store :=
  ⟨fun h => h.sendsHarmless, fun h => h.isolated⟩

end

/-- Two users with an alert each, whose targets are met. -/
def twoOwners : MonitorStore where
  users := [⟨7, "bounced@example.com", "x", none, .user, true, true⟩,
    ⟨8, "watcher@example.com", "x", none, .user, true, true⟩]
  alerts := [sampleAlert 0, { sampleAlert 1 with userId := 8 }]
  sent := []
  nextId := 2
  ids_nodup := twoAlerts.ids_nodup
  ids_lt := by decide

/-- A run in which messages to user 7 raise. -/
def bouncingRun : MonitorRun := { smoothRun dollarFares with raises := fun a => a.userId == 7 }

/-- The alert of user 8 comes second: it is not even checked. -/
theorem bounced_message_silences_others : ¬ Isolated asciiLower sampleFromisoformat bouncingRun twoOwners := by
  intro h
  have hactive : { sampleAlert 1 with userId := 8 } ∈ twoOwners.active := by decide +kernel
  have hvisited : { sampleAlert 1 with userId := 8 } ∉ visited asciiLower sampleFromisoformat bouncingRun
      twoOwners.users (bouncingRun.arrange twoOwners.active) := by decide +kernel
  exact hvisited (h.checked _ hactive)

/-- Without the bounce both owners hear of their fares. -/
theorem both_owners_are_told : Isolated asciiLower sampleFromisoformat (smoothRun dollarFares) twoOwners ∧
    ¬ SendsHarmless asciiLower sampleFromisoformat bouncingRun twoOwners := by
  have hsmooth : ¬ Aborts asciiLower sampleFromisoformat (smoothRun dollarFares) twoOwners := by
    rintro ⟨a, -, -, ⟨-, hraises⟩ | hdel⟩
    · cases hraises
    · cases hdel
  refine ⟨(isolated_iff asciiLower sampleFromisoformat (smoothRun dollarFares) twoOwners).mpr (.inl hsmooth), ?_⟩
  intro h
  have hchecked := ((isolated_iff asciiLower sampleFromisoformat bouncingRun twoOwners).mpr h).checked
  revert hchecked
  decide +kernel

end SmartTravel
