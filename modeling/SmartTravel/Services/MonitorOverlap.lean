import SmartTravel.Services.CheapestFare

/-!
# Overlapping monitor runs

`monitor_prices` is a task that is delivered again when its worker is lost, and a run that takes longer than the schedule
meets the next one. So runs overlap: each reads the active alerts in a session of its own, checks them one by one and
writes its marks in one commit, while other runs and the API go on. Here every one of these steps is an event, in any
order. A run that nothing comes between is the one of `monitorPrices` (`alone_eq`).

What overlapping can cost is counted by the runs that still have an alert before them (`outstanding`). A run takes an
alert on only if it finds it active, and each message uses up one that was outstanding (`effort_step`). A mark that was
committed is never undone (`Settled.step`), so from then on no run takes the alert on any more.
-/

namespace SmartTravel

open Py Runs

/-- A run that has begun: the rows of its query that it has not checked yet, and those that it marked in its session. -/
structure OpenRun where
  pending : List PriceAlert
  marked : List PriceAlert
  pending_nodup : (pending.map (·.id)).Nodup
  marked_inactive : ∀ m ∈ marked, m.isActive = false

/-- The committed tables with what was sent, and the runs that have begun, by the delivery of their task. -/
structure OverlapState where
  store : MonitorStore
  runs : Dict ℕ OpenRun

/-- What can happen next. A run is lost when its worker dies or the database gives up. -/
inductive OverlapEvent where
  | start (task : ℕ) (world : MonitorRun)
  | check (task : ℕ) (world : MonitorRun)
  | commit (task : ℕ)
  | lose (task : ℕ)
  | create (userId : ℕ) (origin destination departureDate : String) (targetAmountMinor : ℕ) (currency : String)
      (channel : AlertChannel)
  | delete (id : ℕ)

/-- What it leads to; `idle` where the event does not apply or nobody waits for an answer. -/
inductive OverlapAnswer where
  | idle
  | checked (hit : Bool)
  | raised (error : MonitorError)
  | committed (triggered : ℕ)
deriving DecidableEq

namespace OpenRun

/-- A session after `list_active`. -/
def ofActive (store : MonitorStore) (world : MonitorRun) : OpenRun where
  pending := world.arrange store.active
  marked := []
  pending_nodup := ((world.arrange_perm store.active).map _).nodup_iff.mpr
    (store.ids_nodup.sublist (List.filter_sublist.map _))
  marked_inactive := fun _ h => absurd h List.not_mem_nil

/-- The session after a check of the next alert. -/
def advance (run : OpenRun) (world : MonitorRun) (alert : PriceAlert) (hit : Bool) : OpenRun where
  pending := run.pending.tail
  marked := if hit then run.marked ++ [mark world alert] else run.marked
  pending_nodup := run.pending_nodup.sublist ((List.tail_sublist _).map _)
  marked_inactive := by
    intro m hm
    split at hm
    · rcases List.mem_append.mp hm with hm | hm
      · exact run.marked_inactive m hm
      · rw [List.mem_singleton.mp hm]
        rfl
    · exact run.marked_inactive m hm

end OpenRun

namespace OverlapState

section
variable (lower : String → String) (fromisoformat : String → Option Date)

/-- `_check` of the next alert of a run. -/
def checkNext (s : OverlapState) (task : ℕ) (world : MonitorRun) (run : OpenRun) : OverlapState × OverlapAnswer :=
  match run.pending with
  | [] => (s, .idle)
  | alert :: _ =>
    match SmartTravel.check lower fromisoformat world s.store.users alert with
    | (sent, .error e) => (⟨s.store.send sent, s.runs.pop task⟩, .raised e)
    | (sent, .ok hit) => (⟨s.store.send sent, s.runs.set task (run.advance world alert hit)⟩, .checked hit)

/-- The commit of a run that has checked everything. -/
def commitRun (s : OverlapState) (task : ℕ) (run : OpenRun) : OverlapState × OverlapAnswer :=
  if run.pending ≠ [] then (s, .idle)
  else if run.marked.any fun m => m.id ∉ s.store.alerts.map (·.id) then
    (⟨s.store, s.runs.pop task⟩, .raised .staleData)
  else (⟨s.store.write run.marked, s.runs.pop task⟩, .committed run.marked.length)

/-- One event. -/
def step (s : OverlapState) : OverlapEvent → OverlapState × OverlapAnswer
  | .start task world =>
    if (s.runs.get? task).isSome then (s, .idle)
    else (⟨s.store, s.runs.set task (.ofActive s.store world)⟩, .idle)
  | .check task world =>
    match s.runs.get? task with
    | none => (s, .idle)
    | some run => s.checkNext lower fromisoformat task world run
  | .commit task =>
    match s.runs.get? task with
    | none => (s, .idle)
    | some run => s.commitRun task run
  | .lose task => (⟨s.store, s.runs.pop task⟩, .idle)
  | .create userId origin destination departureDate target currency channel =>
    (⟨s.store.create userId origin destination departureDate target currency channel, s.runs⟩, .idle)
  | .delete id => (⟨s.store.delete [id], s.runs⟩, .idle)

end

end OverlapState

/-- Runs that overlap, as a machine. -/
def overlapMachine (lower : String → String) (fromisoformat : String → Option Date) :
    Machine OverlapState OverlapEvent OverlapAnswer := ⟨OverlapState.step lower fromisoformat⟩

/-! ## A run that nothing comes between -/

section
variable (lower : String → String) (fromisoformat : String → Option Date) (world : MonitorRun) (task : ℕ)

/-- Checks for a run that is not there do nothing. -/
theorem checks_idle : ∀ (alerts : List PriceAlert) (s : OverlapState), s.runs.get? task = none →
    (overlapMachine lower fromisoformat).run s (alerts.map fun _ => .check task world) = s
  | [], _, _ => rfl
  | _ :: alerts, s, hnone => by
    have hstep : ((overlapMachine lower fromisoformat).step s (.check task world)).1 = s := by
      simp only [overlapMachine, OverlapState.step, hnone]
    rw [List.map_cons, Machine.run_cons, hstep, checks_idle alerts s hnone]

/-- The checks of all the alerts of a run, one after the other. -/
theorem checks_eq : ∀ (alerts : List PriceAlert) (s : OverlapState) (run : OpenRun), s.runs.get? task = some run →
    run.pending = alerts →
    let after := (overlapMachine lower fromisoformat).run s (alerts.map fun _ => .check task world)
    after.store = s.store.send (checkAll lower fromisoformat world s.store.users alerts).1 ∧
      match (checkAll lower fromisoformat world s.store.users alerts).2 with
      | .error _ => after.runs.get? task = none
      | .ok marked => ∃ run', after.runs.get? task = some run' ∧ run'.pending = [] ∧ run'.marked = run.marked ++ marked
  | [], s, run, hrun, hpending => by
    refine ⟨?_, run, hrun, hpending, (List.append_nil _).symm⟩
    simp only [List.map_nil, Machine.run_nil, checkAll, MonitorStore.send, List.append_nil]
  | alert :: alerts, s, run, hrun, hpending => by
    rw [List.map_cons, Machine.run_cons, checkAll]
    cases hcheck : SmartTravel.check lower fromisoformat world s.store.users alert with
    | mk sent outcome =>
      cases outcome with
      | error e =>
        have hgone : (s.runs.pop task).get? task = none := by rw [Dict.get?_pop, if_pos rfl]
        have hstep : ((overlapMachine lower fromisoformat).step s (.check task world)).1 =
            ⟨s.store.send sent, s.runs.pop task⟩ := by
          simp only [overlapMachine, OverlapState.step, hrun, OverlapState.checkNext, hpending, hcheck]
        rw [hstep, checks_idle lower fromisoformat world task alerts _ hgone]
        exact ⟨rfl, hgone⟩
      | ok hit =>
        have hstep : ((overlapMachine lower fromisoformat).step s (.check task world)).1 =
            ⟨s.store.send sent, s.runs.set task (run.advance world alert hit)⟩ := by
          simp only [overlapMachine, OverlapState.step, hrun, OverlapState.checkNext, hpending, hcheck]
        have hnext : (run.advance world alert hit).pending = alerts := congrArg List.tail hpending
        obtain ⟨hstore, hrest⟩ := checks_eq alerts ⟨s.store.send sent, s.runs.set task (run.advance world alert hit)⟩
          (run.advance world alert hit) (Dict.get?_set_self _ _ _) hnext
        have husers : (s.store.send sent).users = s.store.users := rfl
        simp only [husers] at hstore hrest
        rw [hstep]
        cases hall : checkAll lower fromisoformat world s.store.users alerts with
        | mk sent' outcome =>
          rw [hall] at hstore hrest
          cases outcome with
          | error e =>
            refine ⟨hstore.trans ?_, hrest⟩
            simp only [MonitorStore.send, List.append_assoc]
          | ok marked =>
            obtain ⟨run', hget, hdone, hmarked⟩ := hrest
            refine ⟨hstore.trans ?_, run', hget, hdone, hmarked.trans ?_⟩
            · simp only [MonitorStore.send, List.append_assoc]
            · cases hit with
              | true => exact List.append_assoc _ _ _
              | false => rfl

theorem delete_nil (store : MonitorStore) : store.delete [] = store := by
  have hall : store.alerts.filter (fun a => a.id ∉ ([] : List ℕ)) = store.alerts :=
    List.filter_eq_self.mpr fun a _ => by simp
  obtain ⟨users, alerts, sent, nextId, hnodup, hlt⟩ := store
  simp only [MonitorStore.delete, MonitorStore.mk.injEq, true_and, and_true]
  exact hall

/-- What a run marks is in the table it read. -/
theorem mem_ids_of_checkAll {store : MonitorStore} {sent : List Announcement} {marked : List PriceAlert}
    (h : checkAll lower fromisoformat world store.users (world.arrange store.active) = (sent, .ok marked)) :
    ∀ m ∈ marked, m.id ∈ store.alerts.map (·.id) := by
  rw [checkAll_eq] at h
  have hanswer := congrArg Prod.snd h
  simp only at hanswer
  split at hanswer
  · cases hanswer
  · cases hanswer
    intro m hm
    obtain ⟨a, ha, rfl⟩ := List.mem_map.mp hm
    have hactive := (world.arrange_perm _).mem_iff.mp (List.mem_of_mem_filter ha)
    exact List.mem_map_of_mem (f := (·.id)) (List.mem_of_mem_filter hactive)

/-- **A run alone** does what `monitorPrices` does when nothing is deleted meanwhile. -/
theorem alone_eq (s : OverlapState) (hfree : s.runs.get? task = none) (hdeleted : world.deleted = []) :
    ((overlapMachine lower fromisoformat).run s (.start task world ::
      ((world.arrange s.store.active).map fun _ => .check task world) ++ [.commit task])).store =
      (monitorPrices lower fromisoformat world s.store).1 := by
  have hstart : ((overlapMachine lower fromisoformat).step s (.start task world)).1 =
      ⟨s.store, s.runs.set task (.ofActive s.store world)⟩ := by
    simp only [overlapMachine, OverlapState.step, hfree, Option.isSome_none, Bool.false_eq_true, if_false]
  have hkept : s.store.delete world.deleted = s.store := by rw [hdeleted, delete_nil]
  rw [List.cons_append, Machine.run_cons, hstart, Machine.run_snoc]
  obtain ⟨hstore, hrest⟩ := checks_eq lower fromisoformat world task (world.arrange s.store.active)
    ⟨s.store, s.runs.set task (.ofActive s.store world)⟩ (.ofActive s.store world) (Dict.get?_set_self _ _ _) rfl
  generalize (overlapMachine lower fromisoformat).run ⟨s.store, s.runs.set task (.ofActive s.store world)⟩
    ((world.arrange s.store.active).map fun _ => .check task world) = after at hstore hrest
  simp only [monitorPrices, hkept]
  cases hall : checkAll lower fromisoformat world s.store.users (world.arrange s.store.active) with
  | mk sent outcome =>
    simp only [hall] at hstore hrest
    cases outcome with
    | error e =>
      simp only [overlapMachine, OverlapState.step, hrest]
      exact hstore
    | ok marked =>
      obtain ⟨run', hget, hdone, hmarked⟩ := hrest
      have hmarked : run'.marked = marked := hmarked
      have hpresent : (marked.any fun m => m.id ∉ after.store.alerts.map (·.id)) = false := by
        rw [List.any_eq_false]
        intro m hm
        have hmem := mem_ids_of_checkAll lower fromisoformat world hall m hm
        simpa only [hstore, MonitorStore.send, decide_not, Bool.not_eq_true', decide_eq_false_iff_not, not_not] using hmem
      have hkeep : (marked.any fun m => m.id ∈ world.deleted) = false := by simp [hdeleted]
      simp only [overlapMachine, OverlapState.step, hget, OverlapState.commitRun, hdone, hmarked, hpresent, hkeep,
        ne_eq, not_true_eq_false, Bool.false_eq_true, if_false]
      rw [hstore]
      rfl

end

/-! ## What is outstanding -/

namespace OverlapState

/-- How many messages went out about an alert. -/
def announcements (id : ℕ) (s : OverlapState) : ℕ := (s.store.sent.map (·.alertId)).count id

/-- The run has the alert still before it. -/
def awaits (id : ℕ) (run : OpenRun) : Bool := decide (id ∈ run.pending.map (·.id))

/-- How many runs have the alert still before them. -/
def outstanding (id : ℕ) (s : OverlapState) : ℕ := s.runs.tally (awaits id)

/-- The event is the start of a run that finds the alert active. -/
def finds (id : ℕ) (s : OverlapState) : OverlapEvent → Bool
  | .start task _ => (s.runs.get? task).isNone && decide (id ∈ s.store.active.map (·.id))
  | _ => false

/-- The alert is inactive, or deleted, and its id is not given again. -/
def Settled (id : ℕ) (s : OverlapState) : Prop :=
  id < s.store.nextId ∧ ∀ a ∈ s.store.alerts, a.id = id → a.isActive = false

/-- The run of the task has checked everything, marked the alert, and all rows that it marked are there. -/
def Commits (id task : ℕ) (s : OverlapState) : Prop :=
  ∃ run ∈ s.runs.get? task, run.pending = [] ∧ id ∈ run.marked.map (·.id) ∧
    ∀ m ∈ run.marked, m.id ∈ s.store.alerts.map (·.id)

instance (id task : ℕ) (s : OverlapState) : Decidable (Commits id task s) :=
  inferInstanceAs (Decidable (∃ run ∈ s.runs.get? task, _))

end OverlapState

open OverlapState

section
variable (lower : String → String) (fromisoformat : String → Option Date) (id : ℕ)

theorem outstanding_pop (s : OverlapState) (task : ℕ) : (s.runs.pop task).tally (awaits id) ≤ outstanding id s := by
  have htally := Dict.tally_pop (awaits id) s.runs task
  unfold outstanding
  omega

/-- A message is about the alert that is checked. -/
theorem count_check (world : MonitorRun) (users : List User) (alert : PriceAlert) :
    (((check lower fromisoformat world users alert).1).map (·.alertId)).count id ≤ (decide (alert.id = id)).toNat := by
  rw [check_eq]
  split
  · exact Nat.zero_le _
  · cases hmsg : message? lower fromisoformat world users alert with
    | none => exact Nat.zero_le _
    | some m =>
      have hid := message?_alertId lower fromisoformat world users hmsg
      simp only [Option.toList_some, List.map_singleton, List.count_singleton, hid]
      by_cases h : alert.id = id <;> simp [h]

/-- **One check** uses up the alert it is about. -/
theorem effort_checkNext {s : OverlapState} {task : ℕ} {run : OpenRun} (hrun : s.runs.get? task = some run)
    (world : MonitorRun) : announcements id (s.checkNext lower fromisoformat task world run).1 +
      outstanding id (s.checkNext lower fromisoformat task world run).1 ≤ announcements id s + outstanding id s := by
  unfold OverlapState.checkNext
  cases hpending : run.pending with
  | nil => exact le_rfl
  | cons alert rest =>
    have hcount := count_check lower fromisoformat id world s.store.users alert
    have hnodup := run.pending_nodup
    rw [hpending, List.map_cons, List.nodup_cons] at hnodup
    -- The alert is not among the rest, so a message about it leaves the run with one less.
    have hawaits : Dict.worth (awaits id) (s.runs.get? task) =
        (decide (alert.id = id)).toNat + (decide (id ∈ rest.map (·.id))).toNat := by
      simp only [hrun, Dict.worth, Option.any_some, awaits, hpending, List.map_cons, List.mem_cons]
      by_cases hid : alert.id = id
      · have hno : id ∉ rest.map (·.id) := hid ▸ hnodup.1
        simp [hid, hno]
      · have hid' : id ≠ alert.id := fun h => hid h.symm
        simp [hid, hid']
    have hpop := Dict.tally_pop (awaits id) s.runs task
    simp only
    cases hcheck : check lower fromisoformat world s.store.users alert with
    | mk sent outcome =>
      simp only [hcheck] at hcount
      have hsent : announcements id ⟨s.store.send sent, s.runs⟩ =
          announcements id s + (sent.map (·.alertId)).count id := by
        simp only [announcements, MonitorStore.send, List.map_append, List.count_append]
      cases outcome with
      | error e =>
        change announcements id ⟨s.store.send sent, s.runs⟩ + (s.runs.pop task).tally (awaits id) ≤ _
        unfold outstanding
        omega
      | ok hit =>
        have hset := Dict.tally_set (awaits id) s.runs task (run.advance world alert hit)
        have hrest : (awaits id (run.advance world alert hit)).toNat = (decide (id ∈ rest.map (·.id))).toNat := by
          simp only [awaits, OpenRun.advance, hpending, List.tail_cons]
        change announcements id ⟨s.store.send sent, s.runs⟩ +
          (s.runs.set task (run.advance world alert hit)).tally (awaits id) ≤ _
        unfold outstanding
        omega

/-- **One event** sends no more messages about an alert than it uses up, or takes on at a start. -/
theorem effort_step (s : OverlapState) (e : OverlapEvent) :
    announcements id (s.step lower fromisoformat e).1 + outstanding id (s.step lower fromisoformat e).1 ≤
      announcements id s + outstanding id s + (finds id s e).toNat := by
  cases e with
  | start task world =>
    simp only [OverlapState.step, finds]
    cases hget : s.runs.get? task with
    | some run => exact Nat.le_add_right _ _
    | none =>
      have hset := Dict.tally_set (awaits id) s.runs task (.ofActive s.store world)
      have hmem : id ∈ (world.arrange s.store.active).map (·.id) ↔ id ∈ s.store.active.map (·.id) :=
        ((world.arrange_perm _).map _).mem_iff
      have hawaits : awaits id (.ofActive s.store world) = decide (id ∈ s.store.active.map (·.id)) :=
        decide_eq_decide.mpr hmem
      rw [hget, hawaits] at hset
      simp only [Option.isSome_none, Bool.false_eq_true, if_false, Option.isNone_none, Bool.true_and]
      change announcements id s + (s.runs.set task (.ofActive s.store world)).tally (awaits id) ≤ _
      unfold outstanding
      omega
  | check task world =>
    simp only [OverlapState.step]
    split
    · exact Nat.le_add_right _ _
    · rename_i run hrun
      exact (effort_checkNext lower fromisoformat id hrun world).trans (Nat.le_add_right _ _)
  | commit task =>
    simp only [OverlapState.step]
    split
    · exact Nat.le_add_right _ _
    · rename_i run hrun
      have hpop := outstanding_pop id s task
      simp only [OverlapState.commitRun]
      split
      · exact Nat.le_add_right _ _
      · split
        · exact (Nat.add_le_add_left hpop _).trans (Nat.le_add_right _ _)
        · exact (Nat.add_le_add_left hpop _).trans (Nat.le_add_right _ _)
  | lose task => exact (Nat.add_le_add_left (outstanding_pop id s task) _).trans (Nat.le_add_right _ _)
  | create => exact Nat.le_add_right _ _
  | delete => exact Nat.le_add_right _ _

/-- **Along a run** of events. -/
theorem effort_run : ∀ (es : List OverlapEvent) (s : OverlapState),
    announcements id ((overlapMachine lower fromisoformat).run s es) +
        outstanding id ((overlapMachine lower fromisoformat).run s es) ≤
      announcements id s + outstanding id s + (overlapMachine lower fromisoformat).count (finds id) s es
  | [], _ => le_rfl
  | e :: es, s => by
    have hstep : announcements id ((overlapMachine lower fromisoformat).step s e).1 +
        outstanding id ((overlapMachine lower fromisoformat).step s e).1 ≤
          announcements id s + outstanding id s + (finds id s e).toNat := effort_step lower fromisoformat id s e
    have ih := effort_run es ((overlapMachine lower fromisoformat).step s e).1
    rw [Machine.run_cons, Machine.count]
    omega

/-! ## Marks that were committed -/

/-- A settled alert is in no list of active alerts. -/
theorem OverlapState.Settled.notMem_active {s : OverlapState} (h : Settled id s) : id ∉ s.store.active.map (·.id) := by
  intro hmem
  obtain ⟨a, ha, hid⟩ := List.mem_map.mp hmem
  obtain ⟨hin, hactive⟩ := List.mem_filter.mp ha
  rw [h.2 a hin hid] at hactive
  cases hactive

/-- Marks make no alert active. -/
theorem isActive_writeBack {marked : List PriceAlert} (hmarked : ∀ m ∈ marked, m.isActive = false) (a : PriceAlert) :
    (writeBack marked a).isActive = (a.isActive && (marked.find? fun m => m.id = a.id).isNone) := by
  unfold writeBack
  cases hfound : marked.find? (fun m => m.id = a.id) with
  | none => simp
  | some m => simp [hmarked m (List.mem_of_find?_eq_some hfound)]

/-- **One event** leaves a settled alert settled. -/
theorem OverlapState.Settled.step {s : OverlapState} (h : Settled id s) (e : OverlapEvent) :
    Settled id (s.step lower fromisoformat e).1 ∧ finds id s e = false := by
  constructor
  · cases e with
    | start task world =>
      simp only [OverlapState.step]
      split <;> exact h
    | check task world =>
      simp only [OverlapState.step, OverlapState.checkNext]
      repeat' split
      all_goals exact h
    | commit task =>
      simp only [OverlapState.step]
      split
      · exact h
      · rename_i run hrun
        simp only [OverlapState.commitRun]
        split
        · exact h
        · split
          · exact h
          · refine ⟨h.1, fun a ha hid => ?_⟩
            obtain ⟨b, hb, rfl⟩ := List.mem_map.mp ha
            rw [writeBack_id] at hid
            rw [isActive_writeBack run.marked_inactive, h.2 b hb hid, Bool.false_and]
    | lose task => exact h
    | create userId origin destination departureDate target currency channel =>
      refine ⟨Nat.lt_succ_of_lt h.1, fun a ha hid => ?_⟩
      rcases List.mem_append.mp ha with ha | ha
      · exact h.2 a ha hid
      · -- The id of the new row was not given before.
        rw [List.mem_singleton.mp ha] at hid
        exact absurd h.1 (hid ▸ lt_irrefl _)
    | delete gone => exact ⟨h.1, fun a ha => h.2 a (List.mem_of_mem_filter ha)⟩
  · cases e with
    | start task world => simp only [finds, h.notMem_active id, decide_false, Bool.and_false]
    | _ => rfl

/-- **Along a run** of events, and no run takes the alert on any more. -/
theorem OverlapState.Settled.run : ∀ (es : List OverlapEvent) {s : OverlapState}, Settled id s →
    Settled id ((overlapMachine lower fromisoformat).run s es) ∧
      (overlapMachine lower fromisoformat).count (finds id) s es = 0
  | [], _, h => ⟨h, rfl⟩
  | e :: es, s, h => by
    obtain ⟨hstep, hfinds⟩ := h.step lower fromisoformat id e
    obtain ⟨hrun, hcount⟩ := OverlapState.Settled.run es hstep
    refine ⟨hrun, ?_⟩
    rw [Machine.count, hfinds]
    exact (Nat.zero_add _).trans hcount

/-- A commit settles what the run marked. -/
theorem OverlapState.Commits.settled {s : OverlapState} {task : ℕ} (h : Commits id task s) :
    Settled id ((overlapMachine lower fromisoformat).step s (.commit task)).1 := by
  obtain ⟨run, hmem, hdone, hid, hpresent⟩ := h
  have hrun := Option.mem_def.mp hmem
  have hstale : (run.marked.any fun m => m.id ∉ s.store.alerts.map (·.id)) = false := by
    rw [List.any_eq_false]
    intro m hm
    simpa using hpresent m hm
  have hstep : ((overlapMachine lower fromisoformat).step s (.commit task)).1 =
      ⟨s.store.write run.marked, s.runs.pop task⟩ := by
    simp only [overlapMachine, OverlapState.step, hrun, OverlapState.commitRun, hdone, hstale, ne_eq,
      not_true_eq_false, Bool.false_eq_true, if_false]
  rw [hstep]
  obtain ⟨m, hm, hmid⟩ := List.mem_map.mp hid
  constructor
  · obtain ⟨a, ha, haid⟩ := List.mem_map.mp (hpresent m hm)
    have hlt := s.store.ids_lt a ha
    rw [← hmid, ← haid]
    exact hlt
  · intro a ha haid
    obtain ⟨b, hb, rfl⟩ := List.mem_map.mp ha
    rw [writeBack_id] at haid
    have hfound : (run.marked.find? fun m => m.id = b.id).isSome = true :=
      List.find?_isSome.mpr ⟨m, hm, decide_eq_true (hmid.trans haid.symm)⟩
    rw [isActive_writeBack run.marked_inactive, ← Option.not_isSome, hfound, Bool.not_true, Bool.and_false]

end

/-- **Overlapping runs.** For every order of starts, checks, commits and losses of any number of runs, with alerts
created and deleted in between: there are at most as many messages about an alert as runs that found it active. Once a
run commits its mark, the alert stays inactive, no run that starts later takes it on, and at most those runs still
announce it that had it before them at that moment. -/
theorem overlapping_runs_are_bounded (lower : String → String) (fromisoformat : String → Option Date)
    (init : OverlapState) (hruns : init.runs = Dict.empty) (hsent : init.store.sent = []) (es : List OverlapEvent)
    (id : ℕ) :
    announcements id ((overlapMachine lower fromisoformat).run init es) ≤
        (overlapMachine lower fromisoformat).count (finds id) init es ∧
      ∀ before task after, es = before ++ .commit task :: after →
        Commits id task ((overlapMachine lower fromisoformat).run init before) →
        Settled id ((overlapMachine lower fromisoformat).run init es) ∧
          (overlapMachine lower fromisoformat).count (finds id) init es =
            (overlapMachine lower fromisoformat).count (finds id) init before ∧
          announcements id ((overlapMachine lower fromisoformat).run init es) ≤
            announcements id ((overlapMachine lower fromisoformat).run init before) +
              outstanding id ((overlapMachine lower fromisoformat).run init before) := by
  have hnone : announcements id init + outstanding id init = 0 := by
    simp only [announcements, outstanding, hsent, hruns]
    rfl
  constructor
  · have hle := effort_run lower fromisoformat id es init
    omega
  · rintro before task after rfl hcommits
    generalize hs : (overlapMachine lower fromisoformat).run init before = s at hcommits ⊢
    have hsettled := hcommits.settled lower fromisoformat id
    obtain ⟨hend, hlater⟩ := hsettled.run lower fromisoformat id after
    have hstep : announcements id ((overlapMachine lower fromisoformat).step s (.commit task)).1 +
        outstanding id ((overlapMachine lower fromisoformat).step s (.commit task)).1 ≤
          announcements id s + outstanding id s + 0 := effort_step lower fromisoformat id s (.commit task)
    have hle := effort_run lower fromisoformat id after ((overlapMachine lower fromisoformat).step s (.commit task)).1
    rw [Machine.run_append, hs, Machine.run_cons, Machine.count_append, hs, Machine.count]
    refine ⟨hend, ?_, ?_⟩
    · have hcommit : finds id s (.commit task) = false := rfl
      rw [hlater, hcommit]
      rfl
    · omega

/-- Two deliveries of the task overlap, each with a fare below the targets, and a third comes after the first commit. -/
def overlappingRuns : List OverlapEvent :=
  [.start 1 secondSendRaises.retry, .start 2 secondSendRaises.retry, .check 1 secondSendRaises.retry,
    .check 2 secondSendRaises.retry, .check 1 secondSendRaises.retry, .commit 1, .check 2 secondSendRaises.retry,
    .start 3 secondSendRaises.retry, .commit 2, .commit 3]

/-- Both of them announce the alert, the third one does not: the bound is met. -/
theorem overlappingRuns_repeat :
    announcements 1 ((overlapMachine asciiLower sampleFromisoformat).run ⟨twoAlerts, Dict.empty⟩ overlappingRuns) = 2 ∧
      2 ≤ (overlapMachine asciiLower sampleFromisoformat).count (finds 1) ⟨twoAlerts, Dict.empty⟩ overlappingRuns ∧
      Settled 1 ((overlapMachine asciiLower sampleFromisoformat).run ⟨twoAlerts, Dict.empty⟩ overlappingRuns) := by
  have hbounded := overlapping_runs_are_bounded asciiLower sampleFromisoformat ⟨twoAlerts, Dict.empty⟩ rfl rfl
    overlappingRuns 1
  have htwo : announcements 1 ((overlapMachine asciiLower sampleFromisoformat).run ⟨twoAlerts, Dict.empty⟩
      overlappingRuns) = 2 := by decide +kernel
  have hcommits : Commits 1 1 ((overlapMachine asciiLower sampleFromisoformat).run ⟨twoAlerts, Dict.empty⟩
      (overlappingRuns.take 5)) := by decide +kernel
  exact ⟨htwo, htwo ▸ hbounded.1, (hbounded.2 (overlappingRuns.take 5) 1 (overlappingRuns.drop 6) rfl hcommits).1⟩

end SmartTravel
