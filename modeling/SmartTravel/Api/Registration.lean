import SmartTravel.Lib.Runs
import SmartTravel.Core.Errors
import SmartTravel.Services.AuthService

/-!
# Concurrent registration

`POST /auth/register` awaits the database and the notifier, so two requests may both see that an address is free and
both go on to insert it. A run is a list of events, each one of these steps of one request. The table holds the rows of
open transactions beside the committed ones: `exists_by_email` sees the committed rows only, while the unique index
turns away an insert that meets any row with its address. An insert that the database lets wait for another transaction
is an event at the time of its answer. One request alone does what `Backend.register` does (`register_alone`).

The table keeps one account per address and a failed request leaves nothing in it, in every run (`run_tableInv`). But
the request that loses the race is turned away by the index, whose `IntegrityError` nobody translates: it is answered by
500 and not by the 409 of an address that is taken (`registration_sound_iff`).
-/

namespace SmartTravel

open Py Runs

/-- The body of `POST /auth/register`. -/
structure RegisterRequest where
  email : String
  password : String
  fullName : Option String
deriving DecidableEq

/-- What makes a registration fail. -/
inductive RegisterError where
  | conflict (detail : String)
  | integrityError
  | notifier
deriving DecidableEq

/-- The exception as the handlers see it: only the conflict is an `AppError`. -/
def RegisterError.raised : RegisterError → Raised
  | .conflict detail => .app ⟨.conflict, detail, Dict.empty⟩
  | .integrityError | .notifier => .other

/-- A row of `users`, the request that wrote it, and whether that request has committed. -/
structure UserRow where
  writer : Option ℕ
  user : User
  committed : Bool
deriving DecidableEq

/-- The table after `commit` in the session of a request. -/
def commitRows (c : ℕ) (rows : List UserRow) : List UserRow :=
  rows.map fun row => if row.writer = some c then { row with committed := true } else row

/-- The table after `rollback`. -/
def rollbackRows (c : ℕ) (rows : List UserRow) : List UserRow := rows.filter fun row => row.writer ≠ some c

/-- Where a request stands: not begun, the address found free, the row flushed, the mail sent, an exception on its way
to the rollback; or it has ended with an account or with an exception. -/
inductive RegisterPhase where
  | idle
  | free (r : RegisterRequest)
  | inserted (user : User)
  | sent (user : User)
  | failing (e : RegisterError)
  | created (user : User)
  | failed (e : RegisterError)
deriving DecidableEq

/-- A step of a request. -/
inductive RegisterEvent where
  | check (c : ℕ) (r : RegisterRequest)
  | insert (c : ℕ)
  | send (c : ℕ) (raises : Bool)
  | commit (c : ℕ)
  | rollback (c : ℕ)
deriving DecidableEq

/-- The table, the requests, the number of salts drawn and the next primary key. -/
structure RegisterState where
  rows : List UserRow
  phase : ℕ → RegisterPhase
  salts : ℕ
  nextUserId : ℕ

namespace RegisterState

def setPhase (s : RegisterState) (c : ℕ) (p : RegisterPhase) : RegisterState :=
  { s with phase := Function.update s.phase c p }

variable (env : Backend)

/-- `exists_by_email`. -/
def existsByEmail (s : RegisterState) (email : String) : Bool :=
  s.rows.any fun row => row.committed && row.user.email = env.lower email

/-- The unique index has an entry for the address. -/
def indexed (s : RegisterState) (address : String) : Bool := s.rows.any fun row => row.user.email = address

/-- The row that `create` flushes. -/
def newUser (s : RegisterState) (r : RegisterRequest) : User :=
  ⟨s.nextUserId, env.lower r.email, env.hasher.hash s.salts r.password, r.fullName, .user, true, false⟩

/-- One step; a request that does not stand before it ignores it. -/
def step (s : RegisterState) : RegisterEvent → RegisterState
  | .check c r =>
    match s.phase c with
    | .idle =>
      if s.existsByEmail env r.email then
        s.setPhase c (.failing (.conflict "an account with this email already exists"))
      else s.setPhase c (.free r)
    | _ => s
  | .insert c =>
    match s.phase c with
    | .free r =>
      let user := s.newUser env r
      let s := { s with salts := s.salts + 1, nextUserId := s.nextUserId + 1 }
      if s.indexed user.email then s.setPhase c (.failing .integrityError)
      else { s with rows := s.rows ++ [UserRow.mk (some c) user false] }.setPhase c (.inserted user)
    | _ => s
  | .send c raises =>
    match s.phase c with
    | .inserted user => s.setPhase c (if raises then .failing .notifier else .sent user)
    | _ => s
  | .commit c =>
    match s.phase c with
    | .sent user =>
      { s with rows := commitRows c s.rows }.setPhase c (.created user)
    | _ => s
  | .rollback c =>
    match s.phase c with
    | .failing e => { s with rows := rollbackRows c s.rows }.setPhase c (.failed e)
    | _ => s

end RegisterState

/-- A table of accounts with distinct addresses. -/
structure UserTable where
  users : List User
  nodup : (users.map (·.email)).Nodup

/-- Before the first request. -/
def UserTable.initial (table : UserTable) (salts nextUserId : ℕ) : RegisterState :=
  ⟨table.users.map fun u => ⟨none, u, true⟩, fun _ => .idle, salts, nextUserId⟩

/-- The registrations as a machine. -/
def registerMachine (env : Backend) : Machine RegisterState RegisterEvent Unit := ⟨fun s e => (s.step env e, ())⟩

/-! ## One step -/

section
variable (env : Backend)

/-- **Everything an event can do.** -/
inductive RegisterStep (s : RegisterState) : RegisterEvent → RegisterState → Prop
  | ignored (e) : RegisterStep s e s
  | taken {c r} (hc : s.phase c = .idle) (h : s.existsByEmail env r.email = true) :
    RegisterStep s (.check c r) (s.setPhase c (.failing (.conflict "an account with this email already exists")))
  | free {c r} (hc : s.phase c = .idle) (h : s.existsByEmail env r.email = false) :
    RegisterStep s (.check c r) (s.setPhase c (.free r))
  | rejected {c r} (hc : s.phase c = .free r) (h : s.indexed (env.lower r.email) = true) :
    RegisterStep s (.insert c)
      ({ s with salts := s.salts + 1, nextUserId := s.nextUserId + 1 }.setPhase c (.failing .integrityError))
  | inserted {c r} (hc : s.phase c = .free r) (h : s.indexed (env.lower r.email) = false) :
    RegisterStep s (.insert c)
      (RegisterState.setPhase ⟨s.rows ++ [⟨some c, s.newUser env r, false⟩], s.phase, s.salts + 1, s.nextUserId + 1⟩ c
        (.inserted (s.newUser env r)))
  | bounced {c user} (hc : s.phase c = .inserted user) :
    RegisterStep s (.send c true) (s.setPhase c (.failing .notifier))
  | sent {c user} (hc : s.phase c = .inserted user) : RegisterStep s (.send c false) (s.setPhase c (.sent user))
  | committed {c user} (hc : s.phase c = .sent user) :
    RegisterStep s (.commit c)
      ({ s with rows := commitRows c s.rows }.setPhase c (.created user))
  | rolledBack {c e} (hc : s.phase c = .failing e) :
    RegisterStep s (.rollback c)
      ({ s with rows := rollbackRows c s.rows }.setPhase c (.failed e))

variable {env}

theorem registerStep (s : RegisterState) (e : RegisterEvent) : RegisterStep env s e (s.step env e) := by
  cases e with
  | check c r =>
    simp only [RegisterState.step]
    split
    · rename_i hc
      split
      · rename_i h
        exact .taken hc h
      · rename_i h
        exact .free hc (Bool.eq_false_iff.mpr h)
    · exact .ignored _
  | insert c =>
    simp only [RegisterState.step]
    split
    · rename_i r hc
      split
      · rename_i h
        exact .rejected hc h
      · rename_i h
        exact .inserted hc (Bool.eq_false_iff.mpr h)
    · exact .ignored _
  | send c raises =>
    simp only [RegisterState.step]
    split
    · rename_i user hc
      cases raises with
      | true => exact .bounced hc
      | false => exact .sent hc
    · exact .ignored _
  | commit c =>
    simp only [RegisterState.step]
    split
    · rename_i user hc
      exact .committed hc
    · exact .ignored _
  | rollback c =>
    simp only [RegisterState.step]
    split
    · rename_i e hc
      exact .rolledBack hc
    · exact .ignored _

theorem RegisterState.setPhase_phase (s : RegisterState) (c : ℕ) (p : RegisterPhase) (c' : ℕ) :
    (s.setPhase c p).phase c' = if c' = c then p else s.phase c' := by
  simp only [setPhase, Function.update_apply]

end

/-! ## The table -/

/-- What a row looks like while its request is in this phase. -/
def RegisterPhase.Owns : RegisterPhase → UserRow → Prop
  | .inserted user, row | .sent user, row => row.user = user ∧ row.committed = false
  | .failing _, row => row.committed = false
  | .created user, row => row.user = user ∧ row.committed = true
  | .idle, _ | .free _, _ | .failed _, _ => False

/-- **The table in every run**: addresses are unique, and a row belongs to a request that is on its way or has created
it. -/
structure TableInv (s : RegisterState) : Prop where
  addresses : (s.rows.map (·.user.email)).Nodup
  owner : ∀ row ∈ s.rows, ∀ c, row.writer = some c → (s.phase c).Owns row

section
variable {env : Backend} {s : RegisterState}

/-- A step of one request that leaves the rows of the others alone. -/
theorem TableInv.setPhase (h : TableInv s) {s₁ : RegisterState} {c : ℕ} {p : RegisterPhase}
    (hphase : s₁.phase = s.phase) (haddr : (s₁.rows.map (·.user.email)).Nodup)
    (hothers : ∀ row ∈ s₁.rows, row.writer ≠ some c → row ∈ s.rows)
    (hown : ∀ row ∈ s₁.rows, row.writer = some c → p.Owns row) : TableInv (s₁.setPhase c p) := by
  refine ⟨haddr, fun row hrow c' hc' => ?_⟩
  rw [RegisterState.setPhase_phase, hphase]
  split
  · rename_i heq
    subst heq
    exact hown row hrow hc'
  · rename_i hne
    refine h.owner row (hothers row hrow fun hc => hne ?_) c' hc'
    exact Option.some.inj (hc'.symm.trans hc)

/-- A step that leaves the table alone. -/
theorem TableInv.sameRows (h : TableInv s) {s₁ : RegisterState} {c : ℕ} {p : RegisterPhase}
    (hphase : s₁.phase = s.phase) (hrows : s₁.rows = s.rows) (hown : ∀ row, (s.phase c).Owns row → p.Owns row) :
    TableInv (s₁.setPhase c p) :=
  h.setPhase hphase (hrows ▸ h.addresses) (fun _ hrow _ => hrows ▸ hrow)
    (fun row hrow hc => hown row (h.owner row (hrows ▸ hrow) c hc))

/-- A commit changes no user. -/
theorem users_commitRows (c : ℕ) (rows : List UserRow) : (commitRows c rows).map (·.user) = rows.map (·.user) := by
  rw [commitRows, List.map_map]
  refine List.map_congr_left fun row _ => ?_
  show (if row.writer = some c then { row with committed := true } else row).user = row.user
  split <;> rfl

/-- A row after a commit belongs to somebody else, or it is one of the writer's, now committed. -/
theorem mem_commitRows {c : ℕ} {rows : List UserRow} {row : UserRow} (h : row ∈ commitRows c rows) :
    (row.writer ≠ some c ∧ row ∈ rows) ∨
      ∃ old ∈ rows, old.writer = some c ∧ row = { old with committed := true } := by
  obtain ⟨old, hold, rfl⟩ := List.mem_map.mp h
  by_cases hwriter : old.writer = some c
  · rw [if_pos hwriter]
    exact .inr ⟨old, hold, hwriter, rfl⟩
  · rw [if_neg hwriter]
    exact .inl ⟨hwriter, hold⟩

/-- One step keeps the invariant. -/
theorem TableInv.step (h : TableInv s) {e : RegisterEvent} {s' : RegisterState} (hstep : RegisterStep env s e s') :
    TableInv s' := by
  cases hstep with
  | ignored => exact h
  | taken hc _ | free hc _ => exact h.sameRows (by rfl) (by rfl) fun row hrow => by rw [hc] at hrow; exact hrow.elim
  | rejected hc _ => exact h.sameRows (by rfl) (by rfl) fun row hrow => by rw [hc] at hrow; exact hrow.elim
  | bounced hc => exact h.sameRows (by rfl) (by rfl) fun row hrow => by rw [hc] at hrow; exact hrow.2
  | sent hc => exact h.sameRows (by rfl) (by rfl) fun row hrow => by rw [hc] at hrow; exact hrow
  | @inserted c r hc hfree =>
    refine h.setPhase (by rfl) ?_ ?_ ?_
    · -- The index has seen to it that the address is new.
      refine nodup_map_snoc h.addresses fun hin => ?_
      obtain ⟨row, hrow, haddress⟩ := List.mem_map.mp hin
      rw [RegisterState.indexed, List.any_eq_false] at hfree
      exact hfree row hrow (decide_eq_true haddress)
    · intro row hrow hne
      rcases List.mem_append.mp hrow with hrow | hrow
      · exact hrow
      · rw [List.mem_singleton.mp hrow] at hne
        exact absurd rfl hne
    · intro row hrow hwriter
      rcases List.mem_append.mp hrow with hrow | hrow
      · have hno := h.owner row hrow c hwriter
        rw [hc] at hno
        exact hno.elim
      · rw [List.mem_singleton.mp hrow]
        exact ⟨rfl, rfl⟩
  | @committed c user hc =>
    have haddresses : (commitRows c s.rows).map (·.user.email) = s.rows.map (·.user.email) := by
      have husers := congrArg (List.map User.email) (users_commitRows c s.rows)
      rwa [List.map_map, List.map_map] at husers
    refine h.setPhase (by rfl) (haddresses ▸ h.addresses) ?_ ?_
    · intro row hrow hne
      rcases mem_commitRows hrow with ⟨-, hold⟩ | ⟨old, -, hown, rfl⟩
      · exact hold
      · exact absurd hown hne
    · intro row hrow hwriter
      rcases mem_commitRows hrow with ⟨hne, -⟩ | ⟨old, hold, hown, rfl⟩
      · exact absurd hwriter hne
      · have howned := h.owner old hold c hown
        rw [hc] at howned
        exact ⟨howned.1, rfl⟩
  | @rolledBack c e hc =>
    have hmem : ∀ row ∈ rollbackRows c s.rows, row ∈ s.rows ∧ row.writer ≠ some c := by
      intro row hrow
      obtain ⟨hrow, hne⟩ := List.mem_filter.mp hrow
      exact ⟨hrow, of_decide_eq_true hne⟩
    refine h.setPhase (by rfl) (h.addresses.sublist (List.filter_sublist.map _)) ?_ ?_
    · intro row hrow _
      exact (hmem row hrow).1
    · intro row hrow hwriter
      exact absurd hwriter (hmem row hrow).2

/-- Every run keeps the invariant. -/
theorem run_tableInv (env : Backend) (table : UserTable) (salts nextUserId : ℕ) (es : List RegisterEvent) :
    TableInv ((registerMachine env).run (table.initial salts nextUserId) es) := by
  induction es using List.reverseRecOn with
  | nil =>
    refine ⟨?_, fun row hrow c hc => ?_⟩
    · show ((table.users.map _).map _).Nodup
      rw [List.map_map]
      exact table.nodup
    · obtain ⟨user, _, rfl⟩ := List.mem_map.mp hrow
      cases hc
  | append_singleton es e ih =>
    rw [(registerMachine env).run_snoc]
    exact ih.step (registerStep _ e)

end

/-! ## Who fails how -/

/-- The exception of a request that fails or has failed. -/
def RegisterPhase.error : RegisterPhase → Option RegisterError
  | .failing e | .failed e => some e
  | _ => none

/-- The exception is a `ConflictError`. -/
def RegisterError.IsConflict (e : RegisterError) : Prop := ∃ detail, e = .conflict detail

/-- A conflict, and nothing else, is answered by 409. -/
theorem RegisterError.isConflict_iff (e : RegisterError) (requestId : Option String) :
    e.IsConflict ↔ (e.raised.response requestId).status = 409 := by
  cases e with
  | conflict detail => exact ⟨fun _ => rfl, fun _ => ⟨detail, rfl⟩⟩
  | integrityError | notifier =>
    constructor
    · rintro ⟨_, h⟩
      cases h
    · intro h
      cases h

section
variable (env : Backend)

/-- **Registration is sound in a run**: in every state it reaches the committed accounts have distinct addresses, a
request fails only with a `ConflictError`, answered by 409, and one that has failed has no row in the table. -/
structure RegistrationSound (s₀ : RegisterState) (es : List RegisterEvent) : Prop where
  one_account : ∀ pre post, es = pre ++ post →
    ((((registerMachine env).run s₀ pre).rows.filter (·.committed)).map (·.user.email)).Nodup
  failures_conflict : ∀ pre post c e, es = pre ++ post → (((registerMachine env).run s₀ pre).phase c).error = some e →
    e.IsConflict ∧ ∀ requestId, (e.raised.response requestId).status = 409
  failed_leaves_nothing : ∀ pre post c e, es = pre ++ post → ((registerMachine env).run s₀ pre).phase c = .failed e →
    ∀ row ∈ ((registerMachine env).run s₀ pre).rows, row.writer ≠ some c

/-- The event is no insert of an address that a row of the table has, committed or not, and no mail that bounces. -/
def Uncontended (s : RegisterState) : RegisterEvent → Prop
  | .insert c => ∀ r, s.phase c = .free r → s.indexed (env.lower r.email) = false
  | .send c raises => (∃ user, s.phase c = .inserted user) → raises = false
  | _ => True

/-- Every failure so far is a conflict. -/
def OnlyConflicts (s : RegisterState) : Prop := ∀ c e, (s.phase c).error = some e → e.IsConflict

variable {env} {s s' : RegisterState} {e : RegisterEvent}

theorem OnlyConflicts.setPhase (h : OnlyConflicts s) {s₁ : RegisterState} {c : ℕ} {p : RegisterPhase}
    (hphase : s₁.phase = s.phase) (hp : ∀ err, p.error = some err → err.IsConflict) :
    OnlyConflicts (s₁.setPhase c p) := by
  intro c' err herr
  rw [RegisterState.setPhase_phase, hphase] at herr
  split at herr
  · exact hp err herr
  · exact h c' err herr

/-- An uncontended step adds no other failure. -/
theorem OnlyConflicts.step (h : OnlyConflicts s) (hstep : RegisterStep env s e s') (hen : Uncontended env s e) :
    OnlyConflicts s' := by
  cases hstep with
  | ignored => exact h
  | taken => exact h.setPhase (by rfl) fun err herr => by cases herr; exact ⟨_, rfl⟩
  | free => exact h.setPhase (by rfl) fun err herr => by cases herr
  | @rejected c r hc hindexed =>
    have hfree := hen r hc
    rw [hindexed] at hfree
    cases hfree
  | inserted => exact h.setPhase (by rfl) fun err herr => by cases herr
  | @bounced c user hc => cases hen ⟨user, hc⟩
  | sent => exact h.setPhase (by rfl) fun err herr => by cases herr
  | committed => exact h.setPhase (by rfl) fun err herr => by cases herr
  | @rolledBack c err hc =>
    refine h.setPhase (by rfl) fun err' herr => h c err' ?_
    rw [hc]
    exact herr

/-- A contended step adds one. -/
theorem uncontended_of_onlyConflicts (h : OnlyConflicts (s.step env e)) : Uncontended env s e := by
  have herror : ∀ {s₁ : RegisterState} {c : ℕ} {err : RegisterError}, OnlyConflicts (s₁.setPhase c (.failing err)) →
      err.IsConflict := by
    intro s₁ c err h
    refine h c err ?_
    rw [RegisterState.setPhase_phase, if_pos rfl]
    rfl
  cases e with
  | check | commit | rollback => trivial
  | insert c =>
    intro r hc
    rw [← Bool.not_eq_true]
    intro hindexed
    have hstep : s.step env (.insert c) =
        { s with salts := s.salts + 1, nextUserId := s.nextUserId + 1 }.setPhase c (.failing .integrityError) := by
      simp only [RegisterState.step, hc]
      exact if_pos hindexed
    rw [hstep] at h
    obtain ⟨_, heq⟩ := herror h
    cases heq
  | send c raises =>
    rintro ⟨user, hc⟩
    rw [← Bool.not_eq_true]
    rintro rfl
    have hstep : s.step env (.send c true) = s.setPhase c (.failing .notifier) := by
      simp only [RegisterState.step, hc, if_true]
    rw [hstep] at h
    obtain ⟨_, heq⟩ := herror h
    cases heq

/-- **Registration is sound exactly in runs without contention**: the committed accounts have distinct addresses, every
failed request fails with a `ConflictError` and leaves no row, if and only if no insert meets a row with its address
and no verification mail raises. -/
theorem registration_sound_iff (env : Backend) (table : UserTable) (salts nextUserId : ℕ) (es : List RegisterEvent) :
    RegistrationSound env (table.initial salts nextUserId) es ↔
      (registerMachine env).Enabled (Uncontended env) (table.initial salts nextUserId) es := by
  constructor
  · intro h
    induction es using List.reverseRecOn with
    | nil => exact trivial
    | append_singleton es e ih =>
      refine (registerMachine env).enabled_snoc.mpr ⟨ih ⟨?_, ?_, ?_⟩, uncontended_of_onlyConflicts fun c err herr => ?_⟩
      · intro pre post hes
        exact h.one_account pre (post ++ [e]) (by rw [hes, List.append_assoc])
      · intro pre post c err hes
        exact h.failures_conflict pre (post ++ [e]) c err (by rw [hes, List.append_assoc])
      · intro pre post c err hes
        exact h.failed_leaves_nothing pre (post ++ [e]) c err (by rw [hes, List.append_assoc])
      · refine (h.failures_conflict (es ++ [e]) [] c err (List.append_nil _).symm ?_).1
        rw [(registerMachine env).run_snoc]
        exact herr
  · intro hen
    refine ⟨fun pre post hes => ?_, fun pre post c err hes herr => ?_, fun pre post c err hes hfailed row hrow hc => ?_⟩
    · exact (run_tableInv env table salts nextUserId pre).addresses.sublist (List.filter_sublist.map _)
    · subst hes
      have hconflicts : OnlyConflicts ((registerMachine env).run (table.initial salts nextUserId) pre) :=
        (registerMachine env).run_invariant OnlyConflicts (fun s e h hen => h.step (registerStep s e) hen)
          (fun c err herr => by cases herr) ((registerMachine env).enabled_append.mp hen).1
      have hconflict := hconflicts c err herr
      exact ⟨hconflict, fun requestId => (err.isConflict_iff requestId).mp hconflict⟩
    · have hown := (run_tableInv env table salts nextUserId pre).owner row hrow c hc
      rw [hfailed] at hown
      exact hown

end

/-- Two requests for one address find it free; the second insert comes after the first commit. -/
def lostRace : List RegisterEvent :=
  [.check 0 ⟨"Ann@example.com", "Passw0rd12", none⟩, .check 1 ⟨"ann@example.com", "Passw0rd34", none⟩, .insert 0,
    .send 0 false, .commit 0, .insert 1, .rollback 1]

/-- The loser of the race fails with an `IntegrityError` and is answered by 500. -/
theorem lostRace_answers_500 :
    let s := (registerMachine (sampleBackend [])).run (UserTable.initial ⟨[], List.nodup_nil⟩ 0 0) lostRace
    s.rows.map (·.user.email) = ["ann@example.com"] ∧ s.phase 1 = .failed .integrityError ∧
      (RegisterError.integrityError.raised.response none).status = 500 ∧
      ¬ RegistrationSound (sampleBackend []) (UserTable.initial ⟨[], List.nodup_nil⟩ 0 0) lostRace := by
  intro s
  have hphase : s.phase 1 = .failed .integrityError := by decide +kernel
  refine ⟨by decide +kernel, hphase, rfl, fun h => ?_⟩
  have hconflict := (h.failures_conflict lostRace [] 1 .integrityError rfl (by rw [hphase]; rfl)).1
  obtain ⟨_, heq⟩ := hconflict
  cases heq

/-! ## One request alone -/

/-- The table of a state with no open transaction. -/
def AuthState.registerState (s : AuthState) : RegisterState :=
  ⟨s.users.map fun u => ⟨none, u, true⟩, fun _ => .idle, s.salts, s.nextUserId⟩

section
variable (env : Backend) (s : AuthState)

theorem indexed_registerState (email : String) :
    s.registerState.indexed (env.lower email) = (s.getByEmail env.lower email).isSome := by
  rw [AuthStateOver.getByEmail, List.isSome_find?]
  simp [RegisterState.indexed, AuthState.registerState, List.any_map, Function.comp_def]

theorem existsByEmail_registerState (email : String) :
    s.registerState.existsByEmail env email = (s.getByEmail env.lower email).isSome := by
  rw [← indexed_registerState]
  simp [RegisterState.existsByEmail, RegisterState.indexed, AuthState.registerState, List.any_map, Function.comp_def]

theorem rollbackRows_registerState (rows : List UserRow) :
    rollbackRows 0 (s.registerState.rows ++ rows) = s.registerState.rows ++ rollbackRows 0 rows := by
  rw [rollbackRows, List.filter_append]
  congr 1
  refine List.filter_eq_self.mpr fun row hrow => ?_
  obtain ⟨u, _, rfl⟩ := List.mem_map.mp hrow
  rfl

theorem users_registerState : s.registerState.rows.map (·.user) = s.users := by
  simp [AuthState.registerState, Function.comp_def]

end

/-- The steps of a request, one right after the other. -/
def RegisterRequest.steps (r : RegisterRequest) (raises : Bool) : List RegisterEvent :=
  [.check 0 r, .insert 0, .send 0 raises, .commit 0, .rollback 0]

section
variable {env : Backend} {s : AuthState} {r : RegisterRequest}

theorem run_steps (raises : Bool) : (registerMachine env).run s.registerState (r.steps raises) =
    ((((s.registerState.step env (.check 0 r)).step env (.insert 0)).step env (.send 0 raises)).step env
      (.commit 0)).step env (.rollback 0) := rfl

/-- Of a taken address: the check fails, and the rollback finds nothing to drop. -/
theorem run_steps_taken (h : (s.getByEmail env.lower r.email).isSome = true) (raises : Bool) :
    ((registerMachine env).run s.registerState (r.steps raises)).rows.map (·.user) = s.users ∧
      ((registerMachine env).run s.registerState (r.steps raises)).phase 0 =
        .failed (.conflict "an account with this email already exists") := by
  have hcheck : s.registerState.step env (.check 0 r) =
      s.registerState.setPhase 0 (.failing (.conflict "an account with this email already exists")) :=
    if_pos ((existsByEmail_registerState env s r.email).trans h)
  have hrows := rollbackRows_registerState s []
  rw [List.append_nil] at hrows
  rw [run_steps, hcheck]
  refine ⟨?_, rfl⟩
  show (rollbackRows 0 s.registerState.rows).map UserRow.user = s.users
  rw [hrows, List.map_append, users_registerState]
  exact List.append_nil _

/-- Of a free address: the row is there until the mail raises, or for good. -/
theorem run_steps_free (h : (s.getByEmail env.lower r.email).isSome = false) (raises : Bool) :
    ((registerMachine env).run s.registerState (r.steps raises)).rows.map (·.user) =
        (if raises then s.users else s.users ++ [s.registerState.newUser env r]) ∧
      ((registerMachine env).run s.registerState (r.steps raises)).phase 0 =
        if raises then .failed .notifier else .created (s.registerState.newUser env r) := by
  have hcheck : s.registerState.step env (.check 0 r) = s.registerState.setPhase 0 (.free r) :=
    if_neg (Bool.eq_false_iff.mp ((existsByEmail_registerState env s r.email).trans h))
  have hinsert : (s.registerState.setPhase 0 (.free r)).step env (.insert 0) =
      RegisterState.setPhase ⟨s.registerState.rows ++ [⟨some 0, s.registerState.newUser env r, false⟩],
        (s.registerState.setPhase 0 (.free r)).phase, s.salts + 1, s.nextUserId + 1⟩ 0
        (.inserted (s.registerState.newUser env r)) :=
    if_neg (Bool.eq_false_iff.mp ((indexed_registerState env s r.email).trans h))
  rw [run_steps, hcheck, hinsert]
  cases raises with
  | true =>
    refine ⟨?_, rfl⟩
    show (rollbackRows 0 (s.registerState.rows ++ _)).map UserRow.user = s.users
    rw [rollbackRows_registerState, List.map_append, users_registerState]
    exact List.append_nil _
  | false =>
    refine ⟨?_, rfl⟩
    show (commitRows 0 (s.registerState.rows ++ _)).map UserRow.user = s.users ++ _
    rw [users_commitRows, List.map_append, users_registerState]
    rfl

/-- **A request that runs alone** does to the table what `register` does in a transaction, and ends as it does. -/
theorem register_alone (env : Backend) (s : AuthState) (r : RegisterRequest) (now : ℚ) (raises : Bool) :
    let answer := transaction (fun s => env.register s r.email r.password r.fullName now raises) s
    let t := (registerMachine env).run s.registerState (r.steps raises)
    t.rows.map (·.user) = answer.1.users ∧
      t.phase 0 = match answer.2 with
        | .ok user => .created user
        | .error (.conflict detail) => .failed (.conflict detail)
        | .error _ => .failed .notifier := by
  intro answer t
  cases h : (s.getByEmail env.lower r.email).isSome with
  | true =>
    have hanswer : answer = (s, .error (.conflict "an account with this email already exists")) := by
      simp only [answer, transaction, Backend.register, h, if_true]
    rw [hanswer]
    exact run_steps_taken h raises
  | false =>
    have hfree := run_steps_free h raises
    cases raises with
    | true =>
      have hanswer : answer.1.users = s.users ∧ answer.2 = .error .notifier := by
        simp only [answer, transaction, Backend.register, h, Bool.false_eq_true, if_false]
        exact ⟨rfl, rfl⟩
      rw [hanswer.1, hanswer.2]
      exact hfree
    | false =>
      have hanswer : answer.1.users = s.users ++ [s.registerState.newUser env r] ∧
          answer.2 = .ok (s.registerState.newUser env r) := by
        simp only [answer, transaction, Backend.register, h, Bool.false_eq_true, if_false]
        exact ⟨rfl, rfl⟩
      rw [hanswer.1, hanswer.2]
      exact hfree

end

end SmartTravel
