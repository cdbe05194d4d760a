import SmartTravel.Lib.LastWrite
import SmartTravel.Resilience.Cache

/-!
# Runs of the in-memory cache

`InMemoryCache` under any sequence of its operations. To its callers it is a `timedMap`, in which reading changes
nothing and an entry is visible until its deadline: as long as the clock does not run backwards, no run tells the two
apart (`cache_refines_timedMap`). A `set` whose time to live does not fit a float raises, and both are as before it.

In memory they differ. An expired entry goes only when its key is touched again (`get?_run_eq_some_iff`), so what is
written once and not asked for any more stays forever: `reclaims_iff` says which runs keep the store small.
-/

namespace SmartTravel

open Py Runs

/-- An operation on the cache, with the reading of the clock. -/
inductive CacheOp where
  | set (key value : String) (ttl : ℤ) (now : ℚ)
  | get (key : String) (now : ℚ)
  | delete (key : String) (now : ℚ)
  | clear (now : ℚ)

namespace CacheOp

/-- When the operation happens. -/
def time : CacheOp → ℚ
  | .set _ _ _ now | .get _ now | .delete _ now | .clear now => now

/-- The entry that the operation writes under the key. -/
def writes (key : String) : CacheOp → Option (String × ℚ)
  | .set k value ttl now => if k = key ∧ FitsFloat ttl then some (value, now + ttl) else none
  | .get _ _ | .delete _ _ | .clear _ => none

/-- Whether the operation is a `set` of the key that does not raise, a `delete` of it, or a `clear`. -/
def affects (key : String) : CacheOp → Bool
  | .set k _ ttl _ => k = key ∧ FitsFloat ttl
  | .delete k _ => k = key
  | .get _ _ => false
  | .clear _ => true

/-- Whether the operation takes an entry with this deadline from under the key: reading does when it has expired. -/
def drops (key : String) (deadline : ℚ) : CacheOp → Bool
  | .get k now => k = key && deadline ≤ now
  | op => op.affects key

theorem writes_set {k key : String} {ttl : ℤ} (h : k = key ∧ FitsFloat ttl) (value : String) (now : ℚ) :
    writes key (.set k value ttl now) = some (value, now + ttl) := if_pos h

theorem writes_set_eq_none {k key : String} {ttl : ℤ} (h : ¬(k = key ∧ FitsFloat ttl)) (value : String) (now : ℚ) :
    writes key (.set k value ttl now) = none := if_neg h

/-- Only a `set` that does not raise writes. -/
theorem writes_eq_some_iff {op : CacheOp} {key value : String} {deadline : ℚ} :
    op.writes key = some (value, deadline) ↔
      ∃ ttl now, op = .set key value ttl now ∧ FitsFloat ttl ∧ deadline = now + ttl := by
  cases op with
  | set k v ttl now =>
    by_cases h : k = key ∧ FitsFloat ttl
    · rw [writes_set h]
      simp [h.1, h.2, eq_comm]
    · rw [writes_set_eq_none h]
      simp only [reduceCtorEq, false_iff]
      rintro ⟨ttl', now', hop, hfits, -⟩
      obtain ⟨rfl, -, rfl, -⟩ := CacheOp.set.inj hop
      exact h ⟨rfl, hfits⟩
  | get | delete | clear => simp [writes]

/-- An operation that writes under a key affects it. -/
theorem writes_eq_none_of_affects {op : CacheOp} {key : String} (h : op.affects key = false) :
    op.writes key = none := by
  cases op with
  | set k value ttl now => exact writes_set_eq_none (of_decide_eq_false h) value now
  | get | delete | clear => rfl

/-- What affects a key leaves nothing of its old entry. -/
theorem affects_eq_false_of_drops {op : CacheOp} {key : String} {deadline : ℚ} (h : op.drops key deadline = false) :
    op.affects key = false := by
  cases op with
  | set | delete | clear => exact h
  | get => rfl

/-- Of the operations that do not affect a key, none drops an entry before its deadline. -/
theorem drops_eq_false_of_live {op : CacheOp} {key : String} {deadline : ℚ} (h : op.affects key = false)
    (hlive : op.time < deadline) : op.drops key deadline = false := by
  cases op with
  | set | delete | clear => exact h
  | get k now =>
    have hnot : ¬deadline ≤ now := not_le.mpr hlive
    rw [drops, decide_eq_false hnot, Bool.and_false]

end CacheOp

/-- A new cache. -/
def InMemoryCache.empty : InMemoryCache := ⟨Dict.empty⟩

/-- The answer to an operation: a value, `None`, or an exception. -/
abbrev CacheAnswer : Type := Except PyError (Option String)

/-- One operation; those that return nothing answer `None`. -/
def InMemoryCache.step (cache : InMemoryCache) : CacheOp → InMemoryCache × CacheAnswer
  | .set key value ttl now =>
    match cache.set key value ttl now with
    | .error e => (cache, .error e)
    | .ok cache => (cache, .ok none)
  | .get key now => ((cache.get key now).1, .ok (cache.get key now).2)
  | .delete key _ => (cache.delete key, .ok none)
  | .clear _ => (cache.clear, .ok none)

/-- The cache as a machine. -/
def cacheMachine : Machine InMemoryCache CacheOp CacheAnswer := ⟨InMemoryCache.step⟩

/-- What a map from keys to values with deadlines shows at a time. -/
def timedGet (map : String → Option (String × ℚ)) (key : String) (now : ℚ) : Option String :=
  ((map key).filter fun e => now < e.2).map Prod.fst

/-- Reading removes nothing from the map, only `delete` and `clear` do. -/
def timedStep (map : String → Option (String × ℚ)) : CacheOp → (String → Option (String × ℚ)) × CacheAnswer
  | .set key value ttl now =>
    if FitsFloat ttl then (Function.update map key (some (value, now + ttl)), .ok none)
    else (map, .error .overflowError)
  | .get key now => (map, .ok (timedGet map key now))
  | .delete key _ => (Function.update map key none, .ok none)
  | .clear _ => (fun _ => none, .ok none)

/-- The abstract cache: a value is there until its deadline. -/
def timedMap : Machine (String → Option (String × ℚ)) CacheOp CacheAnswer := ⟨timedStep⟩

/-! ## One operation -/

section
variable (cache : InMemoryCache) (map : String → Option (String × ℚ)) (key value : String) {ttl : ℤ} (now : ℚ)

theorem step_set (h : FitsFloat ttl) :
    cacheMachine.step cache (.set key value ttl now) = (cache.put key value (now + ttl), .ok none) := by
  simp only [cacheMachine, InMemoryCache.step, cache.set_of_fits key value h now]

/-- A `set` that raises leaves the cache as it is. -/
theorem step_set_of_huge (h : ¬FitsFloat ttl) :
    cacheMachine.step cache (.set key value ttl now) = (cache, .error .overflowError) := by
  simp only [cacheMachine, InMemoryCache.step, cache.set_of_huge key value h now]

theorem timedMap_set (h : FitsFloat ttl) :
    timedMap.step map (.set key value ttl now) = (Function.update map key (some (value, now + ttl)), .ok none) :=
  if_pos h

theorem timedMap_set_of_huge (h : ¬FitsFloat ttl) :
    timedMap.step map (.set key value ttl now) = (map, .error .overflowError) := if_neg h

end

/-- Reading takes the entry of its key away when it has expired, and nothing else. -/
theorem get?_get (cache : InMemoryCache) (k key : String) (now : ℚ) :
    (cache.get k now).1.store.get? key =
      writeCell (CacheOp.writes key) (fun op e => !op.drops key e.2) (cache.store.get? key) (.get k now) := by
  by_cases hk : k = key
  · subst hk
    have hdrops : ∀ e : String × ℚ, CacheOp.drops k e.2 (.get k now) = decide (e.2 ≤ now) := by simp [CacheOp.drops]
    unfold InMemoryCache.get
    split
    · rename_i hnone
      rw [hnone, writeCell_keep rfl fun e he => absurd he (by simp)]
    · rename_i value deadline hentry
      split
      · rename_i hexpired
        refine (Dict.get?_pop _ _ _).trans ((if_pos rfl).trans (writeCell_drop rfl fun e he => ?_).symm)
        rw [hentry, Option.mem_some_iff] at he
        rw [hdrops, ← he, decide_eq_true hexpired, Bool.not_true]
      · rename_i hlive
        refine (writeCell_keep rfl fun e he => ?_).symm
        rw [hentry, Option.mem_some_iff] at he
        rw [hdrops, ← he, decide_eq_false hlive, Bool.not_false]
  · have hkeep : ∀ e ∈ cache.store.get? key, (!CacheOp.drops key e.2 (.get k now)) = true := by
      simp [CacheOp.drops, hk]
    rw [writeCell_keep rfl hkeep]
    unfold InMemoryCache.get
    split
    · rfl
    · split
      · exact (Dict.get?_pop _ _ _).trans (if_neg (Ne.symm hk))
      · rfl

/-- **What an operation leaves under a key** of the cache. -/
theorem get?_step (cache : InMemoryCache) (op : CacheOp) (key : String) :
    (cacheMachine.step cache op).1.store.get? key =
      writeCell (CacheOp.writes key) (fun op e => !op.drops key e.2) (cache.store.get? key) op := by
  cases op with
  | set k value ttl now =>
    by_cases hfits : FitsFloat ttl
    · rw [step_set cache k value now hfits]
      refine (Dict.get?_set _ _ _ _).trans ?_
      by_cases hk : k = key
      · rw [if_pos hk.symm, writeCell_write (CacheOp.writes_set ⟨hk, hfits⟩ value now)]
      · rw [if_neg (Ne.symm hk), writeCell_keep (CacheOp.writes_set_eq_none (fun h => hk h.1) value now)]
        simp [CacheOp.drops, CacheOp.affects, hk]
    · rw [step_set_of_huge cache k value now hfits,
        writeCell_keep (CacheOp.writes_set_eq_none (fun h => hfits h.2) value now)]
      simp [CacheOp.drops, CacheOp.affects, hfits]
  | get k now => exact get?_get cache k key now
  | delete k now =>
    refine (Dict.get?_pop _ _ _).trans ?_
    by_cases hk : k = key
    · rw [if_pos hk.symm, writeCell_drop rfl]
      simp [CacheOp.drops, CacheOp.affects, hk]
    · rw [if_neg (Ne.symm hk), writeCell_keep rfl]
      simp [CacheOp.drops, CacheOp.affects, hk]
  | clear now => exact (writeCell_drop rfl fun _ _ => rfl).symm

/-- **What an operation leaves under a key** of the map. -/
theorem timedMap_step (map : String → Option (String × ℚ)) (op : CacheOp) (key : String) :
    (timedMap.step map op).1 key = writeCell (CacheOp.writes key) (fun op _ => !op.affects key) (map key) op := by
  cases op with
  | set k value ttl now =>
    by_cases hfits : FitsFloat ttl
    · rw [timedMap_set map k value now hfits]
      refine (Function.update_apply _ _ _ _).trans ?_
      by_cases hk : k = key
      · rw [if_pos hk.symm, writeCell_write (CacheOp.writes_set ⟨hk, hfits⟩ value now)]
      · rw [if_neg (Ne.symm hk), writeCell_keep (CacheOp.writes_set_eq_none (fun h => hk h.1) value now)]
        simp [CacheOp.affects, hk]
    · rw [timedMap_set_of_huge map k value now hfits,
        writeCell_keep (CacheOp.writes_set_eq_none (fun h => hfits h.2) value now)]
      simp [CacheOp.affects, hfits]
  | get k now => exact (writeCell_keep rfl fun _ _ => rfl).symm
  | delete k now =>
    refine (Function.update_apply _ _ _ _).trans ?_
    by_cases hk : k = key
    · rw [if_pos hk.symm, writeCell_drop rfl]
      simp [CacheOp.affects, hk]
    · rw [if_neg (Ne.symm hk), writeCell_keep rfl]
      simp [CacheOp.affects, hk]
  | clear now => exact (writeCell_drop rfl fun _ _ => rfl).symm

/-! ## The timed map -/

/-- What the map shows. -/
theorem timedGet_eq_some_iff {map : String → Option (String × ℚ)} {key value : String} {now : ℚ} :
    timedGet map key now = some value ↔ ∃ deadline, map key = some (value, deadline) ∧ now < deadline := by
  rw [timedGet, Option.map_eq_some_iff]
  constructor
  · rintro ⟨⟨v, deadline⟩, he, rfl⟩
    obtain ⟨hmap, hlive⟩ := Option.filter_eq_some_iff.mp he
    exact ⟨deadline, hmap, of_decide_eq_true hlive⟩
  · rintro ⟨deadline, hmap, hlive⟩
    exact ⟨(value, deadline), Option.filter_eq_some_iff.mpr ⟨hmap, decide_eq_true hlive⟩, rfl⟩

/-- The cache holds nothing that is not in the map, and all of the map that lives beyond the time. -/
structure Agrees (t : ℚ) (cache : InMemoryCache) (map : String → Option (String × ℚ)) : Prop where
  stored : ∀ key e, cache.store.get? key = some e → map key = some e
  live : ∀ key e, map key = some e → t < e.2 → cache.store.get? key = some e

variable {t : ℚ} {cache : InMemoryCache} {map : String → Option (String × ℚ)} {op : CacheOp}

/-- A later operation keeps the agreement. -/
theorem Agrees.step (h : Agrees t cache map) (ht : t ≤ op.time) :
    Agrees op.time (cacheMachine.step cache op).1 (timedMap.step map op).1 := by
  constructor
  case stored =>
    intro key e he
    rw [get?_step, writeCell_eq_some_iff] at he
    rw [timedMap_step, writeCell_eq_some_iff]
    rcases he with hwrites | ⟨hwrites, he, hkeep⟩
    · exact .inl hwrites
    · rw [Bool.not_eq_true'] at hkeep
      exact .inr ⟨hwrites, h.stored key e he, by rw [CacheOp.affects_eq_false_of_drops hkeep]; rfl⟩
  case live =>
    intro key e he hlive
    rw [timedMap_step, writeCell_eq_some_iff] at he
    rw [get?_step, writeCell_eq_some_iff]
    rcases he with hwrites | ⟨hwrites, he, hkeep⟩
    · exact .inl hwrites
    · rw [Bool.not_eq_true'] at hkeep
      exact .inr ⟨hwrites, h.live key e he (lt_of_le_of_lt ht hlive),
        by rw [CacheOp.drops_eq_false_of_live hkeep hlive]; rfl⟩

/-- A later operation is answered alike. -/
theorem Agrees.answer (h : Agrees t cache map) (ht : t ≤ op.time) :
    (cacheMachine.step cache op).2 = (timedMap.step map op).2 := by
  cases op with
  | delete | clear => rfl
  | set key value ttl now =>
    by_cases hfits : FitsFloat ttl
    · rw [step_set cache key value now hfits, timedMap_set map key value now hfits]
    · rw [step_set_of_huge cache key value now hfits, timedMap_set_of_huge map key value now hfits]
  | get key now =>
    refine congrArg Except.ok (Option.ext fun value => ?_)
    refine InMemoryCache.get_eq_some_iff.trans (Iff.trans ?_ timedGet_eq_some_iff.symm)
    refine exists_congr fun deadline => and_congr_left fun hlive => ?_
    exact ⟨h.stored key _, fun hmap => h.live key _ hmap (lt_of_le_of_lt ht hlive)⟩

/-- Both start without entries. -/
theorem Agrees.empty (t : ℚ) : Agrees t .empty (fun _ => none) :=
  ⟨fun _ _ he => absurd he (by simp [InMemoryCache.empty]), fun _ _ he => absurd he (by simp)⟩

/-- **No run tells the cache from the map.** -/
theorem log_eq_timedMap {ops : List CacheOp} (hclock : NonDecreasing CacheOp.time ops) :
    cacheMachine.log .empty ops = timedMap.log (fun _ => none) ops := by
  cases ops with
  | nil => rfl
  | cons op ops =>
    have hfrom : ∀ i ∈ op :: ops, op.time ≤ i.time :=
      List.forall_mem_cons.mpr ⟨le_refl _, (List.pairwise_cons.mp hclock).1⟩
    exact cacheMachine.log_eq_of_clocked timedMap Agrees (fun _ _ _ _ h ht => ⟨h.step ht, h.answer ht⟩)
      (Agrees.empty op.time) hfrom hclock

/-- The content of a cell that only `set` writes, when whatever keeps an entry writes none. -/
theorem lastWrite_writes_iff {keeps : CacheOp → String × ℚ → Bool} {ops : List CacheOp} {key value : String}
    {deadline : ℚ} (hkeeps : ∀ op e, keeps op e = true → op.affects key = false) :
    lastWrite (CacheOp.writes key) keeps ops = some (value, deadline) ↔
      ∃ (before : List CacheOp) (ttl : ℤ) (now : ℚ) (after : List CacheOp),
        ops = before ++ .set key value ttl now :: after ∧ FitsFloat ttl ∧ deadline = now + ttl ∧
          ∀ op ∈ after, keeps op (value, deadline) = true := by
  rw [lastWrite_eq_some_iff]
  constructor
  · rintro ⟨before, op, after, rfl, hop, hafter⟩
    obtain ⟨ttl, now, rfl, hfits, rfl⟩ := CacheOp.writes_eq_some_iff.mp hop
    exact ⟨before, ttl, now, after, rfl, hfits, rfl, fun op h => (hafter op h).2⟩
  · rintro ⟨before, ttl, now, after, rfl, hfits, rfl, hafter⟩
    refine ⟨before, _, after, rfl, CacheOp.writes_eq_some_iff.mpr ⟨ttl, now, rfl, hfits, rfl⟩, fun op h => ?_⟩
    have hkept := hafter op h
    exact ⟨CacheOp.writes_eq_none_of_affects (hkeeps op _ hkept), hkept⟩

/-- The last operation that affects the key sets it to the value, with this deadline. -/
def LastSet (ops : List CacheOp) (key value : String) (deadline : ℚ) : Prop :=
  ∃ (before : List CacheOp) (ttl : ℤ) (now : ℚ) (after : List CacheOp),
    ops = before ++ .set key value ttl now :: after ∧ FitsFloat ttl ∧ deadline = now + ttl ∧
      ∀ op ∈ after, op.affects key = false

theorem timedMap_run_eq_some_iff {ops : List CacheOp} {key value : String} {deadline : ℚ} :
    timedMap.run (fun _ => none) ops key = some (value, deadline) ↔ LastSet ops key value deadline := by
  have hcell : timedMap.run (fun _ => none) ops key =
      lastWrite (CacheOp.writes key) (fun op _ => !op.affects key) ops :=
    timedMap.cell_run (fun map => map key) rfl (fun map op => timedMap_step map op key) ops
  rw [hcell, lastWrite_writes_iff fun op _ h => (Bool.not_eq_true' _).mp h]
  simp only [Bool.not_eq_true', LastSet]

/-- **The in-memory cache is a timed map**: with a clock that does not run backwards it answers every run as the map in
which reading removes nothing. A `set` raises exactly when its time to live does not fit a float, and leaves the cache
as it is; a read finds a value exactly when the last operation that affects its key set it and its time to live is not
over. -/
theorem cache_refines_timedMap (ops : List CacheOp) (hclock : NonDecreasing CacheOp.time ops) :
    cacheMachine.log .empty ops = timedMap.log (fun _ => none) ops ∧
    (∀ cache key value ttl now,
      (FitsFloat ttl → (cacheMachine.step cache (.set key value ttl now)).2 = .ok none) ∧
      (¬FitsFloat ttl → cacheMachine.step cache (.set key value ttl now) = (cache, .error .overflowError))) ∧
    ∀ pre key now post, ops = pre ++ .get key now :: post → ∀ value,
      (((cacheMachine.run .empty pre).get key now).2 = some value ↔
        ∃ deadline, LastSet pre key value deadline ∧ now < deadline) := by
  refine ⟨log_eq_timedMap hclock, fun cache key value ttl now => ⟨?_, ?_⟩, ?_⟩
  · exact fun hfits => congrArg Prod.snd (step_set cache key value now hfits)
  · exact step_set_of_huge cache key value now
  · rintro pre key now post rfl value
    have hprefix : NonDecreasing CacheOp.time (pre ++ [.get key now]) := by
      refine hclock.sublist (List.Sublist.append_left ?_ pre)
      exact List.singleton_sublist.mpr List.mem_cons_self
    have hlogs := log_eq_timedMap hprefix
    rw [Machine.log_snoc, Machine.log_snoc, List.append_singleton_inj, Prod.mk.injEq] at hlogs
    have hread : ((cacheMachine.run .empty pre).get key now).2 = timedGet (timedMap.run (fun _ => none) pre) key now :=
      Except.ok.inj hlogs.2.2
    rw [hread, timedGet_eq_some_iff]
    exact exists_congr fun deadline => and_congr_left fun _ => timedMap_run_eq_some_iff

/-- A value is stored for five seconds and replaced by one that is not stored at all. -/
def sampleCacheOps : List CacheOp :=
  [.set "k" "v" 5 0, .get "k" 4, .get "k" 5, .set "k" "w" 0 5, .get "k" 5, .set "k" "v" 1 6, .clear 6, .get "k" 6]

/-- The value is found before its deadline and not at it. -/
theorem deadline_excluded : NonDecreasing CacheOp.time sampleCacheOps ∧
    (cacheMachine.log .empty sampleCacheOps = timedMap.log (fun _ => none) sampleCacheOps ∧
      ((cacheMachine.run .empty [.set "k" "v" 5 0]).get "k" 4).2 = some "v") ∧
    (cacheMachine.log .empty sampleCacheOps).map Prod.snd =
      [.ok none, .ok (some "v"), .ok none, .ok none, .ok none, .ok none, .ok none, .ok none] := by
  have hclock : NonDecreasing CacheOp.time sampleCacheOps := by decide +kernel
  have hrefines := cache_refines_timedMap sampleCacheOps hclock
  refine ⟨hclock, ⟨hrefines.1, ?_⟩, by decide +kernel⟩
  refine (hrefines.2.2 [.set "k" "v" 5 0] "k" 4 _ rfl "v").mpr ⟨5, ?_, by norm_num⟩
  refine ⟨[], 5, 0, [], rfl, ?_, by norm_num, ?_⟩
  · decide +kernel
  · exact fun op h => absurd h List.not_mem_nil

/-- A value is to be replaced by one whose time to live is an integer of four hundred digits. -/
def hugeTtlOps : List CacheOp := [.set "k" "old" 10 0, .set "k" "new" (10 ^ 400) 1]

/-- The replacement raises. A second later its time to live is not over, and the old value is found. -/
theorem huge_ttl_keeps_old : NonDecreasing CacheOp.time (hugeTtlOps ++ [.get "k" 2]) ∧
    hugeTtlOps.getLast? = some (.set "k" "new" (10 ^ 400) 1) ∧ (2 : ℚ) < 1 + (10 ^ 400 : ℤ) ∧
    ((cacheMachine.run .empty hugeTtlOps).get "k" 2).2 = some "old" ∧
    ((cacheMachine.run .empty hugeTtlOps).get "k" 2).2 ≠ some "new" := by
  exact ⟨by decide +kernel, rfl, by decide +kernel, by decide +kernel, by decide +kernel⟩

/-! ## What stays in memory -/

/-- **What is stored**: an entry that was written and not dropped since, expired or not. -/
theorem get?_run_eq_some_iff {ops : List CacheOp} {key value : String} {deadline : ℚ} :
    (cacheMachine.run .empty ops).store.get? key = some (value, deadline) ↔
      ∃ (before : List CacheOp) (ttl : ℤ) (now : ℚ) (after : List CacheOp),
        ops = before ++ .set key value ttl now :: after ∧ FitsFloat ttl ∧ deadline = now + ttl ∧
          ∀ op ∈ after, op.drops key deadline = false := by
  have hcell : (cacheMachine.run .empty ops).store.get? key =
      lastWrite (CacheOp.writes key) (fun op e => !op.drops key e.2) ops :=
    cacheMachine.cell_run (fun cache => cache.store.get? key) rfl (fun cache op => get?_step cache op key) ops
  rw [hcell, lastWrite_writes_iff fun op e h => CacheOp.affects_eq_false_of_drops ((Bool.not_eq_true' _).mp h)]
  simp only [Bool.not_eq_true']

/-- The key that the operation writes. -/
def CacheOp.written : CacheOp → Option String
  | .set key _ ttl _ => if FitsFloat ttl then some key else none
  | .get _ _ | .delete _ _ | .clear _ => none

/-- The number of writes that are not older than the time. -/
def writesSince (t : ℚ) (ops : List CacheOp) : ℕ :=
  ((ops.filter fun op => t ≤ op.time).filterMap CacheOp.written).length

/-- Every time to live is at most this. -/
def TtlAtMost (maxTtl : ℤ) (ops : List CacheOp) : Prop :=
  ∀ key value ttl now, CacheOp.set key value ttl now ∈ ops → ttl ≤ maxTtl

/-- Memory is given back within the retention: after every operation no entry is left that expired longer ago, and there
are no more entries than there were writes in the retention and the longest time to live before. -/
structure Reclaims (retention : ℚ) (maxTtl : ℤ) (ops : List CacheOp) : Prop where
  expired : ∀ pre op post, ops = pre ++ op :: post → ∀ key value deadline,
    (cacheMachine.run .empty (pre ++ [op])).store.get? key = some (value, deadline) → op.time - retention ≤ deadline
  bounded : ∀ pre op post, ops = pre ++ op :: post →
    (cacheMachine.run .empty (pre ++ [op])).store.items.length ≤
      writesSince (op.time - retention - maxTtl) (pre ++ [op])

/-- By the time that an entry, written by a `set` that did not raise, expired longer ago than the retention, it has been
overwritten, deleted or cleared, or its key has been read at or after the deadline. -/
def TouchedAgain (retention : ℚ) (ops : List CacheOp) : Prop :=
  ∀ pre op post, ops = pre ++ op :: post → ∀ (before : List CacheOp) key value (ttl : ℤ) now after,
    pre ++ [op] = before ++ .set key value ttl now :: after → FitsFloat ttl → now + ttl < op.time - retention →
      ∃ later ∈ after, later.drops key (now + ttl) = true

variable {retention : ℚ} {maxTtl : ℤ} {ops : List CacheOp}

/-- Entries that have not expired for long were written recently. -/
theorem items_length_le {t : ℚ} (httl : TtlAtMost maxTtl ops)
    (h : ∀ key value deadline, (cacheMachine.run .empty ops).store.get? key = some (value, deadline) → t ≤ deadline) :
    (cacheMachine.run .empty ops).store.items.length ≤ writesSince (t - maxTtl) ops := by
  have hkeys : (cacheMachine.run .empty ops).store.keys ⊆
      (ops.filter fun op => t - maxTtl ≤ op.time).filterMap CacheOp.written := by
    intro key hkey
    obtain ⟨⟨k, value, deadline⟩, hitem, rfl⟩ := List.mem_map.mp hkey
    have hentry := Dict.get?_eq_some_iff.mpr hitem
    have hlate := h k value deadline hentry
    obtain ⟨before, ttl, now, after, rfl, hfits, rfl, -⟩ := get?_run_eq_some_iff.mp hentry
    have hmem : CacheOp.set k value ttl now ∈ before ++ .set k value ttl now :: after :=
      List.mem_append_right before List.mem_cons_self
    have hmax : (ttl : ℚ) ≤ maxTtl := Int.cast_le.mpr (httl k value ttl now hmem)
    have hrecent : t - maxTtl ≤ now := by linarith
    exact List.mem_filterMap.mpr ⟨_, List.mem_filter.mpr ⟨hmem, decide_eq_true hrecent⟩, if_pos hfits⟩
  have hlength : (cacheMachine.run .empty ops).store.keys.length = _ := List.length_map _
  rw [← hlength]
  exact (List.subperm_of_subset (cacheMachine.run .empty ops).store.nodup hkeys).length_le

/-- **Which runs give memory back**: those that touch every entry again after it has expired. -/
theorem reclaims_iff (retention : ℚ) (maxTtl : ℤ) (ops : List CacheOp) (httl : TtlAtMost maxTtl ops) :
    Reclaims retention maxTtl ops ↔ TouchedAgain retention ops := by
  constructor
  · rintro h pre op post hops before key value ttl now after hsplit hfits hold
    by_contra hnone
    have hkept : ∀ later ∈ after, later.drops key (now + ttl) = false := by
      intro later hlater
      exact Bool.eq_false_iff.mpr fun hdrops => hnone ⟨later, hlater, hdrops⟩
    have hentry := get?_run_eq_some_iff.mpr ⟨before, ttl, now, after, hsplit, hfits, rfl, hkept⟩
    exact absurd (h.expired pre op post hops key value _ hentry) (not_le.mpr hold)
  · intro h
    have hexpired : ∀ pre op post, ops = pre ++ op :: post → ∀ key value deadline,
        (cacheMachine.run .empty (pre ++ [op])).store.get? key = some (value, deadline) →
          op.time - retention ≤ deadline := by
      intro pre op post hops key value deadline hentry
      obtain ⟨before, ttl, now, after, hsplit, hfits, rfl, hkept⟩ := get?_run_eq_some_iff.mp hentry
      by_contra hold
      obtain ⟨later, hlater, hdrops⟩ := h pre op post hops before key value ttl now after hsplit hfits (not_le.mp hold)
      rw [hkept later hlater] at hdrops
      cases hdrops
    refine ⟨hexpired, fun pre op post hops => items_length_le ?_ (hexpired pre op post hops)⟩
    intro key value ttl now hmem
    refine httl key value ttl now ?_
    rw [hops, ← List.singleton_append, ← List.append_assoc]
    exact List.mem_append_left post hmem

/-- The only key that is written is read two seconds after its deadline. -/
theorem read_key_reclaimed : TtlAtMost 5 [.set "k" "v" 5 0, .get "k" 7] ∧
    Reclaims 1 5 [.set "k" "v" 5 0, .get "k" 7] := by
  have hset : ∀ key value ttl now, CacheOp.set key value ttl now ∈ [.set "k" "v" 5 0, .get "k" 7] →
      key = "k" ∧ ttl = 5 ∧ now = 0 := by
    intro key value ttl now hmem
    simp only [List.mem_cons, CacheOp.set.injEq, reduceCtorEq, List.not_mem_nil, or_false] at hmem
    exact ⟨hmem.1, hmem.2.2⟩
  have httl : TtlAtMost 5 [.set "k" "v" 5 0, .get "k" 7] := fun key value ttl now hmem =>
    (hset key value ttl now hmem).2.1.le
  refine ⟨httl, (reclaims_iff 1 5 _ httl).mpr ?_⟩
  intro pre op post hops before key value ttl now after hsplit _ hold
  have hsub : ∀ x ∈ pre ++ [op], x ∈ [CacheOp.set "k" "v" 5 0, .get "k" 7] := by
    intro x hx
    rw [hops, ← List.singleton_append, ← List.append_assoc]
    exact List.mem_append_left post hx
  obtain ⟨rfl, rfl, rfl⟩ := hset key value ttl now (hsub _ (hsplit ▸ List.mem_append_right before List.mem_cons_self))
  -- Only the read is late enough, and it comes after the write.
  have hop : op = .get "k" 7 := by
    have hmem := hsub op (List.mem_append_right pre (List.mem_singleton_self op))
    simp only [List.mem_cons, List.not_mem_nil, or_false] at hmem
    rcases hmem with rfl | rfl
    · norm_num [CacheOp.time] at hold
    · rfl
  subst hop
  have hlast := congrArg List.getLast? hsplit
  rw [List.getLast?_concat, List.getLast?_append, List.getLast?_cons, Option.some_or, Option.some.injEq] at hlast
  cases hafter : after.getLast? with
  | none =>
    rw [hafter] at hlast
    cases hlast
  | some later =>
    rw [hafter, Option.getD_some] at hlast
    exact ⟨later, List.mem_of_getLast? hafter, by rw [← hlast]; decide +kernel⟩

/-- A token is revoked for a quarter of an hour; after that only other tokens are looked up. Its entry stays, for
however long. -/
theorem revoked_token_stays : ¬∃ retention : ℚ, ∀ ops : List CacheOp, NonDecreasing CacheOp.time ops →
    TtlAtMost 900 ops → Reclaims retention 900 ops := by
  rintro ⟨retention, h⟩
  let later : ℚ := max retention 0 + 901
  have hlater : 0 ≤ later ∧ (900 : ℚ) < later - retention := by
    constructor
    · have := le_max_right retention 0
      simp only [later]
      linarith
    · have := le_max_left retention 0
      simp only [later]
      linarith
  have hclock : NonDecreasing CacheOp.time [.set "revoked:a" "1" 900 0, .get "revoked:b" later] := by
    refine List.pairwise_pair.mpr ?_
    exact hlater.1
  have httl : TtlAtMost 900 [.set "revoked:a" "1" 900 0, .get "revoked:b" later] := by
    intro key value ttl now hmem
    simp only [List.mem_cons, CacheOp.set.injEq, reduceCtorEq, List.not_mem_nil, or_false] at hmem
    exact hmem.2.2.1.le
  have hentry : (cacheMachine.run .empty ([.set "revoked:a" "1" 900 0] ++ [.get "revoked:b" later])).store.get?
      "revoked:a" = some ("1", 0 + ((900 : ℤ) : ℚ)) := by
    refine get?_run_eq_some_iff.mpr ⟨[], 900, 0, [.get "revoked:b" later], rfl, by decide +kernel, rfl, ?_⟩
    intro op hop
    rw [List.mem_singleton.mp hop]
    rfl
  have hold := (h _ hclock httl).expired [_] (.get "revoked:b" later) [] rfl _ _ _ hentry
  have hnew := hlater.2
  simp only [CacheOp.time] at hold
  push_cast at hold
  linarith

end SmartTravel
