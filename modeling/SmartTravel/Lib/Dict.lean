import Mathlib.Data.List.Nodup

/-!
# Insertion-ordered dictionaries

A `Dict α β` is a list of items in the order their keys were first inserted, each key once (`nodup`). Writing to a key
that is present replaces its value in place; writing to an absent key appends. Lookups are characterised by membership
(`get?_eq_some_iff`), and every operation by its lookups (`get?_set`, `get?_update`, `get?_pop`, `get?_keep`). `tally`
counts values; an operation changes it by what it finds and what it leaves at its key (`tally_set`, `tally_pop`).
-/

namespace Py

/-- A row with a new key can be added at the end. -/
theorem nodup_map_snoc {ρ κ : Type} {key : ρ → κ} {rows : List ρ} {row : ρ} (h : (rows.map key).Nodup)
    (hnew : key row ∉ rows.map key) : ((rows ++ [row]).map key).Nodup := by
  rw [List.map_append, List.map_singleton, ← List.concat_eq_append]
  exact List.Nodup.concat hnew h

/-- A dictionary that remembers the order of insertion. -/
structure Dict (α β : Type) where
  items : List (α × β)
  nodup : (items.map Prod.fst).Nodup

namespace Dict

variable {α β : Type}

/-- The dictionary with no items. -/
def empty : Dict α β := ⟨[], List.nodup_nil⟩

/-- The keys in insertion order. -/
def keys (d : Dict α β) : List α := d.items.map Prod.fst

/-- The values in insertion order of their keys. -/
def values (d : Dict α β) : List β := d.items.map Prod.snd

/-- Drop the items that fail `p`. -/
def keep (d : Dict α β) (p : α → β → Bool) : Dict α β :=
  ⟨d.items.filter (fun e => p e.1 e.2), d.nodup.sublist (List.filter_sublist.map Prod.fst)⟩

variable [DecidableEq α]

/-- The value at a key. -/
def get? (d : Dict α β) (k : α) : Option β := d.items.lookup k

/-- Replace the value of `k` where it stands, or append the pair. -/
def setItems (k : α) (v : β) : List (α × β) → List (α × β)
  | [] => [(k, v)]
  | (k', v') :: es => if k' = k then (k, v) :: es else (k', v') :: setItems k v es

theorem keys_setItems (k : α) (v : β) : ∀ es : List (α × β),
    (setItems k v es).map Prod.fst = if k ∈ es.map Prod.fst then es.map Prod.fst else es.map Prod.fst ++ [k]
  | [] => rfl
  | (k', v') :: es => by
    by_cases h : k' = k
    · subst h; simp [setItems]
    · have ih := keys_setItems k v es
      simp only [setItems, h, if_false, List.map_cons, ih, List.mem_cons]
      have h' : ¬ k = k' := fun e => h e.symm
      simp only [h', false_or]
      split <;> rfl

theorem setItems_of_notMem {k : α} (v : β) : ∀ {es : List (α × β)}, k ∉ es.map Prod.fst →
    setItems k v es = es ++ [(k, v)]
  | [], _ => rfl
  | (k', v') :: es, h => by
    rw [List.map_cons, List.mem_cons, not_or] at h
    have hne : ¬ k' = k := fun e => h.1 e.symm
    rw [setItems, if_neg hne, setItems_of_notMem v h.2, List.cons_append]

theorem nodup_setItems (k : α) (v : β) {es : List (α × β)} (h : (es.map Prod.fst).Nodup) :
    ((setItems k v es).map Prod.fst).Nodup := by
  rw [keys_setItems]
  split
  · exact h
  · rename_i hk
    rw [← List.concat_eq_append]
    exact List.Nodup.concat hk h

/-- `d[k] = v`. -/
def set (d : Dict α β) (k : α) (v : β) : Dict α β := ⟨setItems k v d.items, nodup_setItems k v d.nodup⟩

/-- `d.update(e)`. -/
def update (d e : Dict α β) : Dict α β := e.items.foldl (fun d item => d.set item.1 item.2) d

/-- `d.pop(k, None)` and `del d[k]`: drop the key. -/
def pop (d : Dict α β) (k : α) : Dict α β := d.keep (fun k' _ => decide (k' ≠ k))

theorem lookup_cons_ite (k k' : α) (v : β) (es : List (α × β)) :
    List.lookup k ((k', v) :: es) = if k = k' then some v else List.lookup k es := by
  rw [List.lookup_cons]
  by_cases h : k = k'
  · simp [h]
  · have hb : (k == k') = false := by simpa using h
    simp [hb, h]

@[simp] theorem get?_empty (k : α) : (empty : Dict α β).get? k = none := rfl

/-- Keys occur once, so a lookup finds a value exactly when the pair is an item. -/
theorem get?_eq_some_iff {d : Dict α β} {k : α} {v : β} : d.get? k = some v ↔ (k, v) ∈ d.items := by
  obtain ⟨es, hes⟩ := d
  simp only [get?]
  induction es with
  | nil => simp
  | cons e es ih =>
    obtain ⟨k', v'⟩ := e
    rw [List.map_cons, List.nodup_cons] at hes
    simp only [lookup_cons_ite, List.mem_cons, Prod.mk.injEq]
    by_cases h : k = k'
    · subst h
      have hno : (k, v) ∉ es := fun hm => hes.1 (List.mem_map.mpr ⟨_, hm, rfl⟩)
      simp [hno, eq_comm]
    · simp only [h, if_false, ih hes.2, false_and, false_or]

theorem get?_set (d : Dict α β) (k : α) (v : β) (k' : α) :
    (d.set k v).get? k' = if k' = k then some v else d.get? k' := by
  obtain ⟨es, hes⟩ := d
  simp only [get?, set]
  clear hes
  induction es with
  | nil => simp only [setItems, lookup_cons_ite]
  | cons e es ih =>
    obtain ⟨j, w⟩ := e
    by_cases hj : j = k
    · subst hj
      simp only [setItems, if_true, lookup_cons_ite]
      split <;> rfl
    · simp only [setItems, hj, if_false, lookup_cons_ite, ih]
      by_cases h : k' = j
      · subst h; simp [hj]
      · simp [h]

@[simp] theorem get?_set_self (d : Dict α β) (k : α) (v : β) : (d.set k v).get? k = some v := by
  rw [get?_set, if_pos rfl]

theorem get?_set_of_ne (d : Dict α β) {k k' : α} (v : β) (h : k' ≠ k) : (d.set k v).get? k' = d.get? k' := by
  rw [get?_set, if_neg h]

theorem get?_foldl_set : ∀ {es : List (α × β)} (d : Dict α β), (es.map Prod.fst).Nodup → ∀ k,
    (es.foldl (fun d e => d.set e.1 e.2) d).get? k = (es.lookup k).or (d.get? k)
  | [], _, _, _ => rfl
  | (k', v) :: es, d, hes, k => by
    rw [List.map_cons, List.nodup_cons] at hes
    rw [List.foldl_cons, get?_foldl_set _ hes.2, get?_set, lookup_cons_ite]
    by_cases h : k = k'
    · subst h
      have hno : es.lookup k = none := by
        rw [List.lookup_eq_none_iff]
        intro e he
        have hin : e.1 ∈ es.map Prod.fst := List.mem_map_of_mem he
        have hne : e.1 ≠ k := fun heq => hes.1 (heq ▸ hin)
        simpa using hne.symm
      simp [hno]
    · simp [h]

/-- What was updated is found first. -/
theorem get?_update (d e : Dict α β) (k : α) : (d.update e).get? k = (e.get? k).or (d.get? k) :=
  get?_foldl_set d e.nodup k

/-- A filtered dictionary finds a value when it was there and passes the filter. -/
theorem get?_keep (d : Dict α β) (p : α → β → Bool) (k : α) : (d.keep p).get? k = (d.get? k).filter (p k) := by
  apply Option.ext
  intro v
  rw [get?_eq_some_iff, Option.filter_eq_some_iff, get?_eq_some_iff]
  simp [keep]

theorem get?_pop (d : Dict α β) (k k' : α) : (d.pop k).get? k' = if k' = k then none else d.get? k' := by
  rw [pop, get?_keep]
  by_cases h : k' = k
  · subst h; cases d.get? k' <;> simp [Option.filter]
  · cases d.get? k' <;> simp [Option.filter, h]

/-! ## Counting values -/

omit [DecidableEq α] in
/-- How many values pass a test. -/
def tally (p : β → Bool) (d : Dict α β) : ℕ := d.items.countP fun e => p e.2

/-- A value that passes the test, counted. -/
def worth (p : β → Bool) (found : Option β) : ℕ := (found.any p).toNat

theorem countP_setItems (p : β → Bool) (k : α) (v : β) : ∀ es : List (α × β),
    (setItems k v es).countP (fun e => p e.2) + worth p (es.lookup k) = es.countP (fun e => p e.2) + (p v).toNat
  | [] => by cases h : p v <;> simp [setItems, worth, h]
  | (k', v') :: es => by
    by_cases hk : k' = k
    · subst hk
      simp only [setItems, if_true, List.countP_cons, lookup_cons_ite, worth, Option.any_some]
      cases p v <;> cases p v' <;> simp
    · have hk' : k ≠ k' := fun h => hk h.symm
      have ih := countP_setItems p k v es
      simp only [setItems, hk, if_false, List.countP_cons, lookup_cons_ite, hk']
      omega

theorem tally_set (p : β → Bool) (d : Dict α β) (k : α) (v : β) :
    (d.set k v).tally p + worth p (d.get? k) = d.tally p + (p v).toNat := countP_setItems p k v d.items

theorem tally_pop (p : β → Bool) (d : Dict α β) (k : α) : (d.pop k).tally p + worth p (d.get? k) = d.tally p := by
  obtain ⟨es, hes⟩ := d
  simp only [pop, keep, tally, get?]
  induction es with
  | nil => rfl
  | cons e es ih =>
    obtain ⟨k', v⟩ := e
    rw [List.map_cons, List.nodup_cons] at hes
    have ih := ih hes.2
    by_cases hk : k' = k
    · subst hk
      have hno : es.lookup k' = none := by
        rw [List.lookup_eq_none_iff]
        intro e he
        have hin : e.1 ∈ es.map Prod.fst := List.mem_map_of_mem he
        have hne : e.1 ≠ k' := fun heq => hes.1 (heq ▸ hin)
        simpa using hne.symm
      rw [hno] at ih
      simp only [List.filter_cons, ne_eq, not_true_eq_false, decide_false, Bool.false_eq_true, if_false,
        lookup_cons_ite, if_true, List.countP_cons, worth, Option.any_some, Option.any_none, Bool.toNat_false] at ih ⊢
      cases p v <;> simp_all
    · have hk' : k ≠ k' := fun h => hk h.symm
      simp only [List.filter_cons, ne_eq, hk, not_false_eq_true, decide_true, if_true, List.countP_cons,
        lookup_cons_ite, hk', if_false] at ih ⊢
      omega

end Dict

end Py
