import Mathlib.Data.List.MinMax
import Mathlib.Data.List.Perm.Subperm
import SmartTravel.Lib.Dict

/-!
# The best element of each key

A loop over a list that keeps, in a dictionary, the element of least amount seen so far for each key. The entry of a key
is the first element of least amount among those with that key (`get?_best`), so the values of the dictionary are
exactly these elements (`mem_bestPerKey`, `mem_bestPerKey_iff`), one for each key (`nodup_keys_bestPerKey`) in the order
of their first occurrence (`map_key_bestPerKey_eq`). In another order of the list the keys get the same amounts
(`pairs_perm`).
-/

namespace Py

variable {α κ : Type} [DecidableEq κ] (key : α → κ) (amount : α → ℕ)

/-- One round of the loop: take the element if its key is new or it is strictly better. -/
def better (best : Dict κ α) (x : α) : Dict κ α :=
  match best.get? (key x) with
  | none => best.set (key x) x
  | some existing => if amount x < amount existing then best.set (key x) x else best

/-- The dictionary after the loop. -/
def best (xs : List α) : Dict κ α := xs.foldl (better key amount) Dict.empty

/-- The values of the dictionary, in the order in which the keys first occurred. -/
def bestPerKey (xs : List α) : List α := (best key amount xs).values

/-- The elements of one key. -/
def ofKey (k : κ) (xs : List α) : List α := xs.filter (fun x => key x = k)

/-- The first of the elements of a key that have the least amount. -/
def firstBest (k : κ) (xs : List α) : Option α := (ofKey key k xs).argmin amount

theorem firstBest_snoc (k : κ) (xs : List α) (x : α) :
    firstBest key amount k (xs ++ [x]) =
      if key x = k then
        match firstBest key amount k xs with
        | none => some x
        | some y => if amount x < amount y then some x else some y
      else firstBest key amount k xs := by
  by_cases h : key x = k
  · simp only [firstBest, ofKey, List.filter_append, h, List.filter_cons, decide_true, if_true, List.filter_nil,
      List.argmin_concat]
    cases List.argmin amount (List.filter (fun x => decide (key x = k)) xs) <;> rfl
  · simp [firstBest, ofKey, h]

/-- One round of the loop changes the entry of the element's key only. -/
theorem get?_better (d : Dict κ α) (x : α) (k : κ) :
    (better key amount d x).get? k =
      if key x = k then
        match d.get? k with
        | none => some x
        | some y => if amount x < amount y then some x else some y
      else d.get? k := by
  unfold better
  by_cases h : key x = k
  · subst h
    cases hd : d.get? (key x) with
    | none => simp
    | some y =>
      by_cases hlt : amount x < amount y
      · simp [hlt]
      · simp [hlt, hd]
  · have h' : k ≠ key x := fun e => h e.symm
    cases hd : d.get? (key x) with
    | none => simp only [Dict.get?_set_of_ne _ _ h', h, if_false]
    | some y =>
      simp only [h, if_false]
      split
      · exact Dict.get?_set_of_ne _ _ h'
      · rfl

/-- **The loop's invariant**: the entry of a key is its first best element. -/
theorem get?_best (xs : List α) (k : κ) : (best key amount xs).get? k = firstBest key amount k xs := by
  induction xs using List.reverseRecOn with
  | nil => rfl
  | append_singleton xs x ih =>
    rw [firstBest_snoc, ← ih, ← get?_better, best, best, List.foldl_append]
    rfl

variable {key amount}

theorem firstBest_mem {k : κ} {xs : List α} {x : α} (h : firstBest key amount k xs = some x) : x ∈ xs ∧ key x = k := by
  have hm := List.argmin_mem h
  simpa [ofKey] using hm

theorem firstBest_le {k : κ} {xs : List α} {x y : α} (h : firstBest key amount k xs = some x) (hy : y ∈ xs)
    (hk : key y = k) : amount x ≤ amount y := by
  have hm : y ∈ ofKey key k xs := by simpa [ofKey] using ⟨hy, hk⟩
  exact List.le_of_mem_argmin hm h

variable (key amount) in
/-- No element of its key is better, and those before it are worse. -/
def FirstBest (xs : List α) (x : α) : Prop :=
  ∃ before after, xs = before ++ x :: after ∧ (∀ y ∈ before, key y = key x → amount x < amount y) ∧
    ∀ y ∈ after, key y = key x → amount x ≤ amount y

theorem firstBest_eq_none_iff {k : κ} {xs : List α} : firstBest key amount k xs = none ↔ ∀ y ∈ xs, key y ≠ k := by
  rw [firstBest, List.argmin_eq_none, ofKey, List.filter_eq_nil_iff]
  simp

/-- What is chosen for a key is the first best of its elements. -/
theorem FirstBest.of_firstBest {k : κ} {xs : List α} {x : α} (h : firstBest key amount k xs = some x) :
    FirstBest key amount xs x := by
  induction xs using List.reverseRecOn generalizing x with
  | nil => cases h
  | append_singleton xs z ih =>
    have hx := (firstBest_mem h).2
    rw [firstBest_snoc] at h
    split at h
    · rename_i hz
      cases hbest : firstBest key amount k xs with
      | none =>
        rw [hbest] at h
        cases h
        rw [firstBest_eq_none_iff] at hbest
        exact ⟨xs, [], rfl, fun y hy hk => absurd (hk.trans hz) (hbest y hy), by simp⟩
      | some y =>
        simp only [hbest] at h
        split at h
        · rename_i hlt
          cases h
          exact ⟨xs, [], rfl, fun y' hy' hk => hlt.trans_le (firstBest_le hbest hy' (hk.trans hz)), by simp⟩
        · rename_i hle
          cases h
          obtain ⟨before, after, rfl, hbefore, hafter⟩ := ih hbest
          refine ⟨before, after ++ [z], by simp, hbefore, fun y' hy' hk => ?_⟩
          rcases List.mem_append.mp hy' with hy' | hy'
          · exact hafter y' hy' hk
          · rw [List.mem_singleton.mp hy']
            exact not_lt.mp hle
    · rename_i hz
      obtain ⟨before, after, rfl, hbefore, hafter⟩ := ih h
      refine ⟨before, after ++ [z], by simp, hbefore, fun y' hy' hk => ?_⟩
      rcases List.mem_append.mp hy' with hy' | hy'
      · exact hafter y' hy' hk
      · rw [List.mem_singleton.mp hy', hx] at hk
        exact absurd hk hz

/-- There is one first best element of a key. -/
theorem FirstBest.firstBest {xs : List α} {x : α} (h : FirstBest key amount xs x) :
    Py.firstBest key amount (key x) xs = some x := by
  induction xs using List.reverseRecOn with
  | nil =>
    obtain ⟨before, after, heq, -⟩ := h
    simp at heq
  | append_singleton xs z ih =>
    obtain ⟨before, after, heq, hbefore, hafter⟩ := h
    rw [firstBest_snoc]
    rcases List.eq_nil_or_concat after with rfl | ⟨after, w, rfl⟩
    · obtain ⟨rfl, hz⟩ := List.append_inj' heq rfl
      rw [List.cons.injEq] at hz
      rw [hz.1, if_pos rfl]
      cases hbest : Py.firstBest key amount (key x) xs with
      | none => rfl
      | some y =>
        obtain ⟨hy, hk⟩ := firstBest_mem hbest
        simp only [if_pos (hbefore y hy hk)]
    · rw [List.concat_eq_append, ← List.cons_append, ← List.append_assoc] at heq
      obtain ⟨rfl, hz⟩ := List.append_inj' heq rfl
      have hbest := ih ⟨before, after, rfl, hbefore, fun y hy => hafter y (by simp [hy])⟩
      rw [hbest]
      split
      · rename_i hk
        have hle : amount x ≤ amount z := by
          rw [List.singleton_inj.mp hz] at hk ⊢
          exact hafter w (by simp) hk
        simp only [if_neg (not_lt.mpr hle)]
      · rfl

/-- An item of the dictionary is stored under its own key. -/
theorem key_of_mem_items {xs : List α} {k : κ} {y : α} (h : (k, y) ∈ (best key amount xs).items) : key y = k := by
  have hget := Dict.get?_eq_some_iff.mpr h
  rw [get?_best] at hget
  exact (firstBest_mem hget).2

/-- **The kept elements** are the first best elements of their own keys. -/
theorem mem_bestPerKey {xs : List α} {x : α} :
    x ∈ bestPerKey key amount xs ↔ firstBest key amount (key x) xs = some x := by
  rw [← get?_best, Dict.get?_eq_some_iff, bestPerKey, Dict.values, List.mem_map]
  constructor
  · rintro ⟨⟨k, y⟩, hmem, rfl⟩
    exact (key_of_mem_items hmem) ▸ hmem
  · intro h
    exact ⟨_, h, rfl⟩

/-- The kept elements, in terms of the list alone. -/
theorem mem_bestPerKey_iff {xs : List α} {x : α} : x ∈ bestPerKey key amount xs ↔ FirstBest key amount xs x :=
  ⟨fun h => .of_firstBest (mem_bestPerKey.mp h), fun h => mem_bestPerKey.mpr h.firstBest⟩

/-- An element that is not kept gave way to one of its key that is at least as good. -/
theorem exists_mem_bestPerKey {xs : List α} {x : α} (hx : x ∈ xs) :
    ∃ y ∈ bestPerKey key amount xs, key y = key x ∧ amount y ≤ amount x := by
  cases hkept : firstBest key amount (key x) xs with
  | none => exact absurd rfl (firstBest_eq_none_iff.mp hkept x hx)
  | some y =>
    have hkey := (firstBest_mem hkept).2
    exact ⟨y, mem_bestPerKey.mpr (hkey ▸ hkept), hkey, firstBest_le hkept hx rfl⟩

theorem map_key_bestPerKey (xs : List α) : (bestPerKey key amount xs).map key = (best key amount xs).keys := by
  rw [bestPerKey, Dict.values, Dict.keys, List.map_map]
  apply List.map_congr_left
  rintro ⟨k, y⟩ hmem
  show key y = k
  exact key_of_mem_items hmem

/-- One element is kept per key. -/
theorem nodup_keys_bestPerKey (xs : List α) : ((bestPerKey key amount xs).map key).Nodup := by
  rw [map_key_bestPerKey]
  exact (best key amount xs).nodup

/-! ## The order of the keys, and other orders of the list -/

theorem keys_better (d : Dict κ α) (x : α) :
    (better key amount d x).keys = if key x ∈ d.keys then d.keys else d.keys ++ [key x] := by
  have hset : (d.set (key x) x).keys = if key x ∈ d.keys then d.keys else d.keys ++ [key x] :=
    Dict.keys_setItems (key x) x d.items
  unfold better
  cases hget : d.get? (key x) with
  | none => exact hset
  | some y =>
    have hmem : key x ∈ d.keys := List.mem_map_of_mem (f := Prod.fst) (Dict.get?_eq_some_iff.mp hget)
    rw [if_pos hmem] at hset ⊢
    by_cases hlt : amount x < amount y
    · simp only [if_pos hlt, hset]
    · simp only [if_neg hlt]

theorem best_snoc (xs : List α) (x : α) : best key amount (xs ++ [x]) = better key amount (best key amount xs) x := by
  simp [best, List.foldl_append]

theorem eraseDups_snoc (ks : List κ) (k : κ) :
    (ks ++ [k]).eraseDups = if k ∈ ks then ks.eraseDups else ks.eraseDups ++ [k] := by
  rw [List.eraseDups_append, List.removeAll]
  by_cases hmem : k ∈ ks
  · have hfilter : [k].filter (fun b => !ks.elem b) = [] := by simp [hmem]
    rw [hfilter, if_pos hmem, List.eraseDups_nil, List.append_nil]
  · have hfilter : [k].filter (fun b => !ks.elem b) = [k] := by simp [hmem]
    rw [hfilter, if_neg hmem]
    rfl

/-- The keys come in the order of their first occurrence. -/
theorem map_key_bestPerKey_eq (xs : List α) : (bestPerKey key amount xs).map key = (xs.map key).eraseDups := by
  rw [map_key_bestPerKey]
  induction xs using List.reverseRecOn with
  | nil => rfl
  | append_singleton xs x ih =>
    rw [best_snoc, keys_better, ih, List.map_append, List.map_singleton, eraseDups_snoc]
    simp only [List.mem_eraseDups]

/-- A list with one element per key is kept as it is. -/
theorem bestPerKey_of_nodup {xs : List α} (h : (xs.map key).Nodup) : bestPerKey key amount xs = xs := by
  have hitems : (best key amount xs).items = xs.map fun x => (key x, x) := by
    induction xs using List.reverseRecOn with
    | nil => rfl
    | append_singleton xs x ih =>
      rw [List.map_append, List.nodup_append] at h
      have ih := ih h.1
      have hkeys : (best key amount xs).items.map Prod.fst = xs.map key := by
        rw [ih, List.map_map]
        rfl
      have hnew : key x ∉ (best key amount xs).items.map Prod.fst := by
        rw [hkeys]
        exact fun hmem => h.2.2 _ hmem (key x) (by simp) rfl
      have hget : (best key amount xs).get? (key x) = none := by
        rw [Option.eq_none_iff_forall_ne_some]
        intro y hy
        exact hnew (List.mem_map_of_mem (f := Prod.fst) (Dict.get?_eq_some_iff.mp hy))
      rw [best_snoc, better, hget]
      show Dict.setItems (key x) x (best key amount xs).items = _
      rw [Dict.setItems_of_notMem x hnew, ih, List.map_append]
      rfl
  rw [bestPerKey, Dict.values, hitems, List.map_map]
  exact List.map_id'' (fun _ => rfl) xs

/-- Choosing again changes nothing. -/
theorem bestPerKey_idem (xs : List α) :
    bestPerKey key amount (bestPerKey key amount xs) = bestPerKey key amount xs :=
  bestPerKey_of_nodup (nodup_keys_bestPerKey xs)

/-- A key is paired with the least amount among its elements. -/
theorem mem_pairs_iff {xs : List α} {k : κ} {a : ℕ} :
    (k, a) ∈ (bestPerKey key amount xs).map (fun x => (key x, amount x)) ↔
      (∃ x ∈ xs, key x = k ∧ amount x = a) ∧ ∀ y ∈ xs, key y = k → a ≤ amount y := by
  simp only [List.mem_map, Prod.mk.injEq, mem_bestPerKey]
  constructor
  · rintro ⟨x, hx, rfl, rfl⟩
    exact ⟨⟨x, (firstBest_mem hx).1, rfl, rfl⟩, fun y hy hk => firstBest_le hx hy hk⟩
  · rintro ⟨⟨x, hx, rfl, rfl⟩, hleast⟩
    cases hbest : firstBest key amount (key x) xs with
    | none => exact absurd rfl (firstBest_eq_none_iff.mp hbest x hx)
    | some z =>
      obtain ⟨hz, hk⟩ := firstBest_mem hbest
      exact ⟨z, hk ▸ hbest, hk, Nat.le_antisymm (firstBest_le hbest hx rfl) (hleast z hz hk)⟩

/-- **Other orders of the list** keep the same pairs of keys and amounts. -/
theorem pairs_perm {xs ys : List α} (h : ys.Perm xs) :
    ((bestPerKey key amount ys).map fun x => (key x, amount x)).Perm
      ((bestPerKey key amount xs).map fun x => (key x, amount x)) := by
  have hnodup : ∀ zs : List α, ((bestPerKey key amount zs).map fun x => (key x, amount x)).Nodup := by
    intro zs
    have hkeys := @nodup_keys_bestPerKey α κ _ key amount zs
    refine List.Nodup.of_map Prod.fst ?_
    rwa [List.map_map]
  rw [List.perm_ext_iff_of_nodup (hnodup ys) (hnodup xs)]
  rintro ⟨k, a⟩
  simp only [mem_pairs_iff, h.mem_iff]

theorem amounts_perm {xs ys : List α} (h : ys.Perm xs) :
    ((bestPerKey key amount ys).map amount).Perm ((bestPerKey key amount xs).map amount) := by
  have hpairs := (@pairs_perm α κ _ key amount xs ys h).map Prod.snd
  rw [List.map_map, List.map_map] at hpairs
  exact hpairs

/-- Any key can be made the first one. -/
theorem exists_perm_first {xs : List α} {b : α} (hb : b ∈ bestPerKey key amount xs) :
    ∃ ys, ys.Perm xs ∧ ∃ b' rest, bestPerKey key amount ys = b' :: rest ∧ key b' = key b ∧ amount b' = amount b := by
  have hbest := mem_bestPerKey.mp hb
  obtain ⟨before, after, hsplit⟩ := List.append_of_mem (firstBest_mem hbest).1
  have hperm : (b :: (before ++ after)).Perm xs := hsplit ▸ List.perm_middle.symm
  refine ⟨b :: (before ++ after), hperm, ?_⟩
  have hkeys : (bestPerKey key amount (b :: (before ++ after))).map key =
      ((b :: (before ++ after)).map key).eraseDups := map_key_bestPerKey_eq _
  rw [List.map_cons, List.eraseDups_cons] at hkeys
  cases hbest' : bestPerKey key amount (b :: (before ++ after)) with
  | nil =>
    rw [hbest'] at hkeys
    cases hkeys
  | cons b' rest =>
    rw [hbest', List.map_cons, List.cons.injEq] at hkeys
    have hmem : b' ∈ bestPerKey key amount (b :: (before ++ after)) := hbest' ▸ List.mem_cons_self
    have hfirst := mem_bestPerKey.mp hmem
    refine ⟨b', rest, rfl, hkeys.1, Nat.le_antisymm ?_ ?_⟩
    · exact firstBest_le hfirst List.mem_cons_self hkeys.1.symm
    · exact firstBest_le hbest (hperm.mem_iff.mp (firstBest_mem hfirst).1) hkeys.1

theorem length_bestPerKey_le (xs : List α) : (bestPerKey key amount xs).length ≤ xs.length := by
  have hnodup : (bestPerKey key amount xs).Nodup := (nodup_keys_bestPerKey xs).of_map
  have hsub : bestPerKey key amount xs ⊆ xs := fun x hx => (firstBest_mem (mem_bestPerKey.mp hx)).1
  exact (List.subperm_of_subset hnodup hsub).length_le

end Py
