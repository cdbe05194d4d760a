import Mathlib.Data.List.Sort

/-!
# Stable sorting by a key

`sorted key xs` is Python's `sorted(xs, key=...)`: a permutation of the list (`sorted_perm`), in non-decreasing order of
the key (`sorted_pairwise`), with elements of equal keys in the order they came in (`filter_sorted`). `trySorted` is the
same with a key function that may raise (`trySorted_ok`, `trySorted_ok_iff`).
-/

namespace Py

variable {α β : Type} [LinearOrder β]

instance total_key (key : α → β) : Std.Total (fun a b : α => key a ≤ key b) := ⟨fun a b => le_total (key a) (key b)⟩

instance trans_key (key : α → β) : IsTrans α (fun a b => key a ≤ key b) := ⟨fun _ _ _ => le_trans⟩

/-- `sorted(xs, key=key)`. -/
def sorted (key : α → β) (xs : List α) : List α := xs.insertionSort (fun a b => key a ≤ key b)

theorem sorted_perm (key : α → β) (xs : List α) : (sorted key xs).Perm xs := List.perm_insertionSort _ xs

theorem sorted_pairwise (key : α → β) (xs : List α) : (sorted key xs).Pairwise (fun a b => key a ≤ key b) :=
  List.pairwise_insertionSort _ xs

/-- The first of a sorted list is the least. -/
theorem head?_sorted {key : α → β} {xs : List α} {x : α} (h : (sorted key xs).head? = some x) :
    x ∈ xs ∧ ∀ y ∈ xs, key x ≤ key y := by
  obtain ⟨rest, hrest⟩ := List.head?_eq_some_iff.mp h
  have hpair := sorted_pairwise key xs
  have hmem := fun y => (sorted_perm key xs).mem_iff (a := y)
  rw [hrest] at hpair hmem
  refine ⟨(hmem x).mp List.mem_cons_self, fun y hy => ?_⟩
  rcases List.mem_cons.mp ((hmem y).mpr hy) with rfl | hy
  · exact le_rfl
  · exact List.rel_of_pairwise_cons hpair hy

/-- **Stability**: the elements of one key stay in their order. -/
theorem filter_sorted (key : α → β) (xs : List α) (v : β) :
    (sorted key xs).filter (fun x => key x = v) = xs.filter (fun x => key x = v) := by
  -- The elements of key `v` are pairwise related, so they are a sublist of the sorted list in the same order.
  have hpair : (xs.filter (fun x => key x = v)).Pairwise (fun a b => key a ≤ key b) := by
    refine List.Pairwise.imp_of_mem ?_ (List.pairwise_of_forall (R := fun _ _ => True) fun _ _ => trivial)
    intro a b ha hb _
    have hka : key a = v := by simpa using (List.mem_filter.mp ha).2
    have hkb : key b = v := by simpa using (List.mem_filter.mp hb).2
    rw [hka, hkb]
  have hsub : (xs.filter (fun x => key x = v)).Sublist (sorted key xs) :=
    List.sublist_insertionSort hpair List.filter_sublist
  have hsub' := hsub.filter (fun x => key x = v)
  rw [List.filter_filter] at hsub'
  simp only [Bool.and_self] at hsub'
  exact (hsub'.eq_of_length ((sorted_perm key xs).filter _).length_eq.symm).symm

/-! ## Sorting by a key of a value -/

section
variable {γ : Type} (f : γ → β) (g : α → γ)

/-- The values of one key come in their order. -/
theorem filter_map_sorted (xs : List α) (v : β) :
    ((sorted (fun x => f (g x)) xs).map g).filter (fun a => f a = v) = (xs.map g).filter (fun a => f a = v) := by
  have hfilter := filter_sorted (fun x => f (g x)) xs v
  rw [List.filter_map, List.filter_map]
  exact congrArg (List.map g) hfilter

/-- When the key tells the values apart, their order does not depend on the order of the list. -/
theorem map_sorted_eq {xs ys : List α} (hperm : (ys.map g).Perm (xs.map g))
    (hinj : ∀ a ∈ xs.map g, ∀ b ∈ xs.map g, f a = f b → a = b) :
    (sorted (fun x => f (g x)) ys).map g = (sorted (fun x => f (g x)) xs).map g := by
  have hys : ((sorted (fun x => f (g x)) ys).map g).Perm (ys.map g) := (sorted_perm _ ys).map g
  have hxs : ((sorted (fun x => f (g x)) xs).map g).Perm (xs.map g) := (sorted_perm _ xs).map g
  have hordered : ∀ zs : List α, ((sorted (fun x => f (g x)) zs).map g).Pairwise (fun a b => f a ≤ f b) := fun zs =>
    List.pairwise_map.mpr (sorted_pairwise _ zs)
  refine List.Perm.eq_of_pairwise ?_ (hordered ys) (hordered xs) ((hys.trans hperm).trans hxs.symm)
  intro a b ha hb hab hba
  exact hinj a ((hys.trans hperm).mem_iff.mp ha) b (hxs.mem_iff.mp hb) (le_antisymm hab hba)

end

/-! ## Keys that may raise -/

section
variable {ε : Type}

/-- Every element with its key, or the first exception. -/
def withKeys (key : α → Except ε β) : List α → Except ε (List (β × α))
  | [] => .ok []
  | x :: xs =>
    match key x, withKeys key xs with
    | .error e, _ => .error e
    | .ok _, .error e => .error e
    | .ok k, .ok rest => .ok ((k, x) :: rest)

/-- `sorted` computes all keys before it compares any. -/
def trySorted (key : α → Except ε β) (xs : List α) : Except ε (List α) :=
  (withKeys key xs).map fun keyed => (sorted Prod.fst keyed).map Prod.snd

omit [LinearOrder β] in
theorem withKeys_ok {key : α → Except ε β} {k : α → β} : ∀ {xs : List α}, (∀ x ∈ xs, key x = .ok (k x)) →
    withKeys key xs = .ok (xs.map fun x => (k x, x))
  | [], _ => rfl
  | x :: xs, h => by
    have ih := withKeys_ok (fun y hy => h y (List.mem_cons_of_mem _ hy))
    simp only [withKeys, h x List.mem_cons_self, ih, List.map_cons]

/-- When no key raises, the sort is the sort by the keys. -/
theorem trySorted_ok {key : α → Except ε β} {k : α → β} {xs : List α} (h : ∀ x ∈ xs, key x = .ok (k x)) :
    trySorted key xs = .ok (sorted k xs) := by
  have hmap : (xs.map fun x => (k x, x)).map Prod.snd = xs := by
    rw [List.map_map]
    exact List.map_id'' (fun _ => rfl) xs
  have hcompare : ∀ p ∈ xs.map (fun x => (k x, x)), ∀ q ∈ xs.map (fun x => (k x, x)),
      p.1 ≤ q.1 ↔ k p.2 ≤ k q.2 := by
    intro p hp q hq
    obtain ⟨x, -, rfl⟩ := List.mem_map.mp hp
    obtain ⟨y, -, rfl⟩ := List.mem_map.mp hq
    exact Iff.rfl
  have hsort := List.map_insertionSort (fun p q : β × α => p.1 ≤ q.1) (fun x y => k x ≤ k y) Prod.snd _ hcompare
  rw [hmap] at hsort
  rw [trySorted, withKeys_ok h]
  exact congrArg Except.ok hsort

omit [LinearOrder β] in
theorem map_snd_withKeys {key : α → Except ε β} : ∀ {xs : List α} {keyed : List (β × α)},
    withKeys key xs = .ok keyed → keyed.map Prod.snd = xs
  | [], _, h => by cases h; rfl
  | x :: xs, keyed, h => by
    simp only [withKeys] at h
    split at h
    · cases h
    · cases h
    · rename_i hrest
      cases h
      rw [List.map_cons, map_snd_withKeys hrest]

omit [LinearOrder β] in
/-- An exception comes from a key. -/
theorem withKeys_error {key : α → Except ε β} {e : ε} : ∀ {xs : List α}, withKeys key xs = .error e →
    ∃ x ∈ xs, key x = .error e
  | [], h => by cases h
  | x :: xs, h => by
    simp only [withKeys] at h
    split at h
    · rename_i hx
      cases h
      exact ⟨x, List.mem_cons_self, hx⟩
    · rename_i hxs
      cases h
      obtain ⟨y, hy, hkey⟩ := withKeys_error hxs
      exact ⟨y, List.mem_cons_of_mem _ hy, hkey⟩
    · cases h

omit [LinearOrder β] in
theorem withKeys_ok_iff {key : α → Except ε β} : ∀ {xs : List α},
    (∃ keyed, withKeys key xs = .ok keyed) ↔ ∀ x ∈ xs, ∃ k, key x = .ok k
  | [] => by simp [withKeys]
  | x :: xs => by
    rw [List.forall_mem_cons, ← withKeys_ok_iff]
    cases hx : key x with
    | error e => simp [withKeys, hx]
    | ok k =>
      cases hxs : withKeys key xs with
      | error e => simp [withKeys, hx, hxs]
      | ok rest => simp [withKeys, hx, hxs]

/-- A sort returns exactly when no key raises. -/
theorem trySorted_ok_iff {key : α → Except ε β} {xs : List α} :
    (∃ ys, trySorted key xs = .ok ys) ↔ ∀ x ∈ xs, ∃ k, key x = .ok k := by
  rw [← withKeys_ok_iff]
  unfold trySorted
  cases withKeys key xs with
  | error e => simp [Except.map]
  | ok keyed => simp [Except.map]

/-- When a key raises, and all that raise do so alike, the sort does too. -/
theorem trySorted_error {key : α → Except ε β} {e : ε} {xs : List α} (hsome : ∃ x ∈ xs, key x = .error e)
    (hall : ∀ x ∈ xs, ∀ e', key x = .error e' → e' = e) : trySorted key xs = .error e := by
  unfold trySorted
  cases hkeyed : withKeys key xs with
  | error e' =>
    obtain ⟨x, hx, hkey⟩ := withKeys_error hkeyed
    rw [hall x hx e' hkey]
    rfl
  | ok keyed =>
    obtain ⟨x, hx, hkey⟩ := hsome
    obtain ⟨k, hk⟩ := withKeys_ok_iff.mp ⟨keyed, hkeyed⟩ x hx
    rw [hkey] at hk
    cases hk

/-- A sort that succeeds permutes. -/
theorem trySorted_perm {key : α → Except ε β} {xs ys : List α} (h : trySorted key xs = .ok ys) : ys.Perm xs := by
  unfold trySorted at h
  cases hkeyed : withKeys key xs with
  | error e => rw [hkeyed] at h; cases h
  | ok keyed =>
    rw [hkeyed] at h
    cases h
    have hperm := (sorted_perm Prod.fst keyed).map Prod.snd
    rwa [map_snd_withKeys hkeyed] at hperm

end

end Py
