import Mathlib.Algebra.Order.Group.Defs
import Mathlib.Algebra.Order.Group.Unbundled.Basic
import Mathlib.Data.List.Induction

/-!
# Fixed windows over a list of times

A time opens a window of width `W` unless it lies in the newest one, which then counts it. `windows W A` are the windows
of the times `A`, newest first, and `admitted n` keeps the first `n` times of each of them.

Windows are `Separated` (`windows_separated`): each holds its times, and the next one opens when it has ended or later.
So an interval of width `W`, wherever it starts, meets at most two of them and holds at most `2 * n` admitted times
(`Separated.admitted_le`).
-/

namespace FixedWindow

/-- When a window opened, and the times counted in it in their order. -/
structure Window (τ : Type) where
  start : τ
  hits : List τ

variable {τ : Type} [AddCommGroup τ] [LinearOrder τ]

/-- Count a time, in the newest window if that is still open. -/
def hit (W t : τ) : List (Window τ) → List (Window τ)
  | [] => [⟨t, [t]⟩]
  | w :: ws => if t < w.start + W then ⟨w.start, w.hits ++ [t]⟩ :: ws else ⟨t, [t]⟩ :: w :: ws

/-- The windows of the times, newest first. -/
def windows (W : τ) (A : List τ) : List (Window τ) := A.foldl (fun ws t => hit W t ws) []

/-- The place that the time gets in its window. -/
def place (W t : τ) : List (Window τ) → ℕ
  | [] => 1
  | w :: _ => if t < w.start + W then w.hits.length + 1 else 1

/-- The first `n` times of every window. -/
def admitted (n : ℕ) (ws : List (Window τ)) : List τ := ws.reverse.flatMap (·.hits.take n)

@[simp] theorem windows_nil (W : τ) : windows W [] = [] := rfl

theorem windows_snoc (W : τ) (A : List τ) (t : τ) : windows W (A ++ [t]) = hit W t (windows W A) := by
  simp only [windows, List.foldl_append, List.foldl_cons, List.foldl_nil]

omit [AddCommGroup τ] [LinearOrder τ] in
theorem admitted_cons (n : ℕ) (w : Window τ) (ws : List (Window τ)) :
    admitted n (w :: ws) = admitted n ws ++ w.hits.take n := by
  simp [admitted, List.flatMap_append]

/-- A time is admitted when its place is. -/
theorem admitted_hit (n : ℕ) (W t : τ) (ws : List (Window τ)) :
    admitted n (hit W t ws) = admitted n ws ++ (if place W t ws ≤ n then [t] else []) := by
  have hone : [t].take n = if 1 ≤ n then [t] else [] := by
    cases n with
    | zero => rfl
    | succ n => simp
  cases ws with
  | nil =>
    rw [hit, place, ← hone]
    simp [admitted]
  | cons w ws =>
    simp only [hit, place]
    split
    · rw [admitted_cons, admitted_cons, List.append_assoc, List.take_append]
      congr 2
      by_cases hle : w.hits.length + 1 ≤ n
      · rw [if_pos hle, List.take_of_length_le]
        simp only [List.length_singleton]
        omega
      · rw [if_neg hle, Nat.sub_eq_zero_of_le (by omega), List.take_zero]
    · rw [admitted_cons, hone]

/-- Every window holds its own times, and a newer one opens after the end of an older one. -/
structure Separated (W : τ) (ws : List (Window τ)) : Prop where
  spaced : ws.Pairwise fun w v => v.start + W ≤ w.start
  inside : ∀ w ∈ ws, ∀ t ∈ w.hits, w.start ≤ t ∧ t < w.start + W

theorem Separated.tail {W : τ} {w : Window τ} {ws : List (Window τ)} (h : Separated W (w :: ws)) : Separated W ws :=
  ⟨(List.pairwise_cons.mp h.spaced).2, fun v hv => h.inside v (List.mem_cons_of_mem _ hv)⟩

variable [IsOrderedAddMonoid τ]

/-- Counting a time that is not before the windows keeps them separated. -/
theorem Separated.hit {W t : τ} {ws : List (Window τ)} (h : Separated W ws) (hW : 0 < W)
    (ht : ∀ w ∈ ws, w.start ≤ t) : Separated W (hit W t ws) := by
  have hself : ∀ u ∈ [t], t ≤ u ∧ u < t + W := by
    intro u hu
    rw [List.mem_singleton.mp hu]
    exact ⟨le_rfl, lt_add_of_pos_right t hW⟩
  cases ws with
  | nil => exact ⟨List.pairwise_singleton _ _, fun w hw => List.mem_singleton.mp hw ▸ hself⟩
  | cons w ws =>
    obtain ⟨hnew, hold⟩ := List.pairwise_cons.mp h.spaced
    simp only [FixedWindow.hit]
    split
    · rename_i hopen
      refine ⟨List.pairwise_cons.mpr ⟨hnew, hold⟩, fun v hv u hu => ?_⟩
      rcases List.mem_cons.mp hv with rfl | hv
      · rcases List.mem_append.mp hu with hu | hu
        · exact h.inside w List.mem_cons_self u hu
        · rw [List.mem_singleton.mp hu]
          exact ⟨ht w List.mem_cons_self, hopen⟩
      · exact h.inside v (List.mem_cons_of_mem _ hv) u hu
    · rename_i hclosed
      refine ⟨List.pairwise_cons.mpr ⟨fun v hv => ?_, h.spaced⟩, fun v hv => ?_⟩
      · rcases List.mem_cons.mp hv with rfl | hv
        · exact not_lt.mp hclosed
        · exact (hnew v hv).trans (ht w List.mem_cons_self)
      · rcases List.mem_cons.mp hv with rfl | hv
        · exact hself
        · exact h.inside v hv

omit [IsOrderedAddMonoid τ] in
/-- Windows open at times of the list. -/
theorem start_mem {W : τ} {A : List τ} : ∀ w ∈ windows W A, w.start ∈ A := by
  induction A using List.reverseRecOn with
  | nil => intro w hw; cases hw
  | append_singleton A t ih =>
    intro w hw
    rw [windows_snoc] at hw
    have hnew : t ∈ A ++ [t] := List.mem_append_right _ (List.mem_singleton_self t)
    cases hws : windows W A with
    | nil =>
      rw [hws] at hw
      rw [List.mem_singleton.mp hw]
      exact hnew
    | cons v vs =>
      rw [hws] at ih hw
      simp only [hit] at hw
      split at hw
      · rcases List.mem_cons.mp hw with rfl | hw
        · exact List.mem_append_left _ (ih v List.mem_cons_self)
        · exact List.mem_append_left _ (ih w (List.mem_cons_of_mem _ hw))
      · rcases List.mem_cons.mp hw with rfl | hw
        · exact hnew
        · exact List.mem_append_left _ (ih w hw)

/-- The windows of times in order are separated. -/
theorem windows_separated {W : τ} (hW : 0 < W) {A : List τ} (hA : A.Pairwise (· ≤ ·)) : Separated W (windows W A) := by
  induction A using List.reverseRecOn with
  | nil => exact ⟨List.Pairwise.nil, fun w hw => by cases hw⟩
  | append_singleton A t ih =>
    obtain ⟨hinit, -, hle⟩ := List.pairwise_append.mp hA
    rw [windows_snoc]
    exact (ih hinit).hit hW fun w hw => hle _ (start_mem w hw) t (List.mem_singleton_self t)

/-- How many of the times lie in `[s, s + W]`. -/
def between (W s : τ) (A : List τ) : ℕ := A.countP fun t => decide (s ≤ t ∧ t ≤ s + W)

omit [IsOrderedAddMonoid τ] in
theorem between_append (W s : τ) (A B : List τ) : between W s (A ++ B) = between W s A + between W s B :=
  List.countP_append

omit [IsOrderedAddMonoid τ] in
theorem between_eq_zero {W s : τ} {A : List τ} (h : ∀ t ∈ A, s ≤ t → s + W < t) : between W s A = 0 := by
  rw [between, List.countP_eq_zero]
  intro t ht
  simp only [decide_eq_true_eq, not_and, not_le]
  exact h t ht

omit [IsOrderedAddMonoid τ] in
/-- A window admits at most `n` times. -/
theorem between_take_le (W s : τ) (n : ℕ) (A : List τ) : between W s (A.take n) ≤ n :=
  List.countP_le_length.trans (List.length_take_le n A)

omit [IsOrderedAddMonoid τ] in
/-- Windows that ended by `s` hold nothing of an interval from `s` on. -/
theorem Separated.between_admitted_eq_zero {W s : τ} {n : ℕ} : ∀ {ws : List (Window τ)}, Separated W ws →
    (∀ w ∈ ws, w.start + W ≤ s) → between W s (admitted n ws) = 0
  | [], _, _ => rfl
  | w :: ws, h, hended => by
    have ih := h.tail.between_admitted_eq_zero (n := n) fun v hv => hended v (List.mem_cons_of_mem _ hv)
    rw [admitted_cons, between_append, ih, Nat.zero_add]
    refine between_eq_zero fun t ht hst => ?_
    have hend := (h.inside w List.mem_cons_self t (List.mem_of_mem_take ht)).2
    exact absurd hst (not_le.mpr (hend.trans_le (hended w List.mem_cons_self)))

/-- **Any interval of width `W`** holds at most `2 * n` of the admitted times. -/
theorem Separated.admitted_le {W : τ} (n : ℕ) (s : τ) : ∀ {ws : List (Window τ)}, Separated W ws →
    between W s (admitted n ws) ≤ 2 * n
  | [], _ => Nat.zero_le _
  | w :: ws, h => by
    rw [admitted_cons, between_append]
    have hnew := between_take_le W s n w.hits
    by_cases hmeets : w.start ≤ s + W
    · -- The newest window starts in the interval or before it, so only one older window reaches into it.
      cases ws with
      | nil =>
        have hnone : between W s (admitted n []) = 0 := rfl
        omega
      | cons v vs =>
        obtain ⟨hv, -⟩ := List.pairwise_cons.mp h.tail.spaced
        have hvw := (List.pairwise_cons.mp h.spaced).1 v List.mem_cons_self
        have hvs : ∀ u ∈ vs, u.start + W ≤ s := by
          intro u hu
          have hle : v.start + W ≤ s + W := hvw.trans hmeets
          exact (hv u hu).trans (le_of_add_le_add_right hle)
        have hzero := h.tail.tail.between_admitted_eq_zero (n := n) hvs
        have hold := between_take_le W s n v.hits
        rw [admitted_cons, between_append, hzero]
        omega
    · have hzero : between W s (w.hits.take n) = 0 := by
        refine between_eq_zero fun t ht _ => ?_
        exact (not_le.mp hmeets).trans_le (h.inside w List.mem_cons_self t (List.mem_of_mem_take ht)).1
      have ih := h.tail.admitted_le n s
      omega

end FixedWindow
