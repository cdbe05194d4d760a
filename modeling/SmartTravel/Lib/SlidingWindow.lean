import Mathlib.Algebra.Order.Group.Defs
import Mathlib.Algebra.Order.Group.Unbundled.Basic
import Mathlib.Data.List.Basic
import Mathlib.Data.Int.Order.Basic

/-!
# Sliding windows over a list of times

`recent W now A` are the times of `A` inside the window of width `W` that ends at `now`. A time that has left the window
never comes back (`recent_recent`), so a list pruned now and then shows the same windows as the whole history. `Limited`
lists are those in which every time was added while its own window held fewer than `n`; any half-open interval of width
`W` then holds at most `n` of them (`Limited.within_le`), wherever it starts.
-/

namespace SlidingWindow

variable {τ : Type} [AddCommGroup τ] [LinearOrder τ]

/-- The times after `now - W`. -/
def recent (W now : τ) (A : List τ) : List τ := A.filter (fun t => decide (now - W < t))

@[simp] theorem recent_nil (W now : τ) : recent W now [] = [] := rfl

theorem recent_append (W now : τ) (A B : List τ) : recent W now (A ++ B) = recent W now A ++ recent W now B :=
  List.filter_append ..

theorem recent_eq_nil_iff {W now : τ} {A : List τ} : recent W now A = [] ↔ ∀ t ∈ A, t ≤ now - W := by
  simp [recent, List.filter_eq_nil_iff]

variable [IsOrderedAddMonoid τ]

/-- Pruning at an earlier time does not change a later window. -/
theorem recent_recent {W now now' : τ} (h : now ≤ now') (A : List τ) :
    recent W now' (recent W now A) = recent W now' A := by
  unfold recent
  rw [List.filter_filter]
  apply List.filter_congr
  intro t _
  have hcut : now - W ≤ now' - W := sub_le_sub_right h W
  by_cases ht : now' - W < t
  · simp [ht, lt_of_le_of_lt hcut ht]
  · simp [ht]

/-- A list whose windows are empty now has empty windows later. -/
theorem recent_nil_mono {W now now' : τ} {A : List τ} (h : now ≤ now') (hA : recent W now A = []) :
    recent W now' A = [] := by
  rw [← recent_recent h, hA, recent_nil]

/-- Times each added while its window held fewer than `n` of the earlier ones. -/
inductive Limited (W : τ) (n : ℤ) : List τ → Prop
  | nil : Limited W n []
  | snoc {A : List τ} {t : τ} : Limited W n A → ((recent W t A).length : ℤ) < n → Limited W n (A ++ [t])

/-- How many of the times lie in `(s, s + W]`. -/
def within (W s : τ) (A : List τ) : ℕ := A.countP (fun t => decide (s < t ∧ t ≤ s + W))

/-- All of `(s, s + W]` lies in the window of each of its times. -/
theorem within_le_recent {W s t : τ} (ht : t ≤ s + W) (A : List τ) : within W s A ≤ (recent W t A).length := by
  unfold within recent
  rw [← List.countP_eq_length_filter]
  apply List.countP_mono_left
  intro a _ ha
  rw [decide_eq_true_iff] at ha ⊢
  exact lt_of_le_of_lt (sub_le_iff_le_add.mpr ht) ha.1

/-- **Every interval of the window's width is limited**, not only those that end at an admitted time. -/
theorem Limited.within_le {W : τ} {n : ℤ} {A : List τ} (h : Limited W n A) (s : τ) : (within W s A : ℤ) ≤ max n 0 := by
  induction h with
  | nil => exact le_max_right n 0
  | @snoc A t _ hlt ih =>
    have hsplit : within W s (A ++ [t]) = within W s A + within W s [t] := List.countP_append
    by_cases ht : s < t ∧ t ≤ s + W
    · -- `t` belongs to the interval, so the earlier times of the interval were in its window.
      have hone : within W s [t] = 1 := by simp [within, ht]
      have hle := within_le_recent ht.2 A
      omega
    · have hzero : within W s [t] = 0 := by simpa [within] using fun h => lt_of_not_ge fun h' => ht ⟨h, h'⟩
      omega

end SlidingWindow
