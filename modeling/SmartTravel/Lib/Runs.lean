import Mathlib.Algebra.Ring.Nat
import Mathlib.Data.List.Induction

/-!
# Runs of a machine that answers its inputs

A `Machine` takes an input, moves to a new state and answers. `run` is the state after a list of inputs, `log` the list
of inputs with their answers, `count` the number of inputs that pass a test in the state they meet, `total` the sum of a
quantity; they compose along `++` (`run_append`, `log_append`, `count_append`), and `balance` sums up what single inputs
add and take. `Enabled` restricts a run to inputs that the state they meet allows.
`run_invariant` and `run_rule` are the inductions by which invariants are proved: of the state alone, when every allowed
input keeps it; of the log and the state, when it holds at the start and one more input keeps it. `log_filter_view` is
the rule for a party that sees a part of the state only, `log_eq_of_clocked` the one for two machines that agree on what
can still matter at the time, `bisim_of_clocked` the same for some inputs only, `log_filter_of_clocked` the one where
the second machine sees a part of the inputs only.
-/

namespace Runs

/-- A state machine with an answer to every input. -/
structure Machine (σ ι ο : Type) where
  step : σ → ι → σ × ο

namespace Machine

variable {σ ι ο : Type} (m : Machine σ ι ο)

/-- The state after the inputs. -/
def run : σ → List ι → σ
  | s, [] => s
  | s, i :: is => run (m.step s i).1 is

/-- The inputs with the answers they got. -/
def log : σ → List ι → List (ι × ο)
  | _, [] => []
  | s, i :: is => (i, (m.step s i).2) :: log (m.step s i).1 is

/-- Every input is allowed by the state it meets. -/
def Enabled (en : σ → ι → Prop) : σ → List ι → Prop
  | _, [] => True
  | s, i :: is => en s i ∧ Enabled en (m.step s i).1 is

/-- How many inputs pass a test in the state they meet. -/
def count (test : σ → ι → Bool) : σ → List ι → ℕ
  | _, [] => 0
  | s, i :: is => (test s i).toNat + count test (m.step s i).1 is

/-- The sum of a quantity over the inputs in the states they meet. -/
def total (f : σ → ι → ℕ) : σ → List ι → ℕ
  | _, [] => 0
  | s, i :: is => f s i + total f (m.step s i).1 is

@[simp] theorem run_nil (s : σ) : m.run s [] = s := rfl

@[simp] theorem log_nil (s : σ) : m.log s [] = [] := rfl

@[simp] theorem run_cons (s : σ) (i : ι) (is : List ι) : m.run s (i :: is) = m.run (m.step s i).1 is := rfl

theorem run_append : ∀ (s : σ) (is js : List ι), m.run s (is ++ js) = m.run (m.run s is) js
  | _, [], _ => rfl
  | s, i :: is, js => run_append (m.step s i).1 is js

theorem run_snoc (s : σ) (is : List ι) (i : ι) : m.run s (is ++ [i]) = (m.step (m.run s is) i).1 := by
  rw [run_append]; rfl

theorem log_append : ∀ (s : σ) (is js : List ι), m.log s (is ++ js) = m.log s is ++ m.log (m.run s is) js
  | _, [], _ => rfl
  | s, i :: is, js => by
    simp only [List.cons_append, log, run_cons, log_append (m.step s i).1 is js]

theorem log_snoc (s : σ) (is : List ι) (i : ι) :
    m.log s (is ++ [i]) = m.log s is ++ [(i, (m.step (m.run s is) i).2)] := by
  rw [log_append]; rfl

theorem count_append (test : σ → ι → Bool) : ∀ (s : σ) (is js : List ι),
    m.count test s (is ++ js) = m.count test s is + m.count test (m.run s is) js
  | _, [], _ => (Nat.zero_add _).symm
  | s, i :: is, js => by
    simp only [List.cons_append, count, run_cons, count_append test (m.step s i).1 is js, Nat.add_assoc]

theorem count_snoc (test : σ → ι → Bool) (s : σ) (is : List ι) (i : ι) :
    m.count test s (is ++ [i]) = m.count test s is + (test (m.run s is) i).toNat := by
  rw [count_append]; rfl

theorem total_toNat (test : σ → ι → Bool) : ∀ (s : σ) (is : List ι),
    m.total (fun s i => (test s i).toNat) s is = m.count test s is
  | _, [] => rfl
  | s, i :: is => by rw [total, count, total_toNat test (m.step s i).1 is]

theorem total_log (f : ι × ο → ℕ) : ∀ (s : σ) (is : List ι),
    m.total (fun s i => f (i, (m.step s i).2)) s is = ((m.log s is).map f).sum
  | _, [] => rfl
  | s, i :: is => by rw [total, log, List.map_cons, List.sum_cons, total_log f (m.step s i).1 is]

theorem total_countP (p : ι × ο → Bool) : ∀ (s : σ) (is : List ι),
    m.total (fun s i => (p (i, (m.step s i).2)).toNat) s is = (m.log s is).countP p
  | _, [] => rfl
  | s, i :: is => by
    rw [total, log, List.countP_cons, total_countP p (m.step s i).1 is, Nat.add_comm]
    cases p (i, (m.step s i).2) <;> rfl

theorem total_add (f g : σ → ι → ℕ) : ∀ (s : σ) (is : List ι),
    m.total (fun s i => f s i + g s i) s is = m.total f s is + m.total g s is
  | _, [] => rfl
  | s, i :: is => by
    rw [total, total, total, total_add f g (m.step s i).1 is]
    omega

/-- **Balances.** A quantity that every input changes by a gain and a loss is, after a run, what it was with all gains
and losses. -/
theorem balance (quantity : σ → ℕ) (gain loss : σ → ι → ℕ)
    (hstep : ∀ s i, quantity (m.step s i).1 + loss s i = quantity s + gain s i) : ∀ (s : σ) (is : List ι),
    quantity (m.run s is) + m.total loss s is = quantity s + m.total gain s is
  | _, [] => rfl
  | s, i :: is => by
    have hfirst := hstep s i
    have ih := balance quantity gain loss hstep (m.step s i).1 is
    rw [run_cons, total, total]
    omega

theorem total_zero : ∀ (s : σ) (is : List ι), m.total (fun _ _ => 0) s is = 0
  | _, [] => rfl
  | s, i :: is => by rw [total, total_zero (m.step s i).1 is]

/-- The same without losses. -/
theorem growth (quantity : σ → ℕ) (gain : σ → ι → ℕ)
    (hstep : ∀ s i, quantity (m.step s i).1 = quantity s + gain s i) (s : σ) (is : List ι) :
    quantity (m.run s is) = quantity s + m.total gain s is := by
  have hbalance := m.balance quantity gain (fun _ _ => 0) hstep s is
  rw [total_zero] at hbalance
  exact hbalance

theorem map_fst_log : ∀ (s : σ) (is : List ι), (m.log s is).map Prod.fst = is
  | _, [] => rfl
  | s, i :: is => by simp only [log, List.map_cons, map_fst_log (m.step s i).1 is]

theorem enabled_append {en : σ → ι → Prop} : ∀ {s : σ} {is js : List ι},
    m.Enabled en s (is ++ js) ↔ m.Enabled en s is ∧ m.Enabled en (m.run s is) js
  | _, [], _ => by simp [Enabled]
  | s, i :: is, js => by
    simp only [List.cons_append, Enabled, run_cons, enabled_append (s := (m.step s i).1), and_assoc]

theorem enabled_of_forall {en : ι → Prop} : ∀ {s : σ} {is : List ι}, (∀ i ∈ is, en i) → m.Enabled (fun _ i => en i) s is
  | _, [], _ => trivial
  | _, i :: _, h => ⟨h i List.mem_cons_self, enabled_of_forall fun j hj => h j (List.mem_cons_of_mem i hj)⟩

theorem enabled_snoc {en : σ → ι → Prop} {s : σ} {is : List ι} {i : ι} :
    m.Enabled en s (is ++ [i]) ↔ m.Enabled en s is ∧ en (m.run s is) i := by
  rw [enabled_append]; simp [Enabled]

/-- **Invariants of states.** What every allowed input keeps holds after every run of allowed inputs. -/
theorem run_invariant (Inv : σ → Prop) {en : σ → ι → Prop} (hstep : ∀ s i, Inv s → en s i → Inv (m.step s i).1) :
    ∀ {s : σ} {is : List ι}, Inv s → m.Enabled en s is → Inv (m.run s is)
  | _, [], h, _ => h
  | s, i :: _, h, hen => by
    rw [run_cons]
    exact run_invariant Inv hstep (hstep s i h hen.1) hen.2

/-- **Invariants of runs.** What holds of the empty log and the first state, and is kept by one more input of a run that
stays `Good`, holds after every good run. -/
theorem run_rule (Good : List ι → Prop) (Inv : List (ι × ο) → σ → Prop) {s₀ : σ}
    (hgood : ∀ is i, Good (is ++ [i]) → Good is) (hinit : Inv [] s₀)
    (hstep : ∀ is i, Good (is ++ [i]) → Inv (m.log s₀ is) (m.run s₀ is) →
      Inv (m.log s₀ is ++ [(i, (m.step (m.run s₀ is) i).2)]) (m.step (m.run s₀ is) i).1) :
    ∀ is, Good is → Inv (m.log s₀ is) (m.run s₀ is) := by
  intro is
  induction is using List.reverseRecOn with
  | nil => intro _; exact hinit
  | append_singleton is i ih =>
    intro hg
    rw [log_snoc, run_snoc]
    exact hstep is i hg (ih (hgood is i hg))

/-- **Views.** If a machine of its own answers the inputs that are `mine` from a view of the state, and the others leave
the view as it is, then mine are answered as by that machine alone. -/
theorem log_filter_view {σ' : Type} (m' : Machine σ' ι ο) (view : σ → σ') (mine : ι → Bool) {en : σ → ι → Prop}
    (hmine : ∀ s i, en s i → mine i = true → m'.step (view s) i = (view (m.step s i).1, (m.step s i).2))
    (hothers : ∀ s i, en s i → mine i = false → view (m.step s i).1 = view s) :
    ∀ {s : σ} {is : List ι}, m.Enabled en s is →
      (m.log s is).filter (fun e => mine e.1) = m'.log (view s) (is.filter mine) ∧
        view (m.run s is) = m'.run (view s) (is.filter mine)
  | _, [], _ => ⟨rfl, rfl⟩
  | s, i :: is, hen => by
    obtain ⟨hlog, hrun⟩ := log_filter_view m' view mine hmine hothers hen.2
    cases hi : mine i with
    | true =>
      have hstep := hmine s i hen.1 hi
      simp only [log, run_cons, List.filter_cons, hi, if_true, hlog, hrun, hstep, and_self]
    | false =>
      rw [hothers s i hen.1 hi] at hlog hrun
      simp only [log, run_cons, List.filter_cons, hi, Bool.false_eq_true, if_false, hlog, hrun, and_self]

end Machine

/-- Clock readings that never decrease. -/
def NonDecreasing {ι τ : Type} [LE τ] (time : ι → τ) (is : List ι) : Prop := is.Pairwise (fun i j => time i ≤ time j)

section Clock

variable {ι τ : Type} [LE τ] {time : ι → τ}

instance (is : List ι) [DecidableLE τ] : Decidable (NonDecreasing time is) :=
  inferInstanceAs (Decidable (is.Pairwise _))

theorem NonDecreasing.init {is : List ι} {i : ι} (h : NonDecreasing time (is ++ [i])) : NonDecreasing time is :=
  (List.pairwise_append.mp h).1

theorem NonDecreasing.le_last {is : List ι} {i : ι} (h : NonDecreasing time (is ++ [i])) : ∀ j ∈ is, time j ≤ time i :=
  fun j hj => (List.pairwise_append.mp h).2.2 j hj i (List.mem_singleton_self i)

/-- What is logged happened before the next input. -/
theorem NonDecreasing.log_le {σ ο : Type} (m : Machine σ ι ο) {s : σ} {is : List ι} {i : ι}
    (h : NonDecreasing time (is ++ [i])) : ∀ e ∈ m.log s is, time e.1 ≤ time i := by
  intro e he
  refine h.le_last e.1 ?_
  rw [← m.map_fst_log s is]
  exact List.mem_map_of_mem he

end Clock

/-- **Simulation under a clock.** Let two machines be related from a time on, and let every later input be answered
alike by both and relate them from its own time on. Then no run with a non-decreasing clock tells them apart. -/
theorem Machine.log_eq_of_clocked {σ σ' ι ο τ : Type} [LE τ] {time : ι → τ} (m : Machine σ ι ο)
    (m' : Machine σ' ι ο) (R : τ → σ → σ' → Prop)
    (hstep : ∀ t s s' i, R t s s' → t ≤ time i →
      R (time i) (m.step s i).1 (m'.step s' i).1 ∧ (m.step s i).2 = (m'.step s' i).2) :
    ∀ {is : List ι} {t : τ} {s : σ} {s' : σ'}, R t s s' → (∀ i ∈ is, t ≤ time i) → NonDecreasing time is →
      m.log s is = m'.log s' is
  | [], _, _, _, _, _, _ => rfl
  | i :: is, t, s, s', hR, hfrom, hclock => by
    obtain ⟨hR', hanswer⟩ := hstep t s s' i hR (hfrom i List.mem_cons_self)
    obtain ⟨hlater, hclock⟩ := List.pairwise_cons.mp hclock
    rw [log, log, hanswer, log_eq_of_clocked m m' R hstep hR' hlater hclock]

/-- **Bisimulation under a clock.** As above for inputs that are allowed, with the relation at the end of the run. -/
theorem Machine.bisim_of_clocked {σ σ' ι ο τ : Type} [LE τ] {time : ι → τ} (m : Machine σ ι ο)
    (m' : Machine σ' ι ο) (allowed : ι → Prop) (R : τ → σ → σ' → Prop)
    (hstep : ∀ t s s' i, R t s s' → t ≤ time i → allowed i →
      R (time i) (m.step s i).1 (m'.step s' i).1 ∧ (m.step s i).2 = (m'.step s' i).2) :
    ∀ {is : List ι} {t : τ} {s : σ} {s' : σ'}, R t s s' → (∀ i ∈ is, t ≤ time i) → NonDecreasing time is →
      (∀ i ∈ is, allowed i) → m.log s is = m'.log s' is ∧
        ∃ last, R last (m.run s is) (m'.run s' is) ∧ ∀ now, t ≤ now → (∀ i ∈ is, time i ≤ now) → last ≤ now
  | [], t, _, _, hR, _, _, _ => ⟨rfl, t, hR, fun _ hnow _ => hnow⟩
  | i :: is, t, s, s', hR, hfrom, hclock, hallowed => by
    obtain ⟨hR', hanswer⟩ := hstep t s s' i hR (hfrom i List.mem_cons_self) (hallowed i List.mem_cons_self)
    obtain ⟨hlater, hclock⟩ := List.pairwise_cons.mp hclock
    obtain ⟨hlog, last, hlast, hle⟩ := bisim_of_clocked m m' allowed R hstep hR' hlater hclock
      fun j hj => hallowed j (List.mem_cons_of_mem i hj)
    refine ⟨by rw [log, log, hanswer, hlog], last, hlast, fun now _ hnow => hle now ?_ fun j hj => ?_⟩
    · exact hnow i List.mem_cons_self
    · exact hnow j (List.mem_cons_of_mem i hj)

/-- **Simulation of the visible inputs.** As above for inputs that the first machine allows, where the second machine
does not get the inputs that are hidden from it. -/
theorem Machine.log_filter_of_clocked {σ σ' ι ο τ : Type} [LE τ] {time : ι → τ} (m : Machine σ ι ο)
    (m' : Machine σ' ι ο) (visible : ι → Bool) {en : σ → ι → Prop} (R : τ → σ → σ' → Prop)
    (hvisible : ∀ t s s' i, R t s s' → t ≤ time i → en s i → visible i = true →
      R (time i) (m.step s i).1 (m'.step s' i).1 ∧ (m.step s i).2 = (m'.step s' i).2)
    (hhidden : ∀ t s s' i, R t s s' → t ≤ time i → en s i → visible i = false → R (time i) (m.step s i).1 s') :
    ∀ {is : List ι} {t : τ} {s : σ} {s' : σ'}, R t s s' → (∀ i ∈ is, t ≤ time i) → NonDecreasing time is →
      m.Enabled en s is → (m.log s is).filter (fun e => visible e.1) = m'.log s' (is.filter visible)
  | [], _, _, _, _, _, _, _ => rfl
  | i :: is, t, s, s', hR, hfrom, hclock, hen => by
    obtain ⟨hlater, hclock⟩ := List.pairwise_cons.mp hclock
    have hle := hfrom i List.mem_cons_self
    cases hi : visible i with
    | true =>
      obtain ⟨hR', hanswer⟩ := hvisible t s s' i hR hle hen.1 hi
      have ih := log_filter_of_clocked m m' visible R hvisible hhidden hR' hlater hclock hen.2
      simp only [log, List.filter_cons, hi, if_true, hanswer, ih]
    | false =>
      have hR' := hhidden t s s' i hR hle hen.1 hi
      have ih := log_filter_of_clocked m m' visible R hvisible hhidden hR' hlater hclock hen.2
      simp only [log, List.filter_cons, hi, Bool.false_eq_true, if_false, ih]

end Runs
