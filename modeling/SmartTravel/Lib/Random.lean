import Mathlib.Data.Rat.Floor
import Mathlib.Algebra.Ring.Nat

/-!
# Lists drawn from a generator

`random.Random` with the ranges that it documents, and nothing else about it. `Random.generate` is the loop that draws
how many rounds to make and then makes them: in each, values are drawn and an element is built from them. If a draw
within its ranges always builds a good element, the loop returns a list of good elements, as many as were drawn
(`Random.generate_spec`).
-/

namespace Py

/-- `random.Random`, with the ranges of what it draws. A choice is drawn by its position, a sample by its positions. -/
structure Random (σ : Type) where
  new : ℕ → σ
  randint : ℤ → ℤ → σ → ℤ × σ
  choice : ℕ → σ → ℕ × σ
  choices : List ℕ → σ → ℕ × σ
  sample : ℕ → ℕ → σ → List ℕ × σ
  uniform : ℚ → ℚ → σ → ℚ × σ
  randint_range : ∀ a b s, a ≤ b → a ≤ (randint a b s).1 ∧ (randint a b s).1 ≤ b
  choice_lt : ∀ n s, 0 < n → (choice n s).1 < n
  choices_lt : ∀ weights s, 0 < weights.sum → (choices weights s).1 < weights.length
  sample_spec : ∀ n k s, k ≤ n →
    (sample n k s).1.Nodup ∧ (sample n k s).1.length = k ∧ ∀ i ∈ (sample n k s).1, i < n
  uniform_range : ∀ a b s, a ≤ b → a ≤ (uniform a b s).1 ∧ (uniform a b s).1 ≤ b

namespace Random

variable {σ Draw ε α : Type}

/-- `for index in range(n)`: draw, build, append. -/
def rounds (draw : σ → Draw × σ) (build : ℕ → Draw → Except ε α) : ℕ → ℕ → σ → Except ε (List α)
  | 0, _, _ => .ok []
  | n + 1, index, s =>
    match build index (draw s).1 with
    | .error e => .error e
    | .ok x => (rounds draw build n (index + 1) (draw s).2).map (x :: ·)

/-- A number of rounds between the bounds, drawn first. -/
def generate (rng : Random σ) (seed : ℕ) (low high : ℤ) (draw : σ → Draw × σ) (build : ℕ → Draw → Except ε α) :
    Except ε (List α) :=
  let (n, s) := rng.randint low high (rng.new seed)
  rounds draw build n.toNat 0 s

variable {draw : σ → Draw × σ} {build : ℕ → Draw → Except ε α}

/-- A round that returns has built an element, and so have the rounds after it. -/
theorem rounds_succ {n index : ℕ} {s : σ} {xs : List α} (h : rounds draw build (n + 1) index s = .ok xs) :
    ∃ x rest, build index (draw s).1 = .ok x ∧ rounds draw build n (index + 1) (draw s).2 = .ok rest ∧
      xs = x :: rest := by
  simp only [rounds] at h
  split at h
  · cases h
  · rename_i x hx
    cases hrest : rounds draw build n (index + 1) (draw s).2 with
    | error e =>
      rw [hrest] at h
      cases h
    | ok rest =>
      rw [hrest] at h
      cases h
      exact ⟨x, rest, hx, rfl, rfl⟩

/-- Rounds that return have built one element each. -/
theorem length_rounds : ∀ (n index : ℕ) (s : σ) {xs : List α}, rounds draw build n index s = .ok xs → xs.length = n
  | 0, _, _, _, h => by
    cases h
    rfl
  | n + 1, index, s, _, h => by
    obtain ⟨x, rest, -, hrest, rfl⟩ := rounds_succ h
    rw [List.length_cons, length_rounds n (index + 1) _ hrest]

/-- **Rounds of good draws** build good elements. -/
theorem rounds_spec {InRange : Draw → Prop} {Good : α → Prop} (hdraw : ∀ s, InRange (draw s).1)
    (hbuild : ∀ index d, InRange d → ∃ x, build index d = .ok x ∧ Good x) : ∀ (n index : ℕ) (s : σ),
    ∃ xs, rounds draw build n index s = .ok xs ∧ ∀ x ∈ xs, Good x
  | 0, _, _ => ⟨[], rfl, fun _ h => absurd h List.not_mem_nil⟩
  | n + 1, index, s => by
    obtain ⟨x, hx, hgood⟩ := hbuild index _ (hdraw s)
    obtain ⟨xs, hxs, hall⟩ := rounds_spec hdraw hbuild n (index + 1) (draw s).2
    refine ⟨x :: xs, ?_, fun y hy => ?_⟩
    · simp only [rounds, hx, hxs, Except.map]
    · rcases List.mem_cons.mp hy with rfl | hy
      · exact hgood
      · exact hall y hy

/-- Elements that are built from draws within their ranges are good, if all such elements are. -/
theorem good_of_rounds {InRange : Draw → Prop} {Good : α → Prop} (hdraw : ∀ s, InRange (draw s).1)
    (hbuild : ∀ index d x, InRange d → build index d = .ok x → Good x) : ∀ (n index : ℕ) (s : σ) {xs : List α},
    rounds draw build n index s = .ok xs → ∀ x ∈ xs, Good x
  | 0, _, _, _, h, _, hx => by
    cases h
    cases hx
  | n + 1, index, s, _, h, x, hx => by
    obtain ⟨y, rest, hy, hrest, rfl⟩ := rounds_succ h
    rcases List.mem_cons.mp hx with rfl | hx
    · exact hbuild index _ x (hdraw s) hy
    · exact good_of_rounds hdraw hbuild n (index + 1) _ hrest x hx

variable (rng : Random σ) {seed : ℕ} {low high : ℤ}

theorem length_generate (hlow : 0 ≤ low) (hle : low ≤ high) {xs : List α}
    (h : rng.generate seed low high draw build = .ok xs) : low ≤ xs.length ∧ xs.length ≤ high := by
  have hrange := rng.randint_range low high (rng.new seed) hle
  have hlen : xs.length = (rng.randint low high (rng.new seed)).1.toNat := length_rounds _ _ _ h
  rw [hlen, Int.toNat_of_nonneg (hlow.trans hrange.1)]
  exact hrange

theorem good_of_generate {InRange : Draw → Prop} {Good : α → Prop} (hdraw : ∀ s, InRange (draw s).1)
    (hbuild : ∀ index d x, InRange d → build index d = .ok x → Good x) {xs : List α}
    (h : rng.generate seed low high draw build = .ok xs) : ∀ x ∈ xs, Good x :=
  good_of_rounds hdraw hbuild _ _ _ h

/-- **A loop of good draws** returns, with elements that are all good. -/
theorem generate_spec {InRange : Draw → Prop} {Good : α → Prop} (hdraw : ∀ s, InRange (draw s).1)
    (hbuild : ∀ index d, InRange d → ∃ x, build index d = .ok x ∧ Good x) (hlow : 0 ≤ low) (hle : low ≤ high) :
    ∃ xs, rng.generate seed low high draw build = .ok xs ∧ (low ≤ xs.length ∧ xs.length ≤ high) ∧ ∀ x ∈ xs, Good x := by
  obtain ⟨xs, hxs, hall⟩ := rounds_spec hdraw hbuild (rng.randint low high (rng.new seed)).1.toNat 0
    (rng.randint low high (rng.new seed)).2
  exact ⟨xs, hxs, rng.length_generate hlow hle hxs, hall⟩

end Random

end Py
