import SmartTravel.Lib.Runs

/-!
# Cells that remember their last write

A cell holds an entry or nothing. An input either writes an entry, or keeps the one that is there, or drops it.
`lastWrite` is the content of the cell after some inputs; it is an entry that an input wrote and all later ones kept
(`lastWrite_eq_some_iff`). A part of the state of a machine that changes in this way is a cell along every run
(`cell_run`).
-/

namespace Runs

variable {ι ε : Type} (writes : ι → Option ε) (keeps : ι → ε → Bool)

/-- The content of a cell after one more input. -/
def writeCell (cell : Option ε) (i : ι) : Option ε := (writes i).or (cell.filter (keeps i))

/-- The content of a cell that was empty before the inputs. -/
def lastWrite (is : List ι) : Option ε := is.foldl (writeCell writes keeps) none

variable {writes keeps}

theorem lastWrite_snoc (is : List ι) (i : ι) :
    lastWrite writes keeps (is ++ [i]) = writeCell writes keeps (lastWrite writes keeps is) i := by
  rw [lastWrite, List.foldl_append]
  rfl

theorem writeCell_write {cell : Option ε} {i : ι} {e : ε} (h : writes i = some e) :
    writeCell writes keeps cell i = some e := by
  rw [writeCell, h, Option.some_or]

theorem writeCell_keep {cell : Option ε} {i : ι} (h : writes i = none) (hkeep : ∀ e ∈ cell, keeps i e = true) :
    writeCell writes keeps cell i = cell := by
  rw [writeCell, h, Option.none_or]
  cases cell with
  | none => rfl
  | some e => exact Option.filter_eq_some_iff.mpr ⟨rfl, hkeep e rfl⟩

theorem writeCell_drop {cell : Option ε} {i : ι} (h : writes i = none) (hdrop : ∀ e ∈ cell, keeps i e = false) :
    writeCell writes keeps cell i = none := by
  rw [writeCell, h, Option.none_or, Option.filter_eq_none_iff]
  exact fun e he => Bool.eq_false_iff.mp (hdrop e he)

/-- An entry is written by the input, or it was there and is kept. -/
theorem writeCell_eq_some_iff {cell : Option ε} {i : ι} {e : ε} : writeCell writes keeps cell i = some e ↔
    writes i = some e ∨ (writes i = none ∧ cell = some e ∧ keeps i e = true) := by
  rw [writeCell, Option.or_eq_some_iff, Option.filter_eq_some_iff]

/-- **The last write**: a cell holds what an input wrote and every later one kept. -/
theorem lastWrite_eq_some_iff {is : List ι} {e : ε} : lastWrite writes keeps is = some e ↔
    ∃ before i after, is = before ++ i :: after ∧ writes i = some e ∧
      ∀ j ∈ after, writes j = none ∧ keeps j e = true := by
  induction is using List.reverseRecOn with
  | nil => simp [lastWrite]
  | append_singleton is i ih =>
    rw [lastWrite_snoc, writeCell_eq_some_iff, ih]
    constructor
    · rintro (hi | ⟨hi, ⟨before, w, after, rfl, hw, hafter⟩, hkeep⟩)
      · exact ⟨is, i, [], rfl, hi, fun j hj => absurd hj List.not_mem_nil⟩
      · refine ⟨before, w, after ++ [i], by simp, hw, fun j hj => ?_⟩
        rcases List.mem_append.mp hj with hj | hj
        · exact hafter j hj
        · rw [List.mem_singleton.mp hj]
          exact ⟨hi, hkeep⟩
    · rintro ⟨before, w, after, heq, hw, hafter⟩
      rcases List.eq_nil_or_concat after with rfl | ⟨after, j, rfl⟩
      · obtain ⟨-, rfl⟩ := List.append_singleton_inj.mp heq
        exact .inl hw
      · rw [List.concat_eq_append] at heq hafter
        have hsplit : is ++ [i] = (before ++ w :: after) ++ [j] := by simpa using heq
        obtain ⟨rfl, rfl⟩ := List.append_singleton_inj.mp hsplit
        obtain ⟨hi, hkeep⟩ := hafter i (List.mem_append_right _ (List.mem_singleton_self i))
        exact .inr ⟨hi, ⟨before, w, after, rfl, hw, fun j hj => hafter j (List.mem_append_left _ hj)⟩, hkeep⟩

/-- **Cells of a machine.** A part of the state that every input writes, keeps or drops is a cell along every run. -/
theorem Machine.cell_run {σ ο : Type} (m : Machine σ ι ο) (cell : σ → Option ε) {s₀ : σ} (hinit : cell s₀ = none)
    (hstep : ∀ s i, cell (m.step s i).1 = writeCell writes keeps (cell s) i) (is : List ι) :
    cell (m.run s₀ is) = lastWrite writes keeps is := by
  induction is using List.reverseRecOn with
  | nil => exact hinit
  | append_singleton is i ih => rw [m.run_snoc, hstep, ih, lastWrite_snoc]

end Runs
