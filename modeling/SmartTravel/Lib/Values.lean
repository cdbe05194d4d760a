import SmartTravel.Lib.Binary64

/-!
# Python's operations on values of JSON

A payload of JSON is read without knowing its shape: subscripts, `get`, `or`, `float`, `int`, iteration, `startswith`,
each with the exception it raises on a value of another type. `member` and `head?` say which value a subscript finds;
of all the conversions, only `float` of a huge integer and `int` of an infinity raise an `OverflowError`.
-/

namespace Py

namespace Json

/-- The value of a key of an object. -/
def member (v : Json) (key : String) : Option Json :=
  match v with
  | .obj fields => fields.lookup key
  | _ => none

/-- The first item of an array or character of a text. -/
def head? : Json → Option Json
  | .arr items => items.head?
  | .str s => s.toList.head?.map fun c => .str (String.singleton c)
  | _ => none

/-- `v[key]`. -/
def getItem (v : Json) (key : String) : Except PyError Json :=
  match v with
  | .obj fields =>
    match fields.lookup key with
    | none => .error .keyError
    | some x => .ok x
  | _ => .error .typeError

/-- `v[0]`. -/
def first : Json → Except PyError Json
  | .arr [] => .error .indexError
  | .arr (x :: _) => .ok x
  | .str s =>
    match s.toList with
    | [] => .error .indexError
    | c :: _ => .ok (.str (String.singleton c))
  | .obj _ => .error .keyError
  | _ => .error .typeError

/-- `v.get(key, default)`. -/
def get (v : Json) (key : String) (default : Json) : Except PyError Json :=
  match v with
  | .obj fields => .ok ((fields.lookup key).getD default)
  | _ => .error .attributeError

/-- `bool(v)`. -/
def truthy : Json → Bool
  | .null => false
  | .bool b => b
  | .int n => n != 0
  | .float x => x.value != .finite 0
  | .str s => !s.isEmpty
  | .arr items => !items.isEmpty
  | .obj fields => !fields.isEmpty

/-- `v or other`. -/
def orElse (v other : Json) : Json := if v.truthy then v else other

/-- `float(v)`. -/
def toFloat : Json → Except PyError Binary64
  | .bool b => .ok (.finite (if b then 1 else 0))
  | .int n => Binary64.ofInt n
  | .float x => .ok x.value
  | .str s => floatOfText s
  | .null | .arr _ | .obj _ => .error .typeError

/-- `int(v)`. -/
def toInt : Json → Except PyError ℤ
  | .bool b => .ok (if b then 1 else 0)
  | .int n => .ok n
  | .float x => x.value.toInt
  | .str s =>
    match Py.int s with
    | none => .error .valueError
    | some n => .ok n
  | .null | .arr _ | .obj _ => .error .typeError

/-- The items that `iter(v)` goes through. -/
def iter : Json → Except PyError (List Json)
  | .arr items => .ok items
  | .str s => .ok (s.toList.map fun c => .str (String.singleton c))
  | .obj fields => .ok (fields.map fun field => .str field.1)
  | _ => .error .typeError

/-- `v.startswith(start)`. -/
def startsWith (v : Json) (start : String) : Except PyError Bool :=
  match v with
  | .str s => .ok (start.toList.isPrefixOf s.toList)
  | _ => .error .attributeError

/-! ## What is found, and what is raised -/

theorem getItem_eq (v : Json) (key : String) : ∃ e ∈ [PyError.keyError, .typeError],
    v.getItem key = (v.member key).elim (.error e) .ok := by
  cases v with
  | obj fields =>
    refine ⟨.keyError, by simp, ?_⟩
    simp only [getItem, member]
    cases fields.lookup key <;> rfl
  | _ => exact ⟨.typeError, by simp, rfl⟩

theorem getItem_ok_iff {v x : Json} {key : String} : v.getItem key = .ok x ↔ v.member key = some x := by
  obtain ⟨e, -, heq⟩ := v.getItem_eq key
  rw [heq]
  cases v.member key <;> simp

theorem get_of_obj {v : Json} {fields : List (String × Json)} (h : v = .obj fields) (key : String) (default : Json) :
    v.get key default = .ok ((v.member key).getD default) := by
  subst h
  rfl

theorem get_of_not_obj {v : Json} (h : ¬ ∃ fields, v = .obj fields) (key : String) (default : Json) :
    v.get key default = .error .attributeError := by
  cases v with
  | obj fields => exact absurd ⟨fields, rfl⟩ h
  | _ => rfl

theorem first_eq (v : Json) : ∃ e ∈ [PyError.keyError, .indexError, .typeError],
    v.first = v.head?.elim (.error e) .ok := by
  cases v with
  | arr items =>
    refine ⟨.indexError, by simp, ?_⟩
    cases items <;> rfl
  | str s =>
    refine ⟨.indexError, by simp, ?_⟩
    simp only [first, head?]
    cases s.toList <;> rfl
  | obj fields => exact ⟨.keyError, by simp, rfl⟩
  | _ => exact ⟨.typeError, by simp, rfl⟩

theorem obj_of_member {v x : Json} {key : String} (h : v.member key = some x) : ∃ fields, v = .obj fields := by
  cases v with
  | obj fields => exact ⟨fields, rfl⟩
  | _ => cases h

/-- An integer that no float is near to. -/
def Huge (v : Json) : Prop := ∃ n : ℤ, v = .int n ∧ overflowBound ≤ |(n : ℚ)|

/-- An infinite float. -/
def Infinite (v : Json) : Prop := ∃ x negative, v = .float x ∧ x.value = .infinity negative

theorem floatOfText_error {s : String} {e : PyError} (h : floatOfText s = .error e) : e = .valueError := by
  unfold floatOfText at h
  simp only at h
  split at h
  · cases h
    rfl
  · cases h

/-- How `float` fails. -/
theorem toFloat_error {v : Json} {e : PyError} (h : v.toFloat = .error e) :
    e = .typeError ∨ e = .valueError ∨ e = .overflowError ∧ v.Huge := by
  cases v with
  | bool b => cases h
  | int n =>
    simp only [toFloat, Binary64.ofInt] at h
    split at h
    · rename_i hbound
      cases h
      exact .inr (.inr ⟨rfl, n, rfl, hbound⟩)
    · cases h
  | float x => cases h
  | str s => exact .inr (.inl (floatOfText_error h))
  | null => cases h; exact .inl rfl
  | arr items => cases h; exact .inl rfl
  | obj fields => cases h; exact .inl rfl

theorem toFloat_of_huge {v : Json} (h : v.Huge) : v.toFloat = .error .overflowError := by
  obtain ⟨n, rfl, hbound⟩ := h
  simp only [toFloat, Binary64.ofInt, if_pos hbound]

/-- How `int` fails. -/
theorem toInt_error {v : Json} {e : PyError} (h : v.toInt = .error e) :
    e = .typeError ∨ e = .valueError ∨ e = .overflowError ∧ v.Infinite := by
  cases v with
  | bool b => cases h
  | int n => cases h
  | float x =>
    simp only [toInt] at h
    cases hvalue : x.value with
    | nan =>
      rw [hvalue] at h
      cases h
      exact .inr (.inl rfl)
    | infinity negative =>
      rw [hvalue] at h
      cases h
      exact .inr (.inr ⟨rfl, x, negative, rfl, hvalue⟩)
    | finite y =>
      rw [hvalue] at h
      cases h
  | str s =>
    simp only [toInt] at h
    split at h
    · cases h
      exact .inr (.inl rfl)
    · cases h
  | null => cases h; exact .inl rfl
  | arr items => cases h; exact .inl rfl
  | obj fields => cases h; exact .inl rfl

theorem toInt_of_infinite {v : Json} (h : v.Infinite) : v.toInt = .error .overflowError := by
  obtain ⟨x, negative, rfl, hvalue⟩ := h
  simp only [toInt, hvalue, Binary64.toInt]

/-- An infinity is taken as it is by `or`. -/
theorem orElse_of_infinite {v other : Json} (h : v.Infinite) : v.orElse other = v := by
  obtain ⟨x, negative, rfl, hvalue⟩ := h
  simp [orElse, truthy, hvalue]

end Json

end Py
