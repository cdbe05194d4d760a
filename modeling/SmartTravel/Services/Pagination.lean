import SmartTravel.Lib.Base64
import SmartTravel.Lib.Numeral

/-!
# Opaque cursors

A cursor is the decimal offset in base 64. Decoding is total: what is not a cursor means the start of the list. Every
offset that can be written is read back (`decodeCursor_encodeCursor`).

`decodeCursor` is the function on text; `tryDecodeCursor` is the code with its exceptions, on any Python string, and
shows that the `except` clause catches all of them (`cursor_codec`).
-/

namespace SmartTravel

open Py

/-- `encode_cursor`; `none` is the `ValueError` of an offset too long to be written. -/
def encodeCursor (offset : ℕ) : Option String :=
  (str offset).map fun s => String.ofList (Base64.encode (utf8 s))

/-- `decode_cursor`. -/
def decodeCursor : Option String → ℕ
  | none => 0
  | some cursor =>
    if cursor = "" then 0
    else
      match (Base64.decode cursor.toList).bind fun bytes => (ofUtf8? bytes).bind int with
      | none => 0
      | some offset => (max 0 offset).toNat

theorem encodeCursor_isSome {offset : ℕ} (h : offset < 10 ^ maxStrDigits) : (encodeCursor offset).isSome := by
  rw [encodeCursor, Option.isSome_map]
  exact str_isSome h

/-- **Round trip.** -/
theorem decodeCursor_encodeCursor {offset : ℕ} {cursor : String} (h : encodeCursor offset = some cursor) :
    decodeCursor (some cursor) = offset := by
  obtain ⟨s, hs, rfl⟩ := Option.map_eq_some_iff.mp h
  have hread : ((Base64.decode (Base64.encode (utf8 s))).bind fun bytes => (ofUtf8? bytes).bind int) =
      some (offset : ℤ) := by
    rw [Base64.decode_encode (utf8_lt s), Option.bind_some, ofUtf8?_utf8, Option.bind_some, int_str hs]
  have hne : String.ofList (Base64.encode (utf8 s)) ≠ "" := by
    intro he
    have hnil : Base64.encode (utf8 s) = [] := by rw [← String.toList_ofList (l := Base64.encode (utf8 s)), he]; rfl
    have hempty : ((Base64.decode []).bind fun bytes => (ofUtf8? bytes).bind int) = none := by decide +kernel
    rw [hnil, hempty] at hread
    cases hread
  rw [decodeCursor, if_neg hne, String.toList_ofList, hread]
  simp

/-! ## Exceptions -/

/-- Exception classes of Python. -/
inductive ExceptionClass where
  | exception
  | typeError
  | valueError
  | unicodeError
  | unicodeEncodeError
  | unicodeDecodeError
  | binasciiError
deriving DecidableEq

namespace ExceptionClass

/-- `__mro__`: the class and its bases. -/
def mro : ExceptionClass → List ExceptionClass
  | .exception => [.exception]
  | .typeError => [.typeError, .exception]
  | .valueError => [.valueError, .exception]
  | .unicodeError => [.unicodeError, .valueError, .exception]
  | .unicodeEncodeError => [.unicodeEncodeError, .unicodeError, .valueError, .exception]
  | .unicodeDecodeError => [.unicodeDecodeError, .unicodeError, .valueError, .exception]
  | .binasciiError => [.binasciiError, .valueError, .exception]

/-- `except (ValueError, TypeError)`. -/
def caught (e : ExceptionClass) : Bool := [valueError, typeError].any fun cls => e.mro.contains cls

end ExceptionClass

/-- The value of an operation, or the exception that it raises. -/
def orRaise {α : Type} (e : ExceptionClass) : Option α → Except ExceptionClass α
  | none => .error e
  | some a => .ok a

/-- The `try` block: `int(base64.urlsafe_b64decode(cursor.encode()).decode())`. -/
def readOffset (cursor : List CodePoint) : Except ExceptionClass ℤ :=
  (orRaise .unicodeEncodeError (encodePoints? cursor)).bind fun bytes =>
    (orRaise .binasciiError (Base64.decode (bytes.map Char.ofNat))).bind fun decoded =>
      (orRaise .unicodeDecodeError (ofUtf8? decoded)).bind fun text => orRaise .valueError (int text)

/-- `decode_cursor` of any Python string, with the exceptions that leave it. -/
def tryDecodeCursor : Option (List CodePoint) → Except ExceptionClass ℕ
  | none => .ok 0
  | some cursor =>
    if cursor = [] then .ok 0
    else
      match readOffset cursor with
      | .error e => if e.caught then .ok 0 else .error e
      | .ok offset => .ok (max 0 offset).toNat

theorem caught_of_orRaise {α β : Type} {e raised : ExceptionClass} {o : Option α} {f : α → Except ExceptionClass β}
    (he : e.caught = true) (hf : ∀ a, f a = .error raised → raised.caught = true)
    (h : (orRaise e o).bind f = .error raised) : raised.caught = true := by
  cases o with
  | none =>
    obtain rfl : e = raised := Except.error.inj h
    exact he
  | some a => exact hf a h

/-- Whatever the `try` block raises is caught. -/
theorem readOffset_caught {cursor : List CodePoint} {raised : ExceptionClass} (h : readOffset cursor = .error raised) :
    raised.caught = true := by
  refine caught_of_orRaise rfl (fun bytes => caught_of_orRaise rfl fun decoded => caught_of_orRaise rfl ?_) h
  intro text hint
  cases hvalue : int text with
  | none =>
    rw [hvalue] at hint
    obtain rfl : ExceptionClass.valueError = raised := Except.error.inj hint
    rfl
  | some n =>
    rw [hvalue] at hint
    cases hint

/-- Nothing is raised, for any string. -/
theorem tryDecodeCursor_ok (cursor : Option (List CodePoint)) : ∃ offset, tryDecodeCursor cursor = .ok offset := by
  cases cursor with
  | none => exact ⟨0, rfl⟩
  | some cursor =>
    simp only [tryDecodeCursor]
    split
    · exact ⟨0, rfl⟩
    · split
      · rename_i raised hraised
        rw [if_pos (readOffset_caught hraised)]
        exact ⟨0, rfl⟩
      · exact ⟨_, rfl⟩

/-! ## Text -/

theorem filter_utf8Points (cs : List Char) :
    ((cs.flatMap fun c => utf8Point c.toNat).map Char.ofNat).filter (fun c => decide (c.toNat < 128)) =
      cs.filter fun c => decide (c.toNat < 128) := by
  induction cs with
  | nil => rfl
  | cons c cs ih =>
    rw [List.flatMap_cons, List.map_append, List.filter_append, ih, ← List.singleton_append, List.filter_append]
    congr 1
    rcases utf8Point_cases (toNat_range c).1 with ⟨-, hself⟩ | ⟨hhigh, hbytes⟩
    · rw [hself, List.map_singleton, Char.ofNat_toNat]
    · have hno : ¬c.toNat < 128 := not_lt.mpr hhigh
      have hright : [c].filter (fun c => decide (c.toNat < 128)) = [] := by simp [hno]
      rw [hright, List.filter_eq_nil_iff]
      intro d hd
      obtain ⟨b, hb, rfl⟩ := List.mem_map.mp hd
      obtain ⟨hlow, hlt⟩ := hbytes b hb
      rw [toNat_ofNat_byte b hlt, decide_eq_true_eq]
      omega

/-- The bytes of a text are decoded as its characters are: those outside ASCII are skipped in both. -/
theorem decode_utf8Points (cs : List Char) :
    Base64.decode ((cs.flatMap fun c => utf8Point c.toNat).map Char.ofNat) = Base64.decode cs := by
  rw [Base64.decode, Base64.decode, ← Base64.decodeFrom_filter_ascii, filter_utf8Points,
    Base64.decodeFrom_filter_ascii]

/-- On text, the code computes `decodeCursor`. -/
theorem tryDecodeCursor_codePoints (cursor : Option String) :
    tryDecodeCursor (cursor.map codePoints) = .ok (decodeCursor cursor) := by
  cases cursor with
  | none => rfl
  | some s =>
    by_cases hs : s = ""
    · subst hs
      rfl
    · have hne : codePoints s ≠ [] := by
        intro hnil
        exact hs (String.toList_eq_nil_iff.mp (List.map_eq_nil_iff.mp hnil))
      rw [Option.map_some, tryDecodeCursor, if_neg hne, decodeCursor, if_neg hs, readOffset, encodePoints?_codePoints]
      simp only [orRaise, Except.bind, decode_utf8Points]
      cases Base64.decode s.toList with
      | none => rfl
      | some bytes =>
        simp only [Option.bind_some]
        cases ofUtf8? bytes with
        | none => rfl
        | some text =>
          simp only [Option.bind_some]
          cases int text with
          | none => rfl
          | some offset => rfl

/-- **The cursor codec.** Every offset that can be written is read back, no two have one cursor, and every Python string
is decoded to some offset: whatever is raised inside is caught. -/
theorem cursor_codec :
    (∀ offset < 10 ^ maxStrDigits, ∃ cursor, encodeCursor offset = some cursor ∧
      tryDecodeCursor (some (codePoints cursor)) = .ok offset) ∧
    (∀ offset offset' cursor, encodeCursor offset = some cursor → encodeCursor offset' = some cursor →
      offset = offset') ∧
    ∀ cursor : Option (List CodePoint), ∃ offset, tryDecodeCursor cursor = .ok offset := by
  refine ⟨fun offset h => ?_, fun offset offset' cursor h h' => ?_, tryDecodeCursor_ok⟩
  · obtain ⟨cursor, hcursor⟩ := Option.isSome_iff_exists.mp (encodeCursor_isSome h)
    have hcode := tryDecodeCursor_codePoints (some cursor)
    rw [decodeCursor_encodeCursor hcursor] at hcode
    exact ⟨cursor, hcursor, hcode⟩
  · rw [← decodeCursor_encodeCursor h, decodeCursor_encodeCursor h']

/-- The cursor of the second page of ten. -/
theorem second_page_cursor : encodeCursor 10 = some "MTA=" ∧
    tryDecodeCursor (some (codePoints "MTA=")) = .ok 10 := by
  have henc : encodeCursor 10 = some "MTA=" := by decide +kernel
  have hlt : 10 < 10 ^ maxStrDigits := Nat.lt_of_lt_of_le (by decide) (Nat.pow_le_pow_right (by omega)
    (show 2 ≤ maxStrDigits by decide))
  obtain ⟨cursor, hcursor, hdecode⟩ := cursor_codec.1 10 hlt
  obtain rfl : "MTA=" = cursor := Option.some.inj (henc.symm.trans hcursor)
  exact ⟨henc, hdecode⟩

example : decodeCursor (some "MTA=") = 10 ∧ decodeCursor (some "LTE=") = 0 ∧ decodeCursor (some "M") = 0 := by
  decide +kernel

end SmartTravel
