import Mathlib.Data.List.DropRight

/-!
# Text operations of Python's `str`

`split` on one character and `strip` of white space, as `str.split(sep)` and `str.strip()` compute them. Splitting is a
homomorphism from text joined by the separator to lists (`split_append_sep`), and a separator that the front part does
not contain parts a text at one place (`append_sep_inj`). Parts hold no separator (`notMem_of_mem_splitOn`), joined
again they are the text (`join_split`), and white space around a text reaches its first and last part only
(`splitOn_append_left`, `splitOn_append_right`). `utf8` and `ofUtf8?` are the UTF-8 codec (`ofUtf8?_utf8`);
`encodePoints?` is its encoder for strings with surrogates, which it refuses.
-/

namespace Py

/-- The characters that `str.isspace` accepts. -/
def isSpace (c : Char) : Bool :=
  let n := c.toNat
  (0x09 ≤ n && n ≤ 0x0D) || (0x1C ≤ n && n ≤ 0x20) || n == 0x85 || n == 0xA0 || n == 0x1680 ||
    (0x2000 ≤ n && n ≤ 0x200A) || n == 0x2028 || n == 0x2029 || n == 0x202F || n == 0x205F || n == 0x3000

/-- `s.strip()`. -/
def strip (s : String) : String := String.ofList ((s.toList.dropWhile isSpace).rdropWhile isSpace)

/-- `s.split(sep)` for a separator of one character. -/
def split (sep : Char) (s : String) : List String := (s.toList.splitOn sep).map String.ofList

/-- `sep.join(parts)` for a separator of one character. -/
def join (sep : Char) : List String → String
  | [] => ""
  | [s] => s
  | s :: t :: ts => s ++ String.singleton sep ++ join sep (t :: ts)

/-- `s.lower()` of ASCII text. -/
def asciiLower (s : String) : String := String.ofList (s.toList.map Char.toLower)

/-- `s.encode()`: the UTF-8 bytes, as numbers. -/
def utf8 (s : String) : List ℕ := s.toUTF8.data.toList.map UInt8.toNat

/-- A character of a Python string; other than a `Char` it may be a surrogate. -/
abbrev CodePoint := Fin 0x110000

/-- The code points that UTF-8 has no bytes for. -/
def isSurrogate (c : CodePoint) : Bool := 0xD800 ≤ c.val && c.val < 0xE000

/-- The UTF-8 bytes of a code point. -/
def utf8Point (n : ℕ) : List ℕ :=
  if n < 0x80 then [n]
  else if n < 0x800 then [0xC0 + n / 64, 0x80 + n % 64]
  else if n < 0x10000 then [0xE0 + n / 4096, 0x80 + n / 64 % 64, 0x80 + n % 64]
  else [0xF0 + n / 262144, 0x80 + n / 4096 % 64, 0x80 + n / 64 % 64, 0x80 + n % 64]

/-- `s.encode()` of any Python string, or fail with a `UnicodeEncodeError`. -/
def encodePoints? (cs : List CodePoint) : Option (List ℕ) :=
  if cs.any isSurrogate then none else some (cs.flatMap fun c => utf8Point c.val)

/-- A character is a code point and no surrogate. -/
theorem toNat_range (c : Char) : c.toNat < 0x110000 ∧ (c.toNat < 0xD800 ∨ 0xDFFF < c.toNat) := by
  have hvalid : c.toNat.isValidChar := c.valid
  rcases hvalid with hlow | hhigh <;> omega

/-- The code points of a text. -/
def codePoints (s : String) : List CodePoint := s.toList.map fun c => ⟨c.toNat, (toNat_range c).1⟩

/-- `bytes.decode()`, or fail with a `UnicodeDecodeError`. -/
def ofUtf8? (bs : List ℕ) : Option String := String.fromUTF8? ⟨(bs.map UInt8.ofNat).toArray⟩

theorem isAlpha_table : ∀ n < 128, (Char.ofNat n).isAlpha = true → (Char.ofNat n).toUpper.isUpper = true := by
  decide +kernel

theorem toNat_lt_of_isLower {c : Char} (h : c.isLower = true) : c.toNat < 123 := by
  change (decide (c.val ≥ 'a'.val) && decide (c.val ≤ 'z'.val)) = true at h
  simp only [Bool.and_eq_true, decide_eq_true_eq, ge_iff_le, UInt32.le_iff_toNat_le] at h
  simp only [Char.toNat_val, Char.reduceToNat] at h
  omega

/-- Upper-case letters come before the lower-case ones. -/
theorem toNat_lt_of_isUpper {c : Char} (h : c.isUpper = true) : c.toNat < 97 := by
  change decide (c.val ≥ 'A'.val ∧ c.val ≤ 'Z'.val) = true at h
  simp only [decide_eq_true_eq, ge_iff_le, UInt32.le_iff_toNat_le] at h
  simp only [Char.toNat_val, Char.reduceToNat] at h
  omega

/-- A letter is in one of the two cases. -/
theorem isUpper_or_isLower {c : Char} (h : c.isAlpha = true) : c.isUpper = true ∨ c.isLower = true :=
  (Bool.or_eq_true _ _).mp h

/-- A letter is in upper case after `upper`. -/
theorem isUpper_toUpper {c : Char} (h : c.isAlpha = true) : c.toUpper.isUpper = true := by
  have hlt : c.toNat < 128 := by
    rcases isUpper_or_isLower h with hupper | hlower
    · exact (toNat_lt_of_isUpper hupper).trans (by omega)
    · exact (toNat_lt_of_isLower hlower).trans (by omega)
  have htable := isAlpha_table c.toNat hlt
  rw [Char.ofNat_toNat] at htable
  exact htable h

/-- Text put before a separator adds its own parts in front. -/
theorem split_append_sep (sep : Char) (p s : String) :
    split sep (p ++ String.singleton sep ++ s) = split sep p ++ split sep s := by
  simp only [split, String.toList_append, String.toList_singleton, List.append_assoc, List.singleton_append,
    List.splitOn_eq_splitOnP, ← List.map_append]
  rw [List.splitOnP_append_cons (p := (· == sep)) _ _ (beq_self_eq_true sep)]

/-- Two places of one character in a text are the same, or the first comes before the second, or after it. -/
theorem append_sep_cases {sep : Char} {u u' v v' : List Char} (h : u ++ sep :: v = u' ++ sep :: v') :
    (u = u' ∧ v = v') ∨ (∃ k, u' = u ++ sep :: k ∧ v = k ++ sep :: v') ∨
      ∃ k, u = u' ++ sep :: k ∧ v' = k ++ sep :: v := by
  rcases List.append_eq_append_iff.mp h with ⟨k, rfl, hk⟩ | ⟨k, rfl, hk⟩
  · cases k with
    | nil => exact .inl ⟨(List.append_nil u).symm, (List.cons.inj hk).2⟩
    | cons c k =>
      obtain ⟨rfl, hv⟩ := List.cons.inj hk
      exact .inr (.inl ⟨k, rfl, hv⟩)
  · cases k with
    | nil => exact .inl ⟨List.append_nil u', (List.cons.inj hk).2.symm⟩
    | cons c k =>
      obtain ⟨rfl, hv⟩ := List.cons.inj hk
      exact .inr (.inr ⟨k, rfl, hv⟩)

/-- A separator that neither front part contains parts the text at one place only. -/
theorem append_sep_inj {sep : Char} {u u' v v' : List Char} (hu : sep ∉ u) (hu' : sep ∉ u')
    (h : u ++ sep :: v = u' ++ sep :: v') : u = u' ∧ v = v' := by
  rcases append_sep_cases h with heq | ⟨k, rfl, -⟩ | ⟨k, rfl, -⟩
  · exact heq
  · exact absurd (List.mem_append_right u List.mem_cons_self) hu'
  · exact absurd (List.mem_append_right u' List.mem_cons_self) hu

/-- A text without surrogates has UTF-8 bytes. -/
theorem encodePoints?_codePoints (s : String) :
    encodePoints? (codePoints s) = some (s.toList.flatMap fun c => utf8Point c.toNat) := by
  have hnone : (codePoints s).any isSurrogate = false := by
    simp only [codePoints, List.any_map, List.any_eq_false, Function.comp_apply, isSurrogate, Bool.and_eq_true,
      decide_eq_true_eq]
    intro c _
    have := (toNat_range c).2
    omega
  rw [encodePoints?, if_neg (by rw [hnone]; exact Bool.false_ne_true), codePoints, List.flatMap_map]

theorem toNat_ofNat_byte : ∀ b < 256, (Char.ofNat b).toNat = b := by decide +kernel

/-- An ASCII character is its own byte, the bytes of any other are above ASCII. -/
theorem utf8Point_cases {n : ℕ} (h : n < 0x110000) :
    (n < 128 ∧ utf8Point n = [n]) ∨ (128 ≤ n ∧ ∀ b ∈ utf8Point n, 128 ≤ b ∧ b < 256) := by
  unfold utf8Point
  split
  · rename_i hascii
    exact .inl ⟨hascii, rfl⟩
  · rename_i hascii
    right
    refine ⟨not_lt.mp hascii, fun b hb => ?_⟩
    split at hb
    · simp only [List.mem_cons, List.not_mem_nil, or_false] at hb
      omega
    · split at hb <;> simp only [List.mem_cons, List.not_mem_nil, or_false] at hb <;> omega

theorem utf8_lt (s : String) : ∀ b ∈ utf8 s, b < 256 := by
  intro b hb
  obtain ⟨u, -, rfl⟩ := List.mem_map.mp hb
  exact u.toNat_lt

/-- Decoding undoes encoding. -/
theorem ofUtf8?_utf8 (s : String) : ofUtf8? (utf8 s) = some s := by
  have hbytes : (utf8 s).map UInt8.ofNat = s.toUTF8.data.toList := by
    rw [utf8, List.map_map]
    exact List.map_id'' (fun u => UInt8.ofNat_toNat) _
  have hvalid : (ByteArray.mk s.toUTF8.data.toList.toArray).IsValidUTF8 := s.isValidUTF8
  rw [ofUtf8?, hbytes, String.fromUTF8?, dif_pos hvalid]
  rfl

/-! ## White space at the ends of a text and of its parts -/

section
variable {u v : List Char}

/-- White space in front of a text does not outlast `strip`. -/
theorem strip_spaces_append (hu : ∀ c ∈ u, isSpace c = true) (s : List Char) :
    strip (String.ofList (u ++ s)) = strip (String.ofList s) := by
  simp only [strip, String.toList_ofList, List.dropWhile_append_of_pos hu]

/-- Nor does white space after it. -/
theorem strip_append_spaces (hv : ∀ c ∈ v, isSpace c = true) (s : List Char) :
    strip (String.ofList (s ++ v)) = strip (String.ofList s) := by
  have hnone : v.dropWhile isSpace = [] := List.dropWhile_eq_nil_iff.mpr hv
  have hdrop (l : List Char) : (l ++ v).rdropWhile isSpace = l.rdropWhile isSpace := by
    have hrev : ∀ c ∈ v.reverse, isSpace c = true := fun c hc => hv c (List.mem_reverse.mp hc)
    rw [List.rdropWhile, List.reverse_append, List.dropWhile_append_of_pos hrev]
    rfl
  simp only [strip, String.toList_ofList, List.dropWhile_append, hnone]
  split
  · rename_i hempty
    rw [List.isEmpty_iff.mp hempty]
  · rw [hdrop]

/-- Text without the separator, put in front, goes into the first part. -/
theorem splitOn_append_left {sep : Char} (hu : sep ∉ u) (s : List Char) :
    ∃ first rest, s.splitOn sep = first :: rest ∧ (u ++ s).splitOn sep = (u ++ first) :: rest := by
  induction u with
  | nil =>
    obtain ⟨first, rest, h⟩ := List.exists_cons_of_ne_nil (List.splitOn_ne_nil sep s)
    exact ⟨first, rest, h, h⟩
  | cons c u ih =>
    rw [List.mem_cons, not_or] at hu
    obtain ⟨hc, hu⟩ := hu
    obtain ⟨first, rest, hs, hus⟩ := ih hu
    have hne : (c == sep) = false := by simpa using fun h => hc h.symm
    refine ⟨first, rest, hs, ?_⟩
    rw [List.cons_append, List.splitOn_cons_eq_if_modifyHead, hne, hus]
    rfl

/-- Text without the separator, put at the end, goes into the last part. -/
theorem splitOn_append_right {sep : Char} (hv : sep ∉ v) (s : List Char) :
    ∃ init last, s.splitOn sep = init ++ [last] ∧ (s ++ v).splitOn sep = init ++ [last ++ v] := by
  induction s with
  | nil =>
    obtain ⟨first, rest, hnil, hsplit⟩ := splitOn_append_left hv []
    have hone : first = [] ∧ rest = [] := by simpa using hnil.symm
    refine ⟨[], [], List.splitOn_nil sep, ?_⟩
    rw [List.append_nil, hone.1, hone.2, List.append_nil] at hsplit
    exact hsplit
  | cons c s ih =>
    obtain ⟨init, last, hs, hsv⟩ := ih
    by_cases hc : (c == sep) = true
    · refine ⟨[] :: init, last, ?_, ?_⟩
      · rw [List.splitOn_cons_eq_if_modifyHead, if_pos hc, hs]
        rfl
      · rw [List.cons_append, List.splitOn_cons_eq_if_modifyHead, if_pos hc, hsv]
        rfl
    · cases init with
      | nil =>
        refine ⟨[], c :: last, ?_, ?_⟩
        · rw [List.splitOn_cons_eq_if_modifyHead, if_neg hc, hs]
          rfl
        · rw [List.cons_append, List.splitOn_cons_eq_if_modifyHead, if_neg hc, hsv]
          rfl
      | cons first init =>
        refine ⟨(c :: first) :: init, last, ?_, ?_⟩
        · rw [List.splitOn_cons_eq_if_modifyHead, if_neg hc, hs]
          rfl
        · rw [List.cons_append, List.splitOn_cons_eq_if_modifyHead, if_neg hc, hsv]
          rfl

/-- No part holds the separator. -/
theorem notMem_of_mem_splitOn {sep : Char} {part : List Char} : ∀ {s : List Char}, part ∈ s.splitOn sep → sep ∉ part
  | [], h => by
    rw [List.splitOn_nil, List.mem_singleton] at h
    rw [h]
    exact List.not_mem_nil
  | c :: s, h => by
    obtain ⟨first, rest, hs⟩ := List.exists_cons_of_ne_nil (List.splitOn_ne_nil sep s)
    have hrest : ∀ q ∈ first :: rest, sep ∉ q := fun q hq => notMem_of_mem_splitOn (hs ▸ hq)
    rw [List.splitOn_cons_eq_if_modifyHead, hs] at h
    split at h
    · rcases List.mem_cons.mp h with rfl | h
      · exact List.not_mem_nil
      · exact hrest part h
    · rename_i hc
      rcases List.mem_cons.mp h with rfl | h
      · rw [List.mem_cons, not_or]
        exact ⟨fun he => hc (beq_iff_eq.mpr he.symm), hrest first List.mem_cons_self⟩
      · exact hrest part (List.mem_cons_of_mem _ h)

/-- A text without white space at its ends is left alone. -/
theorem strip_append_cons_concat {a b : Char} (ha : isSpace a = false) (hb : isSpace b = false) (cs : List Char) :
    strip (String.ofList (a :: (cs ++ [b]))) = String.ofList (a :: (cs ++ [b])) := by
  have hfirst : (a :: (cs ++ [b])).dropWhile isSpace = a :: (cs ++ [b]) := by rw [List.dropWhile_cons, ha]; rfl
  have hlast : (a :: (cs ++ [b])).rdropWhile isSpace = a :: (cs ++ [b]) := by
    rw [← List.cons_append, List.rdropWhile_concat, hb]
    rfl
  rw [strip, String.toList_ofList, hfirst, hlast]

/-- A text starts with its first character that is no white space. -/
theorem head?_strip (hu : ∀ c ∈ u, isSpace c = true) {c : Char} (hc : isSpace c = false) (cs : List Char) :
    (strip (String.ofList (u ++ c :: cs))).toList.head? = some c := by
  rw [strip_spaces_append hu, strip, String.toList_ofList, String.toList_ofList]
  have hfirst : (c :: cs).dropWhile isSpace = c :: cs := by rw [List.dropWhile_cons, hc]; rfl
  rw [hfirst]
  cases hrest : (c :: cs).rdropWhile isSpace with
  | nil =>
    have hspace := List.rdropWhile_eq_nil_iff.mp hrest c List.mem_cons_self
    rw [hc] at hspace
    cases hspace
  | cons d ds =>
    obtain ⟨after, hafter⟩ := List.rdropWhile_prefix isSpace (l := c :: cs)
    rw [hrest] at hafter
    cases hafter
    rfl

/-- What is stripped has no white space in front. -/
theorem head?_strip_not (s : String) {c : Char} (h : (strip s).toList.head? = some c) : isSpace c = false := by
  rw [strip, String.toList_ofList] at h
  obtain ⟨cs, hcs⟩ := List.head?_eq_some_iff.mp h
  obtain ⟨after, hafter⟩ := List.rdropWhile_prefix isSpace (l := s.toList.dropWhile isSpace)
  have hhead := List.head?_dropWhile_not isSpace s.toList
  rw [← hafter, hcs] at hhead
  simpa using hhead

/-- What `strip` takes away is white space at both ends. -/
theorem strip_spec (s : String) : ∃ u v, (∀ c ∈ u, isSpace c = true) ∧ (∀ c ∈ v, isSpace c = true) ∧
    s.toList = u ++ (strip s).toList ++ v := by
  refine ⟨s.toList.takeWhile isSpace, (s.toList.dropWhile isSpace).rtakeWhile isSpace, ?_, ?_, ?_⟩
  · exact fun c hc => List.mem_takeWhile_imp hc
  · exact fun c hc => List.mem_rtakeWhile_imp hc
  · rw [strip, String.toList_ofList, List.append_assoc, List.rdropWhile_append_rtakeWhile,
      List.takeWhile_append_dropWhile]

theorem strip_strip (s : String) : strip (strip s) = strip s := by
  obtain ⟨u, v, hu, hv, hs⟩ := strip_spec s
  have hback : String.ofList s.toList = s := String.ofList_toList
  have h := congrArg (fun l => strip (String.ofList l)) hs
  simp only [hback, strip_append_spaces hv, strip_spaces_append hu, String.ofList_toList] at h
  exact h.symm

end

theorem join_append (sep : Char) (p s : String) (ss : List String) :
    join sep ((p ++ s) :: ss) = p ++ join sep (s :: ss) := by
  cases ss with
  | nil => rfl
  | cons t ts => simp only [join, String.append_assoc]

theorem join_splitOn (sep : Char) : ∀ cs : List Char, join sep ((cs.splitOn sep).map String.ofList) = String.ofList cs
  | [] => by
    rw [List.splitOn_nil]
    rfl
  | c :: cs => by
    have ih := join_splitOn sep cs
    obtain ⟨first, rest, hparts⟩ := List.exists_cons_of_ne_nil (List.splitOn_ne_nil sep cs)
    rw [hparts] at ih
    rw [List.splitOn_cons_eq_if_modifyHead, hparts]
    split
    · rename_i hsep
      rw [List.map_cons, List.map_cons, join, ← List.map_cons, ih, beq_iff_eq.mp hsep, String.append_assoc,
        String.empty_append, String.ofList_cons]
    · rw [List.modifyHead_cons, List.map_cons, String.ofList_cons, join_append, ← List.map_cons, ih, String.ofList_cons]

/-- **The parts of a text, joined again, are the text.** -/
theorem join_split (sep : Char) (s : String) : join sep (split sep s) = s := by
  rw [split, join_splitOn, String.ofList_toList]

end Py
