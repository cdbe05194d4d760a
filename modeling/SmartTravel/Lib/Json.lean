import SmartTravel.Lib.Numeral
import SmartTravel.Lib.StableSort
import Mathlib.Data.String.Basic

/-!
# JSON values and their text

`Json.dumps` is `json.dumps` with its defaults: `", "` and `": "` between items, strings escaped to ASCII, floats as
`repr` writes them. `dumpsSorted` is `json.dumps(.., sort_keys=True)`.

A text of JSON is scanned by a small automaton: outside a string it has no backslash, and a blank after every colon
(`scan_text`). Two readings of a text that stand on opposite sides of its quotes stay so (`Opposite.scan`), hence no
object begins right after a colon in the text of another, and `u:{..}` is read in one way only
(`append_colon_obj_inj`).
-/

namespace Py

/-- A float by the shortest decimal that reads back as it: `digits * 10 ^ exponent`, with a sign. -/
inductive Double where
  | nan
  | infinity (negative : Bool)
  | finite (negative : Bool) (digits : ℕ) (exponent : ℤ)
deriving DecidableEq

/-- A value of JSON. Objects list their items in the order of insertion. -/
inductive Json where
  | null
  | bool (b : Bool)
  | int (n : ℤ)
  | float (x : Double)
  | str (s : String)
  | arr (items : List Json)
  | obj (fields : List (String × Json))

namespace Json

mutual

/-- Whether two values are the same. -/
def beq : Json → Json → Bool
  | .null, .null => true
  | .bool a, .bool b => a == b
  | .int m, .int n => m == n
  | .float x, .float y => x == y
  | .str s, .str t => s == t
  | .arr xs, .arr ys => beqItems xs ys
  | .obj xs, .obj ys => beqFields xs ys
  | _, _ => false

def beqItems : List Json → List Json → Bool
  | [], [] => true
  | x :: xs, y :: ys => beq x y && beqItems xs ys
  | _, _ => false

def beqFields : List (String × Json) → List (String × Json) → Bool
  | [], [] => true
  | (k, x) :: xs, (l, y) :: ys => k == l && beq x y && beqFields xs ys
  | _, _ => false

end

mutual

theorem beq_iff : ∀ x y : Json, beq x y = true ↔ x = y
  | .null, y => by cases y <;> simp [beq]
  | .bool a, y => by cases y <;> simp [beq]
  | .int n, y => by cases y <;> simp [beq]
  | .float x, y => by cases y <;> simp [beq]
  | .str s, y => by cases y <;> simp [beq]
  | .arr xs, y => by cases y <;> simp [beq, beqItems_iff xs]
  | .obj xs, y => by cases y <;> simp [beq, beqFields_iff xs]

theorem beqItems_iff : ∀ xs ys : List Json, beqItems xs ys = true ↔ xs = ys
  | [], ys => by cases ys <;> simp [beqItems]
  | x :: xs, ys => by cases ys <;> simp [beqItems, beq_iff x, beqItems_iff xs]

theorem beqFields_iff : ∀ xs ys : List (String × Json), beqFields xs ys = true ↔ xs = ys
  | [], ys => by cases ys <;> simp [beqFields]
  | (k, x) :: xs, ys => by
    cases ys with
    | nil => simp [beqFields]
    | cons y ys => simp [beqFields, beq_iff x, beqFields_iff xs, Prod.ext_iff]

end

instance : DecidableEq Json := fun x y => decidable_of_iff _ (beq_iff x y)

end Json

/-! ## Texts -/

/-- `repr` of a positive decimal: in fixed notation if the point stands less than four places before the first digit or
at most sixteen places after it, else scientific. -/
def decimalChars (digits : ℕ) (exponent : ℤ) : List Char :=
  let ds := Nat.toDigits 10 digits
  let point := ds.length + exponent
  if -4 < point ∧ point ≤ 16 then
    if point ≤ 0 then "0.".toList ++ List.replicate (-point).toNat '0' ++ ds
    else if ds.length ≤ point then ds ++ List.replicate exponent.toNat '0' ++ ".0".toList
    else ds.take point.toNat ++ '.' :: ds.drop point.toNat
  else
    let es := Nat.toDigits 10 (point - 1).natAbs
    ds.take 1 ++ (if ds.length = 1 then [] else '.' :: ds.drop 1) ++ 'e' :: (if point - 1 < 0 then '-' else '+') ::
      (if es.length = 1 then '0' :: es else es)

/-- `float.__repr__`, with the names JSON has for the values that are not numbers. -/
def Double.text : Double → List Char
  | .nan => "NaN".toList
  | .infinity negative => if negative then "-Infinity".toList else "Infinity".toList
  | .finite negative digits exponent => (if negative then ['-'] else []) ++ decimalChars digits exponent

/-- `int.__repr__`. -/
def intChars (n : ℤ) : List Char := (if n < 0 then ['-'] else []) ++ Nat.toDigits 10 n.natAbs

/-- Four hexadecimal digits. -/
def hex4 (n : ℕ) : List Char := [n / 4096, n / 256, n / 16, n].map fun k => Nat.digitChar (k % 16)

/-- A character inside a string, beyond the basic plane as two surrogates. -/
def escapeChar (c : Char) : List Char :=
  if c = '"' then ['\\', '"']
  else if c = '\\' then ['\\', '\\']
  else if c = '\n' then ['\\', 'n']
  else if c = '\r' then ['\\', 'r']
  else if c = '\t' then ['\\', 't']
  else if c = Char.ofNat 0x0c then ['\\', 'f']
  else if c = Char.ofNat 0x08 then ['\\', 'b']
  else if ' ' ≤ c ∧ c ≤ '~' then [c]
  else if c.toNat < 0x10000 then '\\' :: 'u' :: hex4 c.toNat
  else
    let n := c.toNat - 0x10000
    '\\' :: 'u' :: hex4 (0xd800 + n / 0x400) ++ '\\' :: 'u' :: hex4 (0xdc00 + n % 0x400)

/-- A quoted string. -/
def quote (s : String) : List Char := '"' :: (s.toList.flatMap escapeChar ++ ['"'])

namespace Json

mutual

/-- The characters of `json.dumps`. -/
def text : Json → List Char
  | .null => "null".toList
  | .bool b => if b then "true".toList else "false".toList
  | .int n => intChars n
  | .float x => x.text
  | .str s => quote s
  | .arr items => '[' :: (textItems items ++ [']'])
  | .obj fields => '{' :: (textFields fields ++ ['}'])

/-- The items of an array. -/
def textItems : List Json → List Char
  | [] => []
  | [x] => x.text
  | x :: y :: xs => x.text ++ ", ".toList ++ textItems (y :: xs)

/-- The items of an object. -/
def textFields : List (String × Json) → List Char
  | [] => []
  | [(k, x)] => quote k ++ ": ".toList ++ x.text
  | (k, x) :: y :: xs => quote k ++ ": ".toList ++ x.text ++ ", ".toList ++ textFields (y :: xs)

end

mutual

/-- The value with the keys of every object in it sorted. -/
def sortKeys : Json → Json
  | .arr items => .arr (sortItems items)
  | .obj fields => .obj (sorted Prod.fst (sortFields fields))
  | x => x

def sortItems : List Json → List Json
  | [] => []
  | x :: xs => x.sortKeys :: sortItems xs

def sortFields : List (String × Json) → List (String × Json)
  | [] => []
  | (k, x) :: xs => (k, x.sortKeys) :: sortFields xs

end

/-- `json.dumps(x)`. -/
def dumps (x : Json) : String := String.ofList x.text

/-- `json.dumps(x, sort_keys=True)`. -/
def dumpsSorted (x : Json) : String := x.sortKeys.dumps

mutual

/-- Whether `json.dumps(x, allow_nan=False)` takes the value: every float in it is finite, and `int.__repr__` writes
every integer. -/
def writable : Json → Bool
  | .int n => (Py.str n).isSome
  | .float .nan | .float (.infinity _) => false
  | .arr items => writableItems items
  | .obj fields => writableFields fields
  | _ => true

def writableItems : List Json → Bool
  | [] => true
  | x :: xs => x.writable && writableItems xs

def writableFields : List (String × Json) → Bool
  | [] => true
  | (_, x) :: xs => x.writable && writableFields xs

end

theorem writableItems_iff : ∀ {items : List Json}, writableItems items = true ↔ ∀ x ∈ items, x.writable = true
  | [] => by simp [writableItems]
  | x :: xs => by
    have ih := @writableItems_iff xs
    simp [writableItems, ih]

theorem writableFields_iff : ∀ {fields : List (String × Json)},
    writableFields fields = true ↔ ∀ e ∈ fields, e.2.writable = true
  | [] => by simp [writableFields]
  | (k, x) :: xs => by
    have ih := @writableFields_iff xs
    simp [writableFields, ih]

example : (obj [("b", arr [int (-3), float (.finite false 25 (-1))]), ("a", str "é\n")]).dumpsSorted =
    "\x7b\"a\": \"\\u00e9\\n\", \"b\": [-3, 2.5]\x7d" := by decide +kernel

end Json

/-! ## Scanning -/

/-- Where a reader of JSON stands: outside strings, after a colon outside strings, inside a string, after a backslash
inside a string. -/
inductive Scan where
  | outside
  | colon
  | inside
  | escape
deriving DecidableEq

namespace Scan

/-- One character. -/
def next : Scan → Char → Option Scan
  | .outside, c =>
    if c = '"' then some .inside else if c = '\\' then none else if c = ':' then some .colon else some .outside
  | .colon, c => if c = ' ' then some .outside else none
  | .inside, c => if c = '"' then some .outside else if c = '\\' then some .escape else some .inside
  | .escape, _ => some .inside

/-- A text. -/
def scan : Scan → List Char → Option Scan
  | q, [] => some q
  | q, c :: cs => (q.next c).bind fun q' => scan q' cs

theorem scan_append : ∀ (q : Scan) (u v : List Char), q.scan (u ++ v) = (q.scan u).bind fun q' => q'.scan v
  | _, [], _ => rfl
  | q, c :: u, v => by
    simp only [List.cons_append, scan, Option.bind_assoc]
    cases q.next c with
    | none => rfl
    | some q' => exact scan_append q' u v

/-- A text that leads back to where it started can be skipped. -/
theorem scan_append_of_eq {q : Scan} {u : List Char} (h : q.scan u = some q) (v : List Char) :
    q.scan (u ++ v) = q.scan v := by
  rw [scan_append, h]; rfl

/-- Characters without a meaning to the reader. -/
def Plain (c : Char) : Prop := c ≠ '"' ∧ c ≠ '\\' ∧ c ≠ ':'

instance (c : Char) : Decidable (Plain c) := inferInstanceAs (Decidable (_ ∧ _ ∧ _))

theorem scan_plain : ∀ {cs : List Char}, (∀ c ∈ cs, Plain c) → outside.scan cs = some .outside
  | [], _ => rfl
  | c :: cs, h => by
    obtain ⟨hquote, hback, hcolon⟩ := h c List.mem_cons_self
    simp only [scan, next, if_neg hquote, if_neg hback, if_neg hcolon, Option.bind_some]
    exact scan_plain fun d hd => h d (List.mem_cons_of_mem _ hd)

theorem plain_of_all {cs : List Char} (h : (cs.all fun c => decide (Plain c)) = true) : ∀ c ∈ cs, Plain c := by
  intro c hc
  exact of_decide_eq_true (List.all_eq_true.mp h c hc)

theorem plain_append {u v : List Char} (hu : ∀ c ∈ u, Plain c) (hv : ∀ c ∈ v, Plain c) : ∀ c ∈ u ++ v, Plain c :=
  fun c hc => (List.mem_append.mp hc).elim (hu c) (hv c)

theorem plain_cons {d : Char} {u : List Char} (hd : Plain d) (hu : ∀ c ∈ u, Plain c) : ∀ c ∈ d :: u, Plain c :=
  fun c hc => (List.mem_cons.mp hc).elim (fun h => h ▸ hd) (hu c)

theorem plain_replicate (n : ℕ) {d : Char} (hd : Plain d) : ∀ c ∈ List.replicate n d, Plain c :=
  fun _ hc => (List.eq_of_mem_replicate hc) ▸ hd

theorem plain_toDigits (n : ℕ) : ∀ c ∈ Nat.toDigits 10 n, Plain c := by
  intro c hc
  have hdigit : c.isDigit = true := Nat.isDigit_of_mem_toDigits (by omega) (by omega) hc
  refine ⟨?_, ?_, ?_⟩ <;> rintro rfl <;> exact absurd hdigit (by decide)

theorem plain_intChars (n : ℤ) : ∀ c ∈ intChars n, Plain c := by
  refine plain_append ?_ (plain_toDigits _)
  split <;> exact plain_of_all rfl

theorem plain_decimalChars (digits : ℕ) (exponent : ℤ) : ∀ c ∈ decimalChars digits exponent, Plain c := by
  have hds := plain_toDigits digits
  have htake : ∀ n, ∀ c ∈ (Nat.toDigits 10 digits).take n, Plain c := fun n c hc => hds c (List.mem_of_mem_take hc)
  have hdrop : ∀ n, ∀ c ∈ (Nat.toDigits 10 digits).drop n, Plain c := fun n c hc => hds c (List.mem_of_mem_drop hc)
  unfold decimalChars
  simp only
  split
  · split
    · exact plain_append (plain_append (plain_of_all rfl) (plain_replicate _ (by decide))) hds
    · split
      · exact plain_append (plain_append hds (plain_replicate _ (by decide))) (plain_of_all rfl)
      · exact plain_append (htake _) (plain_cons (by decide) (hdrop _))
  · refine plain_append (plain_append (htake _) ?_) (plain_cons (by decide) (plain_cons ?_ ?_))
    · split
      · exact fun c hc => absurd hc List.not_mem_nil
      · exact plain_cons (by decide) (hdrop _)
    · split <;> decide
    · split
      · exact plain_cons (by decide) (plain_toDigits _)
      · exact plain_toDigits _

theorem plain_double (x : Double) : ∀ c ∈ x.text, Plain c := by
  cases x with
  | nan => exact plain_of_all rfl
  | infinity negative => cases negative <;> exact plain_of_all rfl
  | finite negative digits exponent =>
    refine plain_append ?_ (plain_decimalChars digits exponent)
    cases negative <;> exact plain_of_all rfl

theorem scan_hex4 (n : ℕ) (cs : List Char) : inside.scan (hex4 n ++ cs) = inside.scan cs := by
  have hdigit : ∀ k : Fin 16, inside.next (Nat.digitChar k) = some .inside := by decide
  have hnext : ∀ m, inside.next (Nat.digitChar (m % 16)) = some .inside := fun m =>
    hdigit ⟨m % 16, Nat.mod_lt _ (by omega)⟩
  simp only [hex4, List.map_cons, List.map_nil, List.cons_append, List.nil_append, scan, hnext, Option.bind_some]

/-- An escaped character keeps the reader inside. -/
theorem scan_escapeChar (c : Char) : inside.scan (escapeChar c) = some .inside := by
  have hunicode : ∀ n cs, inside.scan ('\\' :: 'u' :: hex4 n ++ cs) = inside.scan cs := by
    intro n cs
    show inside.scan (hex4 n ++ cs) = inside.scan cs
    exact scan_hex4 n cs
  unfold escapeChar
  split
  · rfl
  rename_i hquote
  split
  · rfl
  rename_i hback
  repeat (split; · rfl)
  split
  · simp only [scan, next, if_neg hquote, if_neg hback, Option.bind_some]
  split
  · have h := hunicode c.toNat []
    rwa [List.append_nil] at h
  · rw [hunicode]
    have h := hunicode (0xdc00 + (c.toNat - 0x10000) % 0x400) []
    rwa [List.append_nil] at h

/-- A quoted string leads back outside. -/
theorem scan_quote (s : String) : outside.scan (quote s) = some .outside := by
  have hbody : ∀ cs : List Char, inside.scan (cs.flatMap escapeChar) = some .inside := by
    intro cs
    induction cs with
    | nil => rfl
    | cons c cs ih => rw [List.flatMap_cons, scan_append_of_eq (scan_escapeChar c), ih]
  show inside.scan (s.toList.flatMap escapeChar ++ ['"']) = some .outside
  rw [scan_append_of_eq (hbody _)]
  rfl

end Scan

namespace Json

open Scan

theorem scan_key (k : String) (cs : List Char) :
    Scan.outside.scan (quote k ++ ": ".toList ++ cs) = Scan.outside.scan cs := by
  rw [List.append_assoc, scan_append_of_eq (scan_quote k)]
  rfl

theorem scan_comma (cs : List Char) : Scan.outside.scan (", ".toList ++ cs) = Scan.outside.scan cs := rfl

mutual

/-- **Outside strings the text has no backslash, and a blank after every colon.** -/
theorem scan_text : ∀ x : Json, Scan.outside.scan x.text = some .outside
  | .null => rfl
  | .bool b => by cases b <;> rfl
  | .int n => by rw [text]; exact scan_plain (plain_intChars n)
  | .float x => by rw [text]; exact scan_plain (plain_double x)
  | .str s => by rw [text]; exact scan_quote s
  | .arr items => by
    rw [text]
    show Scan.outside.scan (textItems items ++ [']']) = some .outside
    rw [scan_append_of_eq (scan_textItems items)]
    rfl
  | .obj fields => by
    rw [text]
    show Scan.outside.scan (textFields fields ++ ['}']) = some .outside
    rw [scan_append_of_eq (scan_textFields fields)]
    rfl

theorem scan_textItems : ∀ items : List Json, Scan.outside.scan (textItems items) = some .outside
  | [] => rfl
  | [x] => by rw [textItems]; exact scan_text x
  | x :: y :: xs => by
    rw [textItems, List.append_assoc, scan_append_of_eq (scan_text x), scan_comma]
    exact scan_textItems (y :: xs)

theorem scan_textFields : ∀ fields : List (String × Json), Scan.outside.scan (textFields fields) = some .outside
  | [] => rfl
  | [(k, x)] => by rw [textFields, scan_key]; exact scan_text x
  | (k, x) :: y :: xs => by
    rw [textFields, List.append_assoc, List.append_assoc, scan_key, scan_append_of_eq (scan_text x), scan_comma]
    exact scan_textFields (y :: xs)

end

end Json

/-! ## Objects after a colon -/

/-- Two readers of one text stand on opposite sides of its quotes. -/
inductive Opposite : Scan → Scan → Prop
  | insideOutside : Opposite .inside .outside
  | insideColon : Opposite .inside .colon
  | outsideInside : Opposite .outside .inside
  | colonInside : Opposite .colon .inside

namespace Opposite

theorem symm {q q' : Scan} (h : Opposite q q') : Opposite q' q := by
  cases h <;> constructor

/-- A backslash stops the reader outside, so a quote is one to both. -/
theorem next_inside {c : Char} {q' r r' : Scan} (h : Opposite .inside q') (hr : Scan.inside.next c = some r)
    (hr' : q'.next c = some r') : Opposite r r' := by
  cases h with
  | insideOutside =>
    simp only [Scan.next] at hr hr'
    split_ifs at hr hr' <;> cases hr <;> cases hr' <;> constructor
  | insideColon =>
    simp only [Scan.next] at hr'
    split_ifs at hr' with hblank
    subst hblank
    cases hr
    cases hr'
    constructor

theorem next {q q' r r' : Scan} (h : Opposite q q') {c : Char} (hr : q.next c = some r) (hr' : q'.next c = some r') :
    Opposite r r' := by
  cases h with
  | insideOutside => exact next_inside insideOutside hr hr'
  | insideColon => exact next_inside insideColon hr hr'
  | outsideInside => exact (next_inside insideOutside hr' hr).symm
  | colonInside => exact (next_inside insideColon hr' hr).symm

theorem scan : ∀ {cs : List Char} {q q' r r' : Scan}, Opposite q q' → q.scan cs = some r → q'.scan cs = some r' →
    Opposite r r'
  | [], _, _, _, _, h, hr, hr' => by
    cases hr
    cases hr'
    exact h
  | c :: cs, q, q', _, _, h, hr, hr' => by
    obtain ⟨m, hm, hr⟩ := Option.bind_eq_some_iff.mp hr
    obtain ⟨m', hm', hr'⟩ := Option.bind_eq_some_iff.mp hr'
    exact (h.next hm hm').scan hr hr'

end Opposite

namespace Json

/-- No object begins right after a colon in the text of a value. -/
theorem text_ne_append_colon_obj (x : Json) (u : List Char) (fields : List (String × Json)) :
    x.text ≠ u ++ ':' :: (obj fields).text := by
  intro h
  have hx := scan_text x
  rw [h, Scan.scan_append] at hx
  obtain ⟨q, -, hq⟩ := Option.bind_eq_some_iff.mp hx
  -- Whoever stands inside a string at the colon ends up inside one, and not at the end of a value.
  have hinside : Scan.inside.scan (obj fields).text ≠ some .outside := by
    intro hin
    have hopp := Opposite.insideOutside.scan hin (scan_text (obj fields))
    cases hopp
  cases q with
  | outside =>
    rw [text] at hq
    cases hq
  | colon => cases hq
  | inside => exact hinside hq
  | escape => exact hinside hq

/-- **A text followed by a colon and an object is read in one way.** -/
theorem append_colon_obj_inj {u v : List Char} {fields fields' : List (String × Json)}
    (h : u ++ ':' :: (obj fields).text = v ++ ':' :: (obj fields').text) :
    u = v ∧ (obj fields).text = (obj fields').text := by
  rcases append_sep_cases h with heq | ⟨k, -, hk⟩ | ⟨k, -, hk⟩
  · exact heq
  · exact absurd hk (text_ne_append_colon_obj _ k fields')
  · exact absurd hk (text_ne_append_colon_obj _ k fields)

end Json

end Py
