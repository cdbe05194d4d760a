import SmartTravel.Core.ClientIp
import SmartTravel.Lib.JsonLoads

/-!
# Settings from the environment

`cors_origins` and `trusted_proxy_cidrs` are lists that an operator writes as a JSON array or with commas. `splitList`
decides by the first character. An array of strings reads back because `json.loads` inverts `json.dumps`
(`splitList_dumps`); a list with commas because white space around a text reaches only the ends of its first and last
item (`hops_strip`). Every text is a list with commas (`exists_parts`), and the two notations meet in one place: a list
whose first item starts with a bracket is taken for an array (`splitList_eq_some_iff`).

The validators refuse the shipped secret in staging and production, and a wildcard origin beside credentials anywhere.
They are fields of `AccessSettings`, which `loadSettings` builds.
-/

namespace SmartTravel

open Py

/-- `Environment`. -/
inductive Environment where
  | development
  | test
  | staging
  | production
deriving DecidableEq

/-- A value that validates as `str`. -/
def stringOf? : Json → Option String
  | .str s => some s
  | _ => none

/-- A value that validates as `list[str]`. -/
def stringsOf? : Json → Option (List String)
  | .arr items => items.mapM stringOf?
  | _ => none

/-- `_split_list` on a text, and the validation of the field after it. -/
def splitList (value : String) : Option (List String) :=
  let text := strip value
  if text.toList.head? = some '[' then (Json.loads text).bind stringsOf?
  else some (hops text)

theorem comma_not_space : isSpace ',' = false := by decide

theorem notMem_of_spaces {u : List Char} (hu : ∀ c ∈ u, isSpace c = true) : ',' ∉ u := by
  intro h
  have hspace := hu _ h
  rw [comma_not_space] at hspace
  cases hspace

/-- White space at the ends of a list changes no item. -/
theorem hops_strip (value : String) : hops (strip value) = hops value := by
  obtain ⟨u, v, hu, hv, hsplit⟩ := strip_spec value
  obtain ⟨first, rest, hfirst, hleft⟩ := splitOn_append_left (notMem_of_spaces hu) ((strip value).toList ++ v)
  obtain ⟨init, last, hlast, hright⟩ := splitOn_append_right (notMem_of_spaces hv) (strip value).toList
  have hends : ((value.toList.splitOn ',').map String.ofList).map strip =
      (((strip value).toList.splitOn ',').map String.ofList).map strip := by
    rw [hsplit, List.append_assoc, hleft, hlast, List.map_cons, List.map_cons, strip_spaces_append hu]
    rw [hfirst] at hright
    have hmap : ((first :: rest).map String.ofList).map strip = (((init ++ [last]).map String.ofList).map strip) := by
      rw [hright]
      simp only [List.map_append, List.map_cons, List.map_nil, strip_append_spaces hv]
    exact hmap
  rw [hops, hops, split, split, hends]

/-- An item that both notations can hold: no comma in it and no white space at its ends. -/
structure Plain (item : String) : Prop where
  trimmed : strip item = item
  nonempty : item ≠ ""
  noComma : ',' ∉ item.toList

/-- A text without commas is one item, or none if it is blank. -/
theorem hops_single {value : String} (h : ',' ∉ value.toList) :
    hops value = if strip value = "" then [] else [strip value] := by
  have hsplit : split ',' value = [value] := by
    rw [split, List.splitOn_eq_singleton h, List.map_singleton, String.ofList_toList]
  rw [hops, hsplit]
  by_cases hblank : strip value = "" <;> simp [hblank]

/-! ## The notation of JSON -/

theorem mapM_stringOf? : ∀ {items : List Json} {xs : List String},
    items.mapM stringOf? = some xs ↔ items = xs.map Json.str
  | [], xs => by
    rw [List.mapM_nil]
    cases xs <;> simp
  | x :: items, xs => by
    rw [List.mapM_cons]
    cases xs with
    | nil => cases x <;> cases hrest : items.mapM stringOf? <;> simp [stringOf?]
    | cons y ys =>
      have ih : items.mapM stringOf? = some ys ↔ items = ys.map Json.str := mapM_stringOf?
      rw [List.map_cons, List.cons.injEq, ← ih]
      cases x <;> cases hrest : items.mapM stringOf? <;> simp [stringOf?]

theorem stringsOf?_eq_some_iff {x : Json} {xs : List String} : stringsOf? x = some xs ↔ x = .arr (xs.map .str) := by
  cases x <;> simp [stringsOf?, mapM_stringOf?]

/-- **An array of strings** reads back, whatever the strings. -/
theorem splitList_dumps (xs : List String) : splitList (Json.arr (xs.map .str)).dumps = some xs := by
  have hcanonical : (Json.arr (xs.map .str)).Canonical := by
    refine Json.canonicalItems_iff.mpr fun x hx => ?_
    obtain ⟨s, -, rfl⟩ := List.mem_map.mp hx
    trivial
  have hstrip : strip (Json.arr (xs.map .str)).dumps = (Json.arr (xs.map .str)).dumps :=
    strip_append_cons_concat (by decide) (by decide) _
  have hhead : (Json.arr (xs.map .str)).dumps.toList.head? = some '[' := by
    rw [Json.dumps, String.toList_ofList]
    rfl
  simp only [splitList, hstrip, hhead, if_true, Json.loads_dumps hcanonical, Option.bind_some]
  exact stringsOf?_eq_some_iff.mpr rfl

/-! ## The notation with commas -/

/-- A text of white space. -/
def Spaces (s : String) : Prop := ∀ c ∈ s.toList, isSpace c = true

/-- What stands between two commas: an item with white space around it, or white space alone. -/
structure ListPart where
  before : String
  item : Option String
  after : String
  spaces_before : Spaces before
  plain_item : ∀ x ∈ item, Plain x
  spaces_after : Spaces after

/-- The text of a part. -/
def ListPart.text (p : ListPart) : String := p.before ++ p.item.getD "" ++ p.after

/-- The parts, separated by commas. -/
def commaForm (parts : List ListPart) : String := join ',' (parts.map ListPart.text)

/-- The items of the parts. -/
def itemsOf (parts : List ListPart) : List String := parts.filterMap ListPart.item

/-- The list begins like an array: with an item whose first character is the bracket. -/
def StartsArray (parts : List ListPart) : Prop :=
  ∃ p x, parts.head? = some p ∧ p.item = some x ∧ x.toList.head? = some '['

section
variable (p : ListPart)

theorem ListPart.text_eq :
    p.text = String.ofList (p.before.toList ++ ((p.item.getD "").toList ++ p.after.toList)) := by
  rw [← String.toList_append, ← String.toList_append, String.ofList_toList, ListPart.text, String.append_assoc]

/-- White space around an item is taken away. -/
theorem ListPart.strip_text : strip p.text = p.item.getD "" := by
  rw [p.text_eq, strip_spaces_append p.spaces_before, strip_append_spaces p.spaces_after, String.ofList_toList]
  cases hitem : p.item with
  | none => decide +kernel
  | some x => exact (p.plain_item x hitem).trimmed

theorem ListPart.comma_notMem : ',' ∉ p.text.toList := by
  rw [p.text_eq, String.toList_ofList, List.mem_append, List.mem_append, not_or, not_or]
  refine ⟨notMem_of_spaces p.spaces_before, ?_, notMem_of_spaces p.spaces_after⟩
  cases hitem : p.item with
  | none => exact List.not_mem_nil
  | some x => exact (p.plain_item x hitem).noComma

theorem ListPart.hops_text : hops p.text = p.item.toList := by
  rw [hops_single p.comma_notMem, p.strip_text]
  cases hitem : p.item with
  | none => rfl
  | some x => exact if_neg (p.plain_item x hitem).nonempty

end

/-- A text without commas is a part. -/
theorem exists_part {s : String} (h : ',' ∉ s.toList) : ∃ p : ListPart, p.text = s := by
  obtain ⟨u, v, hu, hv, hsplit⟩ := strip_spec s
  have hplain : ∀ x ∈ (if strip s = "" then none else some (strip s)), Plain x := by
    intro x hx
    split at hx
    · cases hx
    · rename_i hne
      cases hx
      refine ⟨strip_strip s, hne, fun hcomma => h ?_⟩
      rw [hsplit]
      exact List.mem_append_left v (List.mem_append_right u hcomma)
  have hitem : (if strip s = "" then none else some (strip s)).getD "" = strip s := by
    split
    · rename_i hblank
      exact hblank.symm
    · rfl
  refine ⟨⟨String.ofList u, _, String.ofList v, ?_, hplain, ?_⟩, ?_⟩
  · exact fun c hc => hu c (by rwa [String.toList_ofList] at hc)
  · exact fun c hc => hv c (by rwa [String.toList_ofList] at hc)
  · show String.ofList u ++ (if strip s = "" then none else some (strip s)).getD "" ++ String.ofList v = s
    rw [hitem, ← String.toList_inj, String.toList_append, String.toList_append, String.toList_ofList,
      String.toList_ofList, hsplit]

/-- **Every text is a list with commas.** -/
theorem exists_parts (value : String) : ∃ parts, commaForm parts = value := by
  have hparts : ∀ ss : List String, (∀ s ∈ ss, ',' ∉ s.toList) → ∃ parts : List ListPart,
      parts.map ListPart.text = ss := by
    intro ss
    induction ss with
    | nil => exact fun _ => ⟨[], rfl⟩
    | cons s ss ih =>
      intro h
      obtain ⟨p, hp⟩ := exists_part (h s List.mem_cons_self)
      obtain ⟨parts, hrest⟩ := ih fun t ht => h t (List.mem_cons_of_mem s ht)
      exact ⟨p :: parts, by rw [List.map_cons, hp, hrest]⟩
  obtain ⟨parts, htexts⟩ := hparts (split ',' value) fun s hs => by
    obtain ⟨cs, hcs, rfl⟩ := List.mem_map.mp hs
    rw [String.toList_ofList]
    exact notMem_of_mem_splitOn hcs
  exact ⟨parts, by rw [commaForm, htexts, join_split]⟩

theorem hops_commaForm (parts : List ListPart) : hops (commaForm parts) = itemsOf parts := by
  have hall := hops_combined (parts.map ListPart.text)
  rw [combined] at hall
  rw [commaForm, hall, List.flatMap_map, itemsOf, List.filterMap_eq_flatMap_toList]
  exact List.flatMap_congr fun p _ => p.hops_text

/-- **What looks like an array** is a list whose first item begins like one. -/
theorem head?_commaForm (parts : List ListPart) :
    (strip (commaForm parts)).toList.head? = some '[' ↔ StartsArray parts := by
  cases parts with
  | nil =>
    refine ⟨fun h => absurd h (by decide +kernel), ?_⟩
    rintro ⟨p, x, hp, -⟩
    cases hp
  | cons p parts =>
    have hiff : StartsArray (p :: parts) ↔ ∃ x, p.item = some x ∧ x.toList.head? = some '[' := by
      simp [StartsArray]
    rw [hiff]
    cases hitem : p.item with
    | some x =>
      have hplain := p.plain_item x hitem
      obtain ⟨c, cs, hcs⟩ : ∃ c cs, x.toList = c :: cs :=
        List.exists_cons_of_ne_nil fun hnil => hplain.nonempty (String.toList_eq_nil_iff.mp hnil)
      have hspace : isSpace c = false := head?_strip_not x (by rw [hplain.trimmed, hcs]; rfl)
      have hlist : commaForm (p :: parts) = String.ofList (p.before.toList ++
          c :: (cs ++ (join ',' (p.after :: parts.map ListPart.text)).toList)) := by
        rw [commaForm, List.map_cons, ListPart.text, hitem, Option.getD_some, join_append, ← String.toList_inj]
        simp [hcs]
      rw [hlist, head?_strip p.spaces_before hspace]
      simp [hcs]
    | none =>
      simp only [reduceCtorEq, false_and, exists_false, iff_false]
      have htext : p.text = p.before ++ p.after := by rw [ListPart.text, hitem, Option.getD_none, String.append_empty]
      have hspaces : ∀ c ∈ p.text.toList, isSpace c = true := by
        rw [htext, String.toList_append]
        exact fun c hc => (List.mem_append.mp hc).elim (p.spaces_before c) (p.spaces_after c)
      cases parts with
      | nil =>
        have hblank : strip (commaForm [p]) = "" := by
          have hstrip := p.strip_text
          rwa [hitem] at hstrip
        rw [hblank]
        decide
      | cons q parts =>
        have hlist : commaForm (p :: q :: parts) =
            String.ofList (p.text.toList ++ ',' :: (commaForm (q :: parts)).toList) := by
          rw [← String.toList_inj]
          simp [commaForm, join]
        rw [hlist, head?_strip hspaces comma_not_space]
        decide

/-- **A list with commas** reads back, unless its first item makes it look like JSON. -/
theorem splitList_commaForm {parts : List ListPart} (h : ¬ StartsArray parts) :
    splitList (commaForm parts) = some (itemsOf parts) := by
  rw [← head?_commaForm] at h
  simp only [splitList, h, if_false, hops_strip, hops_commaForm]

/-- **What is read**: an array of strings in any spelling of JSON, and every list with commas that does not begin like
an array. -/
theorem splitList_eq_some_iff {value : String} {xs : List String} : splitList value = some xs ↔
    ((strip value).toList.head? = some '[' ∧ Json.loads (strip value) = some (.arr (xs.map .str))) ∨
      ∃ parts, ¬ StartsArray parts ∧ value = commaForm parts ∧ itemsOf parts = xs := by
  obtain ⟨parts, rfl⟩ := exists_parts value
  by_cases hjson : StartsArray parts
  · have hhead := (head?_commaForm parts).mpr hjson
    simp only [splitList, hhead, if_true, true_and, Option.bind_eq_some_iff, stringsOf?_eq_some_iff, exists_eq_right]
    refine ⟨.inl, ?_⟩
    rintro (h | ⟨parts', hnot, hsame, -⟩)
    · exact h
    · rw [hsame] at hhead
      exact absurd ((head?_commaForm parts').mp hhead) hnot
  · have hhead := mt (head?_commaForm parts).mp hjson
    rw [splitList_commaForm hjson, Option.some.injEq]
    constructor
    · exact fun hitems => .inr ⟨parts, hjson, rfl, hitems⟩
    · rintro (⟨h, -⟩ | ⟨parts', -, hsame, hitems⟩)
      · exact absurd h hhead
      · rw [← hitems, ← hops_commaForm, ← hops_commaForm, hsame]

/-! ## Settings -/

/-- `INSECURE_DEFAULT_SECRET`. -/
def insecureDefaultSecret : String := "change-me-in-production-please-32-chars-min"

/-- What the environment sets of the settings that the validators are about. -/
structure RawSettings where
  environment : Environment
  secretKey : Option String
  corsOrigins : Option String
  corsAllowCredentials : Bool
  trustedProxyCidrs : Option String

/-- The settings that the validators are about, with what these refuse ruled out. -/
structure AccessSettings where
  environment : Environment
  secretKey : String
  corsOrigins : List String
  corsAllowCredentials : Bool
  trustedProxyCidrs : List String
  secret_length : 32 ≤ secretKey.length
  secret_changed : environment = .staging ∨ environment = .production → secretKey ≠ insecureDefaultSecret
  origins_explicit : corsAllowCredentials = true → "*" ∉ corsOrigins

/-- A field of a list: its default, or what its text says. -/
def listField (default : List String) (value : Option String) : Option (List String) :=
  match value with
  | none => some default
  | some text => splitList text

/-- `Settings()`; `none` is a `ValidationError`. -/
def loadSettings (raw : RawSettings) : Option AccessSettings :=
  match listField ["http://localhost:3000"] raw.corsOrigins, listField [] raw.trustedProxyCidrs with
  | some origins, some cidrs =>
    let secret := raw.secretKey.getD insecureDefaultSecret
    if h : 32 ≤ secret.length ∧
        (raw.environment = .staging ∨ raw.environment = .production → secret ≠ insecureDefaultSecret) ∧
          (raw.corsAllowCredentials = true → "*" ∉ origins) then
      some ⟨raw.environment, secret, origins, raw.corsAllowCredentials, cidrs, h.1, h.2.1, h.2.2⟩
    else none
  | _, _ => none

/-- A wildcard is refused beside credentials, however the list is written. -/
theorem loadSettings_wildcard {raw : RawSettings} {text : String} {origins : List String}
    (hcredentials : raw.corsAllowCredentials = true) (htext : raw.corsOrigins = some text)
    (hread : splitList text = some origins) (hwildcard : "*" ∈ origins) : loadSettings raw = none := by
  have hfield : listField ["http://localhost:3000"] raw.corsOrigins = some origins := by rw [htext]; exact hread
  unfold loadSettings
  rw [hfield]
  cases listField [] raw.trustedProxyCidrs with
  | none => rfl
  | some cidrs => exact dif_neg fun h => h.2.2 hcredentials hwildcard

/-- **List settings are read back in both notations.** A JSON array of any strings; a list with commas of items without
commas and without white space at their ends, with any white space and empty parts around them, unless the first part
starts like an array. What is read is such a list or an array of strings, and nothing else. And a wildcard in the list
of origins is refused beside credentials in every environment, whatever text it is read from. -/
theorem list_settings_round_trip :
    (∀ xs : List String, splitList (Json.arr (xs.map .str)).dumps = some xs) ∧
    (∀ parts, ¬ StartsArray parts → splitList (commaForm parts) = some (itemsOf parts)) ∧
    (∀ value xs, splitList value = some xs ↔
      ((strip value).toList.head? = some '[' ∧ Json.loads (strip value) = some (.arr (xs.map .str))) ∨
        ∃ parts, ¬ StartsArray parts ∧ value = commaForm parts ∧ itemsOf parts = xs) ∧
    ∀ raw text origins, raw.corsAllowCredentials = true → raw.corsOrigins = some text →
      splitList text = some origins → "*" ∈ origins → loadSettings raw = none :=
  ⟨splitList_dumps, fun _ => splitList_commaForm, fun _ _ => splitList_eq_some_iff, fun _ _ _ => loadSettings_wildcard⟩

theorem spaces_empty : Spaces "" := fun _ hc => absurd hc List.not_mem_nil

theorem spaces_blank : Spaces " " := fun c hc => by
  rw [List.mem_singleton.mp hc]
  decide

theorem plain_origin : Plain "https://a.example" := ⟨by decide +kernel, by decide, by decide⟩

theorem plain_wildcard : Plain "*" := ⟨by decide +kernel, by decide, by decide⟩

/-- Two origins with an empty part between them. -/
def twoOrigins : List ListPart :=
  [⟨"", some "https://a.example", "", spaces_empty, fun _ hx => Option.mem_some_iff.mp hx ▸ plain_origin, spaces_empty⟩,
    ⟨" ", none, "", spaces_blank, fun _ hx => (Option.not_mem_none _ hx).elim, spaces_empty⟩,
    ⟨" ", some "*", "", spaces_blank, fun _ hx => Option.mem_some_iff.mp hx ▸ plain_wildcard, spaces_empty⟩]

/-- They are read back, and refused beside credentials, as is a wildcard in an array with white space in it. -/
theorem two_origins_refused :
    splitList "https://a.example, , *" = some ["https://a.example", "*"] ∧
      loadSettings ⟨.development, none, some "https://a.example, , *", true, none⟩ = none ∧
      loadSettings ⟨.development, none, some "[ \"*\" ]", true, none⟩ = none := by
  obtain ⟨-, hcommas, -, hrefused⟩ := list_settings_round_trip
  have hread : splitList "https://a.example, , *" = some ["https://a.example", "*"] := by
    refine hcommas twoOrigins ?_
    rintro ⟨p, x, hp, hitem, hhead⟩
    cases hp
    cases hitem
    cases hhead
  refine ⟨hread, hrefused _ _ _ rfl rfl hread (by decide), ?_⟩
  exact hrefused _ "[ \"*\" ]" ["*"] rfl rfl (by decide +kernel) (by decide)

end SmartTravel
