import SmartTravel.Lib.BestPerKey
import SmartTravel.Lib.StableSort
import SmartTravel.Domain.Dto
import SmartTravel.Services.Pagination

/-!
# What the two aggregation services share

`FlightAggregationService` and `HotelAggregationService` run the same pipeline: ask every provider, drop those that
fail, de-duplicate, filter, rank, sort and cut one page. `searchWith` is that pipeline with the steps in which they
differ as parameters.

`traverse` is a caller who feeds each `next_cursor` into the next search. `ExactPages` says what it should meet; a list
that fits in memory is traversed exactly (`traverse_respond`), page by page (`respond_spec`).
-/

namespace SmartTravel

open Py

/-- The exceptions that a search can end with. -/
inductive SearchError where
  | typeError
  | valueError
  | overflowError
deriving DecidableEq

/-- `SearchMeta`. -/
structure SearchMeta where
  degraded : Bool
  providersOk : ℕ
  providersFailed : ℕ
  total : ℕ
deriving DecidableEq

/-- `AggregationResult` and `HotelResult`. -/
structure SearchResult (α : Type) where
  items : List α
  searchMeta : SearchMeta
  nextCursor : Option String
  hasMore : Bool
deriving DecidableEq

section
variable {Query Offer Ranked : Type}

/-- One round of the loop of `_fan_out` over the gathered results. -/
def merge (acc : List Offer × ℕ × ℕ) (result : Except String (List Offer)) : List Offer × ℕ × ℕ :=
  match result with
  | .error _ => (acc.1, acc.2.1, acc.2.2 + 1)
  | .ok offers => (acc.1 ++ offers, acc.2.1 + 1, acc.2.2)

/-- `_fan_out`: the merged offers, the number of providers that answered and of those that failed. -/
def fanOut (providers : List (Provider Query Offer)) (query : Query) : List Offer × ℕ × ℕ :=
  (providers.map (·.search query)).foldl merge ([], 0, 0)

/-- `x / span if span else 0.0`. -/
def normalized (x span : ℚ) : ℚ := if span = 0 then 0 else x / span

/-- The end of `search`: cut the page the cursor points at. -/
def respond (ordered : List Ranked) (ok failed limit : ℕ) (cursor : Option String) :
    Except SearchError (SearchResult Ranked) :=
  let offset := decodeCursor cursor
  let page := (ordered.drop offset).take limit
  let info : SearchMeta := ⟨decide (0 < failed), ok, failed, ordered.length⟩
  if offset + limit < ordered.length then
    match encodeCursor (offset + limit) with
    | none => .error .valueError
    | some next => .ok ⟨page, info, some next, true⟩
  else .ok ⟨page, info, none, false⟩

/-- `search`, with the services' own `_dedupe`, `matches`, `_rank` and `_sort`. -/
def searchWith (dedupe : List Offer → List Offer) (keeps : Offer → Bool) (rank : List Offer → List Ranked)
    (sort : List Ranked → Except SearchError (List Ranked)) (providers : List (Provider Query Offer)) (query : Query)
    (limit : ℕ) (cursor : Option String) : Except SearchError (SearchResult Ranked) :=
  match fanOut providers query with
  | (offers, ok, failed) =>
    match sort (rank ((dedupe offers).filter keeps)) with
    | .error e => .error e
    | .ok ordered => respond ordered ok failed limit cursor

end

/-! ## Following the cursors -/

section
variable {α : Type}

/-- Search from `cursor`, then from each `next_cursor`, with one limit per page. `none` when a search fails or the fuel
runs out. -/
def traverse (search : ℕ → Option String → Except SearchError (SearchResult α)) :
    ℕ → (ℕ → ℕ) → Option String → Option (List (SearchResult α))
  | 0, _, _ => none
  | fuel + 1, limits, cursor =>
    match search (limits 0) cursor with
    | .error _ => none
    | .ok result =>
      match result.nextCursor with
      | none => some [result]
      | some next => (traverse search fuel (fun k => limits (k + 1)) (some next)).map (result :: ·)

/-- The pages of an exact traversal of `xs`: all but the last are full and lead on, the last one ends it, every page
knows the total, and together they hold `xs`. -/
structure ExactPages (limits : ℕ → ℕ) (total : ℕ) (xs : List α) (pages : List (SearchResult α)) : Prop where
  shape : ∃ init last, pages = init ++ [last] ∧ last.hasMore = false ∧ last.nextCursor = none ∧
    ∀ k page, init[k]? = some page → page.hasMore = true ∧ page.nextCursor.isSome ∧ page.items.length = limits k
  total_eq : ∀ page ∈ pages, page.searchMeta.total = total
  items_eq : pages.flatMap (·.items) = xs

theorem ExactPages.singleton {limits : ℕ → ℕ} {last : SearchResult α} (hmore : last.hasMore = false)
    (hnext : last.nextCursor = none) : ExactPages limits last.searchMeta.total last.items [last] :=
  ⟨⟨[], last, rfl, hmore, hnext, by simp⟩, by simp, by simp⟩

theorem ExactPages.cons {limits : ℕ → ℕ} {total : ℕ} {xs : List α} {page : SearchResult α}
    {pages : List (SearchResult α)} (h : ExactPages (fun k => limits (k + 1)) total xs pages)
    (hmore : page.hasMore = true) (hnext : page.nextCursor.isSome) (hlen : page.items.length = limits 0)
    (htotal : page.searchMeta.total = total) : ExactPages limits total (page.items ++ xs) (page :: pages) := by
  obtain ⟨⟨init, last, rfl, hlast, hnone, hinit⟩, htot, hitems⟩ := h
  refine ⟨⟨page :: init, last, rfl, hlast, hnone, ?_⟩, ?_, ?_⟩
  · intro k p hk
    cases k with
    | zero =>
      rw [List.getElem?_cons_zero, Option.some.injEq] at hk
      exact hk ▸ ⟨hmore, hnext, hlen⟩
    | succ k => exact hinit k p (by rwa [List.getElem?_cons_succ] at hk)
  · intro p hp
    rcases List.mem_cons.mp hp with rfl | hp
    · exact htotal
    · exact htot p hp
  · rw [List.flatMap_cons, hitems]

/-- The items of a page. -/
theorem items_respond {ordered : List α} {ok failed limit : ℕ} {cursor : Option String} {page : SearchResult α}
    (h : respond ordered ok failed limit cursor = .ok page) :
    page.items = (ordered.drop (decodeCursor cursor)).take limit := by
  unfold respond at h
  simp only at h
  split at h
  · split at h <;> cases h
    rfl
  · cases h
    rfl

variable (ordered : List α) (ok failed : ℕ)

/-- One page: it is full and leads to the rest of the list, or it holds the rest. -/
theorem respond_spec (hsize : ordered.length < 10 ^ maxStrDigits) (limit : ℕ) (cursor : Option String) :
    ∃ page, respond ordered ok failed limit cursor = .ok page ∧ page.searchMeta.total = ordered.length ∧
      ((page.hasMore = false ∧ page.nextCursor = none ∧ page.items = ordered.drop (decodeCursor cursor)) ∨
        ∃ next, page.hasMore = true ∧ page.nextCursor = some next ∧ page.items.length = limit ∧
          decodeCursor (some next) = decodeCursor cursor + limit ∧ decodeCursor (some next) < ordered.length ∧
          page.items ++ ordered.drop (decodeCursor (some next)) = ordered.drop (decodeCursor cursor)) := by
  generalize hoff : decodeCursor cursor = offset
  by_cases hmore : offset + limit < ordered.length
  · obtain ⟨next, hnext⟩ := Option.isSome_iff_exists.mp (encodeCursor_isSome (Nat.lt_trans hmore hsize))
    have hdecode := decodeCursor_encodeCursor hnext
    simp only [respond, hoff, hmore, if_true, hnext]
    refine ⟨_, rfl, rfl, .inr ⟨next, rfl, rfl, ?_, hdecode, hdecode ▸ hmore, ?_⟩⟩
    · rw [List.length_take, List.length_drop]; omega
    · rw [hdecode, ← List.drop_drop, List.take_append_drop]
  · simp only [respond, hoff, hmore, if_false]
    refine ⟨_, rfl, rfl, .inl ⟨rfl, rfl, ?_⟩⟩
    apply List.take_of_length_le
    rw [List.length_drop]; omega

theorem traverse_last {search : ℕ → Option String → Except SearchError (SearchResult α)} {limits : ℕ → ℕ}
    {cursor : Option String} {page : SearchResult α} (hpage : search (limits 0) cursor = .ok page)
    (hnext : page.nextCursor = none) {fuel : ℕ} (hfuel : 0 < fuel) :
    traverse search fuel limits cursor = some [page] := by
  obtain ⟨fuel, rfl⟩ := Nat.exists_eq_succ_of_ne_zero (by omega : fuel ≠ 0)
  simp only [traverse, hpage, hnext]

theorem traverse_next {search : ℕ → Option String → Except SearchError (SearchResult α)} {limits : ℕ → ℕ}
    {cursor : Option String} {page : SearchResult α} {next : String} (hpage : search (limits 0) cursor = .ok page)
    (hnext : page.nextCursor = some next) {n : ℕ} {pages : List (SearchResult α)}
    (hrest : ∀ fuel, n < fuel → traverse search fuel (fun k => limits (k + 1)) (some next) = some pages) {fuel : ℕ}
    (hfuel : n + 1 < fuel) : traverse search fuel limits cursor = some (page :: pages) := by
  obtain ⟨fuel, rfl⟩ := Nat.exists_eq_succ_of_ne_zero (by omega : fuel ≠ 0)
  simp only [traverse, hpage, hnext, hrest fuel (by omega), Option.map_some]

/-- **Traversal from any cursor** visits the rest of the list, with fuel for one page per item left. -/
theorem traverse_respond (hsize : ordered.length < 10 ^ maxStrDigits) :
    ∀ (n : ℕ) (limits : ℕ → ℕ) (cursor : Option String), (∀ k, 1 ≤ limits k) →
      ordered.length - decodeCursor cursor ≤ n →
      ∃ pages, (∀ fuel, n < fuel → traverse (respond ordered ok failed) fuel limits cursor = some pages) ∧
        ExactPages limits ordered.length (ordered.drop (decodeCursor cursor)) pages := by
  intro n
  induction n with
  | zero =>
    intro limits cursor hlim hn
    obtain ⟨page, hpage, htotal, ⟨hmore, hnext, hitems⟩ | ⟨next, -, -, -, hdecode, hlt, -⟩⟩ :=
      respond_spec ordered ok failed hsize (limits 0) cursor
    · exact ⟨[page], fun _ => traverse_last hpage hnext, htotal ▸ hitems ▸ ExactPages.singleton hmore hnext⟩
    · omega
  | succ n ih =>
    intro limits cursor hlim hn
    have h0 := hlim 0
    obtain ⟨page, hpage, htotal, ⟨hmore, hnext, hitems⟩ | ⟨next, hmore, hnext, hlen, hdecode, hlt, hitems⟩⟩ :=
      respond_spec ordered ok failed hsize (limits 0) cursor
    · exact ⟨[page], fun _ hfuel => traverse_last hpage hnext (by omega),
        htotal ▸ hitems ▸ ExactPages.singleton hmore hnext⟩
    · obtain ⟨pages, hrun, hexact⟩ := ih (fun k => limits (k + 1)) (some next) (fun k => hlim (k + 1)) (by omega)
      exact ⟨page :: pages, fun _ => traverse_next hpage hnext hrun,
        hitems ▸ hexact.cons hmore (by rw [hnext]; rfl) hlen htotal⟩

end

/-! ## Traversing a search -/

section
variable {Query Offer Ranked : Type}

/-- Each provider adds one list, of at most `maxSize` offers. -/
theorem length_fanOut_le (query : Query) (providers : List (Provider Query Offer)) :
    (fanOut providers query).1.length ≤ providers.length * maxSize := by
  induction providers using List.reverseRecOn with
  | nil => simp [fanOut]
  | append_singleton ps p ih =>
    have hstep : fanOut (ps ++ [p]) query = merge (fanOut ps query) (p.search query) := by
      simp [fanOut, List.foldl_append]
    rw [hstep, List.length_append, List.length_singleton, Nat.add_mul, Nat.one_mul]
    cases hp : p.search query with
    | error e => exact Nat.le_add_right_of_le ih
    | ok offers =>
      have hlen := p.sized query offers hp
      simp only [merge, List.length_append]
      omega

/-- The full result: a search from the start that has no more to show. -/
def FullResult (search : ℕ → Option String → Except SearchError (SearchResult Ranked)) (result : SearchResult Ranked) :
    Prop := ∃ limit, search limit none = .ok result ∧ result.hasMore = false

/-- The full result holds the whole sorted list. -/
theorem FullResult.sort_eq {dedupe : List Offer → List Offer} {keeps : Offer → Bool} {rank : List Offer → List Ranked}
    {sort : List Ranked → Except SearchError (List Ranked)} {providers : List (Provider Query Offer)} {query : Query}
    {result : SearchResult Ranked} (h : FullResult (searchWith dedupe keeps rank sort providers query) result) :
    sort (rank ((dedupe (fanOut providers query).1).filter keeps)) = .ok result.items := by
  obtain ⟨limit, h, hmore⟩ := h
  simp only [searchWith] at h
  split at h
  · cases h
  · rename_i ordered hsort
    have hzero : decodeCursor none = 0 := rfl
    simp only [respond, hzero, Nat.zero_add, List.drop_zero] at h
    split at h
    · -- The list goes on after this page, which contradicts `hmore`.
      split at h
      · cases h
      · cases h; cases hmore
    · cases h
      rw [hsort, List.take_of_length_le (by omega)]

/-- There is a full result exactly when the sort succeeds: a page with room for all of the list is one. -/
theorem exists_fullResult_iff {dedupe : List Offer → List Offer} {keeps : Offer → Bool}
    {rank : List Offer → List Ranked} {sort : List Ranked → Except SearchError (List Ranked)}
    {providers : List (Provider Query Offer)} {query : Query} :
    (∃ result, FullResult (searchWith dedupe keeps rank sort providers query) result) ↔
      ∃ ordered, sort (rank ((dedupe (fanOut providers query).1).filter keeps)) = .ok ordered := by
  constructor
  · rintro ⟨result, hfull⟩
    exact ⟨result.items, hfull.sort_eq⟩
  · rintro ⟨ordered, hsort⟩
    have hzero : decodeCursor none = 0 := rfl
    have hpage : ∃ result, searchWith dedupe keeps rank sort providers query ordered.length none = .ok result ∧
        result.hasMore = false := by
      simp only [searchWith, hsort, respond, hzero, Nat.zero_add, lt_irrefl, if_false]
      exact ⟨_, rfl, rfl⟩
    obtain ⟨result, hresult⟩ := hpage
    exact ⟨result, _, hresult⟩

/-- Every choice of page limits leads through one fixed list: the ranked offers, sorted by `key` with ties in their
order. -/
def ExactTraversal (search : ℕ → Option String → Except SearchError (SearchResult Ranked)) (ranked : List Ranked)
    (key : Ranked → ℚ) : Prop :=
  ∃ ordered : List Ranked, ordered.Perm ranked ∧ ordered.Pairwise (fun a b => key a ≤ key b) ∧
    (∀ v, ordered.filter (fun r => key r = v) = ranked.filter (fun r => key r = v)) ∧
    ∀ limits : ℕ → ℕ, (∀ k, 1 ≤ limits k) →
      ∃ n pages, (∀ fuel, n < fuel → traverse search fuel limits none = some pages) ∧
        ExactPages limits ordered.length ordered pages

section
variable {dedupe : List Offer → List Offer} (keeps : Offer → Bool) {rank : List Offer → List Ranked}
variable {sort : List Ranked → Except SearchError (List Ranked)} {providers : List (Provider Query Offer)}
variable (hsize : providers.length ≤ maxSize) (hdedupe : ∀ xs, (dedupe xs).length ≤ xs.length)
variable (hrank : ∀ xs, (rank xs).length = xs.length)
include hsize hdedupe hrank

/-- Every offset into the ranked list can be written in a cursor. -/
theorem length_ranked_lt (query : Query) :
    (rank ((dedupe (fanOut providers query).1).filter keeps)).length < 10 ^ maxStrDigits := by
  calc (rank ((dedupe (fanOut providers query).1).filter keeps)).length
      ≤ (dedupe (fanOut providers query).1).length := by
        rw [hrank]
        exact List.length_filter_le _ _
    _ ≤ (fanOut providers query).1.length := hdedupe _
    _ ≤ providers.length * maxSize := length_fanOut_le query providers
    _ ≤ maxSize * maxSize := Nat.mul_le_mul_right _ hsize
    _ < 10 ^ maxStrDigits := by decide +kernel

variable {query : Query} {key : Ranked → ℚ}
variable (hsort : sort (rank ((dedupe (fanOut providers query).1).filter keeps)) =
  .ok (sorted key (rank ((dedupe (fanOut providers query).1).filter keeps))))
include hsort

/-- A search whose sort succeeds returns a page. -/
theorem searchWith_ok (limit : ℕ) (cursor : Option String) :
    ∃ page, searchWith dedupe keeps rank sort providers query limit cursor = .ok page := by
  have hlen := length_ranked_lt keeps hsize hdedupe hrank query
  rw [← (sorted_perm key _).length_eq] at hlen
  obtain ⟨page, hpage, -⟩ := respond_spec _ (fanOut providers query).2.1 (fanOut providers query).2.2 hlen limit cursor
  refine ⟨page, ?_⟩
  simp only [searchWith, hsort, hpage]

/-- **A search whose sort succeeds is traversed exactly.** -/
theorem exactTraversal_searchWith : ExactTraversal (searchWith dedupe keeps rank sort providers query)
    (rank ((dedupe (fanOut providers query).1).filter keeps)) key := by
  have hlen := length_ranked_lt keeps hsize hdedupe hrank query
  rw [← (sorted_perm key _).length_eq] at hlen
  have hsearch : searchWith dedupe keeps rank sort providers query =
      respond (sorted key (rank ((dedupe (fanOut providers query).1).filter keeps))) (fanOut providers query).2.1
        (fanOut providers query).2.2 := by
    funext limit cursor
    simp only [searchWith, hsort]
  rw [hsearch]
  generalize rank ((dedupe (fanOut providers query).1).filter keeps) = ranked at hlen
  refine ⟨sorted key ranked, sorted_perm key ranked, sorted_pairwise key ranked, filter_sorted key ranked, ?_⟩
  intro limits hlim
  have hrun := traverse_respond (sorted key ranked) (fanOut providers query).2.1 (fanOut providers query).2.2 hlen
    (sorted key ranked).length limits none hlim (Nat.sub_le _ _)
  obtain ⟨pages, hpages, hexact⟩ := hrun
  exact ⟨_, pages, hpages, hexact⟩

end

end

end SmartTravel
