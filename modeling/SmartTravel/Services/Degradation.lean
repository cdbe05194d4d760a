import SmartTravel.Services.HotelAggregation

/-!
# Graceful degradation

`_fan_out` awaits its providers together. `gather` fills one slot for each of them in the order in which they complete,
and hands the results over in the order of the arguments (`gather_eq`), so `fanOut`, which asks one provider after the
other, computes what the services await.

A failing provider shows in the counts of `meta` and nowhere else: the merged offers are those of the providers that
answered (`fanOut_succeeding`), and the rest of the pipeline reads only them (`shown_searchWith`).
-/

namespace Py

variable {α : Type}

/-- One slot for each awaitable of `asyncio.gather`, those in `order` filled with their outcomes. -/
def slots (outcomes : List α) (order : List ℕ) : List (Option α) :=
  order.foldl (fun slots i => slots.set i outcomes[i]?) (List.replicate outcomes.length none)

/-- `await asyncio.gather(...)` when the awaitables complete in `order`: not done while a slot is empty. -/
def gather (outcomes : List α) (order : List ℕ) : Option (List α) := (slots outcomes order).mapM id

theorem slots_snoc (outcomes : List α) (order : List ℕ) (i : ℕ) :
    slots outcomes (order ++ [i]) = (slots outcomes order).set i outcomes[i]? := by
  simp [slots, List.foldl_append]

/-- A slot is filled when its awaitable has completed. -/
theorem getElem?_slots (outcomes : List α) (order : List ℕ) (j : ℕ) (hj : j < outcomes.length) :
    (slots outcomes order)[j]? = some (if j ∈ order then outcomes[j]? else none) := by
  induction order using List.reverseRecOn with
  | nil => simp [slots, hj]
  | append_singleton order i ih =>
    rw [slots_snoc, List.getElem?_set]
    by_cases hi : i = j
    · have hlen : j < (slots outcomes order).length := by
        by_contra hge
        rw [List.getElem?_eq_none (not_lt.mp hge)] at ih
        cases ih
      simp [hi, hlen]
    · have hij : ¬ j = i := fun h => hi h.symm
      simp [hi, hij, ih]

theorem length_slots (outcomes : List α) (order : List ℕ) : (slots outcomes order).length = outcomes.length := by
  induction order using List.reverseRecOn with
  | nil => simp [slots]
  | append_singleton order i ih => rw [slots_snoc, List.length_set, ih]

/-- The results come in the order of the arguments, whatever the order of completion. -/
theorem gather_eq {outcomes : List α} {order : List ℕ} (h : order.Perm (List.range outcomes.length)) :
    gather outcomes order = some outcomes := by
  have hslots : slots outcomes order = outcomes.map some := by
    apply List.ext_getElem?
    intro j
    by_cases hj : j < outcomes.length
    · have hmem : j ∈ order := h.mem_iff.mpr (List.mem_range.mpr hj)
      rw [getElem?_slots outcomes order j hj, if_pos hmem, List.getElem?_map, List.getElem?_eq_getElem hj]
      rfl
    · rw [List.getElem?_eq_none, List.getElem?_eq_none]
      · simpa using hj
      · rw [length_slots]; omega
  rw [gather, hslots]
  clear h hslots
  induction outcomes with
  | nil => rfl
  | cons a outcomes ih => simp [List.mapM_cons, ih]

end Py

namespace SmartTravel

open Py

section
variable {Query Offer Ranked : Type}

/-- The provider answers the query. -/
def Provider.succeeds (query : Query) (p : Provider Query Offer) : Bool := (p.search query).toBool

/-- The offers of its answer. -/
def Provider.answered (query : Query) (p : Provider Query Offer) : List Offer := (p.search query).toOption.getD []

/-- `_fan_out` with its `gather`, when the providers complete in `order`. -/
def fanOutAwaited (providers : List (Provider Query Offer)) (query : Query) (order : List ℕ) :
    Option (List Offer × ℕ × ℕ) :=
  (gather (providers.map (·.search query)) order).map fun results => results.foldl merge ([], 0, 0)

/-- `search` over the awaited results: `searchWith` from `_dedupe` on. -/
def searchAwaited (dedupe : List Offer → List Offer) (keeps : Offer → Bool) (rank : List Offer → List Ranked)
    (sort : List Ranked → Except SearchError (List Ranked)) (providers : List (Provider Query Offer)) (query : Query)
    (order : List ℕ) (limit : ℕ) (cursor : Option String) : Option (Except SearchError (SearchResult Ranked)) :=
  (fanOutAwaited providers query order).map fun merged =>
    match sort (rank ((dedupe merged.1).filter keeps)) with
    | .error e => .error e
    | .ok ordered => respond ordered merged.2.1 merged.2.2 limit cursor

/-- The part of a result that is not about the providers: `items`, `next_cursor`, `has_more`, `meta.total`. -/
def SearchResult.shown (result : SearchResult Ranked) : List Ranked × Option String × Bool × ℕ :=
  (result.items, result.nextCursor, result.hasMore, result.searchMeta.total)

/-! ## The fan-out -/

variable {query : Query}

theorem answered_of_fails {p : Provider Query Offer} (h : p.succeeds query = false) : p.answered query = [] := by
  unfold Provider.succeeds at h
  unfold Provider.answered
  cases hp : p.search query with
  | error e => rfl
  | ok offers => rw [hp] at h; cases h

theorem merge_search (acc : List Offer × ℕ × ℕ) (p : Provider Query Offer) :
    merge acc (p.search query) = (acc.1 ++ p.answered query,
      acc.2.1 + (if p.succeeds query then 1 else 0), acc.2.2 + (if p.succeeds query then 0 else 1)) := by
  unfold Provider.succeeds Provider.answered
  cases p.search query with
  | error e => simp [merge, Except.toBool, Except.toOption]
  | ok offers => simp [merge, Except.toBool, Except.toOption]

/-- What the loop over the results has computed when it is done. -/
theorem foldl_merge : ∀ (providers : List (Provider Query Offer)) (acc : List Offer × ℕ × ℕ),
    (providers.map (·.search query)).foldl merge acc = (acc.1 ++ providers.flatMap (·.answered query),
      acc.2.1 + providers.countP (·.succeeds query), acc.2.2 + providers.countP fun p => !p.succeeds query)
  | [], acc => by simp
  | p :: ps, acc => by
    rw [List.map_cons, List.foldl_cons, foldl_merge ps, merge_search, List.flatMap_cons, List.countP_cons,
      List.countP_cons]
    cases hp : p.succeeds query <;> simp [Nat.add_assoc, Nat.add_comm 1]

theorem fanOut_eq (providers : List (Provider Query Offer)) (query : Query) :
    fanOut providers query = (providers.flatMap (·.answered query), providers.countP (·.succeeds query),
      providers.countP fun p => !p.succeeds query) := by
  rw [fanOut, foldl_merge]
  simp

/-- The merged offers are those of the providers that answer. -/
theorem mem_fanOut_iff {providers : List (Provider Query Offer)} {offer : Offer} :
    offer ∈ (fanOut providers query).1 ↔ ∃ p ∈ providers, ∃ offers, p.search query = .ok offers ∧ offer ∈ offers := by
  rw [fanOut_eq, List.mem_flatMap]
  refine exists_congr fun p => and_congr_right fun _ => ?_
  unfold Provider.answered
  cases p.search query with
  | error e => simp [Except.toOption]
  | ok offers => simp [Except.toOption]

/-- Without the providers that fail, the same offers are merged. -/
theorem fanOut_succeeding (providers : List (Provider Query Offer)) (query : Query) :
    (fanOut (providers.filter (·.succeeds query)) query).1 = (fanOut providers query).1 := by
  rw [fanOut_eq, fanOut_eq]
  show (providers.filter (·.succeeds query)).flatMap (·.answered query) = providers.flatMap (·.answered query)
  induction providers with
  | nil => rfl
  | cons p ps ih =>
    cases hp : p.succeeds query with
    | false => rw [List.filter_cons_of_neg (by simp [hp]), List.flatMap_cons, answered_of_fails hp, List.nil_append, ih]
    | true => rw [List.filter_cons_of_pos hp, List.flatMap_cons, List.flatMap_cons, ih]

/-- Any order of completion gives the merge in the order of the providers. -/
theorem fanOutAwaited_eq {providers : List (Provider Query Offer)} {order : List ℕ}
    (h : order.Perm (List.range providers.length)) :
    fanOutAwaited providers query order = some (fanOut providers query) := by
  have hlen : order.Perm (List.range (providers.map (·.search query)).length) := by rwa [List.length_map]
  rw [fanOutAwaited, gather_eq hlen]
  rfl

/-! ## The pipeline -/

section
variable {dedupe : List Offer → List Offer} {keeps : Offer → Bool} {rank : List Offer → List Ranked}
variable {sort : List Ranked → Except SearchError (List Ranked)} {providers : List (Provider Query Offer)}
variable {order : List ℕ} {limit : ℕ} {cursor : Option String}

theorem searchAwaited_eq (h : order.Perm (List.range providers.length)) :
    searchAwaited dedupe keeps rank sort providers query order limit cursor =
      some (searchWith dedupe keeps rank sort providers query limit cursor) := by
  rw [searchAwaited, fanOutAwaited_eq h]
  rfl

/-- The end of a search shows the counts of the providers in `meta` only. -/
theorem shown_respond (ordered : List Ranked) (ok failed ok' failed' : ℕ) :
    (respond ordered ok failed limit cursor).map SearchResult.shown =
      (respond ordered ok' failed' limit cursor).map SearchResult.shown := by
  unfold respond
  simp only
  split
  · cases encodeCursor (decodeCursor cursor + limit) <;> rfl
  · rfl

/-- What a search shows depends on the merged offers only. -/
theorem shown_searchWith {providers' : List (Provider Query Offer)}
    (h : (fanOut providers' query).1 = (fanOut providers query).1) :
    (searchWith dedupe keeps rank sort providers' query limit cursor).map SearchResult.shown =
      (searchWith dedupe keeps rank sort providers query limit cursor).map SearchResult.shown := by
  simp only [searchWith, h]
  split
  · rfl
  · exact shown_respond _ _ _ _ _

theorem searchMeta_respond {ordered : List Ranked} {ok failed : ℕ} {result : SearchResult Ranked}
    (h : respond ordered ok failed limit cursor = .ok result) :
    result.searchMeta = ⟨decide (0 < failed), ok, failed, ordered.length⟩ := by
  unfold respond at h
  simp only at h
  split at h
  · split at h <;> cases h
    rfl
  · cases h
    rfl

/-- The counts of `meta` are those of the providers. -/
theorem searchMeta_searchWith {result : SearchResult Ranked}
    (h : searchWith dedupe keeps rank sort providers query limit cursor = .ok result) :
    result.searchMeta.providersOk + result.searchMeta.providersFailed = providers.length ∧
      (result.searchMeta.degraded = true ↔ ∃ p ∈ providers, p.succeeds query = false) := by
  simp only [searchWith, fanOut_eq] at h
  split at h
  · cases h
  · rw [searchMeta_respond h]
    refine ⟨?_, ?_⟩
    · have hsplit := List.length_eq_countP_add_countP (Provider.succeeds query) (l := providers)
      simpa using hsplit.symm
    · simp [List.countP_pos_iff]

/-- When all fail there is an empty page and nothing in total. -/
theorem shown_of_all_fail (hdedupe : dedupe [] = []) (hrank : rank [] = []) (hsort : sort [] = .ok [])
    (h : ∀ p ∈ providers, p.succeeds query = false) :
    (searchWith dedupe keeps rank sort providers query limit cursor).map SearchResult.shown =
      .ok ([], none, false, 0) := by
  have hnone : (fanOut providers query).1 = [] := by
    rw [fanOut_eq]
    exact List.flatMap_eq_nil_iff.mpr fun p hp => answered_of_fails (h p hp)
  simp [searchWith, hnone, hdedupe, hrank, hsort, respond, Except.map, SearchResult.shown]

end

theorem succeeds_eq_false_iff {p : Provider Query Offer} :
    p.succeeds query = false ↔ ∃ e, p.search query = .error e := by
  unfold Provider.succeeds
  cases p.search query <;> simp [Except.toBool]

/-- What an awaited search shows. -/
def shownAwaited (answer : Option (Except SearchError (SearchResult Ranked))) :
    Option (Except SearchError (List Ranked × Option String × Bool × ℕ)) := answer.map (·.map SearchResult.shown)

/-- The search completes, and what it says of the providers is right. -/
structure ReportsProviders (providers : List (Provider Query Offer)) (query : Query)
    (answer : Option (Except SearchError (SearchResult Ranked))) : Prop where
  completes : answer.isSome
  counts : ∀ result, answer = some (.ok result) →
    result.searchMeta.providersOk + result.searchMeta.providersFailed = providers.length
  degraded : ∀ result, answer = some (.ok result) →
    (result.searchMeta.degraded = true ↔ ∃ p ∈ providers, ∃ e, p.search query = .error e)

section
variable {dedupe : List Offer → List Offer} {keeps : Offer → Bool} {rank : List Offer → List Ranked}
variable {sort : List Ranked → Except SearchError (List Ranked)} {providers : List (Provider Query Offer)}
variable {order : List ℕ} {limit : ℕ} {cursor : Option String} (horder : order.Perm (List.range providers.length))
include horder

theorem reportsProviders_searchAwaited : ReportsProviders providers query
    (searchAwaited dedupe keeps rank sort providers query order limit cursor) := by
  rw [searchAwaited_eq horder]
  refine ⟨rfl, fun result h => ?_, fun result h => ?_⟩
  · exact (searchMeta_searchWith (Option.some.inj h)).1
  · rw [(searchMeta_searchWith (Option.some.inj h)).2]
    simp only [succeeds_eq_false_iff]

/-- Two orders of completion, one with the failing providers and one without them, show the same. -/
theorem shownAwaited_succeeding {order' : List ℕ}
    (horder' : order'.Perm (List.range (providers.filter (·.succeeds query)).length)) :
    shownAwaited (searchAwaited dedupe keeps rank sort (providers.filter (·.succeeds query)) query order' limit
        cursor) =
      shownAwaited (searchAwaited dedupe keeps rank sort providers query order limit cursor) := by
  rw [searchAwaited_eq horder, searchAwaited_eq horder']
  exact congrArg some (shown_searchWith (fanOut_succeeding providers query))

theorem shownAwaited_all_fail (hdedupe : dedupe [] = []) (hrank : rank [] = []) (hsort : sort [] = .ok [])
    (hnone : providers.filter (·.succeeds query) = []) :
    shownAwaited (searchAwaited dedupe keeps rank sort providers query order limit cursor) =
      some (.ok ([], none, false, 0)) := by
  rw [searchAwaited_eq horder]
  refine congrArg some (shown_of_all_fail hdedupe hrank hsort fun p hp => ?_)
  simpa using List.filter_eq_nil_iff.mp hnone p hp

end

end

/-! ## Both services -/

namespace FlightAggregationService

/-- `search`, when the providers complete in `order`. -/
def searchAwaited (lower : String → String) (service : FlightAggregationService) (query : FlightSearchQuery)
    (order : List ℕ) (sort : SortKey) (filters : Option FlightFilters) (limit : ℕ) (cursor : Option String) :
    Option (Except SearchError (SearchResult RankedFlight)) :=
  SmartTravel.searchAwaited (dedupe lower) ((filters.getD {}).matches lower) rank
    (FlightAggregationService.sort sort) service.providers query order limit cursor

/-- The service configured with only the providers that answer, if any does. -/
def succeeding (service : FlightAggregationService) (query : FlightSearchQuery) : Option FlightAggregationService :=
  if h : service.providers.filter (·.succeeds query) = [] then none
  else some ⟨_, h, (List.length_filter_le _ _).trans service.sized⟩

end FlightAggregationService

namespace HotelAggregationService

/-- `search`, when the providers complete in `order`. -/
def searchAwaited (lower : String → String) (float : ℤ → Except SearchError ℚ) (service : HotelAggregationService)
    (query : HotelSearchQuery) (order : List ℕ) (sort : HotelSortKey) (filters : Option HotelFilters) (limit : ℕ)
    (cursor : Option String) : Option (Except SearchError (SearchResult RankedHotel)) :=
  SmartTravel.searchAwaited (dedupe lower) (filters.getD {}).matches rank (HotelAggregationService.sort float sort)
    service.providers query order limit cursor

/-- The service configured with only the providers that answer, if any does. -/
def succeeding (service : HotelAggregationService) (query : HotelSearchQuery) : Option HotelAggregationService :=
  if h : service.providers.filter (·.succeeds query) = [] then none
  else some ⟨_, h, (List.length_filter_le _ _).trans service.sized⟩

end HotelAggregationService

/-- **Degradation is exact.** Whatever the outcomes of the providers and the order in which they complete, the search
reports how many failed and otherwise shows what the service without them shows; nothing when all of them fail. -/
theorem degradation_exact (lower : String → String) :
    (∀ (service : FlightAggregationService) (query : FlightSearchQuery) (sort : SortKey)
        (filters : Option FlightFilters) (limit : ℕ) (cursor : Option String) (order : List ℕ),
      order.Perm (List.range service.providers.length) →
      let answer := service.searchAwaited lower query order sort filters limit cursor
      ReportsProviders service.providers query answer ∧
        (service.succeeding query = none → shownAwaited answer = some (.ok ([], none, false, 0))) ∧
        ∀ rest order', service.succeeding query = some rest → order'.Perm (List.range rest.providers.length) →
          shownAwaited (rest.searchAwaited lower query order' sort filters limit cursor) = shownAwaited answer) ∧
    (∀ (float : ℤ → Except SearchError ℚ) (service : HotelAggregationService) (query : HotelSearchQuery)
        (sort : HotelSortKey) (filters : Option HotelFilters) (limit : ℕ) (cursor : Option String) (order : List ℕ),
      order.Perm (List.range service.providers.length) →
      let answer := service.searchAwaited lower float query order sort filters limit cursor
      ReportsProviders service.providers query answer ∧
        (service.succeeding query = none → shownAwaited answer = some (.ok ([], none, false, 0))) ∧
        ∀ rest order', service.succeeding query = some rest → order'.Perm (List.range rest.providers.length) →
          shownAwaited (rest.searchAwaited lower float query order' sort filters limit cursor) =
            shownAwaited answer) := by
  constructor
  · intro service query sort filters limit cursor order horder
    refine ⟨reportsProviders_searchAwaited horder, fun hnone => ?_, fun rest order' hrest horder' => ?_⟩
    · have hall : service.providers.filter (·.succeeds query) = [] := by
        simpa [FlightAggregationService.succeeding] using hnone
      refine shownAwaited_all_fail horder rfl rfl ?_ hall
      cases sort <;> rfl
    · simp only [FlightAggregationService.succeeding] at hrest
      split at hrest <;> cases hrest
      exact shownAwaited_succeeding horder horder'
  · intro float service query sort filters limit cursor order horder
    refine ⟨reportsProviders_searchAwaited horder, fun hnone => ?_, fun rest order' hrest horder' => ?_⟩
    · have hall : service.providers.filter (·.succeeds query) = [] := by
        simpa [HotelAggregationService.succeeding] using hnone
      exact shownAwaited_all_fail horder rfl rfl rfl hall
    · simp only [HotelAggregationService.succeeding] at hrest
      split at hrest <;> cases hrest
      exact shownAwaited_succeeding horder horder'

/-- A provider that raises. -/
def failingProvider {Query Offer : Type} : Provider Query Offer :=
  ⟨"b", fun _ => .error "timeout", fun _ _ h => by cases h⟩

/-- Three flight providers, the second of which fails. -/
def degradedFlights : FlightAggregationService :=
  ⟨[staticProvider [sampleFlight "1" "KLM" 300 0] one_le_hundred, failingProvider,
    staticProvider [sampleFlight "2" "ITA" 100 1] one_le_hundred], List.cons_ne_nil _ _, by decide⟩

/-- The same service without the one that fails. -/
def answeringFlights : FlightAggregationService :=
  ⟨[staticProvider [sampleFlight "1" "KLM" 300 0] one_le_hundred,
    staticProvider [sampleFlight "2" "ITA" 100 1] one_le_hundred], List.cons_ne_nil _ _, by decide⟩

/-- A hotel service whose only provider fails. -/
def failingHotels : HotelAggregationService := ⟨[failingProvider], List.cons_ne_nil _ _, one_le_maxSize⟩

/-- The last provider completes first, the failing one last. -/
theorem one_provider_fails :
    (ReportsProviders degradedFlights.providers sampleFlightQuery
        (degradedFlights.searchAwaited asciiLower sampleFlightQuery [2, 0, 1] .price none 1 none) ∧
      shownAwaited (answeringFlights.searchAwaited asciiLower sampleFlightQuery [1, 0] .price none 1 none) =
        shownAwaited (degradedFlights.searchAwaited asciiLower sampleFlightQuery [2, 0, 1] .price none 1 none)) ∧
    shownAwaited (failingHotels.searchAwaited asciiLower (fun n => .ok n) sampleHotelQuery [0] .price none 1 none) =
      some (.ok ([], none, false, 0)) := by
  have hflights := (degradation_exact asciiLower).1 degradedFlights sampleFlightQuery .price none 1 none [2, 0, 1]
    (by decide)
  have hhotels := (degradation_exact asciiLower).2 (fun n => .ok n) failingHotels sampleHotelQuery .price none 1 none
    [0] (by decide)
  exact ⟨⟨hflights.1, hflights.2.2 answeringFlights [1, 0] rfl (by decide)⟩, hhotels.2.1 rfl⟩

end SmartTravel
