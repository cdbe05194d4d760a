import SmartTravel.Services.Search

/-!
# Flight aggregation

The steps of `FlightAggregationService`: de-duplication keeps the cheapest offer of each flight, filtering drops what
the caller did not ask for, ranking scores the rest against each other (in exact rational arithmetic) and the sort is
stable. `lower` stands for `str.lower`.
-/

namespace SmartTravel

open Py

/-- `SortKey`. -/
inductive SortKey where
  | best
  | price
  | duration
  | departure
  | stops
deriving DecidableEq

/-- `FlightFilters`. -/
structure FlightFilters where
  maxPriceMinor : Option ℤ := none
  maxStops : Option ℤ := none
  airlines : List String := []
  directOnly : Bool := false
deriving DecidableEq

/-- `RankedFlight`. -/
structure RankedFlight where
  flight : NormalizedFlight
  score : ℚ
deriving DecidableEq

section
variable (lower : String → String)

/-- `FlightFilters.matches`. -/
def FlightFilters.matches (filters : FlightFilters) (flight : NormalizedFlight) : Bool :=
  if filters.directOnly && !flight.isDirect then false
  else if filters.maxStops.any (fun m => decide ((flight.stops : ℤ) > m)) then false
  else if filters.maxPriceMinor.any (fun m => decide ((flight.price.amountMinor : ℤ) > m)) then false
  else !(!filters.airlines.isEmpty && !filters.airlines.contains (lower flight.airline))

/-- A flight passes when no filter is asked for. -/
theorem matches_default (flight : NormalizedFlight) : FlightFilters.matches lower {} flight = true := by
  simp [FlightFilters.matches]

/-- The de-duplication key of a flight. -/
def NormalizedFlight.dedupeKey (flight : NormalizedFlight) : String × String × String × String :=
  (lower flight.airline, flight.origin, flight.destination, flight.departureTime.isoformat)

end

/-- What de-duplication compares. -/
def NormalizedFlight.amount (flight : NormalizedFlight) : ℕ := flight.price.amountMinor

/-- `FlightAggregationService`; the constructor refuses an empty list of providers. -/
structure FlightAggregationService where
  providers : List FlightProvider
  nonempty : providers ≠ []
  sized : providers.length ≤ maxSize

namespace FlightAggregationService

/-- `_dedupe`. -/
def dedupe (lower : String → String) (flights : List NormalizedFlight) : List NormalizedFlight :=
  bestPerKey (NormalizedFlight.dedupeKey lower) NormalizedFlight.amount flights

/-- `_rank`. -/
def rank (flights : List NormalizedFlight) : List RankedFlight :=
  let prices := flights.map (fun f => f.price.amountMinor)
  let durations := flights.map (fun f => f.durationMinutes)
  let minPrice : ℚ := prices.min?.getD 0
  let minDuration : ℚ := durations.min?.getD 0
  let maxStops : ℚ := (flights.map (fun f => f.stops)).max?.getD 0
  let priceSpan := prices.max?.getD 0 - minPrice
  let durationSpan := durations.max?.getD 0 - minDuration
  flights.map fun flight =>
    let priceNorm := normalized (flight.price.amountMinor - minPrice) priceSpan
    let durationNorm := normalized (flight.durationMinutes - minDuration) durationSpan
    let stopsNorm := normalized flight.stops maxStops
    let penalty := 1 / 2 * priceNorm + 3 / 10 * durationNorm + 1 / 5 * stopsNorm
    ⟨flight, round3 (1 - penalty)⟩

/-- The `keys` of `_sort`. Times of one kind are compared by their position. -/
def keys : SortKey → RankedFlight → ℚ
  | .best, r => -r.score
  | .price, r => r.flight.price.amountMinor
  | .duration, r => r.flight.durationMinutes
  | .departure, r => r.flight.departureTime.position
  | .stops, r => r.flight.stops

/-- `_sort`. A list with naive and aware departures cannot be put in order: some comparison between the two kinds
raises. -/
def sort (sort : SortKey) (ranked : List RankedFlight) : Except SearchError (List RankedFlight) :=
  if sort = .departure ∧ ranked.any (fun r => r.flight.departureTime.isAware) ∧
      ranked.any (fun r => !r.flight.departureTime.isAware) then .error .typeError
  else .ok (sorted (keys sort) ranked)

variable (lower : String → String) (service : FlightAggregationService) (query : FlightSearchQuery)

/-- The offers the providers that answer return. -/
def offers : List NormalizedFlight := (fanOut service.providers query).1

/-- The ranked list before the sort. -/
def ranked (filters : Option FlightFilters) : List RankedFlight :=
  rank ((dedupe lower (service.offers query)).filter ((filters.getD {}).matches lower))

/-- `search`. -/
def search (sort : SortKey) (filters : Option FlightFilters) (limit : ℕ) (cursor : Option String) :
    Except SearchError (SearchResult RankedFlight) :=
  searchWith (dedupe lower) ((filters.getD {}).matches lower) rank (FlightAggregationService.sort sort)
    service.providers query limit cursor

theorem length_rank (flights : List NormalizedFlight) : (rank flights).length = flights.length := List.length_map ..

theorem map_flight_rank (flights : List NormalizedFlight) : (rank flights).map (·.flight) = flights := by
  simp only [rank, List.map_map]
  exact List.map_id'' (fun _ => rfl) flights

/-- The ranked flights are offers. -/
theorem mem_offers_of_mem_ranked (filters : Option FlightFilters) {r : RankedFlight}
    (h : r ∈ ranked lower service query filters) : r.flight ∈ service.offers query := by
  have hflight := List.mem_map_of_mem (f := (·.flight)) h
  rw [ranked, map_flight_rank] at hflight
  exact (firstBest_mem (mem_bestPerKey.mp (List.mem_of_mem_filter hflight))).1

/-- A sort that succeeds permutes. -/
theorem perm_of_sort {key : SortKey} {ranked ordered : List RankedFlight}
    (h : FlightAggregationService.sort key ranked = .ok ordered) : ordered.Perm ranked := by
  unfold FlightAggregationService.sort at h
  split at h
  · cases h
  · cases h
    exact sorted_perm (keys key) ranked

/-- Only the sort by departure can raise, and only when naive departures are on offer. -/
theorem sort_ranked {sort : SortKey} (haware : sort = .departure → ∀ f ∈ service.offers query, f.departureTime.isAware)
    (filters : Option FlightFilters) :
    FlightAggregationService.sort sort (ranked lower service query filters) =
      .ok (sorted (keys sort) (ranked lower service query filters)) := by
  unfold FlightAggregationService.sort
  refine if_neg ?_
  rintro ⟨hsort, -, hnaive⟩
  obtain ⟨r, hr, hrnaive⟩ := List.any_eq_true.mp hnaive
  have hraware := haware hsort _ (mem_offers_of_mem_ranked lower service query filters hr)
  rw [hraware] at hrnaive
  cases hrnaive

/-- A search by price always returns. -/
theorem search_price_ok (filters : Option FlightFilters) (limit : ℕ) (cursor : Option String) :
    ∃ page, search lower service query .price filters limit cursor = .ok page :=
  searchWith_ok _ service.sized length_bestPerKey_le length_rank
    (sort_ranked lower service query (fun h => by cases h) filters) limit cursor

/-- Cursors lead through the flights exactly, unless the sort raises. -/
theorem exactTraversal_search {sort : SortKey}
    (haware : sort = .departure → ∀ f ∈ service.offers query, f.departureTime.isAware)
    (filters : Option FlightFilters) :
    ExactTraversal (search lower service query sort filters) (ranked lower service query filters) (keys sort) :=
  exactTraversal_searchWith _ service.sized length_bestPerKey_le length_rank
    (sort_ranked lower service query haware filters)

end FlightAggregationService

/-! ## Sample flights -/

/-- The tenth of August 2026. -/
def sampleDate : Date := ⟨2026, 8, 10, by decide, by decide, by decide⟩

/-- An hour of that day, in UTC. -/
def sampleTime (hour : Fin 24) : DateTime :=
  ⟨sampleDate, hour, 0, 0, 0, some utc, hour.isLt, by decide, by decide, by decide⟩

/-- A flight from THR to IST. -/
def sampleFlight (id airline : String) (price stops : ℕ) : NormalizedFlight :=
  ⟨id, "a", airline, "THR", "IST", sampleTime 8, sampleTime 10, 120, stops, "economy", ⟨price, "USD"⟩,
    by decide, by decide, by decide⟩

theorem one_le_hundred : 1 ≤ 100 := by decide

/-- A provider that always answers with the same offers, at most a hundred. -/
def staticProvider {Query Offer : Type} (offers : List Offer) (h : offers.length ≤ 100) : Provider Query Offer :=
  ⟨"a", fun _ => .ok offers, fun _ _ he => by cases he; exact h.trans (by decide)⟩

/-- A flight service with one such provider. -/
def staticFlights (offers : List NormalizedFlight) (h : offers.length ≤ 100) : FlightAggregationService :=
  ⟨[staticProvider offers h], List.cons_ne_nil _ _, one_le_maxSize⟩

/-- The query for the sample flights. -/
def sampleFlightQuery : FlightSearchQuery := ⟨"THR", "IST", sampleDate, 1, "economy"⟩

end SmartTravel
