import SmartTravel.Services.Aggregation

/-!
# Hotel aggregation

The steps of `HotelAggregationService`, which mirrors the flight service. Two of its sort keys go through `float`, which
the model takes as a parameter: the conversion of an integer, or the `OverflowError` of one that is too large.
-/

namespace SmartTravel

open Py

/-- `HotelSortKey`. -/
inductive HotelSortKey where
  | best
  | price
  | rating
  | reviews
deriving DecidableEq

/-- `HotelFilters`. -/
structure HotelFilters where
  maxPriceMinor : Option ℤ := none
  minRating : Option ℚ := none
  amenities : List String := []
deriving DecidableEq

/-- `HotelFilters.matches`. -/
def HotelFilters.matches (filters : HotelFilters) (hotel : NormalizedHotel) : Bool :=
  if filters.minRating.any (fun m => decide (hotel.rating < m)) then false
  else if filters.maxPriceMinor.any (fun m => decide ((hotel.pricePerNight.amountMinor : ℤ) > m)) then false
  else filters.amenities.all (fun a => hotel.amenities.contains a)

/-- `RankedHotel`. -/
structure RankedHotel where
  hotel : NormalizedHotel
  score : ℚ
deriving DecidableEq

/-- The de-duplication key of a hotel. -/
def NormalizedHotel.dedupeKey (lower : String → String) (hotel : NormalizedHotel) : String × String :=
  (lower hotel.name, lower hotel.city)

/-- What de-duplication compares. -/
def NormalizedHotel.amount (hotel : NormalizedHotel) : ℕ := hotel.pricePerNight.amountMinor

/-- `HotelAggregationService`; the constructor refuses an empty list of providers. -/
structure HotelAggregationService where
  providers : List HotelProvider
  nonempty : providers ≠ []
  sized : providers.length ≤ maxSize

namespace HotelAggregationService

/-- `_dedupe`. -/
def dedupe (lower : String → String) (hotels : List NormalizedHotel) : List NormalizedHotel :=
  bestPerKey (NormalizedHotel.dedupeKey lower) NormalizedHotel.amount hotels

/-- `_rank`: reward rating, penalise price. -/
def rank (hotels : List NormalizedHotel) : List RankedHotel :=
  let prices := hotels.map (fun h => h.pricePerNight.amountMinor)
  let minPrice : ℚ := prices.min?.getD 0
  let priceSpan := prices.max?.getD 0 - minPrice
  hotels.map fun hotel =>
    let priceNorm := normalized (hotel.pricePerNight.amountMinor - minPrice) priceSpan
    let ratingNorm := hotel.rating / 5
    ⟨hotel, round3 (3 / 5 * ratingNorm + 2 / 5 * (1 - priceNorm))⟩

section
variable (float : ℤ → Except SearchError ℚ)

/-- The `keys` of `_sort`. -/
def keys : HotelSortKey → RankedHotel → Except SearchError ℚ
  | .best, r => .ok (-r.score)
  | .price, r => float r.hotel.pricePerNight.amountMinor
  | .rating, r => .ok (-r.hotel.rating)
  | .reviews, r => float (-r.hotel.reviewsCount)

/-- `_sort`. -/
def sort (sort : HotelSortKey) (ranked : List RankedHotel) : Except SearchError (List RankedHotel) :=
  trySorted (keys float sort) ranked

end

/-- The sort keys as numbers, when `float` is exact. -/
def exactKeys : HotelSortKey → RankedHotel → ℚ
  | .best, r => -r.score
  | .price, r => r.hotel.pricePerNight.amountMinor
  | .rating, r => -r.hotel.rating
  | .reviews, r => -r.hotel.reviewsCount

variable (lower : String → String) (float : ℤ → Except SearchError ℚ)
variable (service : HotelAggregationService) (query : HotelSearchQuery)

/-- The offers the providers that answer return. -/
def offers : List NormalizedHotel := (fanOut service.providers query).1

/-- The ranked list before the sort. -/
def ranked (filters : Option HotelFilters) : List RankedHotel :=
  rank ((dedupe lower (service.offers query)).filter (filters.getD {}).matches)

/-- `search`. -/
def search (sort : HotelSortKey) (filters : Option HotelFilters) (limit : ℕ) (cursor : Option String) :
    Except SearchError (SearchResult RankedHotel) :=
  searchWith (dedupe lower) (filters.getD {}).matches rank (HotelAggregationService.sort float sort) service.providers
    query limit cursor

theorem length_rank (hotels : List NormalizedHotel) : (rank hotels).length = hotels.length := List.length_map ..

theorem map_hotel_rank (hotels : List NormalizedHotel) : (rank hotels).map (·.hotel) = hotels := by
  simp only [rank, List.map_map]
  exact List.map_id'' (fun _ => rfl) hotels

section
variable {float} {sort : HotelSortKey} (hfloat : sort = .price ∨ sort = .reviews → ∀ n : ℤ, float n = .ok n)
include hfloat

/-- Only the sorts by price and by reviews go through `float`; an exact one raises nothing and changes no order. -/
theorem sort_of_exact (ranked : List RankedHotel) :
    HotelAggregationService.sort float sort ranked = .ok (sorted (exactKeys sort) ranked) := by
  apply trySorted_ok
  intro r _
  cases sort with
  | best => rfl
  | price => simp [keys, exactKeys, hfloat (.inl rfl)]
  | rating => rfl
  | reviews => simp [keys, exactKeys, hfloat (.inr rfl)]

/-- Cursors lead through the hotels exactly. -/
theorem exactTraversal_search (filters : Option HotelFilters) :
    ExactTraversal (search lower float service query sort filters) (ranked lower service query filters)
      (exactKeys sort) :=
  exactTraversal_searchWith _ service.sized length_bestPerKey_le length_rank (sort_of_exact hfloat _)

end

end HotelAggregationService

/-! ## Both services -/

/-- **Cursor traversal is exact** for flights with aware departure times and for hotels: for every sort key, filter and
choice of page limits, following the cursors visits one fixed list once. -/
theorem cursor_traversal_exact (lower : String → String) :
    (∀ (service : FlightAggregationService) (query : FlightSearchQuery) (sort : SortKey)
        (filters : Option FlightFilters), (∀ f ∈ service.offers query, f.departureTime.isAware) →
      ExactTraversal (service.search lower query sort filters) (service.ranked lower query filters)
        (FlightAggregationService.keys sort)) ∧
    (∀ (float : ℤ → Except SearchError ℚ) (service : HotelAggregationService) (query : HotelSearchQuery)
        (sort : HotelSortKey) (filters : Option HotelFilters), (∀ n : ℤ, float n = .ok n) →
      ExactTraversal (service.search lower float query sort filters) (service.ranked lower query filters)
        (HotelAggregationService.exactKeys sort)) := by
  constructor
  · intro service query sort filters haware
    exact FlightAggregationService.exactTraversal_search lower service query (fun _ => haware) filters
  · intro float service query sort filters hfloat
    exact HotelAggregationService.exactTraversal_search lower service query (fun _ => hfloat) filters

/-- A hotel in Rome. -/
def sampleHotel (id name : String) (price : ℕ) (amenities : List String) : NormalizedHotel :=
  ⟨id, "a", name, "Rome", 4, 100, ⟨price, "USD"⟩, amenities, by decide +kernel⟩

/-- A hotel service with one such provider. -/
def staticHotels (offers : List NormalizedHotel) (h : offers.length ≤ 100) : HotelAggregationService :=
  ⟨[staticProvider offers h], List.cons_ne_nil _ _, one_le_maxSize⟩

/-- A query for the sample hotels. -/
def sampleHotelQuery : HotelSearchQuery := ⟨"Rome", sampleDate, sampleDate, 2⟩

/-- Three flights of which two have the same price, and two hotels. -/
def threeFlights : FlightAggregationService :=
  staticFlights [sampleFlight "1" "KLM" 300 0, sampleFlight "2" "ITA" 100 1, sampleFlight "3" "THY" 100 0] (by decide)

/-- Two hotels. -/
def twoHotels : HotelAggregationService :=
  staticHotels [sampleHotel "1" "Grand" 90 ["wifi"], sampleHotel "2" "Park" 80 []] (by decide)

/-- Two pages of at most two flights, the ties in their order, and the traversal of two hotels. -/
theorem three_flights_two_pages :
    ExactTraversal (threeFlights.search asciiLower sampleFlightQuery .price none)
      (threeFlights.ranked asciiLower sampleFlightQuery none) (FlightAggregationService.keys .price) ∧
    ExactTraversal (twoHotels.search asciiLower (fun n => .ok n) sampleHotelQuery .price none)
      (twoHotels.ranked asciiLower sampleHotelQuery none) (HotelAggregationService.exactKeys .price) ∧
    (traverse (threeFlights.search asciiLower sampleFlightQuery .price none) 3 (fun _ => 2) none).map
      (·.map fun page => page.items.map (·.flight.id)) = some [["2", "3"], ["1"]] := by
  refine ⟨(cursor_traversal_exact asciiLower).1 threeFlights sampleFlightQuery .price none (by decide +kernel),
    (cursor_traversal_exact asciiLower).2 (fun n => .ok n) twoHotels sampleHotelQuery .price none (fun _ => rfl), ?_⟩
  decide +kernel

end SmartTravel
