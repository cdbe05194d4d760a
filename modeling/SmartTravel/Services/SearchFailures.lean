import SmartTravel.Lib.Binary64
import SmartTravel.Services.Degradation

/-!
# What makes a search raise

The bodies of `_rank` and `_sort` with every exception they can raise. No division of `_rank` raises, whatever the
providers return (`tryRank_eq`): a span of zero is never divided by, and no quotient exceeds one.

Comparing a naive with an aware departure raises, and so does `float` of an integer beyond the range of doubles. A
search returns exactly when the offers that it shows need neither (`search_returns_iff`).
-/

namespace SmartTravel

open Py

/-- The exception of a search as one of Python's. -/
def SearchError.raised : SearchError → PyError
  | .typeError => .typeError
  | .valueError => .valueError
  | .overflowError => .overflowError

/-- `min(xs)`. -/
def tryMin (xs : List ℕ) : Except PyError ℤ :=
  match xs.min? with
  | none => .error .valueError
  | some x => .ok x

/-- `max(xs)`. -/
def tryMax (xs : List ℕ) : Except PyError ℤ :=
  match xs.max? with
  | none => .error .valueError
  | some x => .ok x

/-- `a / b` of integers, the quotient taken as exact. -/
def trueDivide (a b : ℤ) : Except PyError ℚ :=
  if b = 0 then .error .zeroDivisionError
  else if overflowBound ≤ |(a : ℚ) / b| then .error .overflowError
  else .ok (a / b)

/-- `x / span if span else 0.0`. -/
def tryNormalized (x span : ℤ) : Except PyError ℚ := if span = 0 then .ok 0 else trueDivide x span

/-- `float(n)` as a sort key. -/
def pyFloat (n : ℤ) : Except SearchError ℚ :=
  match Binary64.ofInt n with
  | .ok (.finite x) => .ok x
  | _ => .error .overflowError

section
variable {Query Offer Ranked : Type}

/-- `search` with the exceptions of `_rank` too. -/
def trySearchWith (dedupe : List Offer → List Offer) (keeps : Offer → Bool)
    (tryRank : List Offer → Except PyError (List Ranked)) (sort : List Ranked → Except SearchError (List Ranked))
    (providers : List (Provider Query Offer)) (query : Query) (limit : ℕ) (cursor : Option String) :
    Except PyError (SearchResult Ranked) := do
  let (offers, ok, failed) := fanOut providers query
  let ranked ← tryRank ((dedupe offers).filter keeps)
  let ordered ← (sort ranked).mapError SearchError.raised
  (respond ordered ok failed limit cursor).mapError SearchError.raised

end

namespace FlightAggregationService

/-- `_rank` with its exceptions. -/
def tryRank (flights : List NormalizedFlight) : Except PyError (List RankedFlight) :=
  if flights.isEmpty then .ok []
  else do
    let prices := flights.map fun f => f.price.amountMinor
    let durations := flights.map fun f => f.durationMinutes
    let minPrice ← tryMin prices
    let minDuration ← tryMin durations
    let maxStops := (flights.map fun f => f.stops).max?.getD 0
    let priceSpan := (← tryMax prices) - minPrice
    let durationSpan := (← tryMax durations) - minDuration
    flights.mapM fun flight => do
      let priceNorm ← tryNormalized (flight.price.amountMinor - minPrice) priceSpan
      let durationNorm ← tryNormalized (flight.durationMinutes - minDuration) durationSpan
      let stopsNorm ← tryNormalized flight.stops maxStops
      let penalty := 1 / 2 * priceNorm + 3 / 10 * durationNorm + 1 / 5 * stopsNorm
      return ⟨flight, round3 (1 - penalty)⟩

/-- `search` with all its exceptions. -/
def trySearch (lower : String → String) (service : FlightAggregationService) (query : FlightSearchQuery)
    (sort : SortKey) (filters : Option FlightFilters) (limit : ℕ) (cursor : Option String) :
    Except PyError (SearchResult RankedFlight) :=
  trySearchWith (dedupe lower) ((filters.getD {}).matches lower) tryRank (FlightAggregationService.sort sort)
    service.providers query limit cursor

/-- The flights that a search shows: the first cheapest offer of each key, if it passes the filters. -/
def Shows (lower : String → String) (service : FlightAggregationService) (query : FlightSearchQuery)
    (filters : Option FlightFilters) (flight : NormalizedFlight) : Prop :=
  FirstBest (NormalizedFlight.dedupeKey lower) NormalizedFlight.amount (service.offers query) flight ∧
    (filters.getD {}).matches lower flight = true

end FlightAggregationService

namespace HotelAggregationService

/-- `_rank` with its exceptions. -/
def tryRank (hotels : List NormalizedHotel) : Except PyError (List RankedHotel) :=
  if hotels.isEmpty then .ok []
  else do
    let prices := hotels.map fun h => h.pricePerNight.amountMinor
    let minPrice ← tryMin prices
    let priceSpan := (← tryMax prices) - minPrice
    hotels.mapM fun hotel => do
      let priceNorm ← tryNormalized (hotel.pricePerNight.amountMinor - minPrice) priceSpan
      let ratingNorm := hotel.rating / 5
      return ⟨hotel, round3 (3 / 5 * ratingNorm + 2 / 5 * (1 - priceNorm))⟩

/-- `search` with all its exceptions. -/
def trySearch (lower : String → String) (service : HotelAggregationService) (query : HotelSearchQuery)
    (sort : HotelSortKey) (filters : Option HotelFilters) (limit : ℕ) (cursor : Option String) :
    Except PyError (SearchResult RankedHotel) :=
  trySearchWith (dedupe lower) (filters.getD {}).matches tryRank (HotelAggregationService.sort pyFloat sort)
    service.providers query limit cursor

/-- The hotels that a search shows: the first cheapest offer of each key, if it passes the filters. -/
def Shows (lower : String → String) (service : HotelAggregationService) (query : HotelSearchQuery)
    (filters : Option HotelFilters) (hotel : NormalizedHotel) : Prop :=
  FirstBest (NormalizedHotel.dedupeKey lower) NormalizedHotel.amount (service.offers query) hotel ∧
    (filters.getD {}).matches hotel = true

end HotelAggregationService

/-! ## Ranking does not raise -/

theorem tryMin_eq {xs : List ℕ} (h : xs ≠ []) : tryMin xs = .ok (xs.min?.getD 0 : ℕ) := by
  cases hmin : xs.min? with
  | none => exact absurd (List.min?_eq_none_iff.mp hmin) h
  | some x => simp [tryMin, hmin]

theorem tryMax_eq {xs : List ℕ} (h : xs ≠ []) : tryMax xs = .ok (xs.max?.getD 0 : ℕ) := by
  cases hmax : xs.max? with
  | none => exact absurd (List.max?_eq_none_iff.mp hmax) h
  | some x => simp [tryMax, hmax]

theorem min?_getD_le {xs : List ℕ} {x : ℕ} (h : x ∈ xs) : xs.min?.getD 0 ≤ x := by
  cases hmin : xs.min? with
  | none =>
    rw [List.min?_eq_none_iff.mp hmin] at h
    cases h
  | some y => exact (List.min?_eq_some_iff.mp hmin).2 x h

theorem le_max?_getD {xs : List ℕ} {x : ℕ} (h : x ∈ xs) : x ≤ xs.max?.getD 0 := by
  cases hmax : xs.max? with
  | none =>
    rw [List.max?_eq_none_iff.mp hmax] at h
    cases h
  | some y => exact (List.max?_eq_some_iff.mp hmax).2 x h

section
variable {α : Type} (f : α → ℕ) (xs : List α)

theorem min?_getD_cast : (xs.map fun x => (f x : ℚ)).min?.getD 0 = ((xs.map f).min?.getD 0 : ℕ) := by
  cases hmin : (xs.map f).min? with
  | none =>
    rw [List.min?_eq_none_iff, List.map_eq_nil_iff] at hmin
    simp [hmin]
  | some m =>
    obtain ⟨hmem, hle⟩ := List.min?_eq_some_iff.mp hmin
    obtain ⟨x, hx, rfl⟩ := List.mem_map.mp hmem
    have hcast : (xs.map fun x => (f x : ℚ)).min? = some (f x : ℚ) := by
      refine List.min?_eq_some_iff.mpr ⟨List.mem_map_of_mem (f := fun x => (f x : ℚ)) hx, fun b hb => ?_⟩
      obtain ⟨y, hy, rfl⟩ := List.mem_map.mp hb
      exact_mod_cast hle (f y) (List.mem_map_of_mem hy)
    rw [hcast]
    rfl

theorem max?_getD_cast : (xs.map fun x => (f x : ℚ)).max?.getD 0 = ((xs.map f).max?.getD 0 : ℕ) := by
  cases hmax : (xs.map f).max? with
  | none =>
    rw [List.max?_eq_none_iff, List.map_eq_nil_iff] at hmax
    simp [hmax]
  | some m =>
    obtain ⟨hmem, hle⟩ := List.max?_eq_some_iff.mp hmax
    obtain ⟨x, hx, rfl⟩ := List.mem_map.mp hmem
    have hcast : (xs.map fun x => (f x : ℚ)).max? = some (f x : ℚ) := by
      refine List.max?_eq_some_iff.mpr ⟨List.mem_map_of_mem (f := fun x => (f x : ℚ)) hx, fun b hb => ?_⟩
      obtain ⟨y, hy, rfl⟩ := List.mem_map.mp hb
      exact_mod_cast hle (f y) (List.mem_map_of_mem hy)
    rw [hcast]
    rfl

end

/-- A part of a span is divided by it without an exception. -/
theorem tryNormalized_eq {x span : ℤ} (hx : 0 ≤ x) (hspan : x ≤ span) :
    tryNormalized x span = .ok (normalized x span) := by
  unfold tryNormalized normalized
  by_cases hzero : span = 0
  · simp [hzero]
  · have hpos : (0 : ℚ) < span := by exact_mod_cast lt_of_le_of_ne (hx.trans hspan) (Ne.symm hzero)
    have hle : (x : ℚ) ≤ span := by exact_mod_cast hspan
    have hnonneg : (0 : ℚ) ≤ x := by exact_mod_cast hx
    have hone : |(x : ℚ) / span| ≤ 1 := by
      rw [abs_of_nonneg (div_nonneg hnonneg hpos.le)]
      exact (div_le_one hpos).mpr hle
    have hbound : ¬ overflowBound ≤ |(x : ℚ) / span| := by
      have hlarge : (1 : ℚ) < overflowBound := by decide +kernel
      exact not_le.mpr (hone.trans_lt hlarge)
    have hcast : ¬ (span : ℚ) = 0 := hpos.ne'
    rw [if_neg hzero, if_neg hcast, trueDivide, if_neg hzero, if_neg hbound]

theorem mapM_ok {α β ε : Type} {f : α → Except ε β} {g : α → β} :
    ∀ {xs : List α}, (∀ x ∈ xs, f x = .ok (g x)) → xs.mapM f = .ok (xs.map g)
  | [], _ => rfl
  | x :: xs, h => by
    rw [List.mapM_cons, h x List.mem_cons_self, mapM_ok fun y hy => h y (List.mem_cons_of_mem _ hy)]
    rfl

/-- **Ranking flights** raises nothing. -/
theorem FlightAggregationService.tryRank_eq (flights : List NormalizedFlight) :
    tryRank flights = .ok (rank flights) := by
  unfold tryRank
  split
  · rename_i hempty
    rw [List.isEmpty_iff.mp hempty]
    rfl
  · rename_i hempty
    have hne : flights ≠ [] := fun h => hempty (by rw [h]; rfl)
    have hmap : ∀ f : NormalizedFlight → ℕ, flights.map f ≠ [] := fun f => by simpa using hne
    simp only [tryMin_eq (hmap _), tryMax_eq (hmap _)]
    refine mapM_ok fun flight hflight => ?_
    have hprice := List.mem_map_of_mem (f := fun f : NormalizedFlight => f.price.amountMinor) hflight
    have hduration := List.mem_map_of_mem (f := fun f : NormalizedFlight => f.durationMinutes) hflight
    have hstops := List.mem_map_of_mem (f := fun f : NormalizedFlight => f.stops) hflight
    have hlow := min?_getD_le hprice
    have hhigh := le_max?_getD hprice
    have hshort := min?_getD_le hduration
    have hlong := le_max?_getD hduration
    have hmost := le_max?_getD hstops
    rw [tryNormalized_eq (by omega) (by omega), tryNormalized_eq (by omega) (by omega),
      tryNormalized_eq (by omega) (by omega)]
    simp [bind, Except.bind, pure, Except.pure, min?_getD_cast, max?_getD_cast]

/-- **Ranking hotels** raises nothing. -/
theorem HotelAggregationService.tryRank_eq (hotels : List NormalizedHotel) :
    tryRank hotels = .ok (rank hotels) := by
  unfold tryRank
  split
  · rename_i hempty
    rw [List.isEmpty_iff.mp hempty]
    rfl
  · rename_i hempty
    have hne : hotels ≠ [] := fun h => hempty (by rw [h]; rfl)
    have hmap : ∀ f : NormalizedHotel → ℕ, hotels.map f ≠ [] := fun f => by simpa using hne
    simp only [tryMin_eq (hmap _), tryMax_eq (hmap _)]
    refine mapM_ok fun hotel hhotel => ?_
    have hprice := List.mem_map_of_mem (f := fun h : NormalizedHotel => h.pricePerNight.amountMinor) hhotel
    have hlow := min?_getD_le hprice
    have hhigh := le_max?_getD hprice
    rw [tryNormalized_eq (by omega) (by omega)]
    simp [bind, Except.bind, pure, Except.pure, min?_getD_cast, max?_getD_cast]

/-! ## When a search returns -/

section
variable {Query Offer Ranked : Type} {dedupe : List Offer → List Offer} {keeps : Offer → Bool}
variable {rank : List Offer → List Ranked} {tryRank : List Offer → Except PyError (List Ranked)}
variable {sort : List Ranked → Except SearchError (List Ranked)} {providers : List (Provider Query Offer)}

theorem trySearchWith_eq (htry : ∀ xs, tryRank xs = .ok (rank xs)) (query : Query) (limit : ℕ)
    (cursor : Option String) :
    trySearchWith dedupe keeps tryRank sort providers query limit cursor =
      (searchWith dedupe keeps rank sort providers query limit cursor).mapError SearchError.raised := by
  simp only [trySearchWith, searchWith, htry, bind, Except.bind]
  cases sort (rank ((dedupe (fanOut providers query).1).filter keeps)) with
  | error e => rfl
  | ok ordered => rfl

theorem mapError_ok_iff {α ε ε' : Type} {f : ε → ε'} {x : Except ε α} :
    (∃ a, x.mapError f = .ok a) ↔ ∃ a, x = .ok a := by
  cases x <;> simp [Except.mapError]

/-- A search returns when its sort does: ranking raises nothing, and every cursor can be written. -/
theorem trySearchWith_ok_iff (hsize : providers.length ≤ maxSize) (hdedupe : ∀ xs, (dedupe xs).length ≤ xs.length)
    (hrank : ∀ xs, (rank xs).length = xs.length) (htry : ∀ xs, tryRank xs = .ok (rank xs))
    (hperm : ∀ ranked ordered, sort ranked = .ok ordered → ordered.Perm ranked) {query : Query} {limit : ℕ}
    {cursor : Option String} :
    (∃ page, trySearchWith dedupe keeps tryRank sort providers query limit cursor = .ok page) ↔
      ∃ ordered, sort (rank ((dedupe (fanOut providers query).1).filter keeps)) = .ok ordered := by
  rw [trySearchWith_eq htry, mapError_ok_iff]
  cases hsort : sort (rank ((dedupe (fanOut providers query).1).filter keeps)) with
  | error e => simp [searchWith, hsort]
  | ok ordered =>
    have hlen := length_ranked_lt keeps hsize hdedupe hrank query
    rw [← (hperm _ _ hsort).length_eq] at hlen
    obtain ⟨page, hpage, -⟩ := respond_spec ordered (fanOut providers query).2.1 (fanOut providers query).2.2 hlen limit
      cursor
    simp [searchWith, hsort, hpage]

end

namespace FlightAggregationService

variable (lower : String → String) (service : FlightAggregationService) (query : FlightSearchQuery)
variable (filters : Option FlightFilters)

theorem exists_ranked_iff (P : NormalizedFlight → Prop) :
    (∃ r ∈ service.ranked lower query filters, P r.flight) ↔ ∃ f, service.Shows lower query filters f ∧ P f := by
  have hmem : ∀ f, f ∈ (service.ranked lower query filters).map (·.flight) ↔ service.Shows lower query filters f := by
    intro f
    rw [ranked, map_flight_rank, List.mem_filter, dedupe, mem_bestPerKey_iff]
    rfl
  simp only [← hmem, List.mem_map]
  constructor
  · rintro ⟨r, hr, hp⟩
    exact ⟨r.flight, ⟨r, hr, rfl⟩, hp⟩
  · rintro ⟨f, ⟨r, hr, rfl⟩, hp⟩
    exact ⟨r, hr, hp⟩

/-- Only departures of both kinds make the sort raise. -/
theorem sort_ok_iff {sort : SortKey} {ranked : List RankedFlight} :
    (∃ ordered, FlightAggregationService.sort sort ranked = .ok ordered) ↔
      ¬ (sort = .departure ∧ (∃ r ∈ ranked, r.flight.departureTime.isAware = true) ∧
        ∃ r ∈ ranked, r.flight.departureTime.isAware = false) := by
  unfold FlightAggregationService.sort
  simp only [List.any_eq_true, Bool.not_eq_true']
  split
  · rename_i hboth
    simp [hboth]
  · rename_i hnot
    simp [hnot]

/-- The flights that a search shows can be sorted. -/
theorem sort_ranked_ok_iff {sort : SortKey} :
    (∃ ordered, FlightAggregationService.sort sort (service.ranked lower query filters) = .ok ordered) ↔
      ¬ (sort = .departure ∧ (∃ f, service.Shows lower query filters f ∧ f.departureTime.isAware = true) ∧
        ∃ f, service.Shows lower query filters f ∧ f.departureTime.isAware = false) := by
  have hiff := service.exists_ranked_iff lower query filters
  rw [sort_ok_iff, hiff (fun f => f.departureTime.isAware = true), hiff (fun f => f.departureTime.isAware = false)]

end FlightAggregationService

/-- A sort key is the float next to the number, unless this is beyond the floats. -/
theorem pyFloat_eq (n : ℤ) :
    pyFloat n = if overflowBound ≤ |(n : ℚ)| then .error .overflowError else .ok (nearest64 n) := by
  unfold pyFloat Binary64.ofInt
  by_cases h : overflowBound ≤ |(n : ℚ)|
  · rw [if_pos h, if_pos h]
  · rw [if_neg h, if_neg h]

theorem pyFloat_ok_iff {n : ℤ} : (∃ k, pyFloat n = .ok k) ↔ |(n : ℚ)| < overflowBound := by
  rw [pyFloat_eq, ← not_le]
  split
  · rename_i h
    simp [h]
  · rename_i h
    simp [h]

namespace HotelAggregationService

variable (lower : String → String) (service : HotelAggregationService) (query : HotelSearchQuery)
variable (filters : Option HotelFilters)

theorem forall_ranked_iff (P : NormalizedHotel → Prop) :
    (∀ r ∈ service.ranked lower query filters, P r.hotel) ↔ ∀ h, service.Shows lower query filters h → P h := by
  have hmem : ∀ h, h ∈ (service.ranked lower query filters).map (·.hotel) ↔ service.Shows lower query filters h := by
    intro h
    rw [ranked, map_hotel_rank, List.mem_filter, dedupe, mem_bestPerKey_iff]
    rfl
  simp only [← hmem, List.mem_map]
  constructor
  · rintro hall h ⟨r, hr, rfl⟩
    exact hall r hr
  · intro hall r hr
    exact hall r.hotel ⟨r, hr, rfl⟩

/-- Only numbers too large for `float` make the sort raise. -/
theorem keys_ok_iff {sort : HotelSortKey} {r : RankedHotel} :
    (∃ k, keys pyFloat sort r = .ok k) ↔
      (sort = .price → (r.hotel.pricePerNight.amountMinor : ℚ) < overflowBound) ∧
        (sort = .reviews → (r.hotel.reviewsCount : ℚ) < overflowBound) := by
  cases sort with
  | best => simp [keys]
  | price => simp [keys, pyFloat_ok_iff]
  | rating => simp [keys]
  | reviews => simp [keys, pyFloat_ok_iff]

/-- The hotels that a search shows can be sorted. -/
theorem sort_ranked_ok_iff {sort : HotelSortKey} :
    (∃ ordered, HotelAggregationService.sort pyFloat sort (service.ranked lower query filters) = .ok ordered) ↔
      ∀ h, service.Shows lower query filters h →
        (sort = .price → (h.pricePerNight.amountMinor : ℚ) < overflowBound) ∧
          (sort = .reviews → (h.reviewsCount : ℚ) < overflowBound) := by
  refine trySorted_ok_iff.trans ?_
  rw [← service.forall_ranked_iff lower query filters]
  exact forall₂_congr fun r _ => keys_ok_iff

end HotelAggregationService

/-- **When a search returns**, whatever the page: flights unless they are sorted by departure and both a naive and an
aware departure are shown, hotels unless they are sorted by a number that is too large for a float. -/
theorem search_returns_iff (lower : String → String) :
    (∀ (service : FlightAggregationService) (query : FlightSearchQuery) (sort : SortKey)
        (filters : Option FlightFilters) (limit : ℕ) (cursor : Option String),
      (∃ page, service.trySearch lower query sort filters limit cursor = .ok page) ↔
        ¬ (sort = .departure ∧
          (∃ f, service.Shows lower query filters f ∧ f.departureTime.isAware = true) ∧
          ∃ f, service.Shows lower query filters f ∧ f.departureTime.isAware = false)) ∧
    (∀ (service : HotelAggregationService) (query : HotelSearchQuery) (sort : HotelSortKey)
        (filters : Option HotelFilters) (limit : ℕ) (cursor : Option String),
      (∃ page, service.trySearch lower query sort filters limit cursor = .ok page) ↔
        ∀ h, service.Shows lower query filters h →
          (sort = .price → (h.pricePerNight.amountMinor : ℚ) < overflowBound) ∧
            (sort = .reviews → (h.reviewsCount : ℚ) < overflowBound)) := by
  constructor
  · intro service query sort filters limit cursor
    refine (trySearchWith_ok_iff service.sized length_bestPerKey_le FlightAggregationService.length_rank
      FlightAggregationService.tryRank_eq fun _ _ => FlightAggregationService.perm_of_sort).trans ?_
    exact service.sort_ranked_ok_iff lower query filters
  · intro service query sort filters limit cursor
    refine (trySearchWith_ok_iff service.sized length_bestPerKey_le HotelAggregationService.length_rank
      HotelAggregationService.tryRank_eq fun _ _ => trySorted_perm).trans ?_
    exact service.sort_ranked_ok_iff lower query filters

/-! ## Two searches that raise -/

/-- The sample flight with a departure time without offset. -/
def naiveFlight : NormalizedFlight :=
  { sampleFlight "2" "ITA" 100 0 with
    departureTime := { (sampleFlight "2" "ITA" 100 0).departureTime with utcoffset := none } }

/-- One provider tells the offset of its departures, the other does not. -/
def mixedDepartures : FlightAggregationService :=
  ⟨[staticProvider [sampleFlight "1" "KLM" 300 0] one_le_hundred, staticProvider [naiveFlight] one_le_hundred],
    List.cons_ne_nil _ _, by decide⟩

/-- Two valid answers make the sort by departure raise, and one valid price the sort of hotels by price. -/
theorem valid_offers_raise :
    mixedDepartures.trySearch asciiLower sampleFlightQuery .departure none 20 none = .error .typeError ∧
    (staticHotels [sampleHotel "1" "Grand" (10 ^ 400) []] one_le_hundred).trySearch asciiLower sampleHotelQuery .price
      none 20 none = .error .overflowError := by
  constructor <;> decide +kernel

end SmartTravel
