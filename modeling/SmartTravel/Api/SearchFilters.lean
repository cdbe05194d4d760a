import SmartTravel.Services.SearchFailures

/-!
# The filters of the search endpoints

What `GET /flights/search` and `GET /hotels/search` accept as filters, the filters they build from it, and what the
caller asked for (`Asks`), with names compared case-insensitively. The built filters match what was asked
(`matches_iff`); where amenities are asked for this needs offers that write theirs in lower case, as the bundled
provider does.

De-duplication comes before filtering: the cheapest offer of a key stands for the key, and the filter decides on it
alone. What is then shown must still be sorted, which raises for some offers (`filtering_keeps_cheapest`).
-/

namespace SmartTravel

open Py

/-- The filter parameters of `search_flights`. -/
structure FlightFilterParams where
  maxPrice : Option ℕ
  maxStops : Option (Fin 4)
  airlines : Option (List String)
  directOnly : Bool

/-- The filter parameters of `search_hotels`. -/
structure HotelFilterParams where
  maxPrice : Option ℕ
  minRating : Option ℚ
  amenities : Option (List String)
  rating_range : ∀ m ∈ minRating, 0 ≤ m ∧ m ≤ 5

section
variable (lower : String → String)

/-- The `FlightFilters` of a request. -/
def FlightFilterParams.filters (params : FlightFilterParams) : FlightFilters where
  maxPriceMinor := params.maxPrice.map Int.ofNat
  maxStops := params.maxStops.map fun m : Fin 4 => Int.ofNat m.val
  airlines := (params.airlines.getD []).map lower
  directOnly := params.directOnly

/-- The `HotelFilters` of a request. -/
def HotelFilterParams.filters (params : HotelFilterParams) : HotelFilters where
  maxPriceMinor := params.maxPrice.map Int.ofNat
  minRating := params.minRating
  amenities := (params.amenities.getD []).map lower

/-- What the caller asked of a flight. -/
structure FlightFilterParams.Asks (params : FlightFilterParams) (flight : NormalizedFlight) : Prop where
  direct : params.directOnly = true → flight.stops = 0
  stops : ∀ m ∈ params.maxStops, flight.stops ≤ m
  price : ∀ m ∈ params.maxPrice, flight.price.amountMinor ≤ m
  airline : params.airlines.getD [] ≠ [] → ∃ a ∈ params.airlines.getD [], lower a = lower flight.airline

/-- What the caller asked of a hotel. -/
structure HotelFilterParams.Asks (params : HotelFilterParams) (hotel : NormalizedHotel) : Prop where
  rating : ∀ m ∈ params.minRating, m ≤ hotel.rating
  price : ∀ m ∈ params.maxPrice, hotel.pricePerNight.amountMinor ≤ m
  amenities : ∀ a ∈ params.amenities.getD [], ∃ b ∈ hotel.amenities, lower a = lower b

/-- No amenity is asked for, or the hotel writes its own in lower case. -/
def HotelFilterParams.Spelled (params : HotelFilterParams) (hotel : NormalizedHotel) : Prop :=
  params.amenities.getD [] = [] ∨ ∀ a ∈ hotel.amenities, lower a = a

end

variable {lower : String → String}

/-- An upper bound that is given is kept to. -/
theorem not_any_gt_iff {m : Option ℕ} {n : ℕ} :
    (m.map Int.ofNat).any (fun m => decide ((n : ℤ) > m)) = false ↔ ∀ b ∈ m, n ≤ b := by
  cases m <;> simp

/-- A check that returns early with `False`. -/
theorem ite_false_eq_true_iff {b c : Bool} : (if b then false else c) = true ↔ b = false ∧ c = true := by
  cases b <;> simp

/-- The filters of a flight request match what was asked. -/
theorem FlightFilterParams.matches_iff (params : FlightFilterParams) (flight : NormalizedFlight) :
    (params.filters lower).matches lower flight = true ↔ params.Asks lower flight := by
  have hstops : (params.maxStops.map fun m : Fin 4 => Int.ofNat m.val).any
      (fun m => decide ((flight.stops : ℤ) > m)) = false ↔ ∀ m ∈ params.maxStops, flight.stops ≤ m := by
    cases params.maxStops <;> simp
  have hairline : (!(!((params.airlines.getD []).map lower).isEmpty &&
      !((params.airlines.getD []).map lower).contains (lower flight.airline))) = true ↔
      (params.airlines.getD [] ≠ [] → ∃ a ∈ params.airlines.getD [], lower a = lower flight.airline) := by
    simp [List.isEmpty_iff, imp_iff_not_or]
  have hdirect : (params.directOnly && !flight.isDirect) = false ↔ (params.directOnly = true → flight.stops = 0) := by
    cases params.directOnly <;> simp [NormalizedFlight.isDirect]
  have hprice := not_any_gt_iff (m := params.maxPrice) (n := flight.price.amountMinor)
  rw [FlightFilters.matches, ite_false_eq_true_iff, ite_false_eq_true_iff, ite_false_eq_true_iff]
  simp only [filters]
  rw [hdirect, hstops, hprice, hairline]
  constructor
  · rintro ⟨h1, h2, h3, h4⟩
    exact ⟨h1, h2, h3, h4⟩
  · intro h
    exact ⟨h.direct, h.stops, h.price, h.airline⟩

/-- The filters of a hotel request match what was asked of a hotel that writes its amenities in lower case. -/
theorem HotelFilterParams.matches_iff (params : HotelFilterParams) {hotel : NormalizedHotel}
    (hspelled : params.Spelled lower hotel) :
    (params.filters lower).matches hotel = true ↔ params.Asks lower hotel := by
  have hrating : params.minRating.any (fun m => decide (hotel.rating < m)) = false ↔
      ∀ m ∈ params.minRating, m ≤ hotel.rating := by
    cases params.minRating <;> simp
  have hamenities : ((params.amenities.getD []).map lower).all (fun a => hotel.amenities.contains a) = true ↔
      ∀ a ∈ params.amenities.getD [], ∃ b ∈ hotel.amenities, lower a = lower b := by
    rcases hspelled with hnone | hlower
    · simp [hnone]
    · simp only [List.all_map, List.all_eq_true, Function.comp_apply, List.contains_iff_mem]
      refine forall₂_congr fun a _ => ⟨fun h => ⟨_, h, (hlower _ h).symm⟩, ?_⟩
      rintro ⟨b, hb, hab⟩
      rw [hab, hlower b hb]
      exact hb
  have hprice := not_any_gt_iff (m := params.maxPrice) (n := hotel.pricePerNight.amountMinor)
  rw [HotelFilters.matches, ite_false_eq_true_iff, ite_false_eq_true_iff]
  simp only [filters]
  rw [hrating, hprice, hamenities]
  exact ⟨fun ⟨h1, h2, h3⟩ => ⟨h1, h2, h3⟩, fun h => ⟨h.rating, h.price, h.amenities⟩⟩

/-! ## What filtering keeps -/

section
variable {Offer κ : Type} [DecidableEq κ] (key : Offer → κ) (amount : Offer → ℕ)

/-- No key with a matching offer is lost, and a cheapest matching offer is shown for it. -/
def LosesNothing (offers : List Offer) (asks : Offer → Prop) (shown : List Offer) : Prop :=
  (∀ k, k ∈ shown.map key ↔ ∃ f ∈ offers, asks f ∧ key f = k) ∧
    ∀ f ∈ shown, f ∈ offers ∧ asks f ∧ ∀ g ∈ offers, asks g → key g = key f → amount f ≤ amount g

/-- The keys shown are those whose first cheapest offer matches, and that offer is shown; it is then a cheapest matching
offer of its key. -/
def KeepsCheapest (offers : List Offer) (asks : Offer → Prop) (shown : List Offer) : Prop :=
  (∀ k, k ∈ shown.map key ↔ ∃ f, firstBest key amount k offers = some f ∧ asks f) ∧
    ∀ f ∈ shown, firstBest key amount (key f) offers = some f ∧ f ∈ offers ∧ asks f ∧
      ∀ g ∈ offers, asks g → key g = key f → amount f ≤ amount g

variable {key amount}

/-- Filtering the de-duplicated offers, in any order, keeps the cheapest. -/
theorem keepsCheapest_of_perm {offers shown : List Offer} {asks : Offer → Prop} {keeps : Offer → Bool}
    (hkeeps : ∀ f ∈ offers, keeps f = true ↔ asks f)
    (hperm : shown.Perm ((bestPerKey key amount offers).filter keeps)) :
    KeepsCheapest key amount offers asks shown := by
  have hshown : ∀ f, f ∈ shown ↔ firstBest key amount (key f) offers = some f ∧ asks f := by
    intro f
    rw [hperm.mem_iff, List.mem_filter, mem_bestPerKey]
    exact and_congr_right fun h => hkeeps f (firstBest_mem h).1
  constructor
  · intro k
    rw [List.mem_map]
    constructor
    · rintro ⟨f, hf, rfl⟩
      exact ⟨f, (hshown f).mp hf⟩
    · rintro ⟨f, hbest, hasks⟩
      have hk := (firstBest_mem hbest).2
      exact ⟨f, (hshown f).mpr ⟨hk ▸ hbest, hasks⟩, hk⟩
  · intro f hf
    obtain ⟨hbest, hasks⟩ := (hshown f).mp hf
    exact ⟨hbest, (firstBest_mem hbest).1, hasks, fun g hg _ hk => firstBest_le hbest hg hk⟩

end

/-- **Filtering keeps the cheapest offer of a key or the key is dropped**, in the full result of either search. There is
a full result exactly when the sort key can be computed and compared on the offers shown: not for a naive beside an
aware departure, nor for a number that is too large for a float. -/
theorem filtering_keeps_cheapest (lower : String → String) :
    (∀ (service : FlightAggregationService) (query : FlightSearchQuery) (params : FlightFilterParams) (sort : SortKey),
      (∀ result, FullResult (service.search lower query sort (some (params.filters lower))) result →
        KeepsCheapest (NormalizedFlight.dedupeKey lower) NormalizedFlight.amount (service.offers query)
          (params.Asks lower) (result.items.map (·.flight))) ∧
      ((∃ result, FullResult (service.search lower query sort (some (params.filters lower))) result) ↔
        ¬ (sort = .departure ∧
          (∃ f, service.Shows lower query (some (params.filters lower)) f ∧ f.departureTime.isAware = true) ∧
          ∃ f, service.Shows lower query (some (params.filters lower)) f ∧ f.departureTime.isAware = false))) ∧
    (∀ (service : HotelAggregationService) (query : HotelSearchQuery) (params : HotelFilterParams)
        (sort : HotelSortKey),
      (∀ float : ℤ → Except SearchError ℚ, (∀ hotel ∈ service.offers query, params.Spelled lower hotel) →
        ∀ result, FullResult (service.search lower float query sort (some (params.filters lower))) result →
          KeepsCheapest (NormalizedHotel.dedupeKey lower) NormalizedHotel.amount (service.offers query)
            (params.Asks lower) (result.items.map (·.hotel))) ∧
      ((∃ result, FullResult (service.search lower pyFloat query sort (some (params.filters lower))) result) ↔
        ∀ h, service.Shows lower query (some (params.filters lower)) h →
          (sort = .price → (h.pricePerNight.amountMinor : ℚ) < overflowBound) ∧
            (sort = .reviews → (h.reviewsCount : ℚ) < overflowBound))) := by
  constructor
  · intro service query params sort
    refine ⟨fun result hfull => ?_, exists_fullResult_iff.trans (service.sort_ranked_ok_iff lower query _)⟩
    have hperm := (FlightAggregationService.perm_of_sort hfull.sort_eq).map (·.flight)
    rw [FlightAggregationService.map_flight_rank] at hperm
    exact keepsCheapest_of_perm (fun f _ => params.matches_iff f) hperm
  · intro service query params sort
    refine ⟨fun float hspelled result hfull => ?_,
      exists_fullResult_iff.trans (service.sort_ranked_ok_iff lower query _)⟩
    have hperm := (trySorted_perm hfull.sort_eq).map (·.hotel)
    rw [HotelAggregationService.map_hotel_rank] at hperm
    exact keepsCheapest_of_perm (fun h hh => params.matches_iff (hspelled h hh)) hperm

/-- A direct flight and a cheaper offer of the same flight with one stop. -/
def stopUndercutsDirect : FlightAggregationService :=
  staticFlights [sampleFlight "1" "KLM" 200 0, sampleFlight "2" "klm" 100 1] (by decide)

/-- A hotel with wifi and a cheaper offer of the same hotel without. -/
def plainUndercutsWifi : HotelAggregationService :=
  staticHotels [sampleHotel "1" "Grand" 90 ["wifi"], sampleHotel "2" "grand" 80 []] (by decide)

/-- Only direct flights of KLM. -/
def directKlm : FlightFilterParams := ⟨none, none, some ["klm"], true⟩

/-- Only hotels with wifi. -/
def withWifi : HotelFilterParams := ⟨none, none, some ["WiFi"], by simp⟩

/-- The cheaper offer hides the one that matches: nothing is shown although an offer matches, in either search. -/
theorem cheaper_duplicate_hides_match :
    (∃ result, stopUndercutsDirect.search asciiLower sampleFlightQuery .best
        (some (directKlm.filters asciiLower)) 20 none = .ok result ∧ result.hasMore = false ∧
      ¬ LosesNothing (NormalizedFlight.dedupeKey asciiLower) NormalizedFlight.amount
        (stopUndercutsDirect.offers sampleFlightQuery) (directKlm.Asks asciiLower)
        (result.items.map (·.flight))) ∧
    ∃ result, plainUndercutsWifi.search asciiLower pyFloat sampleHotelQuery .best
        (some (withWifi.filters asciiLower)) 20 none = .ok result ∧ result.hasMore = false ∧
      ¬ LosesNothing (NormalizedHotel.dedupeKey asciiLower) NormalizedHotel.amount
        (plainUndercutsWifi.offers sampleHotelQuery) (withWifi.Asks asciiLower) (result.items.map (·.hotel)) := by
  constructor
  · have hsearch : stopUndercutsDirect.search asciiLower sampleFlightQuery .best
        (some (directKlm.filters asciiLower)) 20 none = .ok ⟨[], ⟨false, 1, 0, 0⟩, none, false⟩ := by decide +kernel
    refine ⟨_, hsearch, rfl, ?_⟩
    intro h
    have hasks : directKlm.Asks asciiLower (sampleFlight "1" "KLM" 200 0) :=
      (directKlm.matches_iff _).mp (by decide +kernel)
    have hkey := (h.1 _).mpr ⟨sampleFlight "1" "KLM" 200 0, by decide +kernel, hasks, rfl⟩
    exact List.not_mem_nil hkey
  · have hsearch : plainUndercutsWifi.search asciiLower pyFloat sampleHotelQuery .best
        (some (withWifi.filters asciiLower)) 20 none = .ok ⟨[], ⟨false, 1, 0, 0⟩, none, false⟩ := by decide +kernel
    refine ⟨_, hsearch, rfl, ?_⟩
    intro h
    have hasks : withWifi.Asks asciiLower (sampleHotel "1" "Grand" 90 ["wifi"]) :=
      (withWifi.matches_iff (.inr (by decide +kernel))).mp (by decide +kernel)
    have hkey := (h.1 _).mpr ⟨sampleHotel "1" "Grand" 90 ["wifi"], by decide +kernel, hasks, rfl⟩
    exact List.not_mem_nil hkey

/-- With the stop allowed the cheaper offer is shown; with wifi asked for, nothing is. -/
theorem cheapest_offer_is_kept :
    (∃ result, stopUndercutsDirect.search asciiLower sampleFlightQuery .price
        (some (FlightFilterParams.filters asciiLower ⟨none, some 1, none, false⟩)) 20 none = .ok result ∧
      result.items.map (·.flight.id) = ["2"] ∧
      KeepsCheapest (NormalizedFlight.dedupeKey asciiLower) NormalizedFlight.amount
        (stopUndercutsDirect.offers sampleFlightQuery)
        (FlightFilterParams.Asks asciiLower ⟨none, some 1, none, false⟩) (result.items.map (·.flight))) ∧
    ∃ result, plainUndercutsWifi.search asciiLower pyFloat sampleHotelQuery .price
        (some (withWifi.filters asciiLower)) 20 none = .ok result ∧
      KeepsCheapest (NormalizedHotel.dedupeKey asciiLower) NormalizedHotel.amount
        (plainUndercutsWifi.offers sampleHotelQuery) (withWifi.Asks asciiLower) (result.items.map (·.hotel)) := by
  obtain ⟨hflights, hhotels⟩ := filtering_keeps_cheapest asciiLower
  constructor
  · have hsearch : stopUndercutsDirect.search asciiLower sampleFlightQuery .price
        (some (FlightFilterParams.filters asciiLower ⟨none, some 1, none, false⟩)) 20 none =
        .ok ⟨[⟨sampleFlight "2" "klm" 100 1, 4 / 5⟩], ⟨false, 1, 0, 1⟩, none, false⟩ := by decide +kernel
    exact ⟨_, hsearch, rfl, (hflights stopUndercutsDirect sampleFlightQuery _ .price).1 _ ⟨20, hsearch, rfl⟩⟩
  · have hsearch : plainUndercutsWifi.search asciiLower pyFloat sampleHotelQuery .price
        (some (withWifi.filters asciiLower)) 20 none = .ok ⟨[], ⟨false, 1, 0, 0⟩, none, false⟩ := by decide +kernel
    have hspelled : ∀ hotel ∈ plainUndercutsWifi.offers sampleHotelQuery, withWifi.Spelled asciiLower hotel :=
      fun hotel hhotel => .inr ((by decide +kernel : ∀ h ∈ plainUndercutsWifi.offers sampleHotelQuery,
        ∀ a ∈ h.amenities, asciiLower a = a) hotel hhotel)
    have hkept := (hhotels plainUndercutsWifi sampleHotelQuery withWifi .price).1 pyFloat hspelled
    exact ⟨_, hsearch, hkept _ ⟨20, hsearch, rfl⟩⟩

end SmartTravel
