import Mathlib.Data.List.Pairwise
import SmartTravel.Services.SearchFailures

/-!
# De-duplication and the order of the offers

`_dedupe` keeps one offer per key, in the order of the keys, and the amounts that it keeps do not depend on the order in
which the offers come. For flights, prices in order are then the same for every order of the offers. Hotels are sorted
by `float` of the price: two prices that are the same float come in the order of the providers (`dedupe_order_iff`).

The key of a flight is made of texts, the departure as `isoformat` writes it, and its price is a number without the
currency. So one flight is listed once, and displaced only by a cheaper offer, when its offers agree in the text of the
departure and in the currency (`listed_once_iff`).
-/

namespace SmartTravel

open Py

section
variable {Query Offer Ranked : Type}

/-- `search` from the merged offers on. -/
def searchMerged (dedupe : List Offer → List Offer) (keeps : Offer → Bool) (rank : List Offer → List Ranked)
    (sort : List Ranked → Except SearchError (List Ranked)) (ok failed : ℕ) (offers : List Offer) (limit : ℕ)
    (cursor : Option String) : Except SearchError (SearchResult Ranked) :=
  match sort (rank ((dedupe offers).filter keeps)) with
  | .error e => .error e
  | .ok ordered => respond ordered ok failed limit cursor

end

/-- `FlightAggregationService.search` from the merged offers on. -/
def FlightAggregationService.searchOffers (lower : String → String) (ok failed : ℕ) (filters : Option FlightFilters)
    (sort : SortKey) (offers : List NormalizedFlight) (limit : ℕ) (cursor : Option String) :
    Except SearchError (SearchResult RankedFlight) :=
  searchMerged (dedupe lower) ((filters.getD {}).matches lower) rank (FlightAggregationService.sort sort) ok failed
    offers limit cursor

/-- `HotelAggregationService.search` from the merged offers on. -/
def HotelAggregationService.searchOffers (lower : String → String) (ok failed : ℕ) (filters : Option HotelFilters)
    (sort : HotelSortKey) (offers : List NormalizedHotel) (limit : ℕ) (cursor : Option String) :
    Except SearchError (SearchResult RankedHotel) :=
  searchMerged (dedupe lower) (filters.getD {}).matches rank (HotelAggregationService.sort pyFloat sort) ok failed
    offers limit cursor

theorem FlightAggregationService.search_eq (lower : String → String) (service : FlightAggregationService)
    (query : FlightSearchQuery) (sort : SortKey) (filters : Option FlightFilters) (limit : ℕ) (cursor : Option String) :
    service.search lower query sort filters limit cursor =
      searchOffers lower (fanOut service.providers query).2.1 (fanOut service.providers query).2.2 filters sort
        (service.offers query) limit cursor := rfl

theorem HotelAggregationService.search_eq (lower : String → String) (service : HotelAggregationService)
    (query : HotelSearchQuery) (sort : HotelSortKey) (filters : Option HotelFilters) (limit : ℕ)
    (cursor : Option String) :
    service.search lower pyFloat query sort filters limit cursor =
      searchOffers lower (fanOut service.providers query).2.1 (fanOut service.providers query).2.2 filters sort
        (service.offers query) limit cursor := rfl

/-! ## What does not depend on the order -/

/-- De-duplication of `xs` is exact, and an unfiltered search shows the same whatever the order of the offers: the keys
in the order of their first occurrence, each with the first of its cheapest offers; and in another order the same pairs
of key and amount, the same total, and the same prices in a search by price. -/
structure OrderInsensitive {Offer Ranked κ Key : Type} [DecidableEq κ] (key : Offer → κ) (amount : Offer → ℕ)
    (dedupe : List Offer → List Offer)
    (search : Key → List Offer → ℕ → Option String → Except SearchError (SearchResult Ranked)) (byPrice : Key)
    (price : Ranked → ℕ) (xs : List Offer) : Prop where
  keys_eq : (dedupe xs).map key = (xs.map key).eraseDups
  first_best : ∀ x ∈ dedupe xs, FirstBest key amount xs x
  idempotent : dedupe (dedupe xs) = dedupe xs
  same_pairs : ∀ ys, ys.Perm xs →
    ((dedupe ys).map fun x => (key x, amount x)).Perm ((dedupe xs).map fun x => (key x, amount x))
  same_total : ∀ ys, ys.Perm xs → ∀ sort limit cursor limit' cursor' result result',
    search sort ys limit cursor = .ok result → search sort xs limit' cursor' = .ok result' →
      result.searchMeta.total = result'.searchMeta.total
  same_prices : ∀ ys, ys.Perm xs → ∀ limit cursor,
    (search byPrice ys limit cursor).map (fun result => result.items.map price) =
      (search byPrice xs limit cursor).map (fun result => result.items.map price)

section
variable {Offer Ranked κ : Type} [DecidableEq κ] {key : Offer → κ} {amount : Offer → ℕ} {keeps : Offer → Bool}
variable {rank : List Offer → List Ranked} {sort : List Ranked → Except SearchError (List Ranked)} {ok failed : ℕ}
variable {price : Ranked → ℕ}

theorem total_searchMerged {dedupe : List Offer → List Offer} (hrank : ∀ xs, (rank xs).length = xs.length)
    (hperm : ∀ ranked ordered, sort ranked = .ok ordered → ordered.Perm ranked) {offers : List Offer} {limit : ℕ}
    {cursor : Option String} {result : SearchResult Ranked}
    (h : searchMerged dedupe keeps rank sort ok failed offers limit cursor = .ok result) :
    result.searchMeta.total = ((dedupe offers).filter keeps).length := by
  unfold searchMerged at h
  split at h
  · cases h
  · rename_i ordered hsort
    rw [searchMeta_respond h, (hperm _ _ hsort).length_eq, hrank]

/-- Prices are cut into pages like the items they belong to. -/
theorem items_respond_map (ordered : List Ranked) (limit : ℕ) (cursor : Option String) :
    (respond (ordered.map price) ok failed limit cursor).map (·.items) =
      (respond ordered ok failed limit cursor).map (fun result => result.items.map price) := by
  have hpage : ((ordered.map price).drop (decodeCursor cursor)).take limit =
      ((ordered.drop (decodeCursor cursor)).take limit).map price := by
    rw [List.map_take, List.map_drop]
  simp only [respond, List.length_map, hpage]
  split
  · cases encodeCursor (decodeCursor cursor + limit) <;> rfl
  · rfl

/-- A page with room for all. -/
theorem respond_all {α : Type} {ordered : List α} {limit : ℕ} (h : ordered.length ≤ limit) :
    (respond ordered ok failed limit none).map (·.items) = .ok ordered := by
  have hzero : decodeCursor none = 0 := rfl
  simp only [respond, hzero, Nat.zero_add, if_neg (not_lt.mpr h), List.drop_zero, List.take_of_length_le h]
  rfl

/-- The prices of a page are cut from the prices in their order. -/
theorem prices_searchMerged (dedupe : List Offer → List Offer) (offers : List Offer) (limit : ℕ)
    (cursor : Option String) :
    (searchMerged dedupe keeps rank sort ok failed offers limit cursor).map (fun result => result.items.map price) =
      (sort (rank ((dedupe offers).filter keeps))).map (List.map price) >>=
        fun prices => (respond prices ok failed limit cursor).map (·.items) := by
  unfold searchMerged
  cases sort (rank ((dedupe offers).filter keeps)) with
  | error e => rfl
  | ok ordered => exact (items_respond_map ordered limit cursor).symm

/-- All that matters is the list of prices before it is cut into pages. -/
theorem orderInsensitive_iff {Key : Type} {sorts : Key → List Ranked → Except SearchError (List Ranked)}
    (hkeeps : ∀ x, keeps x = true) (hrank : ∀ xs, (rank xs).length = xs.length)
    (hperm : ∀ sort ranked ordered, sorts sort ranked = .ok ordered → ordered.Perm ranked) (byPrice : Key)
    (xs : List Offer) :
    OrderInsensitive key amount (bestPerKey key amount)
        (fun sort => searchMerged (bestPerKey key amount) keeps rank (sorts sort) ok failed) byPrice price xs ↔
      ∀ ys, ys.Perm xs → (sorts byPrice (rank (bestPerKey key amount ys))).map (List.map price) =
        (sorts byPrice (rank (bestPerKey key amount xs))).map (List.map price) := by
  have hall : ∀ zs : List Offer, zs.filter keeps = zs := fun zs => List.filter_eq_self.mpr fun x _ => hkeeps x
  constructor
  · intro h ys hys
    -- The page of all is the whole list of prices, or the exception of the sort.
    have hwhole : ∀ zs, zs.Perm xs →
        (searchMerged (bestPerKey key amount) keeps rank (sorts byPrice) ok failed zs xs.length none).map
            (fun result => result.items.map price) =
          (sorts byPrice (rank (bestPerKey key amount zs))).map (List.map price) := by
      intro zs hzs
      rw [prices_searchMerged, hall]
      cases hsort : sorts byPrice (rank (bestPerKey key amount zs)) with
      | error e => rfl
      | ok ordered =>
        apply respond_all
        rw [List.length_map, (hperm _ _ _ hsort).length_eq, hrank, ← hzs.length_eq]
        exact length_bestPerKey_le zs
    rw [← hwhole ys hys, ← hwhole xs (.refl xs)]
    exact h.same_prices ys hys xs.length none
  · intro h
    refine ⟨map_key_bestPerKey_eq xs, fun x hx => mem_bestPerKey_iff.mp hx, bestPerKey_idem xs,
      fun ys hys => pairs_perm hys, ?_, ?_⟩
    · intro ys hys sort limit cursor limit' cursor' result result' hresult hresult'
      have hpairs : ((bestPerKey key amount ys).map fun x => (key x, amount x)).length =
        ((bestPerKey key amount xs).map fun x => (key x, amount x)).length := (pairs_perm hys).length_eq
      rw [total_searchMerged hrank (hperm sort) hresult, total_searchMerged hrank (hperm sort) hresult', hall, hall]
      simpa using hpairs
    · intro ys hys limit cursor
      rw [prices_searchMerged, prices_searchMerged, hall, hall, h ys hys]

end

/-! ## Flights -/

theorem FlightAggregationService.sort_price (ranked : List RankedFlight) :
    FlightAggregationService.sort .price ranked = .ok (sorted (FlightAggregationService.keys .price) ranked) :=
  if_neg fun h => by cases h.1

/-- Integers are compared as they are, so the prices of flights come in one order. -/
theorem flights_orderInsensitive (lower : String → String) (ok failed : ℕ) (xs : List NormalizedFlight) :
    OrderInsensitive (NormalizedFlight.dedupeKey lower) NormalizedFlight.amount (FlightAggregationService.dedupe lower)
      (FlightAggregationService.searchOffers lower ok failed none) .price (fun r => r.flight.price.amountMinor) xs := by
  refine (orderInsensitive_iff (matches_default lower) FlightAggregationService.length_rank
    (fun sort ranked ordered => FlightAggregationService.perm_of_sort) SortKey.price xs).mpr fun ys hys => ?_
  have hmap : ∀ zs : List NormalizedFlight,
      (FlightAggregationService.rank zs).map (fun r => r.flight.price.amountMinor) =
        zs.map NormalizedFlight.amount := by
    intro zs
    rw [← FlightAggregationService.map_flight_rank zs, List.map_map, FlightAggregationService.map_flight_rank]
    rfl
  rw [FlightAggregationService.sort_price, FlightAggregationService.sort_price]
  refine congrArg Except.ok (map_sorted_eq (fun n : ℕ => (n : ℚ)) _ ?_ fun a _ b _ h => by exact_mod_cast h)
  rw [hmap, hmap]
  exact amounts_perm hys

/-! ## Hotels -/

namespace HotelAggregationService

/-- The prices that are kept are different floats, or one of them is none. -/
def FloatsApart (lower : String → String) (xs : List NormalizedHotel) : Prop :=
  (∃ h, FirstBest (NormalizedHotel.dedupeKey lower) NormalizedHotel.amount xs h ∧
    overflowBound ≤ (h.pricePerNight.amountMinor : ℚ)) ∨
  ∀ h h', FirstBest (NormalizedHotel.dedupeKey lower) NormalizedHotel.amount xs h →
    FirstBest (NormalizedHotel.dedupeKey lower) NormalizedHotel.amount xs h' →
    nearest64 h.pricePerNight.amountMinor = nearest64 h'.pricePerNight.amountMinor →
    h.pricePerNight.amountMinor = h'.pricePerNight.amountMinor

theorem map_amount_rank (hotels : List NormalizedHotel) :
    (rank hotels).map (fun r => r.hotel.pricePerNight.amountMinor) = hotels.map NormalizedHotel.amount := by
  conv_rhs => rw [← map_hotel_rank hotels, List.map_map]
  rfl

theorem pyFloat_natCast (n : ℕ) :
    pyFloat n = if overflowBound ≤ (n : ℚ) then .error .overflowError else .ok (nearest64 n) := by
  rw [pyFloat_eq, Int.cast_natCast, Nat.abs_cast]

/-- The prices in order, or the exception of a price that is no float. -/
theorem sort_price_eq (hotels : List NormalizedHotel) :
    (sort pyFloat .price (rank hotels)).map (List.map fun r => r.hotel.pricePerNight.amountMinor) =
      if ∃ h ∈ hotels, overflowBound ≤ (h.amount : ℚ) then .error .overflowError
      else .ok ((sorted (fun r : RankedHotel => nearest64 r.hotel.pricePerNight.amountMinor) (rank hotels)).map
        fun r => r.hotel.pricePerNight.amountMinor) := by
  have hmem : ∀ r ∈ rank hotels, r.hotel ∈ hotels := by
    intro r hr
    have hhotel := List.mem_map_of_mem (f := (·.hotel)) hr
    rwa [map_hotel_rank] at hhotel
  split
  · rename_i hhuge
    obtain ⟨h, hh, hbound⟩ := hhuge
    have hraised : trySorted (keys pyFloat .price) (rank hotels) = .error .overflowError := by
      apply trySorted_error
      · rw [← map_hotel_rank hotels] at hh
        obtain ⟨r, hr, rfl⟩ := List.mem_map.mp hh
        exact ⟨r, hr, (pyFloat_natCast _).trans (if_pos hbound)⟩
      · intro r _ e he
        change pyFloat (r.hotel.pricePerNight.amountMinor : ℕ) = .error e at he
        rw [pyFloat_natCast] at he
        split at he
        · cases he
          rfl
        · cases he
    rw [HotelAggregationService.sort, hraised]
    rfl
  · rename_i hsmall
    have hsorted : trySorted (keys pyFloat .price) (rank hotels) =
        .ok (sorted (fun r : RankedHotel => nearest64 r.hotel.pricePerNight.amountMinor) (rank hotels)) := by
      apply trySorted_ok
      intro r hr
      exact (pyFloat_natCast _).trans (if_neg fun hbound => hsmall ⟨r.hotel, hmem r hr, hbound⟩)
    rw [HotelAggregationService.sort, hsorted]
    rfl

theorem matches_default (hotel : NormalizedHotel) : HotelFilters.matches {} hotel = true := by
  simp [HotelFilters.matches]

section
variable {lower : String → String} {xs : List NormalizedHotel}

/-- Whether some price is no float does not depend on the order. -/
theorem exists_huge_iff {ys : List NormalizedHotel} (hys : ys.Perm xs) :
    (∃ h ∈ dedupe lower ys, overflowBound ≤ (h.amount : ℚ)) ↔
      ∃ h ∈ dedupe lower xs, overflowBound ≤ (h.amount : ℚ) := by
  have hmem : ∀ zs : List NormalizedHotel, (∃ h ∈ dedupe lower zs, overflowBound ≤ (h.amount : ℚ)) ↔
      ∃ a ∈ (dedupe lower zs).map NormalizedHotel.amount, overflowBound ≤ (a : ℚ) := by
    intro zs
    simp only [List.mem_map, exists_exists_and_eq_and]
  rw [hmem, hmem]
  simp only [dedupe, (amounts_perm hys).mem_iff]

/-- Two prices that are the same float can be shown in either order. -/
theorem exists_other_order {h h' : NormalizedHotel} (hh : h ∈ dedupe lower xs) (hh' : h' ∈ dedupe lower xs)
    (hfloat : nearest64 h.amount = nearest64 h'.amount) (hne : h.amount ≠ h'.amount) :
    ∃ ys, ys.Perm xs ∧
      ((dedupe lower ys).map NormalizedHotel.amount).filter (fun a : ℕ => nearest64 a = nearest64 h.amount) ≠
        ((dedupe lower xs).map NormalizedHotel.amount).filter (fun a : ℕ => nearest64 a = nearest64 h.amount) := by
  have hlist : h.amount ∈ ((dedupe lower xs).map NormalizedHotel.amount).filter
      (fun a : ℕ => nearest64 a = nearest64 h.amount) := by
    simp only [List.mem_filter, decide_eq_true_eq, and_true]
    exact List.mem_map_of_mem hh
  cases hhead : ((dedupe lower xs).map NormalizedHotel.amount).filter
      (fun a : ℕ => nearest64 a = nearest64 h.amount) with
  | nil =>
    rw [hhead] at hlist
    cases hlist
  | cons a rest =>
    -- One of the two prices does not come first; its key is made the first one.
    obtain ⟨b, hb, hbfloat, hba⟩ : ∃ b ∈ dedupe lower xs, nearest64 b.amount = nearest64 h.amount ∧ b.amount ≠ a := by
      by_cases ha : h.amount = a
      · exact ⟨h', hh', hfloat.symm, fun heq => hne (ha.trans heq.symm)⟩
      · exact ⟨h, hh, rfl, ha⟩
    obtain ⟨ys, hys, b', others, hfirst, -, hamount⟩ := exists_perm_first hb
    refine ⟨ys, hys, fun heq => hba ?_⟩
    have hb' : nearest64 (b'.amount : ℚ) = nearest64 h.amount := hamount ▸ hbfloat
    rw [dedupe, hfirst, List.map_cons, List.filter_cons_of_pos (by simpa using hb'), List.cons.injEq] at heq
    exact hamount.symm.trans heq.1

end

/-- Prices come in one order exactly when their floats tell them apart, or when there is no order for them. -/
theorem orderInsensitive_iff (lower : String → String) (ok failed : ℕ) (xs : List NormalizedHotel) :
    OrderInsensitive (NormalizedHotel.dedupeKey lower) NormalizedHotel.amount (dedupe lower)
        (searchOffers lower ok failed none) .price (fun r => r.hotel.pricePerNight.amountMinor) xs ↔
      FloatsApart lower xs := by
  refine (SmartTravel.orderInsensitive_iff matches_default length_rank
    (fun sort ranked ordered => trySorted_perm) HotelSortKey.price xs).trans ?_
  have hlists : ∀ zs, (sort pyFloat .price (rank (dedupe lower zs))).map
      (List.map fun r => r.hotel.pricePerNight.amountMinor) = _ := fun zs => sort_price_eq (dedupe lower zs)
  change (∀ ys, ys.Perm xs → (sort pyFloat .price (rank (dedupe lower ys))).map _ =
    (sort pyFloat .price (rank (dedupe lower xs))).map _) ↔ _
  simp only [hlists]
  have hkept : ∀ h, FirstBest (NormalizedHotel.dedupeKey lower) NormalizedHotel.amount xs h ↔ h ∈ dedupe lower xs :=
    fun h => mem_bestPerKey_iff.symm
  unfold FloatsApart
  simp only [hkept]
  by_cases hhuge : ∃ h ∈ dedupe lower xs, overflowBound ≤ (h.amount : ℚ)
  · -- Some price is no float: every order raises.
    refine iff_of_true (fun ys hys => ?_) (.inl hhuge)
    rw [if_pos ((exists_huge_iff hys).mpr hhuge), if_pos hhuge]
  · refine Iff.trans ?_ (or_iff_right hhuge).symm
    constructor
    · intro h g g' hg hg' hfloat
      by_contra hne
      obtain ⟨ys, hys, hother⟩ := exists_other_order hg hg' hfloat hne
      have hprices := h ys hys
      rw [if_neg fun hy => hhuge ((exists_huge_iff hys).mp hy), if_neg hhuge, Except.ok.injEq] at hprices
      have hfilter := congrArg (List.filter (fun a : ℕ => nearest64 a = nearest64 g.amount)) hprices
      rw [filter_map_sorted (fun a : ℕ => nearest64 a), filter_map_sorted (fun a : ℕ => nearest64 a), map_amount_rank,
        map_amount_rank] at hfilter
      exact hother hfilter
    · intro h ys hys
      rw [if_neg fun hy => hhuge ((exists_huge_iff hys).mp hy), if_neg hhuge]
      refine congrArg Except.ok (map_sorted_eq (fun a : ℕ => nearest64 a) _ ?_ ?_)
      · rw [map_amount_rank, map_amount_rank]
        exact amounts_perm hys
      · rw [map_amount_rank]
        intro a ha b hb hfloat
        obtain ⟨g, hg, rfl⟩ := List.mem_map.mp ha
        obtain ⟨g', hg', rfl⟩ := List.mem_map.mp hb
        exact h g g' hg hg' hfloat

end HotelAggregationService

/-- **De-duplication is exact, and its order does not matter**: for flights always, for hotels exactly when the floats
of the prices that are kept tell these apart, or when one of them is beyond the floats and no order is shown. -/
theorem dedupe_order_iff (lower : String → String) (ok failed : ℕ) :
    (∀ xs : List NormalizedFlight,
      OrderInsensitive (NormalizedFlight.dedupeKey lower) NormalizedFlight.amount
        (FlightAggregationService.dedupe lower) (FlightAggregationService.searchOffers lower ok failed none)
        SortKey.price (fun r => r.flight.price.amountMinor) xs) ∧
    (∀ xs : List NormalizedHotel,
      OrderInsensitive (NormalizedHotel.dedupeKey lower) NormalizedHotel.amount
        (HotelAggregationService.dedupe lower) (HotelAggregationService.searchOffers lower ok failed none)
        HotelSortKey.price (fun r => r.hotel.pricePerNight.amountMinor) xs ↔
      HotelAggregationService.FloatsApart lower xs) :=
  ⟨flights_orderInsensitive lower ok failed, HotelAggregationService.orderInsensitive_iff lower ok failed⟩

/-- Two hotels whose prices are one float, `2 ** 53`. -/
def closePrices : List NormalizedHotel :=
  [sampleHotel "1" "Grand" (2 ^ 53 + 1) [], sampleHotel "2" "Park" (2 ^ 53) []]

/-- The dearer hotel comes first because its provider answers first. -/
theorem provider_order_shows :
    (HotelAggregationService.searchOffers asciiLower 2 0 none .price closePrices 20 none).map
        (fun result => result.items.map (·.hotel.pricePerNight.amountMinor)) = .ok [2 ^ 53 + 1, 2 ^ 53] ∧
      ¬ OrderInsensitive (NormalizedHotel.dedupeKey asciiLower) NormalizedHotel.amount
        (HotelAggregationService.dedupe asciiLower) (HotelAggregationService.searchOffers asciiLower 2 0 none)
        HotelSortKey.price (fun r => r.hotel.pricePerNight.amountMinor) closePrices := by
  constructor
  · decide +kernel
  · intro h
    have hprices := h.same_prices closePrices.reverse (List.reverse_perm closePrices) 20 none
    revert hprices
    decide +kernel

/-! ## One flight, one offer -/

/-- One physical flight: the airline in any case, the route, and the instant of the departure. -/
def SameFlight (lower : String → String) (f g : NormalizedFlight) : Prop :=
  lower f.airline = lower g.airline ∧ f.origin = g.origin ∧ f.destination = g.destination ∧
    f.departureTime.position = g.departureTime.position

instance (lower : String → String) (f g : NormalizedFlight) : Decidable (SameFlight lower f g) :=
  inferInstanceAs (Decidable (_ ∧ _ ∧ _ ∧ _))

/-- No page shows a flight twice, and an offer is dropped only for one of its flight, in its currency, not dearer. -/
structure ListedOnce (lower : String → String) (ok failed : ℕ) (xs : List NormalizedFlight) : Prop where
  once : ∀ filters sort limit cursor result,
    FlightAggregationService.searchOffers lower ok failed filters sort xs limit cursor = .ok result →
      (result.items.map (·.flight)).Pairwise fun f g => ¬ SameFlight lower f g
  replaced : ∀ x ∈ xs, x ∉ FlightAggregationService.dedupe lower xs →
    ∃ k ∈ FlightAggregationService.dedupe lower xs, SameFlight lower k x
  cheaper : ∀ x ∈ xs, x ∉ FlightAggregationService.dedupe lower xs →
    ∀ k ∈ FlightAggregationService.dedupe lower xs, SameFlight lower k x →
      k.price.currency = x.price.currency ∧ k.price.amountMinor ≤ x.price.amountMinor

section
variable {lower : String → String} {f g : NormalizedFlight} {xs : List NormalizedFlight}

theorem SameFlight.symm (h : SameFlight lower f g) : SameFlight lower g f :=
  ⟨h.1.symm, h.2.1.symm, h.2.2.1.symm, h.2.2.2.symm⟩

theorem SameFlight.trans {e : NormalizedFlight} (h : SameFlight lower e f) (h' : SameFlight lower f g) :
    SameFlight lower e g :=
  ⟨h.1.trans h'.1, h.2.1.trans h'.2.1, h.2.2.1.trans h'.2.2.1, h.2.2.2.trans h'.2.2.2⟩

/-- Two offers have one key exactly when they are one flight and write its departure the same way. -/
theorem dedupeKey_eq_iff : f.dedupeKey lower = g.dedupeKey lower ↔
    SameFlight lower f g ∧ f.departureTime.isoformat = g.departureTime.isoformat := by
  simp only [NormalizedFlight.dedupeKey, SameFlight, Prod.mk.injEq]
  constructor
  · rintro ⟨hairline, horigin, hdestination, htext⟩
    have htime : f.departureTime = g.departureTime := DateTime.isoformat_injective htext
    exact ⟨⟨hairline, horigin, hdestination, congrArg DateTime.position htime⟩, htext⟩
  · rintro ⟨⟨hairline, horigin, hdestination, -⟩, htext⟩
    exact ⟨hairline, horigin, hdestination, htext⟩

variable (lower) in
/-- Every offer has an offer that is kept under its key, and that is not dearer. -/
theorem exists_kept (hf : f ∈ xs) : ∃ k ∈ FlightAggregationService.dedupe lower xs,
    k.dedupeKey lower = f.dedupeKey lower ∧ k.price.amountMinor ≤ f.price.amountMinor :=
  exists_mem_bestPerKey hf

/-- The keys of the kept offers are different. -/
theorem eq_of_kept (hf : f ∈ FlightAggregationService.dedupe lower xs)
    (hg : g ∈ FlightAggregationService.dedupe lower xs) (h : f.dedupeKey lower = g.dedupeKey lower) : f = g :=
  List.inj_on_of_nodup_map (nodup_keys_bestPerKey xs) hf hg h

/-- The flights of a page are among those that are kept, each at most once. -/
theorem flights_subperm {ok failed : ℕ} {filters : Option FlightFilters} {sort : SortKey} {limit : ℕ}
    {cursor : Option String} {result : SearchResult RankedFlight}
    (h : FlightAggregationService.searchOffers lower ok failed filters sort xs limit cursor = .ok result) :
    (result.items.map (·.flight)).Subperm (FlightAggregationService.dedupe lower xs) := by
  unfold FlightAggregationService.searchOffers searchMerged at h
  split at h
  · cases h
  · rename_i ordered hsort
    have hordered : (ordered.map (·.flight)).Perm
        ((FlightAggregationService.dedupe lower xs).filter ((filters.getD {}).matches lower)) := by
      have hperm := (FlightAggregationService.perm_of_sort hsort).map (·.flight)
      rwa [FlightAggregationService.map_flight_rank] at hperm
    have hpage : result.items.Sublist ordered := by
      rw [items_respond h]
      exact (List.take_sublist _ _).trans (List.drop_sublist _ _)
    exact (hpage.map _).subperm.trans (hordered.subperm.trans List.filter_sublist.subperm)

/-- A page with room for all shows every offer that is kept. -/
theorem exists_full_page (lower : String → String) (ok failed : ℕ) (xs : List NormalizedFlight) : ∃ limit result,
    FlightAggregationService.searchOffers lower ok failed none .price xs limit none = .ok result ∧
      (result.items.map (·.flight)).Perm (FlightAggregationService.dedupe lower xs) := by
  have hall : (FlightAggregationService.dedupe lower xs).filter (FlightFilters.matches lower {}) =
      FlightAggregationService.dedupe lower xs := List.filter_eq_self.mpr fun f _ => matches_default lower f
  have hsort := FlightAggregationService.sort_price
    (FlightAggregationService.rank (FlightAggregationService.dedupe lower xs))
  generalize hordered : sorted (FlightAggregationService.keys .price)
    (FlightAggregationService.rank (FlightAggregationService.dedupe lower xs)) = ordered at hsort
  have hflights : (ordered.map (·.flight)).Perm (FlightAggregationService.dedupe lower xs) := by
    have hperm := (FlightAggregationService.perm_of_sort hsort).map (·.flight)
    rwa [FlightAggregationService.map_flight_rank] at hperm
  have hsearch : FlightAggregationService.searchOffers lower ok failed none .price xs ordered.length none =
      respond ordered ok failed ordered.length none := by
    simp only [FlightAggregationService.searchOffers, searchMerged, Option.getD_none, hall, hsort]
  have hitems : (respond ordered ok failed ordered.length none).map (·.items) = .ok ordered := respond_all le_rfl
  cases hpage : respond ordered ok failed ordered.length none with
  | error e =>
    rw [hpage] at hitems
    cases hitems
  | ok page =>
    rw [hpage] at hitems
    have hwhole : page.items = ordered := Except.ok.inj hitems
    exact ⟨ordered.length, page, hsearch.trans hpage, hwhole ▸ hflights⟩

/-- Offers of one flight that are written alike are shown once. -/
theorem once_of_same_text (h : ∀ x ∈ xs, ∀ y ∈ xs, SameFlight lower x y →
    x.departureTime.isoformat = y.departureTime.isoformat) {page : List NormalizedFlight}
    (hpage : page.Subperm (FlightAggregationService.dedupe lower xs)) :
    page.Pairwise fun f g => ¬ SameFlight lower f g := by
  have hkept : (FlightAggregationService.dedupe lower xs).Pairwise fun f g => ¬ SameFlight lower f g := by
    have hkeys : ((FlightAggregationService.dedupe lower xs).map (NormalizedFlight.dedupeKey lower)).Nodup :=
      nodup_keys_bestPerKey xs
    refine (List.pairwise_map.mp hkeys).imp_of_mem fun {f g} hf hg hkey hsame => hkey ?_
    have hmem : ∀ x ∈ FlightAggregationService.dedupe lower xs, x ∈ xs := fun x hx =>
      (firstBest_mem (mem_bestPerKey.mp hx)).1
    exact dedupeKey_eq_iff.mpr ⟨hsame, h f (hmem f hf) g (hmem g hg) hsame⟩
  obtain ⟨shown, hperm, hsub⟩ := hpage
  exact (hperm.pairwise_iff fun hne hsame => hne hsame.symm).mp (hkept.sublist hsub)

/-- When no page shows a flight twice, the kept offers of one flight are one offer. -/
theorem ListedOnce.eq_of_same {ok failed : ℕ} (h : ListedOnce lower ok failed xs)
    (hf : f ∈ FlightAggregationService.dedupe lower xs) (hg : g ∈ FlightAggregationService.dedupe lower xs)
    (hsame : SameFlight lower f g) : f = g := by
  obtain ⟨limit, result, hresult, hperm⟩ := exists_full_page lower ok failed xs
  have honce := h.once none .price limit none result hresult
  have hsymm : Std.Symm fun f g => ¬ SameFlight lower f g := ⟨fun _ _ hne hsame' => hne hsame'.symm⟩
  by_contra hne
  exact honce.forall (hperm.mem_iff.mpr hf) (hperm.mem_iff.mpr hg) hne hsame

end

/-- **When one flight is one offer**: every flight is listed once, and gives way only to an offer in its own currency
that is not dearer, exactly when the offers of one flight write its departure the same way and ask for the same
currency. -/
theorem listed_once_iff (lower : String → String) (ok failed : ℕ) (xs : List NormalizedFlight) :
    ListedOnce lower ok failed xs ↔
      ∀ x ∈ xs, ∀ y ∈ xs, SameFlight lower x y →
        x.departureTime.isoformat = y.departureTime.isoformat ∧ x.price.currency = y.price.currency := by
  constructor
  · intro h x hx y hy hsame
    obtain ⟨k, hk, hkx, -⟩ := exists_kept lower hx
    obtain ⟨l, hl, hly, -⟩ := exists_kept lower hy
    have hkxsame := (dedupeKey_eq_iff.mp hkx).1
    have hlysame := (dedupeKey_eq_iff.mp hly).1
    -- The offers that are kept for the two are offers of one flight, so they are one offer.
    obtain rfl := h.eq_of_same hk hl ((hkxsame.trans hsame).trans hlysame.symm)
    have hcurrency : ∀ z ∈ xs, SameFlight lower k z → k.price.currency = z.price.currency := by
      intro z hz hkz
      by_cases hkept : z ∈ FlightAggregationService.dedupe lower xs
      · rw [h.eq_of_same hk hkept hkz]
      · exact (h.cheaper z hz hkept k hk hkz).1
    refine ⟨(dedupeKey_eq_iff.mp (hkx.symm.trans hly)).2, ?_⟩
    exact (hcurrency x hx hkxsame).symm.trans (hcurrency y hy hlysame)
  · intro h
    refine ⟨fun filters sort limit cursor result hresult => ?_, fun x hx _ => ?_, fun x hx _ k hk hsame => ?_⟩
    · exact once_of_same_text (fun x hx y hy hsame => (h x hx y hy hsame).1) (flights_subperm hresult)
    · obtain ⟨k, hk, hkey, -⟩ := exists_kept lower hx
      exact ⟨k, hk, (dedupeKey_eq_iff.mp hkey).1⟩
    · obtain ⟨l, hl, hkey, hle⟩ := exists_kept lower hx
      have hagree := h k (firstBest_mem (mem_bestPerKey.mp hk)).1 x hx hsame
      have hkx : k.dedupeKey lower = x.dedupeKey lower := dedupeKey_eq_iff.mpr ⟨hsame, hagree.1⟩
      obtain rfl := eq_of_kept hk hl (hkx.trans hkey.symm)
      exact ⟨hagree.2, hle⟩

/-- Two hours east of UTC. -/
def twoHoursEast : UtcOffset := ⟨2 * 60 * 60 * 1000000, by decide⟩

/-- The sample departure in the time of a place two hours east: there it is ten, the hour of the arrival in UTC. -/
def sampleTimeEast : DateTime :=
  { (sampleFlight "1" "KLM" 300 0).arrivalTime with utcoffset := some twoHoursEast }

/-- One flight in UTC and in local time. -/
def twoOffsets : List NormalizedFlight :=
  [sampleFlight "1" "KLM" 300 0, { sampleFlight "2" "KLM" 100 0 with departureTime := sampleTimeEast }]

/-- One flight in dollars and in euros. -/
def twoCurrencies : List NormalizedFlight :=
  [sampleFlight "1" "KLM" 110 0, { sampleFlight "2" "KLM" 100 0 with price := ⟨100, "EUR"⟩ }]

/-- The first flight is listed twice, and an offer in dollars gives way to one in euros. -/
theorem one_flight_two_offers :
    ((∀ f ∈ twoOffsets ++ twoCurrencies, f.departureTime.isAware) ∧
      (FlightAggregationService.dedupe asciiLower twoOffsets = twoOffsets) ∧
      (FlightAggregationService.dedupe asciiLower twoCurrencies).map (·.price) = [⟨100, "EUR"⟩]) ∧
    ¬ ListedOnce asciiLower 2 0 twoOffsets ∧ ¬ ListedOnce asciiLower 2 0 twoCurrencies := by
  refine ⟨by decide +kernel, fun h => ?_, fun h => ?_⟩
  · have honce := h.once none .price 20 none _ rfl
    revert honce
    decide +kernel
  · have hcheaper := h.cheaper (sampleFlight "1" "KLM" 110 0) (by decide +kernel) (by decide +kernel)
    revert hcheaper
    decide +kernel

end SmartTravel
