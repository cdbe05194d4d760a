import SmartTravel.Providers.SampleHotels
import SmartTravel.Services.CheapestFare
import SmartTravel.Services.SearchFailures

/-!
# The services that are shipped

The container builds the two aggregation services over the sample providers. For every query that the API lets through
and every generator of random numbers, all providers answer, so no search of the shipped services is degraded
(`shipped_searches_are_whole`); the last day of the calendar is left out, on which a flight may arrive on no date.

An alert is checked against an economy fare for one adult. Such a fare is within known bounds, and with it what the
monitor does: a target below all fares is never announced, one above the bound of the cheaper provider is announced by
the next run in which nothing fails (`shipped_fares_decide_alerts`).
-/

namespace SmartTravel

open Py Runs

/-! ## Searches that nothing is missing from -/

section
variable {Query Offer Ranked : Type}

/-- A result to which every provider contributed, with at most `most` offers in total, all of which are good. -/
structure Whole (providers most : ℕ) (Good : Ranked → Prop) (result : SearchResult Ranked) : Prop where
  answered : result.searchMeta.degraded = false ∧ result.searchMeta.providersOk = providers ∧
    result.searchMeta.providersFailed = 0
  total : result.searchMeta.total ≤ most
  items : ∀ r ∈ result.items, Good r

/-- The provider answers with some offers, but not more than `most`, and all of them are good. -/
def Provider.Delivers (most : ℕ) (Good : Offer → Prop) (query : Query) (p : Provider Query Offer) : Prop :=
  ∃ offers, p.search query = .ok offers ∧ (0 < offers.length ∧ offers.length ≤ most) ∧ ∀ x ∈ offers, Good x

variable {dedupe : List Offer → List Offer} {keeps : Offer → Bool}
variable {rank : List Offer → List Ranked} {tryRank : List Offer → Except PyError (List Ranked)}
variable {sort : List Ranked → Except SearchError (List Ranked)} {providers : List (Provider Query Offer)}
variable {query : Query} {most : ℕ} {Good : Offer → Prop}

theorem Provider.Delivers.succeeds {p : Provider Query Offer} (h : p.Delivers most Good query) :
    p.succeeds query = true := by
  obtain ⟨offers, hoffers, -⟩ := h
  rw [Provider.succeeds, hoffers]
  rfl

theorem Provider.Delivers.length_answered {p : Provider Query Offer} (h : p.Delivers most Good query) :
    (p.answered query).length ≤ most := by
  obtain ⟨offers, hoffers, ⟨-, hlen⟩, -⟩ := h
  rw [Provider.answered, hoffers]
  exact hlen

theorem length_flatMap_answered : ∀ {providers : List (Provider Query Offer)},
    (∀ p ∈ providers, p.Delivers most Good query) →
      (providers.flatMap (·.answered query)).length ≤ providers.length * most
  | [], _ => Nat.zero_le _
  | p :: ps, h => by
    have hp := (h p List.mem_cons_self).length_answered
    have hps := length_flatMap_answered fun q hq => h q (List.mem_cons_of_mem p hq)
    rw [List.flatMap_cons, List.length_append, List.length_cons, Nat.succ_mul]
    omega

/-- Providers that deliver have good offers only, a bounded number of them. -/
theorem fanOut_delivers (h : ∀ p ∈ providers, p.Delivers most Good query) :
    (fanOut providers query).1.length ≤ providers.length * most ∧ (∀ x ∈ (fanOut providers query).1, Good x) ∧
      (fanOut providers query).2 = (providers.length, 0) := by
  refine ⟨?_, ?_, ?_⟩
  · rw [fanOut_eq]
    exact length_flatMap_answered h
  · intro x hx
    obtain ⟨p, hp, offers, hoffers, hmem⟩ := mem_fanOut_iff.mp hx
    obtain ⟨offers', hoffers', -, hgood⟩ := h p hp
    rw [hoffers, Except.ok.injEq] at hoffers'
    exact hgood x (hoffers' ▸ hmem)
  · rw [fanOut_eq, Prod.mk.injEq, List.countP_eq_length, List.countP_eq_zero]
    exact ⟨fun p hp => (h p hp).succeeds, fun p hp => by rw [(h p hp).succeeds]; decide⟩

theorem offers_of_delivers (h : ∀ p ∈ providers, p.Delivers most Good query) (hne : providers ≠ []) :
    (fanOut providers query).1 ≠ [] := by
  obtain ⟨p, hp⟩ := List.exists_mem_of_ne_nil providers hne
  obtain ⟨offers, hoffers, ⟨hpos, -⟩, -⟩ := h p hp
  obtain ⟨x, hx⟩ := List.exists_mem_of_length_pos hpos
  exact List.ne_nil_of_mem (mem_fanOut_iff.mpr ⟨p, hp, offers, hoffers, hx⟩)

/-- **A search over providers that deliver** is whole, once its sort returns; and it is not empty, unless the filters
are asked to drop something. -/
theorem trySearchWith_whole (h : ∀ p ∈ providers, p.Delivers most Good query) (hsize : providers.length ≤ maxSize)
    (hdedupe : ∀ xs, (dedupe xs).length ≤ xs.length) (hrank : ∀ xs, (rank xs).length = xs.length)
    (htry : ∀ xs, tryRank xs = .ok (rank xs))
    (hperm : ∀ ranked ordered, sort ranked = .ok ordered → ordered.Perm ranked)
    (hsort : ∃ ordered, sort (rank ((dedupe (fanOut providers query).1).filter keeps)) = .ok ordered) (limit : ℕ)
    (cursor : Option String) : ∃ result,
      trySearchWith dedupe keeps tryRank sort providers query limit cursor = .ok result ∧
        Whole providers.length (providers.length * most)
          (fun r => r ∈ rank ((dedupe (fanOut providers query).1).filter keeps)) result ∧
        ((∀ x, keeps x = true) → dedupe (fanOut providers query).1 ≠ [] → 0 < result.searchMeta.total) := by
  obtain ⟨hlen, -, hcounts⟩ := fanOut_delivers h
  obtain ⟨result, hresult⟩ : ∃ page, trySearchWith dedupe keeps tryRank sort providers query limit cursor = .ok page :=
    (trySearchWith_ok_iff hsize hdedupe hrank htry hperm).mpr hsort
  obtain ⟨ordered, hsort⟩ := hsort
  have hrespond : respond ordered providers.length 0 limit cursor = .ok result := by
    rw [trySearchWith_eq htry] at hresult
    simp only [searchWith, hsort, hcounts] at hresult
    cases hend : respond ordered providers.length 0 limit cursor with
    | error e =>
      rw [hend] at hresult
      cases hresult
    | ok page =>
      rw [hend] at hresult
      cases hresult
      rfl
  have hmeta := searchMeta_respond hrespond
  have htotal : ordered.length = ((dedupe (fanOut providers query).1).filter keeps).length := by
    rw [(hperm _ _ hsort).length_eq, hrank]
  refine ⟨result, hresult, ⟨?_, ?_, fun r hr => ?_⟩, fun hkeeps hne => ?_⟩
  · rw [hmeta]
    exact ⟨rfl, rfl, rfl⟩
  · rw [hmeta]
    exact htotal ▸ (List.length_filter_le _ _).trans ((hdedupe _).trans hlen)
  · rw [items_respond hrespond] at hr
    exact (hperm _ _ hsort).mem_iff.mp (List.mem_of_mem_drop (List.mem_of_mem_take hr))
  · rw [hmeta]
    show 0 < ordered.length
    rw [htotal, List.filter_eq_self.mpr fun x _ => hkeeps x]
    exact List.length_pos_iff.mpr hne

theorem Whole.imp {providers : ℕ} {Fine Fair : Ranked → Prop} (himp : ∀ r, Fine r → Fair r)
    {result : SearchResult Ranked} (h : Whole providers most Fine result) : Whole providers most Fair result :=
  ⟨h.answered, h.total, fun r hr => himp r (h.items r hr)⟩

theorem bestPerKey_ne_nil {κ : Type} [DecidableEq κ] {key : Offer → κ} {amount : Offer → ℕ} {xs : List Offer}
    (h : xs ≠ []) : bestPerKey key amount xs ≠ [] := by
  obtain ⟨x, hx⟩ := List.exists_mem_of_ne_nil xs h
  obtain ⟨y, hy, -⟩ : ∃ y ∈ bestPerKey key amount xs, key y = key x ∧ amount y ≤ amount x := exists_mem_bestPerKey hx
  exact List.ne_nil_of_mem hy

end

/-! ## The container -/

theorem two_le_maxSize : 2 ≤ maxSize := by decide

namespace Container

/-- The first flight provider. -/
def skyfare : SampleFlightProvider := ⟨"skyfare", ["Lufthansa", "KLM", "Emirates"], 12000⟩

/-- The second flight provider. -/
def globehop : SampleFlightProvider := ⟨"globehop", ["Turkish Airlines", "Qatar Airways", "Emirates"], 10500⟩

/-- The first hotel provider. -/
def stayfinder : SampleHotelProvider := ⟨"stayfinder", 8000⟩

/-- The second hotel provider. -/
def roomhub : SampleHotelProvider := ⟨"roomhub", 6500⟩

section
variable {σ : Type} (rng : Random σ) (sha256 : String → ℕ)

/-- `flight_service`. -/
def flightService : FlightAggregationService where
  providers := [skyfare.provider rng sha256, globehop.provider rng sha256]
  nonempty := List.cons_ne_nil _ _
  sized := two_le_maxSize

/-- `hotel_service`. -/
def hotelService : HotelAggregationService where
  providers := [stayfinder.provider rng sha256, roomhub.provider rng sha256]
  nonempty := List.cons_ne_nil _ _
  sized := two_le_maxSize

end

/-- An offer that one of the flight providers makes up for the query. -/
def FlightOffer (query : FlightSearchQuery) (f : NormalizedFlight) : Prop :=
  skyfare.Plausible query f ∨ globehop.Plausible query f

/-- An offer that one of the hotel providers makes up for the query. -/
def HotelOffer (query : HotelSearchQuery) (h : NormalizedHotel) : Prop :=
  stayfinder.Plausible query h ∨ roomhub.Plausible query h

theorem skyfare_stocked : skyfare.Stocked := ⟨by decide, by decide⟩

theorem globehop_stocked : globehop.Stocked := ⟨by decide, by decide⟩

section
variable {σ : Type} (rng : Random σ) (sha256 : String → ℕ)

theorem flights_deliver {query : FlightSearchQuery} (hquery : SampleFlightProvider.Served query) :
    ∀ p ∈ (flightService rng sha256).providers, p.Delivers 6 (FlightOffer query) query := by
  have hdeliver (p : SampleFlightProvider) (hp : p.Stocked) (hoffer : ∀ f, p.Plausible query f → FlightOffer query f) :
      (p.provider rng sha256).Delivers 6 (FlightOffer query) query := by
    obtain ⟨fs, hfs, hlen, hall⟩ := SampleFlightProvider.search_spec rng sha256 hp hquery
    exact ⟨fs, hfs, ⟨by omega, hlen.2⟩, fun f hf => hoffer f (hall f hf)⟩
  intro p hp
  rcases List.mem_pair.mp hp with rfl | rfl
  · exact hdeliver skyfare skyfare_stocked fun _ => .inl
  · exact hdeliver globehop globehop_stocked fun _ => .inr

theorem hotels_deliver {query : HotelSearchQuery} (hguests : 1 ≤ query.guests) :
    ∀ p ∈ (hotelService rng sha256).providers, p.Delivers 7 (HotelOffer query) query := by
  have hdeliver (p : SampleHotelProvider) (hp : p.Stocked) (hoffer : ∀ h, p.Plausible query h → HotelOffer query h) :
      (p.provider rng sha256).Delivers 7 (HotelOffer query) query := by
    obtain ⟨hs, hsearch, hlen, hall⟩ := SampleHotelProvider.search_spec rng sha256 hp hguests
    exact ⟨hs, hsearch, ⟨by omega, hlen.2⟩, fun h hh => hoffer h (hall h hh)⟩
  intro p hp
  rcases List.mem_pair.mp hp with rfl | rfl
  · exact hdeliver stayfinder ⟨by decide, by decide⟩ fun _ => .inl
  · exact hdeliver roomhub ⟨by decide, by decide⟩ fun _ => .inr

variable (lower : String → String)

/-- Every search of flights is whole. -/
theorem flights_whole {query : FlightSearchQuery} (hquery : SampleFlightProvider.Served query) (sort : SortKey)
    (filters : Option FlightFilters) (limit : ℕ) (cursor : Option String) : ∃ result,
      (flightService rng sha256).trySearch lower query sort filters limit cursor = .ok result ∧
        Whole 2 12 (fun r => FlightOffer query r.flight) result ∧ (filters = none → 0 < result.searchMeta.total) := by
  have hdeliver := flights_deliver rng sha256 hquery
  obtain ⟨-, hoffers, -⟩ := fanOut_delivers hdeliver
  have haware : ∀ f ∈ (flightService rng sha256).offers query, f.departureTime.isAware = true := by
    intro f hf
    rcases hoffers f hf with hoffer | hoffer <;> rw [DateTime.isAware, hoffer.departure.2.1] <;> rfl
  obtain ⟨result, hresult, hwhole, htotal⟩ := trySearchWith_whole hdeliver two_le_maxSize length_bestPerKey_le
    FlightAggregationService.length_rank FlightAggregationService.tryRank_eq
    (fun _ _ => FlightAggregationService.perm_of_sort)
    ⟨_, FlightAggregationService.sort_ranked lower _ query (fun _ => haware) filters⟩ limit cursor
  refine ⟨result, hresult, hwhole.imp fun r hr => ?_, fun hnone => ?_⟩
  · exact hoffers _ (FlightAggregationService.mem_offers_of_mem_ranked lower _ query filters hr)
  · subst hnone
    exact htotal (matches_default lower) (bestPerKey_ne_nil (offers_of_delivers hdeliver (List.cons_ne_nil _ _)))

/-- The ranked hotels are offers. -/
theorem mem_offers_of_mem_rank {service : HotelAggregationService} {query : HotelSearchQuery}
    {filters : Option HotelFilters} {r : RankedHotel} (h : r ∈ service.ranked lower query filters) :
    r.hotel ∈ service.offers query := by
  have hhotel := List.mem_map_of_mem (f := (·.hotel)) h
  rw [HotelAggregationService.ranked, HotelAggregationService.map_hotel_rank] at hhotel
  exact (firstBest_mem (mem_bestPerKey.mp (List.mem_of_mem_filter hhotel))).1

/-- Amounts and reviews of a made-up hotel are floats. -/
theorem hotel_fits {query : HotelSearchQuery} (hguests : query.guests ≤ 8) {h : NormalizedHotel}
    (hoffer : HotelOffer query h) :
    (h.pricePerNight.amountMinor : ℚ) < overflowBound ∧ (h.reviewsCount : ℚ) < overflowBound := by
  have hbound : ((100000 : ℕ) : ℚ) < overflowBound := by decide +kernel
  have hfits : h.pricePerNight.amountMinor ≤ 100000 ∧ h.reviewsCount ≤ 100000 := by
    rcases hoffer with hoffer | hoffer
    · have hprice := hoffer.price.2
      have hreviews := hoffer.reviews.2
      simp only [stayfinder] at hprice
      omega
    · have hprice := hoffer.price.2
      have hreviews := hoffer.reviews.2
      simp only [roomhub] at hprice
      omega
  exact ⟨lt_of_le_of_lt (by exact_mod_cast hfits.1) hbound, lt_of_le_of_lt (by exact_mod_cast hfits.2) hbound⟩

/-- Every search of hotels is whole. -/
theorem hotels_whole {query : HotelSearchQuery} (hguests : 1 ≤ query.guests ∧ query.guests ≤ 8) (sort : HotelSortKey)
    (filters : Option HotelFilters) (limit : ℕ) (cursor : Option String) : ∃ result,
      (hotelService rng sha256).trySearch lower query sort filters limit cursor = .ok result ∧
        Whole 2 14 (fun r => HotelOffer query r.hotel) result ∧ (filters = none → 0 < result.searchMeta.total) := by
  have hdeliver := hotels_deliver rng sha256 hguests.1
  obtain ⟨-, hoffers, -⟩ := fanOut_delivers hdeliver
  have hsort : ∃ ordered, HotelAggregationService.sort pyFloat sort
      ((hotelService rng sha256).ranked lower query filters) = .ok ordered := by
    refine trySorted_ok_iff.mpr fun r hr => HotelAggregationService.keys_ok_iff.mpr ?_
    have hfits := hotel_fits hguests.2 (hoffers _ (mem_offers_of_mem_rank lower hr))
    exact ⟨fun _ => hfits.1, fun _ => hfits.2⟩
  obtain ⟨result, hresult, hwhole, htotal⟩ := trySearchWith_whole hdeliver two_le_maxSize length_bestPerKey_le
    HotelAggregationService.length_rank HotelAggregationService.tryRank_eq (fun _ _ => trySorted_perm) hsort limit
    cursor
  refine ⟨result, hresult, hwhole.imp fun r hr => ?_, fun hnone => ?_⟩
  · exact hoffers _ (mem_offers_of_mem_rank lower hr)
  · subst hnone
    refine htotal (fun h => ?_) (bestPerKey_ne_nil (offers_of_delivers hdeliver (List.cons_ne_nil _ _)))
    simp [HotelFilters.matches]

/-- **The shipped services answer whole.** For every generator, hash and case mapping: a search of flights with
three-letter codes, on any day but the last, and a search of hotels for one to eight guests return, whatever the sort,
the filters and the page; both providers have answered, and what is shown is plausible. Without filters something is
found. -/
theorem shipped_searches_are_whole :
    (∀ query, SampleFlightProvider.Served query → ∀ sort filters limit cursor, ∃ result,
      (flightService rng sha256).trySearch lower query sort filters limit cursor = .ok result ∧
        Whole 2 12 (fun r => FlightOffer query r.flight) result ∧ (filters = none → 0 < result.searchMeta.total)) ∧
    (∀ query : HotelSearchQuery, 1 ≤ query.guests ∧ query.guests ≤ 8 → ∀ sort filters limit cursor, ∃ result,
      (hotelService rng sha256).trySearch lower query sort filters limit cursor = .ok result ∧
        Whole 2 14 (fun r => HotelOffer query r.hotel) result ∧ (filters = none → 0 < result.searchMeta.total)) :=
  ⟨fun _ hquery => flights_whole rng sha256 lower hquery, fun _ hguests => hotels_whole rng sha256 lower hguests⟩

end

/-! ## Searches with generators that draw the least and the greatest -/

/-- The generator that always draws the least. -/
def leastDraws : Random Unit where
  new := fun _ => ()
  randint := fun a _ s => (a, s)
  choice := fun _ s => (0, s)
  choices := fun _ s => (0, s)
  sample := fun _ k s => (List.range k, s)
  uniform := fun a _ s => (a, s)
  randint_range := fun _ _ _ h => ⟨le_rfl, h⟩
  choice_lt := fun _ _ h => h
  choices_lt := by
    intro weights _ h
    cases weights with
    | nil => cases h
    | cons w ws => exact Nat.succ_pos _
  sample_spec := fun _ k _ h =>
    ⟨List.nodup_range, List.length_range, fun _ hi => lt_of_lt_of_le (List.mem_range.mp hi) h⟩
  uniform_range := fun _ _ _ h => ⟨le_rfl, h⟩

theorem sampleFlightQuery_served : SampleFlightProvider.Served sampleFlightQuery :=
  ⟨by decide, by decide, by decide, fun h => absurd h.1 (by decide)⟩

/-- A search of flights and one of hotels, sorted in ways that can raise. -/
theorem least_draws_are_whole :
    (SampleFlightProvider.Served sampleFlightQuery ∧ ∃ result,
      (flightService leastDraws String.length).trySearch asciiLower sampleFlightQuery .departure none 20 none =
          .ok result ∧
        Whole 2 12 (fun r => FlightOffer sampleFlightQuery r.flight) result ∧ 0 < result.searchMeta.total) ∧
    ∃ result, (hotelService leastDraws String.length).trySearch asciiLower sampleHotelQuery .price none 20 none =
          .ok result ∧
        Whole 2 14 (fun r => HotelOffer sampleHotelQuery r.hotel) result ∧ 0 < result.searchMeta.total := by
  have hwhole := shipped_searches_are_whole leastDraws String.length asciiLower
  obtain ⟨flights, hflights, hf, hfpos⟩ := hwhole.1 _ sampleFlightQuery_served .departure none 20 none
  obtain ⟨hotels, hhotels, hh, hhpos⟩ := hwhole.2 sampleHotelQuery (by decide) .price none 20 none
  exact ⟨⟨sampleFlightQuery_served, flights, hflights, hf, hfpos rfl⟩, hotels, hhotels, hh, hhpos rfl⟩

/-- The generator that always draws the greatest. -/
def greatestDraws : Random Unit where
  new := fun _ => ()
  randint := fun _ b s => (b, s)
  choice := fun n s => (n - 1, s)
  choices := fun weights s => (weights.length - 1, s)
  sample := fun _ k s => (List.range k, s)
  uniform := fun _ b s => (b, s)
  randint_range := fun _ _ _ h => ⟨h, le_rfl⟩
  choice_lt := fun _ _ h => Nat.sub_lt h Nat.one_pos
  choices_lt := by
    intro weights _ h
    cases weights with
    | nil => cases h
    | cons w ws => exact Nat.sub_lt (Nat.succ_pos _) Nat.one_pos
  sample_spec := leastDraws.sample_spec
  uniform_range := fun _ _ _ h => ⟨h, le_rfl⟩

/-- The last day of the calendar. -/
def lastDay : Date := ⟨9999, 12, 31, by decide, by decide, by decide⟩

-- On the last day a late flight has no arrival: both providers fail, and the search is degraded and empty.
example : ((flightService greatestDraws String.length).trySearch asciiLower ⟨"THR", "IST", lastDay, 1, "economy"⟩ .best
    none 20 none).map (·.searchMeta) = .ok ⟨true, 0, 2, 0⟩ := by
  decide +kernel

/-! ## Fares and alerts -/

section
variable {σ : Type} (rng : Random σ) (sha256 : String → ℕ)
variable (lower : String → String) (fromisoformat : String → Option Date)

/-- The run checks the alerts against the shipped service. -/
def OnShipped : MonitorEvent → Prop
  | .monitor run => run.flights = flightService rng sha256
  | _ => True

/-- The flight providers are sample providers with base prices of their own. -/
theorem shipped_provider {p : FlightProvider} (hp : p ∈ (flightService rng sha256).providers) :
    ∃ q : SampleFlightProvider, q.Stocked ∧ 10500 ≤ q.basePrice ∧ p = q.provider rng sha256 := by
  rcases List.mem_pair.mp hp with rfl | rfl
  · exact ⟨skyfare, skyfare_stocked, by decide, rfl⟩
  · exact ⟨globehop, globehop_stocked, by decide, rfl⟩

/-- No fare that an alert is checked against is below the bound of the cheaper provider. -/
theorem fare_low (alert : PriceAlert) :
    ∀ f ∈ faresFor fromisoformat (flightService rng sha256) alert, 12300 ≤ f.price.amountMinor := by
  intro f hf
  unfold faresFor at hf
  split at hf
  · cases hf
  · obtain ⟨p, hp, offers, hoffers, hmem⟩ := mem_fanOut_iff.mp hf
    obtain ⟨q, hq, hbase, rfl⟩ := shipped_provider rng sha256 hp
    have hprice := SampleFlightProvider.price_of_search rng sha256 hq zero_le_one hoffers f hmem
    omega

/-- The alert is for a route and a day on which the sample providers have offers. -/
structure Bookable (alert : PriceAlert) : Prop where
  origin : alert.origin.length = 3
  destination : alert.destination.length = 3
  date : ∃ date, fromisoformat alert.departureDate = some date ∧ ¬ date.IsLast

/-- Some fare is within the greatest draws of the cheaper provider. -/
theorem fare_high {alert : PriceAlert} (halert : Bookable fromisoformat alert) :
    ∃ f ∈ faresFor fromisoformat (flightService rng sha256) alert, f.price.amountMinor ≤ 27100 := by
  obtain ⟨date, hdate, hlast⟩ := halert.date
  have hserved : SampleFlightProvider.Served ⟨alert.origin, alert.destination, date, 1, "economy"⟩ :=
    ⟨halert.origin, halert.destination, zero_le_one, hlast⟩
  obtain ⟨fs, hfs, ⟨hlen, -⟩, hall⟩ := SampleFlightProvider.search_spec rng sha256 globehop_stocked hserved
  obtain ⟨f, hf⟩ := List.exists_mem_of_length_pos (by omega : 0 < fs.length)
  refine ⟨f, ?_, ?_⟩
  · simp only [faresFor, hdate]
    exact mem_fanOut_iff.mpr ⟨_, List.mem_pair.mpr (.inr rfl), fs, hfs, hf⟩
  · have hprice := (hall f hf).economy rfl
    simp only [globehop] at hprice
    omega

/-- What was announced is about alerts that the fares can meet. -/
structure MeetsFares (store : MonitorStore) : Prop where
  known : ∀ m ∈ store.sent, m.alertId < store.nextId
  met : ∀ m ∈ store.sent, ∀ a ∈ store.alerts, a.id = m.alertId → 12300 ≤ a.targetAmountMinor

variable {rng sha256 lower fromisoformat}

/-- A due alert has a target that the fares can meet. -/
theorem target_of_due {run : MonitorRun} (hrun : run.flights = flightService rng sha256) {a : PriceAlert}
    (hdue : due lower fromisoformat run a = true) : 12300 ≤ a.targetAmountMinor := by
  obtain ⟨f, hf, hle⟩ := (due_iff lower fromisoformat run a).mp hdue
  rw [hrun] at hf
  exact (fare_low rng sha256 fromisoformat a f hf).trans hle

/-- Every alert that a run announces had such a target when the run began. -/
theorem target_of_announced {run : MonitorRun} (hrun : run.flights = flightService rng sha256) {store : MonitorStore}
    {id : ℕ} (hid : id ∈ announcedIds lower fromisoformat run store) :
    ∃ a ∈ store.active, a.id = id ∧ 12300 ≤ a.targetAmountMinor := by
  obtain ⟨a, ha, hid, hdue⟩ := (announcedIds_spec lower fromisoformat run store).2 id hid
  exact ⟨a, ha, hid, target_of_due hrun hdue⟩

variable (lower fromisoformat) in
/-- A run of the monitor keeps the terms of the alerts, and appends messages about alerts that are due. -/
theorem monitor_frame (run : MonitorRun) (store : MonitorStore) :
    (∀ a ∈ (monitorPrices lower fromisoformat run store).1.alerts, ∃ b ∈ store.alerts, b.id = a.id ∧
      b.targetAmountMinor = a.targetAmountMinor) ∧
    (monitorPrices lower fromisoformat run store).1.nextId = store.nextId ∧
    (∃ sent, (monitorPrices lower fromisoformat run store).1.sent = store.sent ++ sent ∧
      sent.map (·.alertId) = announcedIds lower fromisoformat run store) := by
  obtain ⟨sent, hsent, ⟨-, he⟩ | ⟨-, he⟩⟩ := monitorPrices_cases lower fromisoformat run store
  · rw [he]
    exact ⟨fun a ha => ⟨a, List.mem_of_mem_filter ha, rfl, rfl⟩, rfl, sent, rfl, hsent⟩
  · rw [he]
    refine ⟨fun a ha => ?_, rfl, sent, rfl, hsent⟩
    obtain ⟨b, hb, rfl⟩ := List.mem_map.mp ha
    refine ⟨b, List.mem_of_mem_filter hb, (writeBack_id _ b).symm, ?_⟩
    unfold writeBack
    split <;> rfl

/-- **A run of the monitor over the shipped service** keeps the invariant. -/
theorem MeetsFares.monitor {store : MonitorStore} (h : MeetsFares store) {run : MonitorRun}
    (hrun : run.flights = flightService rng sha256) :
    MeetsFares (monitorPrices lower fromisoformat run store).1 := by
  obtain ⟨hrows, hnext, sent, hsent, hids⟩ := monitor_frame lower fromisoformat run store
  have hnew : ∀ m ∈ sent, ∃ b ∈ store.alerts, b.id = m.alertId ∧ 12300 ≤ b.targetAmountMinor := by
    intro m hm
    obtain ⟨b, hb, hid, hle⟩ := target_of_announced hrun (hids ▸ List.mem_map_of_mem hm)
    exact ⟨b, List.mem_of_mem_filter hb, hid, hle⟩
  refine ⟨fun m hm => ?_, fun m hm a ha hid => ?_⟩
  · rw [hsent] at hm
    rw [hnext]
    rcases List.mem_append.mp hm with hm | hm
    · exact h.known m hm
    · obtain ⟨b, hb, hbid, -⟩ := hnew m hm
      exact hbid ▸ store.ids_lt b hb
  · obtain ⟨b, hb, hbid, htarget⟩ := hrows a ha
    rw [← htarget]
    rw [hsent] at hm
    rcases List.mem_append.mp hm with hm | hm
    · exact h.met m hm b hb (hbid.trans hid)
    · -- Ids are unique, so the row is the one that was found due.
      obtain ⟨c, hc, hcid, hle⟩ := hnew m hm
      have hsame : b = c := List.inj_on_of_nodup_map store.ids_nodup hb hc (hbid.trans (hid.trans hcid.symm))
      exact hsame ▸ hle

/-- **Every event keeps the invariant.** -/
theorem MeetsFares.step {store : MonitorStore} (h : MeetsFares store) {event : MonitorEvent}
    (hevent : OnShipped rng sha256 event) : MeetsFares (store.step lower fromisoformat event).1 := by
  cases event with
  | monitor run => exact h.monitor hevent
  | create userId origin destination departureDate target currency channel =>
    refine ⟨fun m hm => Nat.lt_succ_of_lt (h.known m hm), fun m hm a ha hid => ?_⟩
    rcases List.mem_append.mp ha with ha | ha
    · exact h.met m hm a ha hid
    · -- The id is new, so nothing was announced about it.
      rw [List.mem_singleton] at ha
      have hlt := h.known m hm
      rw [← hid, ha] at hlt
      exact absurd hlt (Nat.lt_irrefl _)
  | delete id => exact ⟨h.known, fun m hm a ha => h.met m hm a (List.mem_of_mem_filter ha)⟩

variable (rng sha256 lower fromisoformat)

/-- **The shipped fares decide about alerts.** From a store from which nothing was sent, through any events with monitor
runs over the shipped service: no alert with a target below 12300 has been announced, whatever its route and date; every
alert that one of the runs announces was active with a target of at least 12300 before the run, whether it is deleted
meanwhile or not; and an active alert with a bookable route, an owner and a target of at least 27100 is announced by the
next run in which nothing fails. -/
theorem shipped_fares_decide_alerts (store : MonitorStore) (hsent : store.sent = []) (events : List MonitorEvent)
    (hshipped : ∀ e ∈ events, OnShipped rng sha256 e) :
    (∀ m ∈ ((monitorMachine lower fromisoformat).run store events).sent,
      ∀ a ∈ ((monitorMachine lower fromisoformat).run store events).alerts, a.id = m.alertId →
        12300 ≤ a.targetAmountMinor) ∧
    (∀ pre run post, events = pre ++ .monitor run :: post →
      ∀ id ∈ announcedIds lower fromisoformat run ((monitorMachine lower fromisoformat).run store pre),
        ∃ a ∈ ((monitorMachine lower fromisoformat).run store pre).active, a.id = id ∧ 12300 ≤ a.targetAmountMinor) ∧
    ∀ run : MonitorRun, run.flights = flightService rng sha256 →
      ∀ a ∈ ((monitorMachine lower fromisoformat).run store events).active,
        owned ((monitorMachine lower fromisoformat).run store events).users a = true → Bookable fromisoformat a →
          27100 ≤ a.targetAmountMinor →
            a.id ∈ announcedIds lower fromisoformat run.retry ((monitorMachine lower fromisoformat).run store events) ∧
            a.id ∈ ((monitorMachine lower fromisoformat).run store (events ++ [.monitor run.retry])).sent.map
              (·.alertId) := by
  have hinit : MeetsFares store := ⟨by simp [hsent], by simp [hsent]⟩
  have hrun := (monitorMachine lower fromisoformat).run_invariant MeetsFares (fun _ _ hinv hevent => hinv.step hevent)
    hinit ((monitorMachine lower fromisoformat).enabled_of_forall hshipped)
  refine ⟨hrun.met, fun pre run post hevents id hid => ?_, fun run hflights a ha howned hbookable htarget => ?_⟩
  · have hflights : OnShipped rng sha256 (.monitor run) :=
      hshipped _ (hevents ▸ List.mem_append_right pre List.mem_cons_self)
    exact target_of_announced hflights hid
  generalize hstore : (monitorMachine lower fromisoformat).run store events = reached at ha howned
  have hdue : due lower fromisoformat run a = true := by
    obtain ⟨f, hf, hle⟩ := fare_high rng sha256 fromisoformat hbookable
    exact (due_iff lower fromisoformat run a).mpr ⟨f, hflights ▸ hf, hle.trans htarget⟩
  have hann := mem_announcedIds_retry ha hdue howned
  refine ⟨hstore ▸ hann, ?_⟩
  obtain ⟨-, -, sent, hsent', hids⟩ := monitor_frame lower fromisoformat run.retry reached
  rw [Machine.run_snoc, hstore]
  have hstep : ((monitorMachine lower fromisoformat).step reached (.monitor run.retry)).1.sent = reached.sent ++ sent :=
    hsent'
  rw [hstep, List.map_append, hids]
  exact List.mem_append_right _ hann

end

/-- User 7 with an alert below all fares and one above the bound of the cheaper provider. -/
def lowAndHigh : MonitorStore where
  users := twoAlerts.users
  alerts := [sampleAlert 0, { sampleAlert 1 with targetAmountMinor := 27100 }]
  sent := []
  nextId := 2
  ids_nodup := by decide
  ids_lt := by decide

/-- A run over the shipped service with the generator that draws the least. -/
def leastRun : MonitorRun := smoothRun (flightService leastDraws String.length)

/-- After a run nothing was announced about the low target; and the run announces the high one. -/
theorem low_and_high_targets :
    (∀ m ∈ ((monitorMachine asciiLower sampleFromisoformat).run lowAndHigh [.monitor leastRun]).sent,
      ∀ a ∈ ((monitorMachine asciiLower sampleFromisoformat).run lowAndHigh [.monitor leastRun]).alerts,
        a.id = m.alertId → 12300 ≤ a.targetAmountMinor) ∧
    (∀ id ∈ announcedIds asciiLower sampleFromisoformat leastRun lowAndHigh,
      ∃ a ∈ lowAndHigh.active, a.id = id ∧ 12300 ≤ a.targetAmountMinor) ∧
    1 ∈ announcedIds asciiLower sampleFromisoformat leastRun.retry lowAndHigh ∧
    1 ∈ ((monitorMachine asciiLower sampleFromisoformat).run lowAndHigh ([] ++ [.monitor leastRun.retry])).sent.map
      (·.alertId) := by
  have hshipped : ∀ e ∈ [MonitorEvent.monitor leastRun], OnShipped leastDraws String.length e := by
    intro e he
    rw [List.mem_singleton.mp he]
    rfl
  have hbookable : Bookable sampleFromisoformat { sampleAlert 1 with targetAmountMinor := 27100 } :=
    ⟨by decide, by decide, sampleDate, by decide +kernel, fun h => absurd h.1 (by decide)⟩
  have hdecided := shipped_fares_decide_alerts leastDraws String.length asciiLower sampleFromisoformat lowAndHigh rfl _
    hshipped
  refine ⟨hdecided.1, hdecided.2.1 [] leastRun [] rfl, ?_⟩
  have hnow := shipped_fares_decide_alerts leastDraws String.length asciiLower sampleFromisoformat lowAndHigh rfl []
    fun _ he => absurd he List.not_mem_nil
  exact hnow.2.2 leastRun rfl _ (by decide +kernel) (by decide +kernel) hbookable le_rfl

end Container

end SmartTravel
