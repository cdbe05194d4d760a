import SmartTravel.Services.SearchFailures

/-!
# Scores and the best order

`_rank` normalises every attribute by the spread of the whole list, weighs and subtracts them, and rounds to three
decimals. Over exact rationals the scores lie between zero and one, and an offer that is no worse than another has no
lower score (`scores_normalised`).

`_sort` by `BEST` compares the rounded scores. So a flight that is better than another comes before it unless the two
have one score, that is, unless they differ by at most a thousandth; such flights stay in the order of the list
(`best_order_respects_scores`).
-/

namespace SmartTravel

open Py

/-! ## Normalising -/

theorem normalized_range {x span : ℚ} (hx : 0 ≤ x) (hspan : x ≤ span) :
    0 ≤ normalized x span ∧ normalized x span ≤ 1 := by
  unfold normalized
  split
  · exact ⟨le_rfl, zero_le_one⟩
  · exact ⟨div_nonneg hx (hx.trans hspan), div_le_one_of_le₀ hspan (hx.trans hspan)⟩

theorem normalized_mono {x y span : ℚ} (hspan : 0 ≤ span) (h : x ≤ y) : normalized x span ≤ normalized y span := by
  unfold normalized
  split
  · exact le_rfl
  · exact div_le_div_of_nonneg_right h hspan

section
variable {α : Type} (f : α → ℕ) (xs : List α)

/-- The least value of a list. -/
def lowest : ℚ := (xs.map fun x => (f x : ℚ)).min?.getD 0

/-- The greatest value of a list. -/
def highest : ℚ := (xs.map fun x => (f x : ℚ)).max?.getD 0

variable {xs} {x y : α}

theorem lowest_le (hx : x ∈ xs) : lowest f xs ≤ f x := by
  rw [lowest, min?_getD_cast]
  exact_mod_cast min?_getD_le (List.mem_map_of_mem hx)

theorem le_highest (hx : x ∈ xs) : f x ≤ highest f xs := by
  rw [highest, max?_getD_cast]
  exact_mod_cast le_max?_getD (List.mem_map_of_mem hx)

/-- Where a value stands between the least and the greatest one. -/
theorem normalized_spread_range (hx : x ∈ xs) :
    0 ≤ normalized (f x - lowest f xs) (highest f xs - lowest f xs) ∧
      normalized (f x - lowest f xs) (highest f xs - lowest f xs) ≤ 1 := by
  have hlow := lowest_le f hx
  have hhigh := le_highest f hx
  exact normalized_range (by linarith) (by linarith)

theorem normalized_spread_mono (hx : x ∈ xs) (h : f x ≤ f y) :
    normalized (f x - lowest f xs) (highest f xs - lowest f xs) ≤
      normalized (f y - lowest f xs) (highest f xs - lowest f xs) := by
  have hlow := lowest_le f hx
  have hhigh := le_highest f hx
  have hle : (f x : ℚ) ≤ f y := by exact_mod_cast h
  exact normalized_mono (by linarith) (by linarith)

/-- The share of the greatest value. -/
theorem normalized_share_range (hx : x ∈ xs) : 0 ≤ normalized (f x) (highest f xs) ∧
    normalized (f x) (highest f xs) ≤ 1 :=
  normalized_range (Nat.cast_nonneg _) (le_highest f hx)

theorem normalized_share_mono (hx : x ∈ xs) (h : f x ≤ f y) :
    normalized (f x) (highest f xs) ≤ normalized (f y) (highest f xs) := by
  have hhigh := le_highest f hx
  have hnonneg : (0 : ℚ) ≤ f x := Nat.cast_nonneg _
  exact normalized_mono (hnonneg.trans hhigh) (by exact_mod_cast h)

end

/-- A weighted score is rounded within its bounds. -/
theorem round3_range {x : ℚ} (h : 0 ≤ x ∧ x ≤ 1) : 0 ≤ round3 x ∧ round3 x ≤ 1 := by
  have hlow := round3_mono h.1
  have hhigh := round3_mono h.2
  have hzero : round3 0 = 0 := by exact_mod_cast round3_intCast 0
  have hone : round3 1 = 1 := by exact_mod_cast round3_intCast 1
  rw [hzero] at hlow
  rw [hone] at hhigh
  exact ⟨hlow, hhigh⟩

/-! ## Flights -/

/-- No worse in price, duration and stops. -/
def NormalizedFlight.NoWorse (f g : NormalizedFlight) : Prop :=
  f.price.amountMinor ≤ g.price.amountMinor ∧ f.durationMinutes ≤ g.durationMinutes ∧ f.stops ≤ g.stops

/-- No worse in all three, and better in one of them. -/
def NormalizedFlight.Dominates (f g : NormalizedFlight) : Prop :=
  f.NoWorse g ∧ (f.price.amountMinor < g.price.amountMinor ∨ f.durationMinutes < g.durationMinutes ∨ f.stops < g.stops)

instance (f g : NormalizedFlight) : Decidable (f.NoWorse g) := inferInstanceAs (Decidable (_ ∧ _ ∧ _))

instance (f g : NormalizedFlight) : Decidable (f.Dominates g) := inferInstanceAs (Decidable (_ ∧ (_ ∨ _ ∨ _)))

namespace FlightAggregationService

/-- The `penalty` of a flight of the list. -/
def penalty (flights : List NormalizedFlight) (flight : NormalizedFlight) : ℚ :=
  let price := fun f : NormalizedFlight => f.price.amountMinor
  1 / 2 * normalized (price flight - lowest price flights) (highest price flights - lowest price flights) +
    3 / 10 * normalized (flight.durationMinutes - lowest NormalizedFlight.durationMinutes flights)
      (highest NormalizedFlight.durationMinutes flights - lowest NormalizedFlight.durationMinutes flights) +
    1 / 5 * normalized flight.stops (highest NormalizedFlight.stops flights)

theorem rank_eq (flights : List NormalizedFlight) :
    rank flights = flights.map fun flight => ⟨flight, round3 (1 - penalty flights flight)⟩ := rfl

section
variable {flights : List NormalizedFlight} {f g : NormalizedFlight}

theorem penalty_range (hf : f ∈ flights) : 0 ≤ penalty flights f ∧ penalty flights f ≤ 1 := by
  have hprice := normalized_spread_range (fun f : NormalizedFlight => f.price.amountMinor) hf
  have hduration := normalized_spread_range NormalizedFlight.durationMinutes hf
  have hstops := normalized_share_range NormalizedFlight.stops hf
  unfold penalty
  constructor <;> linarith

theorem penalty_mono (hf : f ∈ flights) (h : f.NoWorse g) : penalty flights f ≤ penalty flights g := by
  have hprice := normalized_spread_mono (fun f : NormalizedFlight => f.price.amountMinor) hf h.1
  have hduration := normalized_spread_mono NormalizedFlight.durationMinutes hf h.2.1
  have hstops := normalized_share_mono NormalizedFlight.stops hf h.2.2
  unfold penalty
  linarith

/-- A ranked flight is one of the list, with its score. -/
theorem mem_rank {r : RankedFlight} (h : r ∈ rank flights) :
    r.flight ∈ flights ∧ r.score = round3 (1 - penalty flights r.flight) := by
  rw [rank_eq] at h
  obtain ⟨flight, hflight, rfl⟩ := List.mem_map.mp h
  exact ⟨hflight, rfl⟩

theorem score_range {r : RankedFlight} (h : r ∈ rank flights) : 0 ≤ r.score ∧ r.score ≤ 1 := by
  obtain ⟨hmem, hscore⟩ := mem_rank h
  have hpenalty := penalty_range hmem
  rw [hscore]
  exact round3_range ⟨by linarith, by linarith⟩

theorem score_mono {r s : RankedFlight} (hr : r ∈ rank flights) (hs : s ∈ rank flights)
    (h : r.flight.NoWorse s.flight) : s.score ≤ r.score := by
  have hpenalty := penalty_mono (mem_rank hr).1 h
  rw [(mem_rank hr).2, (mem_rank hs).2]
  exact round3_mono (by linarith)

/-- Penalties that are more than a thousandth apart make different scores. -/
theorem score_lt {r s : RankedFlight} (hr : r ∈ rank flights) (hs : s ∈ rank flights)
    (h : penalty flights r.flight + 1 / 1000 < penalty flights s.flight) : s.score < r.score := by
  rw [(mem_rank hr).2, (mem_rank hs).2]
  exact round3_lt (by linarith)

end

end FlightAggregationService

/-! ## Hotels -/

/-- No higher price and no lower rating. -/
def NormalizedHotel.NoWorse (h k : NormalizedHotel) : Prop :=
  h.pricePerNight.amountMinor ≤ k.pricePerNight.amountMinor ∧ k.rating ≤ h.rating

namespace HotelAggregationService

/-- The score of a hotel of the list before it is rounded. -/
def merit (hotels : List NormalizedHotel) (hotel : NormalizedHotel) : ℚ :=
  3 / 5 * (hotel.rating / 5) + 2 / 5 * (1 - normalized (hotel.amount - lowest NormalizedHotel.amount hotels)
    (highest NormalizedHotel.amount hotels - lowest NormalizedHotel.amount hotels))

theorem rank_eq (hotels : List NormalizedHotel) :
    rank hotels = hotels.map fun hotel => ⟨hotel, round3 (merit hotels hotel)⟩ := rfl

section
variable {hotels : List NormalizedHotel} {h k : NormalizedHotel}

theorem merit_range (hh : h ∈ hotels) : 0 ≤ merit hotels h ∧ merit hotels h ≤ 1 := by
  have hprice := normalized_spread_range NormalizedHotel.amount hh
  have hrating := h.rating_range
  unfold merit
  constructor <;> linarith

theorem merit_mono (hh : h ∈ hotels) (hle : h.NoWorse k) : merit hotels k ≤ merit hotels h := by
  have hprice := normalized_spread_mono NormalizedHotel.amount hh hle.1
  have hrating := hle.2
  unfold merit
  linarith

theorem mem_rank {r : RankedHotel} (hr : r ∈ rank hotels) :
    r.hotel ∈ hotels ∧ r.score = round3 (merit hotels r.hotel) := by
  rw [rank_eq] at hr
  obtain ⟨hotel, hhotel, rfl⟩ := List.mem_map.mp hr
  exact ⟨hhotel, rfl⟩

theorem score_range {r : RankedHotel} (hr : r ∈ rank hotels) : 0 ≤ r.score ∧ r.score ≤ 1 := by
  obtain ⟨hmem, hscore⟩ := mem_rank hr
  rw [hscore]
  exact round3_range (merit_range hmem)

theorem score_mono {r s : RankedHotel} (hr : r ∈ rank hotels) (hs : s ∈ rank hotels)
    (hle : r.hotel.NoWorse s.hotel) : s.score ≤ r.score := by
  rw [(mem_rank hr).2, (mem_rank hs).2]
  exact round3_mono (merit_mono (mem_rank hr).1 hle)

end

end HotelAggregationService

/-- Ranking returns: no division is by zero, the offers stay as they are and in their order, every score is between zero
and one, and an offer that is no worse than another has no lower score. -/
def NormalisedScores {Offer Ranked : Type} (tryRank : List Offer → Except PyError (List Ranked))
    (offer : Ranked → Offer) (score : Ranked → ℚ) (NoWorse : Offer → Offer → Prop) (offers : List Offer) : Prop :=
  ∃ ranked, tryRank offers = .ok ranked ∧ ranked.map offer = offers ∧ (∀ r ∈ ranked, 0 ≤ score r ∧ score r ≤ 1) ∧
    ∀ r ∈ ranked, ∀ s ∈ ranked, NoWorse (offer r) (offer s) → score s ≤ score r

/-- **Scores are normalised and monotone**, for every list of flights and every list of hotels. -/
theorem scores_normalised :
    (∀ flights, NormalisedScores FlightAggregationService.tryRank RankedFlight.flight RankedFlight.score
      NormalizedFlight.NoWorse flights) ∧
    (∀ hotels, NormalisedScores HotelAggregationService.tryRank RankedHotel.hotel RankedHotel.score
      NormalizedHotel.NoWorse hotels) := by
  constructor
  · intro flights
    refine ⟨FlightAggregationService.rank flights, FlightAggregationService.tryRank_eq flights,
      FlightAggregationService.map_flight_rank flights, fun r hr => FlightAggregationService.score_range hr, ?_⟩
    intro r hr s hs hle
    exact FlightAggregationService.score_mono hr hs hle
  · intro hotels
    refine ⟨HotelAggregationService.rank hotels, HotelAggregationService.tryRank_eq hotels,
      HotelAggregationService.map_hotel_rank hotels, fun r hr => HotelAggregationService.score_range hr, ?_⟩
    intro r hr s hs hle
    exact HotelAggregationService.score_mono hr hs hle

/-! ## The best order -/

/-- Nothing comes before a flight that dominates it. -/
def RespectsDominance (ordered : List RankedFlight) : Prop :=
  ordered.Pairwise fun r s => ¬ s.flight.Dominates r.flight

/-- What the best order of the flights keeps to. A flight comes before one that dominates it only when the two have one
score, and then their penalties are within a thousandth; flights of one score stand as in the list. -/
structure BestOrder (flights : List NormalizedFlight) (ordered : List RankedFlight) : Prop where
  same_score : ordered.Pairwise fun r s => s.flight.Dominates r.flight → r.score = s.score
  near : ordered.Pairwise fun r s => s.flight.Dominates r.flight →
    FlightAggregationService.penalty flights r.flight ≤ FlightAggregationService.penalty flights s.flight + 1 / 1000
  stable : ∀ score, ordered.filter (fun r => r.score = score) =
    (FlightAggregationService.rank flights).filter fun r => r.score = score

/-- **The best order respects dominance up to the rounding of the scores**, whatever the order of the flights. -/
theorem best_order_respects_scores (flights : List NormalizedFlight) :
    ∃ ordered, FlightAggregationService.sort .best (FlightAggregationService.rank flights) = .ok ordered ∧
      ordered.Perm (FlightAggregationService.rank flights) ∧ BestOrder flights ordered := by
  generalize hordered : sorted (FlightAggregationService.keys .best) (FlightAggregationService.rank flights) = ordered
  have hperm : ordered.Perm (FlightAggregationService.rank flights) := hordered ▸ sorted_perm _ _
  have hmem : ∀ r ∈ ordered, r ∈ FlightAggregationService.rank flights := fun r hr => hperm.mem_iff.mp hr
  have hscores : ordered.Pairwise fun r s => s.score ≤ r.score := by
    rw [← hordered]
    refine (sorted_pairwise _ _).imp fun {r s} hkey => ?_
    exact neg_le_neg_iff.mp hkey
  refine ⟨ordered, hordered ▸ if_neg (fun h => by cases h.1), hperm, ?_, ?_, ?_⟩
  · refine hscores.imp_of_mem fun {r s} hr hs hle hdom => ?_
    exact le_antisymm (FlightAggregationService.score_mono (hmem s hs) (hmem r hr) hdom.1) hle
  · refine hscores.imp_of_mem fun {r s} hr hs hle _ => ?_
    by_contra hfar
    exact absurd (FlightAggregationService.score_lt (hmem s hs) (hmem r hr) (not_le.mp hfar)) (not_lt.mpr hle)
  · intro score
    have hstable := filter_sorted (FlightAggregationService.keys .best) (FlightAggregationService.rank flights) (-score)
    rw [hordered] at hstable
    simpa only [FlightAggregationService.keys, neg_inj] using hstable

/-- Two flights that cost nearly the same, the cheaper one last, and a very expensive one. -/
def narrowPrices : List NormalizedFlight :=
  [sampleFlight "1" "KLM" 10001 0, sampleFlight "2" "ITA" 10000 0, sampleFlight "3" "THY" 1000000 0]

/-- The dearer flight stays in front of the cheaper one, which is as fast and as direct. -/
theorem narrow_prices_tie :
    (FlightAggregationService.sort .best (FlightAggregationService.rank narrowPrices)).map
        (fun ordered => ordered.map fun r => (r.flight.id, r.score)) = .ok [("1", 1), ("2", 1), ("3", 1 / 2)] ∧
      ¬ ∀ flights ordered, FlightAggregationService.sort .best (FlightAggregationService.rank flights) = .ok ordered →
        RespectsDominance ordered := by
  constructor
  · decide +kernel
  · intro h
    have hrespects := h narrowPrices _ rfl
    revert hrespects
    unfold RespectsDominance
    decide +kernel

end SmartTravel
