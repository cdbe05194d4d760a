import SmartTravel.Lib.Binary64
import SmartTravel.Lib.DateArithmetic
import SmartTravel.Lib.Random
import SmartTravel.Domain.Dto

/-!
# The sample flight provider

`SampleFlightProvider` makes up its offers: a generator of random numbers is seeded with a hash of the query, and every
offer is drawn from it. Of the generator only the documented ranges are used, of the hash nothing at all.

What an offer is built from is drawn first (`FlightDraw`), in the order of the source. A draw within its ranges always
builds a valid offer (`build_spec`), so the provider answers every query with some offers (`search_spec`). The one
exception is the last day of the calendar, on which an arrival after midnight has no date.
-/

namespace SmartTravel

open Py

/-- `hashlib.sha256(raw.encode()).hexdigest()`, of the digest as a number. -/
def hexdigest (digest : ℕ) : String :=
  let ds := Nat.toDigits 16 digest
  String.ofList (List.replicate (64 - ds.length) '0' ++ ds)

/-- `SampleFlightProvider`. -/
structure SampleFlightProvider where
  name : String
  airlines : List String
  basePrice : ℤ

/-- `_CABIN_MULTIPLIER.get(cabin_class, 1.0)`. -/
def cabinMultiplier (cabinClass : String) : Binary64 :=
  if cabinClass = "premium" then .ofRat (16 / 10)
  else if cabinClass = "business" then .ofRat (28 / 10)
  else if cabinClass = "first" then .ofRat (45 / 10)
  else .ofRat 1

/-- What is drawn for one flight. -/
structure FlightDraw where
  airline : ℕ
  stops : ℕ
  departHour : ℤ
  flying : ℤ
  waiting : ℤ
  quarter : ℕ
  extra : ℤ

namespace FlightDraw

/-- `duration`. -/
def duration (d : FlightDraw) : ℤ := d.flying + d.stops * d.waiting

/-- `minute`. -/
def minute (d : FlightDraw) : ℕ := [0, 15, 30, 45].getD d.quarter 0

/-- The ranges of the draws. -/
structure InRange (airlines : ℕ) (d : FlightDraw) : Prop where
  airline : d.airline < airlines
  stops : d.stops < 3
  departHour : 5 ≤ d.departHour ∧ d.departHour ≤ 21
  flying : 90 ≤ d.flying ∧ d.flying ≤ 240
  waiting : 45 ≤ d.waiting ∧ d.waiting ≤ 120
  quarter : d.quarter < 4
  extra : 0 ≤ d.extra ∧ d.extra ≤ 4000

end FlightDraw

section
variable {σ : Type} (rng : Random σ) (sha256 : String → ℕ)

/-- The draws of one round of the loop. -/
def drawFlight (airlines : ℕ) (s : σ) : FlightDraw × σ :=
  let (airline, s) := rng.choice airlines s
  let (stops, s) := rng.choices [6, 3, 1] s
  let (departHour, s) := rng.randint 5 21 s
  let (flying, s) := rng.randint 90 240 s
  let (waiting, s) := rng.randint 45 120 s
  let (quarter, s) := rng.choice 4 s
  let (extra, s) := rng.randint 0 4000 s
  (⟨airline, stops, departHour, flying, waiting, quarter, extra⟩, s)

theorem drawFlight_inRange {airlines : ℕ} (h : 0 < airlines) (s : σ) :
    (drawFlight rng airlines s).1.InRange airlines where
  airline := rng.choice_lt _ _ h
  stops := rng.choices_lt [6, 3, 1] _ (by decide)
  departHour := rng.randint_range _ _ _ (by decide)
  flying := rng.randint_range _ _ _ (by decide)
  waiting := rng.randint_range _ _ _ (by decide)
  quarter := rng.choice_lt _ _ (by decide)
  extra := rng.randint_range _ _ _ (by decide)

namespace SampleFlightProvider

variable (p : SampleFlightProvider) (query : FlightSearchQuery)

/-- `_seed`. -/
def seed : ℕ :=
  sha256 (p.name ++ ":" ++ query.origin ++ ":" ++ query.destination ++ ":" ++ query.departureDate.isoformat ++ ":" ++
    query.cabinClass) % 2 ^ 32

/-- `_offer_id`. -/
def offerId (index : ℕ) : String :=
  "fl_" ++ String.ofList ((hexdigest (sha256 (p.name ++ ":" ++ query.origin ++ query.destination ++ ":" ++
    query.departureDate.isoformat ++ ":" ++ toString index))).toList.take 16)

/-- `price_minor`. -/
def priceMinor (d : FlightDraw) : Except PyError ℤ := do
  let fare ← Binary64.ofInt (p.basePrice + d.duration * 20 + d.stops * 1500)
  let scaled ← (fare.mul (cabinMultiplier query.cabinClass)).toInt
  pure (scaled + d.extra * query.adults)

/-- `departure`. -/
def departure (d : FlightDraw) : Option DateTime :=
  DateTime.combine query.departureDate d.departHour.toNat d.minute (some utc)

/-- One offer, or the name of the exception. -/
def build (index : ℕ) (d : FlightDraw) : Except String NormalizedFlight :=
  match p.airlines[d.airline]? with
  | none => .error "IndexError"
  | some airline =>
    match departure query d with
    | none => .error "ValueError"
    | some departure =>
      match departure.addMinutes d.duration.toNat with
      | none => .error "OverflowError"
      | some arrival =>
        match p.priceMinor query d with
        | .error _ => .error "OverflowError"
        | .ok price =>
          if h : (query.origin.length = 3 ∧ query.destination.length = 3) ∧ 0 < d.duration.toNat ∧ 0 ≤ price then
            .ok ⟨offerId sha256 p query index, p.name, airline, query.origin, query.destination, departure, arrival,
              d.duration.toNat, d.stops, query.cabinClass, ⟨price.toNat, "USD"⟩, h.1.1, h.1.2, h.2.1⟩
          else .error "ValidationError"

/-- `search`. -/
def search : Except String (List NormalizedFlight) :=
  rng.generate (p.seed sha256 query) 3 6 (drawFlight rng p.airlines.length) (p.build sha256 query)

end SampleFlightProvider

end

/-! ## Fares -/

/-- The factor of a cabin is from one to five. -/
theorem cabinMultiplier_spec (cabinClass : String) : ∃ f, cabinMultiplier cabinClass = .finite f ∧
    (1 ≤ f ∧ f ≤ 5) ∧ (cabinClass = "economy" → f = 1) := by
  have hone : Binary64.ofRat 1 = .finite 1 := by decide +kernel
  have hpremium : Binary64.ofRat (16 / 10) = .finite (nearest64 (16 / 10)) := by decide +kernel
  have hbusiness : Binary64.ofRat (28 / 10) = .finite (nearest64 (28 / 10)) := by decide +kernel
  have hfirst : Binary64.ofRat (45 / 10) = .finite (nearest64 (45 / 10)) := by decide +kernel
  unfold cabinMultiplier
  split
  · rename_i h
    exact ⟨_, hpremium, by decide +kernel, fun he => absurd (h.symm.trans he) (by decide)⟩
  · split
    · rename_i h
      exact ⟨_, hbusiness, by decide +kernel, fun he => absurd (h.symm.trans he) (by decide)⟩
    · split
      · rename_i h
        exact ⟨_, hfirst, by decide +kernel, fun he => absurd (h.symm.trans he) (by decide)⟩
      · exact ⟨1, hone, by norm_num, fun _ => rfl⟩

/-- **A fare times its factor** is a number of cents that is not below the fare. -/
theorem scaled_spec {fare : ℕ} (hpos : 0 < fare) (hfare : fare ≤ 2 ^ 40) (cabinClass : String) : ∃ k : ℤ,
    ((Binary64.ofInt fare).bind fun x => (x.mul (cabinMultiplier cabinClass)).toInt) = .ok k ∧ fare ≤ k ∧
      (cabinClass = "economy" → k = fare) := by
  obtain ⟨f, hf, ⟨hlow, hhigh⟩, heconomy⟩ := cabinMultiplier_spec cabinClass
  have hone : (1 : ℚ) ≤ fare := by exact_mod_cast hpos
  have hle : (fare : ℚ) ≤ 2 ^ 40 := by exact_mod_cast hfare
  have hexact : nearest64 (fare : ℚ) = fare := nearest64_natCast (by omega)
  have hmore : (fare : ℚ) ≤ fare * f := le_mul_of_one_le_right (by linarith) hlow
  have hless : (fare : ℚ) * f ≤ (5 * 2 ^ 40 : ℕ) := by
    push_cast
    nlinarith
  have hpos' : 0 < (fare : ℚ) * f := by linarith
  have hlt : (fare : ℚ) * f < 2 ^ 53 := lt_of_le_of_lt hless (by norm_num)
  have hfloat : Binary64.ofInt fare = .ok (.finite fare) := Binary64.ofInt_natCast (by omega)
  have hmul : (Binary64.finite fare).mul (cabinMultiplier cabinClass) = .finite (nearest64 (fare * f)) := by
    rw [hf]
    exact Binary64.ofRat_of_lt hpos'.le hlt
  refine ⟨⌊nearest64 (fare * f)⌋, ?_, ?_, fun he => ?_⟩
  · simp only [hfloat, Except.bind, hmul, Binary64.toInt, nearest64_nonneg hpos'.le, if_true]
  · rw [Int.le_floor, Int.cast_natCast]
    exact (nearest64_between hpos' hlt hmore hless).1
  · rw [heconomy he, mul_one, hexact]
    exact Int.floor_natCast fare

/-! ## Flights on offer -/

namespace SampleFlightProvider

/-- The provider has airlines and a base price that leaves room for the arithmetic. -/
structure Stocked (p : SampleFlightProvider) : Prop where
  airlines : 0 < p.airlines.length
  basePrice : 0 ≤ p.basePrice ∧ p.basePrice ≤ 10 ^ 9

/-- The query can be served: three-letter codes, nobody is owed a seat, and the day has a next one. -/
structure Served (query : FlightSearchQuery) : Prop where
  origin : query.origin.length = 3
  destination : query.destination.length = 3
  adults : 0 ≤ query.adults
  date : ¬ query.departureDate.IsLast

/-- What holds of an offer of the provider for the query. -/
structure Plausible (p : SampleFlightProvider) (query : FlightSearchQuery) (f : NormalizedFlight) : Prop where
  provider : f.provider = p.name
  airline : f.airline ∈ p.airlines
  route : f.origin = query.origin ∧ f.destination = query.destination
  cabin : f.cabinClass = query.cabinClass
  departure : f.departureTime.date = query.departureDate ∧ f.departureTime.utcoffset = some utc ∧
    5 ≤ f.departureTime.hour ∧ f.departureTime.hour ≤ 21 ∧ f.departureTime.minute ∈ [0, 15, 30, 45]
  arrival : f.arrivalTime.position = f.departureTime.position + f.durationMinutes * 60000000 ∧
    f.arrivalTime.utcoffset = some utc
  duration : 90 ≤ f.durationMinutes ∧ f.durationMinutes ≤ 480
  stops : f.stops ≤ 2
  currency : f.price.currency = "USD"
  price : p.basePrice + 1800 ≤ f.price.amountMinor
  economy : query.cabinClass = "economy" → f.price.amountMinor ≤ p.basePrice + 12600 + 4000 * query.adults

variable {p : SampleFlightProvider} {query : FlightSearchQuery} {d : FlightDraw}

theorem duration_range {airlines : ℕ} (hd : d.InRange airlines) : 90 ≤ d.duration ∧ d.duration ≤ 480 := by
  obtain ⟨hlow, hhigh⟩ := hd.flying
  obtain ⟨hwlow, hwhigh⟩ := hd.waiting
  have hstops := hd.stops
  unfold FlightDraw.duration
  rcases (by omega : d.stops = 0 ∨ d.stops = 1 ∨ d.stops = 2) with h | h | h <;> rw [h] <;> omega

/-- The price of a draw. -/
theorem priceMinor_spec (hp : p.Stocked) (hadults : 0 ≤ query.adults) (hd : d.InRange p.airlines.length) :
    ∃ price, p.priceMinor query d = .ok price ∧ p.basePrice + 1800 ≤ price ∧
      (query.cabinClass = "economy" → price ≤ p.basePrice + 12600 + 4000 * query.adults) := by
  obtain ⟨hdlow, hdhigh⟩ := duration_range hd
  obtain ⟨hblow, hbhigh⟩ := hp.basePrice
  obtain ⟨helow, hehigh⟩ := hd.extra
  have hstops := hd.stops
  obtain ⟨fare, hfare⟩ : ∃ fare : ℕ, p.basePrice + d.duration * 20 + d.stops * 1500 = fare :=
    ⟨(p.basePrice + d.duration * 20 + d.stops * 1500).toNat, by omega⟩
  obtain ⟨scaled, hscaled, hle, heconomy⟩ := scaled_spec (by omega : 0 < fare) (by omega) query.cabinClass
  have hextra : 0 ≤ d.extra * query.adults := mul_nonneg helow hadults
  have hextra' : d.extra * query.adults ≤ 4000 * query.adults := mul_le_mul_of_nonneg_right hehigh hadults
  refine ⟨scaled + d.extra * query.adults, ?_, by omega, fun he => ?_⟩
  · unfold priceMinor
    rw [hfare]
    cases hfloat : Binary64.ofInt fare with
    | error e =>
      rw [hfloat] at hscaled
      cases hscaled
    | ok x =>
      rw [hfloat] at hscaled
      have hint : (x.mul (cabinMultiplier query.cabinClass)).toInt = .ok scaled := hscaled
      simp only [bind, Except.bind, hint]
      rfl
  · have hscaledEq := heconomy he
    omega

/-- **A draw within its ranges** builds a valid offer. -/
theorem build_spec (sha256 : String → ℕ) (hp : p.Stocked) (hquery : Served query) (hd : d.InRange p.airlines.length)
    (index : ℕ) : ∃ f, p.build sha256 query index d = .ok f ∧ p.Plausible query f := by
  obtain ⟨hdlow, hdhigh⟩ := duration_range hd
  obtain ⟨hhlow, hhhigh⟩ := hd.departHour
  have hminute : d.minute ∈ [0, 15, 30, 45] := by
    have htable : ∀ k < 4, [0, 15, 30, 45].getD k 0 ∈ [0, 15, 30, 45] := by decide
    exact htable d.quarter hd.quarter
  have hminute' : d.minute < 60 := by
    have htable : ∀ m ∈ [0, 15, 30, 45], m < 60 := by decide
    exact htable d.minute hminute
  have hbound := hd.airline
  have hairline : p.airlines[d.airline]? = some p.airlines[d.airline] := List.getElem?_eq_getElem hbound
  obtain ⟨dep, hdeparture, hdate, ⟨hhour, hmin⟩, hutc⟩ := DateTime.combine_spec query.departureDate (some utc)
    (by omega : d.departHour.toNat < 24) hminute'
  have hdeparture' : departure query d = some dep := hdeparture
  obtain ⟨price, hprice, hlow, hhigh⟩ := priceMinor_spec hp hquery.adults hd
  have hlast : ¬ dep.date.IsLast := hdate ▸ hquery.date
  obtain ⟨arrival, harrival⟩ := DateTime.addMinutes_isSome hlast (by omega : d.duration.toNat ≤ 1440)
  obtain ⟨hposition, hoffset⟩ := DateTime.position_addMinutes harrival
  have hpos : 0 ≤ price := by
    have hbase := hp.basePrice.1
    omega
  have hvalid : (query.origin.length = 3 ∧ query.destination.length = 3) ∧ 0 < d.duration.toNat ∧ 0 ≤ price :=
    ⟨⟨hquery.origin, hquery.destination⟩, by omega, hpos⟩
  have hstops := hd.stops
  simp only [build, hairline, hdeparture', harrival, hprice, dif_pos hvalid]
  refine ⟨_, rfl, ?_⟩
  constructor
  case provider => rfl
  case airline => exact List.getElem_mem hbound
  case route => exact ⟨rfl, rfl⟩
  case cabin => rfl
  case departure => exact ⟨hdate, hutc, by simp only; omega, by simp only; omega, hmin ▸ hminute⟩
  case arrival => exact ⟨hposition, hoffset.trans hutc⟩
  case duration => exact ⟨by simp only; omega, by simp only; omega⟩
  case stops => simp only; omega
  case currency => rfl
  case price => simp only; omega
  case economy =>
    intro he
    have hmax := hhigh he
    simp only
    omega

/-- Whatever the query, what is built costs at least the base price and ninety minutes. -/
theorem price_of_build {sha256 : String → ℕ} (hp : p.Stocked) (hadults : 0 ≤ query.adults)
    (hd : d.InRange p.airlines.length) {index : ℕ} {f : NormalizedFlight}
    (h : p.build sha256 query index d = .ok f) : p.basePrice + 1800 ≤ f.price.amountMinor := by
  obtain ⟨price, hprice, hlow, -⟩ := priceMinor_spec hp hadults hd
  unfold build at h
  split at h
  · cases h
  · split at h
    · cases h
    · split at h
      · cases h
      · simp only [hprice] at h
        split at h
        · cases h
          exact hlow.trans (Int.self_le_toNat price)
        · cases h

section
variable {σ : Type} (rng : Random σ) (sha256 : String → ℕ)

/-- **A query that can be served** gets from three to six offers. -/
theorem search_spec (hp : p.Stocked) (hquery : Served query) : ∃ fs, p.search rng sha256 query = .ok fs ∧
    (3 ≤ fs.length ∧ fs.length ≤ 6) ∧ ∀ f ∈ fs, p.Plausible query f := by
  obtain ⟨fs, hfs, ⟨hlow, hhigh⟩, hall⟩ : ∃ fs, p.search rng sha256 query = .ok fs ∧
      ((3 : ℤ) ≤ fs.length ∧ fs.length ≤ (6 : ℤ)) ∧ ∀ f ∈ fs, p.Plausible query f :=
    rng.generate_spec (fun s => drawFlight_inRange rng hp.airlines s)
      (fun index _ hd => build_spec sha256 hp hquery hd index) (by decide) (by decide)
  exact ⟨fs, hfs, ⟨by omega, by omega⟩, hall⟩

theorem price_of_search (hp : p.Stocked) (hadults : 0 ≤ query.adults) {fs : List NormalizedFlight}
    (h : p.search rng sha256 query = .ok fs) : ∀ f ∈ fs, p.basePrice + 1800 ≤ f.price.amountMinor :=
  rng.good_of_generate (fun s => drawFlight_inRange rng hp.airlines s)
    (fun _ _ _ hd hbuilt => price_of_build hp hadults hd hbuilt) h

variable (p)

/-- The provider behind its port. -/
def provider : FlightProvider where
  name := p.name
  search := p.search rng sha256
  sized := by
    intro query fs h
    obtain ⟨-, hlen⟩ := rng.length_generate (by decide) (by decide) h
    have hsix : 6 ≤ maxSize := by decide
    omega

end

end SampleFlightProvider

end SmartTravel
