import SmartTravel.Lib.StableSort
import SmartTravel.Providers.SampleFlights

/-!
# The sample hotel provider

`SampleHotelProvider` makes up its offers as the flight provider does. The rating is a float rounded to one decimal, and
the price of a night is computed from it in floating point and cut off to cents.

Every sum on the way stays between natural numbers far below `2 ^ 53`, which rounding does not pass
(`nearest64_between`), so the bounds on the price are those of exact arithmetic (`perNight_spec`).
-/

namespace SmartTravel

open Py

/-- `_NAMES`. -/
def hotelNames : List String := ["Grand", "Central", "Riverside", "Park", "Royal", "Harbor", "Old Town", "Skyline"]

/-- `_KINDS`. -/
def hotelKinds : List String := ["Hotel", "Suites", "Inn", "Residence", "Boutique"]

/-- `_AMENITIES`. -/
def hotelAmenities : List String := ["wifi", "breakfast", "parking", "pool", "gym", "spa", "airport_shuttle"]

/-- `SampleHotelProvider`. -/
structure SampleHotelProvider where
  name : String
  basePrice : ℤ

/-- What is drawn for one hotel. -/
structure HotelDraw where
  stars : ℚ
  surcharge : ℤ
  perGuest : ℤ
  amenities : List ℕ
  name : ℕ
  kind : ℕ
  reviews : ℤ

namespace HotelDraw

/-- `rating`. -/
def rating (d : HotelDraw) : Binary64 := (Binary64.finite d.stars).roundTo 1

/-- `amenities`, in the order of the offer. -/
def amenityNames (d : HotelDraw) : List String := sorted id (d.amenities.map fun i => hotelAmenities.getD i "")

/-- The ranges of the draws. -/
structure InRange (d : HotelDraw) : Prop where
  stars : 3 ≤ d.stars ∧ d.stars ≤ 5
  surcharge : 0 ≤ d.surcharge ∧ d.surcharge ≤ 5000
  perGuest : 500 ≤ d.perGuest ∧ d.perGuest ≤ 1500
  amenities : d.amenities.Nodup ∧ (2 ≤ d.amenities.length ∧ d.amenities.length ≤ 5) ∧ ∀ i ∈ d.amenities, i < 7
  name : d.name < 8
  kind : d.kind < 5
  reviews : 40 ≤ d.reviews ∧ d.reviews ≤ 4000

end HotelDraw

section
variable {σ : Type} (rng : Random σ) (sha256 : String → ℕ)

/-- The draws of one round of the loop. -/
def drawHotel (s : σ) : HotelDraw × σ :=
  let (stars, s) := rng.uniform 3 5 s
  let (surcharge, s) := rng.randint 0 5000 s
  let (perGuest, s) := rng.randint 500 1500 s
  let (count, s) := rng.randint 2 5 s
  let (amenities, s) := rng.sample hotelAmenities.length count.toNat s
  let (name, s) := rng.choice hotelNames.length s
  let (kind, s) := rng.choice hotelKinds.length s
  let (reviews, s) := rng.randint 40 4000 s
  (⟨stars, surcharge, perGuest, amenities, name, kind, reviews⟩, s)

/-- A sample of a number that is drawn too. -/
theorem sample_drawn (s s' : σ) : (rng.sample 7 (rng.randint 2 5 s).1.toNat s').1.Nodup ∧
    (2 ≤ (rng.sample 7 (rng.randint 2 5 s).1.toNat s').1.length ∧
      (rng.sample 7 (rng.randint 2 5 s).1.toNat s').1.length ≤ 5) ∧
    ∀ i ∈ (rng.sample 7 (rng.randint 2 5 s).1.toNat s').1, i < 7 := by
  obtain ⟨hlow, hhigh⟩ := rng.randint_range 2 5 s (by decide)
  obtain ⟨hnodup, hlen, hlt⟩ := rng.sample_spec 7 (rng.randint 2 5 s).1.toNat s' (by omega)
  rw [hlen]
  exact ⟨hnodup, ⟨by omega, by omega⟩, hlt⟩

theorem drawHotel_inRange (s : σ) : (drawHotel rng s).1.InRange where
  stars := rng.uniform_range _ _ _ (by norm_num)
  surcharge := rng.randint_range _ _ _ (by decide)
  perGuest := rng.randint_range _ _ _ (by decide)
  amenities := sample_drawn rng _ _
  name := rng.choice_lt _ _ (by decide)
  kind := rng.choice_lt _ _ (by decide)
  reviews := rng.randint_range _ _ _ (by decide)

namespace SampleHotelProvider

variable (p : SampleHotelProvider) (query : HotelSearchQuery)

/-- `_seed`. -/
def seed : ℕ :=
  sha256 (p.name ++ ":" ++ query.city ++ ":" ++ query.checkIn.isoformat ++ ":" ++ query.checkOut.isoformat ++ ":" ++
    toString query.guests) % 2 ^ 32

/-- `_offer_id`. -/
def offerId (index : ℕ) : String :=
  "ho_" ++ String.ofList ((hexdigest (sha256 (p.name ++ ":" ++ query.city ++ ":" ++ query.checkIn.isoformat ++ ":" ++
    toString index))).toList.take 16)

/-- `per_night`. -/
def perNight (d : HotelDraw) : Except PyError ℤ := do
  let factor ← Binary64.ofInt 1200
  let base ← Binary64.ofInt p.basePrice
  let surcharge ← Binary64.ofInt d.surcharge
  let night ← ((base.add (d.rating.mul factor)).add surcharge).toInt
  pure (night + (query.guests - 1) * d.perGuest)

/-- One offer, or the name of the exception. -/
def build (index : ℕ) (d : HotelDraw) : Except String NormalizedHotel :=
  match p.perNight query d with
  | .error _ => .error "OverflowError"
  | .ok price =>
    match hotelNames[d.name]?, hotelKinds[d.kind]?, d.rating with
    | some name, some kind, .finite rating =>
      if h : (0 ≤ rating ∧ rating ≤ 5) ∧ 0 ≤ d.reviews ∧ 0 ≤ price then
        .ok ⟨offerId sha256 p query index, p.name, name ++ " " ++ kind, query.city, rating, d.reviews.toNat,
          ⟨price.toNat, "USD"⟩, d.amenityNames, h.1⟩
      else .error "ValidationError"
    | _, _, _ => .error "IndexError"

/-- `search`. -/
def search : Except String (List NormalizedHotel) :=
  rng.generate (p.seed sha256 query) 4 7 (drawHotel rng) (p.build sha256 query)

end SampleHotelProvider

end

/-! ## Prices -/

/-- A rating is one of the tenths from three to five, as a float. -/
theorem rating_spec {d : HotelDraw} (hd : d.InRange) : ∃ r, d.rating = .finite r ∧ 3 ≤ r ∧ r ≤ 5 := by
  obtain ⟨hlow, hhigh⟩ := hd.stars
  have hlow' : 30 ≤ roundEven (d.stars * 10) := by
    rw [← roundEven_intCast 30]
    exact roundEven_mono (by push_cast; linarith)
  have hhigh' : roundEven (d.stars * 10) ≤ 50 := by
    rw [← roundEven_intCast 50]
    exact roundEven_mono (by push_cast; linarith)
  have hlowq : (30 : ℚ) ≤ roundEven (d.stars * 10) := by exact_mod_cast hlow'
  have hhighq : (roundEven (d.stars * 10) : ℚ) ≤ 50 := by exact_mod_cast hhigh'
  refine ⟨nearest64 (roundEven (d.stars * 10 ^ 1) / 10 ^ 1), rfl, ?_⟩
  rw [pow_one]
  have hbounds := nearest64_between (by linarith) (by linarith)
    (by push_cast; linarith : ((3 : ℕ) : ℚ) ≤ roundEven (d.stars * 10) / 10)
    (by push_cast; linarith : (roundEven (d.stars * 10) : ℚ) / 10 ≤ (5 : ℕ))
  exact_mod_cast hbounds

namespace SampleHotelProvider

/-- The base price leaves room for the arithmetic. -/
def Stocked (p : SampleHotelProvider) : Prop := 0 ≤ p.basePrice ∧ p.basePrice ≤ 10 ^ 9

/-- What holds of an offer of the provider for the query. -/
structure Plausible (p : SampleHotelProvider) (query : HotelSearchQuery) (h : NormalizedHotel) : Prop where
  provider : h.provider = p.name
  name : ∃ name ∈ hotelNames, ∃ kind ∈ hotelKinds, h.name = name ++ " " ++ kind
  city : h.city = query.city
  rating : 3 ≤ h.rating ∧ h.rating ≤ 5
  reviews : 40 ≤ h.reviewsCount ∧ h.reviewsCount ≤ 4000
  amenities : h.amenities.Nodup ∧ (2 ≤ h.amenities.length ∧ h.amenities.length ≤ 5) ∧ h.amenities ⊆ hotelAmenities ∧
    h.amenities.Pairwise (· ≤ ·)
  currency : h.pricePerNight.currency = "USD"
  price : p.basePrice + 3600 + 500 * (query.guests - 1) ≤ h.pricePerNight.amountMinor ∧
    h.pricePerNight.amountMinor ≤ p.basePrice + 11000 + 1500 * (query.guests - 1)

variable {p : SampleHotelProvider} {query : HotelSearchQuery} {d : HotelDraw}

/-- **The price of a night.** -/
theorem perNight_spec (hp : p.Stocked) (hguests : 1 ≤ query.guests) (hd : d.InRange) :
    ∃ price, p.perNight query d = .ok price ∧ p.basePrice + 3600 + 500 * (query.guests - 1) ≤ price ∧
      price ≤ p.basePrice + 11000 + 1500 * (query.guests - 1) := by
  obtain ⟨hblow, hbhigh⟩ := hp
  obtain ⟨hslow, hshigh⟩ := hd.surcharge
  obtain ⟨hglow, hghigh⟩ := hd.perGuest
  obtain ⟨r, hr, hrlow, hrhigh⟩ := rating_spec hd
  obtain ⟨base, hbase⟩ := Int.eq_ofNat_of_zero_le hblow
  obtain ⟨extra, hextra⟩ := Int.eq_ofNat_of_zero_le hslow
  -- Three roundings, each between the natural numbers that bound the exact sum.
  obtain ⟨x, hx, hxlow, hxhigh⟩ := Binary64.ofRat_between (x := r * 1200) 3600 6000 (by decide) (by decide)
    (by push_cast; linarith) (by push_cast; linarith)
  obtain ⟨y, hy, hylow, hyhigh⟩ := Binary64.ofRat_between (x := base + x) (base + 3600) (base + 6000) (by omega)
    (by omega) (by push_cast at *; linarith) (by push_cast at *; linarith)
  obtain ⟨z, hz, hzlow, hzhigh⟩ := Binary64.ofRat_between (x := y + extra) (base + 3600 + extra) (base + 6000 + extra)
    (by omega) (by omega) (by push_cast at *; linarith) (by push_cast at *; linarith)
  obtain ⟨night, hnight, hnlow, hnhigh⟩ := Binary64.toInt_between hzlow hzhigh
  have hfactor : Binary64.ofInt 1200 = .ok (.finite 1200) := by
    exact_mod_cast Binary64.ofInt_natCast (by decide : 1200 < 2 ^ 53)
  have hfloat : Binary64.ofInt p.basePrice = .ok (.finite base) := hbase ▸ Binary64.ofInt_natCast (by omega)
  have hsurcharge : Binary64.ofInt d.surcharge = .ok (.finite extra) := hextra ▸ Binary64.ofInt_natCast (by omega)
  have hproduct : d.rating.mul (.finite 1200) = .finite x := hr ▸ hx
  have hsum : (Binary64.finite base).add (.finite x) = .finite y := hy
  have htotal : (Binary64.finite y).add (.finite extra) = .finite z := hz
  have hmin : 500 * (query.guests - 1) ≤ (query.guests - 1) * d.perGuest := by
    rw [mul_comm]
    exact mul_le_mul_of_nonneg_left hglow (by omega)
  have hmax : (query.guests - 1) * d.perGuest ≤ 1500 * (query.guests - 1) := by
    rw [mul_comm 1500]
    exact mul_le_mul_of_nonneg_left hghigh (by omega)
  refine ⟨night + (query.guests - 1) * d.perGuest, ?_, by omega, by omega⟩
  simp only [perNight, hfactor, hfloat, hsurcharge, bind, Except.bind, hproduct, hsum, htotal, hnight]
  rfl

/-- The amenities of an offer. -/
theorem amenityNames_spec (hd : d.InRange) : d.amenityNames.Nodup ∧
    (2 ≤ d.amenityNames.length ∧ d.amenityNames.length ≤ 5) ∧ d.amenityNames ⊆ hotelAmenities ∧
      d.amenityNames.Pairwise (· ≤ ·) := by
  obtain ⟨hnodup, hlen, hlt⟩ := hd.amenities
  have hperm : d.amenityNames.Perm (d.amenities.map fun i => hotelAmenities.getD i "") := sorted_perm id _
  have hinj : ∀ i < 7, ∀ j < 7, hotelAmenities.getD i "" = hotelAmenities.getD j "" → i = j := by decide
  have hmem : ∀ i < 7, hotelAmenities.getD i "" ∈ hotelAmenities := by decide
  refine ⟨?_, ?_, ?_, sorted_pairwise id _⟩
  · rw [hperm.nodup_iff]
    exact hnodup.map_on fun i hi j hj he => hinj i (hlt i hi) j (hlt j hj) he
  · rw [hperm.length_eq, List.length_map]
    exact hlen
  · intro name hname
    obtain ⟨i, hi, rfl⟩ := List.mem_map.mp (hperm.mem_iff.mp hname)
    exact hmem i (hlt i hi)

/-- **A draw within its ranges** builds a valid offer. -/
theorem build_spec (sha256 : String → ℕ) (hp : p.Stocked) (hguests : 1 ≤ query.guests) (hd : d.InRange) (index : ℕ) :
    ∃ h, p.build sha256 query index d = .ok h ∧ p.Plausible query h := by
  obtain ⟨price, hprice, hlow, hhigh⟩ := perNight_spec hp hguests hd
  obtain ⟨r, hr, hrlow, hrhigh⟩ := rating_spec hd
  obtain ⟨hvlow, hvhigh⟩ := hd.reviews
  have hname : d.name < hotelNames.length := hd.name
  have hkind : d.kind < hotelKinds.length := hd.kind
  have hpos : 0 ≤ price := by
    have hbase := hp.1
    omega
  have hvalid : (0 ≤ r ∧ r ≤ 5) ∧ 0 ≤ d.reviews ∧ 0 ≤ price := ⟨⟨by linarith, hrhigh⟩, by omega, hpos⟩
  simp only [build, hprice, hr, List.getElem?_eq_getElem hname, List.getElem?_eq_getElem hkind, dif_pos hvalid]
  refine ⟨_, rfl, ?_⟩
  constructor
  case provider => rfl
  case name => exact ⟨_, List.getElem_mem hname, _, List.getElem_mem hkind, rfl⟩
  case city => rfl
  case rating => exact ⟨hrlow, hrhigh⟩
  case reviews => exact ⟨by simp only; omega, by simp only; omega⟩
  case amenities => exact amenityNames_spec hd
  case currency => rfl
  case price => exact ⟨by simp only; omega, by simp only; omega⟩

section
variable {σ : Type} (rng : Random σ) (sha256 : String → ℕ)

/-- **A query for at least one guest** gets from four to seven offers. -/
theorem search_spec (hp : p.Stocked) (hguests : 1 ≤ query.guests) : ∃ hs, p.search rng sha256 query = .ok hs ∧
    (4 ≤ hs.length ∧ hs.length ≤ 7) ∧ ∀ h ∈ hs, p.Plausible query h := by
  obtain ⟨hs, hsearch, ⟨hlow, hhigh⟩, hall⟩ : ∃ hs, p.search rng sha256 query = .ok hs ∧
      ((4 : ℤ) ≤ hs.length ∧ hs.length ≤ (7 : ℤ)) ∧ ∀ h ∈ hs, p.Plausible query h :=
    rng.generate_spec (drawHotel_inRange rng) (fun index _ hd => build_spec sha256 hp hguests hd index) (by decide)
      (by decide)
  exact ⟨hs, hsearch, ⟨by omega, by omega⟩, hall⟩

variable (p)

/-- The provider behind its port. -/
def provider : HotelProvider where
  name := p.name
  search := p.search rng sha256
  sized := by
    intro query hs h
    obtain ⟨-, hlen⟩ := rng.length_generate (by decide) (by decide) h
    have hseven : 7 ≤ maxSize := by decide
    omega

end

end SampleHotelProvider

end SmartTravel
