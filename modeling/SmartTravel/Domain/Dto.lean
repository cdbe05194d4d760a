import SmartTravel.Lib.Calendar

/-!
# Normalized offers and provider ports

The shapes every provider maps its payload to, with the bounds that validation checks as fields. A provider answers a
query with a list of offers or raises; the list is a Python list, so its length is at most `sys.maxsize`.
-/

namespace SmartTravel

open Py

/-- `Money`: an amount in minor units and the currency code. -/
structure Money where
  amountMinor : ℕ
  currency : String
deriving DecidableEq

/-- `NormalizedFlight`. -/
structure NormalizedFlight where
  id : String
  provider : String
  airline : String
  origin : String
  destination : String
  departureTime : DateTime
  arrivalTime : DateTime
  durationMinutes : ℕ
  stops : ℕ
  cabinClass : String
  price : Money
  origin_length : origin.length = 3
  destination_length : destination.length = 3
  duration_pos : 0 < durationMinutes
deriving DecidableEq

/-- `is_direct`. -/
def NormalizedFlight.isDirect (f : NormalizedFlight) : Bool := f.stops == 0

/-- `NormalizedHotel`; a rating that validates is a finite float, kept here as the rational it is. -/
structure NormalizedHotel where
  id : String
  provider : String
  name : String
  city : String
  rating : ℚ
  reviewsCount : ℕ
  pricePerNight : Money
  amenities : List String
  rating_range : 0 ≤ rating ∧ rating ≤ 5
deriving DecidableEq

/-- `FlightSearchQuery`. -/
structure FlightSearchQuery where
  origin : String
  destination : String
  departureDate : Date
  adults : ℤ
  cabinClass : String
deriving DecidableEq

/-- `HotelSearchQuery`. -/
structure HotelSearchQuery where
  city : String
  checkIn : Date
  checkOut : Date
  guests : ℤ
deriving DecidableEq

/-- A provider port: what `search` returns for a query, or the text of the exception it raises. -/
structure Provider (Query Offer : Type) where
  name : String
  search : Query → Except String (List Offer)
  sized : ∀ query offers, search query = .ok offers → offers.length ≤ maxSize

/-- `FlightProvider`. -/
abbrev FlightProvider := Provider FlightSearchQuery NormalizedFlight

/-- `HotelProvider`. -/
abbrev HotelProvider := Provider HotelSearchQuery NormalizedHotel

end SmartTravel
