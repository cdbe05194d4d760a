import SmartTravel.Lib.Calendar

/-!
# Rows of the database

The columns that the modelled code reads or writes. Primary keys, random UUIDs in the source, are natural numbers; times
are rational seconds.
-/

namespace SmartTravel

/-- `UserRole`. -/
inductive UserRole where
  | user
  | admin
deriving DecidableEq

/-- A row of `users`. -/
structure User where
  id : ℕ
  email : String
  hashedPassword : String
  fullName : Option String
  role : UserRole
  isActive : Bool
  isVerified : Bool
deriving DecidableEq

/-- A row of `search_history`. -/
structure SearchHistory where
  userId : ℕ
  origin : String
  destination : String
  departureDate : String
  resultCount : ℕ
  latencyMs : ℤ
deriving DecidableEq

/-- `AlertChannel`. -/
inductive AlertChannel where
  | email
  | push
deriving DecidableEq

/-- A row of `price_alerts`. -/
structure PriceAlert where
  id : ℕ
  userId : ℕ
  origin : String
  destination : String
  departureDate : String
  targetAmountMinor : ℕ
  currency : String
  channel : AlertChannel
  isActive : Bool
  triggeredAt : Option ℚ
deriving DecidableEq

/-- A row of `audit_log`. -/
structure AuditLog where
  actorId : Option ℕ
  action : String
  detail : String
  ipAddress : Option String
  createdAt : ℚ
deriving DecidableEq

end SmartTravel
