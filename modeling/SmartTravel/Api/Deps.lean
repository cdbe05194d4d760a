import SmartTravel.Api.SearchFilters
import SmartTravel.Services.AuthService

/-!
# Who is calling

The dependencies that turn an `Authorization` header into a user. `get_access_payload` and `get_current_user` decode the
token, consult the denylist and load an active user; `get_optional_user` decodes the same credential for endpoints that
also serve anonymous callers. The credentials are what FastAPI's `HTTPBearer(auto_error=False)` reads from the header.

The two paths part where the token is revoked, its user is disabled or its subject is malformed
(`optional_user_agrees_iff`).
-/

namespace SmartTravel

open Py

namespace Backend

variable (env : Backend) {κ : Type}

/-- `get_access_payload`. -/
def getAccessPayload [CacheProtocol κ] (s : AuthStateOver κ) (credentials : Option String) (now : ℚ) :
    AuthStateOver κ × Except AuthError Payload :=
  match credentials with
  | none => (s, .error (.authentication "missing bearer token"))
  | some token =>
    match env.decode token .access now with
    | .error e => (s, .error e)
    | .ok payload =>
      let (cache, revoked) := isRevoked s.cache env.skew payload now
      let s := { s with cache := cache }
      if revoked then (s, .error (.authentication "this session has been revoked")) else (s, .ok payload)

/-- `get_current_user`. -/
def getCurrentUser (s : AuthStateOver κ) (payload : Payload) : Except AuthError User :=
  match env.subjectOf s payload with
  | .error e => .error e
  | .ok none => .error (.authentication "user no longer exists or is disabled")
  | .ok (some user) =>
    if !user.isActive then .error (.authentication "user no longer exists or is disabled") else .ok user

/-- `get_access_payload` followed by `get_current_user`. -/
def mandatoryUser [CacheProtocol κ] (s : AuthStateOver κ) (credentials : Option String) (now : ℚ) :
    AuthStateOver κ × Except AuthError User :=
  match env.getAccessPayload s credentials now with
  | (s, .error e) => (s, .error e)
  | (s, .ok payload) => (s, env.getCurrentUser s payload)

/-- `get_optional_user`. -/
def getOptionalUser (s : AuthStateOver κ) (credentials : Option String) (now : ℚ) : Except AuthError (Option User) :=
  match credentials with
  | none => .ok none
  | some token =>
    match decodeToken env.jwt token .access now with
    | .error _ => .ok none
    | .ok payload => env.subjectOf s payload

end Backend

/-! ## `GET /flights/search` -/

/-- The parameters of `search_flights`, and the time its search takes. -/
structure FlightSearchRequest where
  origin : String
  destination : String
  departureDate : Date
  adults : ℤ
  cabin : String
  sort : SortKey
  filters : FlightFilterParams
  limit : ℕ
  cursor : Option String
  latencyMs : ℤ

/-- How `search_flights` fails. -/
inductive FlightSearchError where
  | auth (error : AuthError)
  | badRequest (detail : String)
  | search (error : SearchError)
deriving DecidableEq

section
variable (env : Backend) (upper : String → String) (service : FlightAggregationService)

/-- `search_flights` for the user its dependency resolved: the result and the rows added to `search_history`. -/
def searchFlightsFor (user : Option User) (request : FlightSearchRequest) :
    Except FlightSearchError (SearchResult RankedFlight × List SearchHistory) :=
  if upper request.origin = upper request.destination then
    .error (.badRequest "origin and destination must differ")
  else
    let query : FlightSearchQuery :=
      ⟨upper request.origin, upper request.destination, request.departureDate, request.adults, request.cabin⟩
    match service.search env.lower query request.sort (some (request.filters.filters env.lower)) request.limit
        request.cursor with
    | .error e => .error (.search e)
    | .ok result =>
      .ok (result, user.toList.map fun u => ⟨u.id, query.origin, query.destination, request.departureDate.isoformat,
        result.searchMeta.total, request.latencyMs⟩)

/-- `search_flights`. -/
def searchFlights {κ : Type} (s : AuthStateOver κ) (credentials : Option String) (now : ℚ)
    (request : FlightSearchRequest) : Except FlightSearchError (SearchResult RankedFlight × List SearchHistory) :=
  match env.getOptionalUser s credentials now with
  | .error e => .error (.auth e)
  | .ok user => searchFlightsFor env upper service user request

end

/-! ## The optional path and the mandatory one -/

/-- The optional path resolves to the user that the mandatory one resolves to and to nobody otherwise, and a flight
search records accordingly. -/
def OptionalAgrees (env : Backend) (s : AuthState) (credentials : Option String) (now : ℚ) : Prop :=
  env.getOptionalUser s credentials now = .ok (env.mandatoryUser s credentials now).2.toOption ∧
    ∀ upper service request, searchFlights env upper service s credentials now request =
      searchFlightsFor env upper service (env.mandatoryUser s credentials now).2.toOption request

/-- There is no credential that decodes to an access token; or there is one, its subject is a primary key, and if a user
has that key, then the token is not revoked and the user is active. -/
def InGoodStanding (env : Backend) (s : AuthState) (credentials : Option String) (now : ℚ) : Prop :=
  ∀ token ∈ credentials, ∀ payload, decodeToken env.jwt token .access now = .ok payload →
    ∃ id, payload.sub.bind env.uuid.parse = some id ∧
      ∀ user ∈ s.getById id, (isRevoked s.cache env.skew payload now).2 = false ∧ user.isActive = true

section
variable {env : Backend} {s : AuthState} {token : String} {now : ℚ} {payload : Payload}
  (hdecode : decodeToken env.jwt token .access now = .ok payload)
include hdecode

theorem getOptionalUser_of_decode : env.getOptionalUser s (some token) now = env.subjectOf s payload := by
  simp only [Backend.getOptionalUser, hdecode]

theorem getAccessPayload_of_decode : env.getAccessPayload s (some token) now =
    ({ s with cache := (isRevoked s.cache env.skew payload now).1 },
      if (isRevoked s.cache env.skew payload now).2 then .error (.authentication "this session has been revoked")
      else .ok payload) := by
  simp only [Backend.getAccessPayload, env.decode_of_ok hdecode]
  split <;> rfl

/-- The mandatory path refuses a revoked token and otherwise loads the user. -/
theorem mandatoryUser_of_decode : (env.mandatoryUser s (some token) now).2 =
    if (isRevoked s.cache env.skew payload now).2 then .error (.authentication "this session has been revoked")
    else env.getCurrentUser s payload := by
  simp only [Backend.mandatoryUser, getAccessPayload_of_decode hdecode]
  cases (isRevoked s.cache env.skew payload now).2 <;> rfl

end

/-- Without a decodable credential both paths resolve to nobody. -/
theorem optionalAgrees_of_no_token {env : Backend} {s : AuthState} {credentials : Option String} {now : ℚ}
    (h : ∀ token ∈ credentials, ∀ payload, decodeToken env.jwt token .access now ≠ .ok payload) :
    env.getOptionalUser s credentials now = .ok none ∧ (env.mandatoryUser s credentials now).2.toOption = none := by
  cases credentials with
  | none => exact ⟨rfl, rfl⟩
  | some token =>
    cases hdecode : decodeToken env.jwt token .access now with
    | ok payload => exact absurd hdecode (h token rfl payload)
    | error detail =>
      constructor
      · simp only [Backend.getOptionalUser, hdecode]
      · simp only [Backend.mandatoryUser, Backend.getAccessPayload, env.decode_of_error hdecode]
        rfl

/-- `get_current_user` resolves to the active user with the token's subject. -/
theorem toOption_getCurrentUser {env : Backend} {s : AuthState} {payload : Payload} {id : ℕ}
    (hsub : payload.sub.bind env.uuid.parse = some id) :
    (env.getCurrentUser s payload).toOption = (s.getById id).filter (·.isActive) := by
  simp only [Backend.getCurrentUser, Backend.subjectOf, hsub]
  cases s.getById id with
  | none => rfl
  | some user => cases hactive : user.isActive <;> simp [Except.toOption, Option.filter, hactive]

/-- What the user part of agreement says about a token that decodes. -/
theorem getOptionalUser_eq_iff {env : Backend} {s : AuthState} {token : String} {now : ℚ} {payload : Payload}
    (hdecode : decodeToken env.jwt token .access now = .ok payload) :
    env.getOptionalUser s (some token) now = .ok (env.mandatoryUser s (some token) now).2.toOption ↔
      ∃ id, payload.sub.bind env.uuid.parse = some id ∧
        ∀ user ∈ s.getById id, (isRevoked s.cache env.skew payload now).2 = false ∧ user.isActive = true := by
  rw [getOptionalUser_of_decode hdecode, mandatoryUser_of_decode hdecode]
  cases hsub : payload.sub.bind env.uuid.parse with
  | none => simp [Backend.subjectOf, hsub]
  | some id =>
    have hopt : env.subjectOf s payload = .ok (s.getById id) := by simp only [Backend.subjectOf, hsub]
    have hcur := toOption_getCurrentUser (s := s) hsub
    rw [hopt, Except.ok.injEq]
    simp only [Option.some.injEq, exists_eq_left']
    generalize s.getById id = found at hcur ⊢
    cases hrevoked : (isRevoked s.cache env.skew payload now).2 with
    | true =>
      simp only [if_true, Except.toOption, Bool.true_eq_false, false_and, imp_false]
      cases found <;> simp
    | false =>
      simp only [Bool.false_eq_true, if_false, hcur, true_and]
      cases found with
      | none => simp
      | some user => cases hactive : user.isActive <;> simp [Option.filter, hactive]

/-- **The optional path agrees with the mandatory one exactly for callers in good standing.** -/
theorem optional_user_agrees_iff (env : Backend) (s : AuthState) (credentials : Option String) (now : ℚ) :
    OptionalAgrees env s credentials now ↔ InGoodStanding env s credentials now := by
  have huser : env.getOptionalUser s credentials now = .ok (env.mandatoryUser s credentials now).2.toOption ↔
      InGoodStanding env s credentials now := by
    by_cases h : ∃ token ∈ credentials, ∃ payload, decodeToken env.jwt token .access now = .ok payload
    · obtain ⟨token, rfl, payload, hdecode⟩ := h
      rw [getOptionalUser_eq_iff hdecode]
      constructor
      · intro hid token' htoken payload' hdecode'
        cases htoken
        rw [hdecode] at hdecode'
        cases hdecode'
        exact hid
      · intro hgood
        exact hgood token rfl payload hdecode
    · have hno : ∀ token ∈ credentials, ∀ payload, decodeToken env.jwt token .access now ≠ .ok payload :=
        fun token ht payload hd => h ⟨token, ht, payload, hd⟩
      obtain ⟨hopt, hmand⟩ := optionalAgrees_of_no_token (s := s) hno
      rw [hopt, hmand]
      exact ⟨fun _ token ht payload hd => absurd hd (hno token ht payload), fun _ => rfl⟩
  rw [← huser]
  refine ⟨fun h => h.1, fun h => ⟨h, fun upper service request => ?_⟩⟩
  simp only [searchFlights, h]

/-- The payload of an access token of the sample user, minted at 0. -/
def sampleAccess : Payload := createPayload "7" .access 900 0 "1"

/-- The sample user with that token revoked. -/
def loggedOut : AuthState :=
  ⟨[sampleUser], .inMemory ⟨Py.Dict.empty.set "revoked:1" ("1", 900)⟩, [], [sampleAccess], 0, 8⟩

/-- The sample user disabled, with nothing revoked. -/
def disabled : AuthState :=
  ⟨[{ sampleUser with isActive := false }], .inMemory ⟨Py.Dict.empty⟩, [], [sampleAccess], 0, 8⟩

/-- A search for the sample route. -/
def sampleSearch : FlightSearchRequest :=
  ⟨"THR", "IST", sampleDate, 1, "economy", .best, ⟨none, none, none, false⟩, 20, none, 5⟩

/-- A revoked token and the token of a disabled account are still treated as their user, who gets a row in the search
history. -/
theorem optional_user_keeps_refused_sessions :
    (∀ s ∈ [loggedOut, disabled],
      (((sampleBackend [sampleAccess]).getOptionalUser s (some "1") 10).toOption.bind id).map (·.id) = some 7 ∧
      ((sampleBackend [sampleAccess]).mandatoryUser s (some "1") 10).2.toOption = none ∧
      (searchFlights (sampleBackend [sampleAccess]) id threeFlights s (some "1") 10 sampleSearch).toOption.map
        (fun answer => answer.2.map (·.userId)) = some [7]) ∧
    ¬ OptionalAgrees (sampleBackend [sampleAccess]) loggedOut (some "1") 10 ∧
    ¬ OptionalAgrees (sampleBackend [sampleAccess]) disabled (some "1") 10 := by
  have hrefused : ∀ s ∈ [loggedOut, disabled],
      (((sampleBackend [sampleAccess]).getOptionalUser s (some "1") 10).toOption.bind id).map (·.id) = some 7 ∧
      ((sampleBackend [sampleAccess]).mandatoryUser s (some "1") 10).2.toOption = none ∧
      (searchFlights (sampleBackend [sampleAccess]) id threeFlights s (some "1") 10 sampleSearch).toOption.map
        (fun answer => answer.2.map (·.userId)) = some [7] := by decide +kernel
  have hdiffer : ∀ s ∈ [loggedOut, disabled], ¬ OptionalAgrees (sampleBackend [sampleAccess]) s (some "1") 10 := by
    intro s hs hagrees
    obtain ⟨hopt, hmand, -⟩ := hrefused s hs
    rw [hagrees.1, hmand] at hopt
    cases hopt
  exact ⟨hrefused, hdiffer _ (by simp), hdiffer _ (by simp)⟩

end SmartTravel
