import SmartTravel.Lib.CaseMapping
import SmartTravel.Lib.IsoDate
import SmartTravel.Api.Deps
import SmartTravel.Api.PriceAlerts

/-!
# What the monitor can do with an alert

A new alert is checked by the bounds and the pattern of `PriceAlertCreate`; the monitor later reads its date with
`date.fromisoformat` and searches its route. The pattern looks at the shape of the date only, and the codes are any
three characters, while `GET /flights/search` takes a `date` and codes of three letters. So an alert is accepted that
can never fire: `stored_monitorable_iff` says for which payloads this happens.
-/

namespace SmartTravel

open Py

/-- The endpoints with `str.upper` of Python. -/
def pythonAlerts (parse : String → Option ℕ) (fits : PriceAlert → Bool) : AlertsEnv := ⟨upper, parse, fits⟩

/-- `_IATA`, the pattern of a code in `GET /flights/search`. -/
def iata (code : String) : Bool := code.length = 3 && code.toList.all Char.isAlpha

/-- A code of exactly three letters from `A` to `Z`. -/
def IsCode (code : String) : Prop := code.length = 3 ∧ ∀ c ∈ code.toList, c.isUpper = true

/-- `GET /flights/search` takes the route: both codes match its pattern and it does not answer that they are equal. -/
def AcceptsRoute (origin destination : String) : Prop :=
  (iata origin = true ∧ iata destination = true) ∧
    ∀ (env : Backend) (service : FlightAggregationService) (user : Option User) (request : FlightSearchRequest),
      request.origin = origin → request.destination = destination →
        ∀ detail, searchFlightsFor env upper service user request ≠ .error (.badRequest detail)

/-- The monitor can search for the alert. -/
structure Monitorable (alert : PriceAlert) : Prop where
  date : (Date.fromisoformat alert.departureDate).isSome = true
  origin : IsCode alert.origin
  destination : IsCode alert.destination
  differ : alert.origin ≠ alert.destination
  accepted : AcceptsRoute alert.origin alert.destination

/-- Every alert that the request adds to the table can be monitored. -/
def StoresMonitorable (env : AlertsEnv) (table : AlertTable) (request : AlertRequest) : Prop :=
  ∀ row ∈ (table.handle env request).1.rows, row ∉ table.rows → Monitorable row.alert

/-- The request stores an alert. -/
def Stores (env : AlertsEnv) (table : AlertTable) (request : AlertRequest) : Prop :=
  ∃ alert, (table.handle env request).2 = .created alert

/-- The payload names a day of the calendar, and two codes whose characters become letters from `A` to `Z`. -/
structure PriceAlertCreate.NamesFlight (payload : PriceAlertCreate) : Prop where
  date : ∃ day : Date, payload.departureDate = day.isoformat
  origin : ∀ c ∈ payload.origin.toList, isLetterLike c = true
  destination : ∀ c ∈ payload.destination.toList, isLetterLike c = true

/-! ## Dates -/

/-- The pattern leaves the parts of a date in their places, and no week in place of the month. -/
theorem exists_parts_of_dateShaped {s : String} (h : dateShaped s = true) : ∃ years months days : List Char,
    s.toList = years ++ '-' :: (months ++ '-' :: days) ∧ years.length = 4 ∧ months.length = 2 ∧ days.length = 2 ∧
      months.head? ≠ some 'W' := by
  unfold dateShaped at h
  split at h
  · rename_i y₁ y₂ y₃ y₄ a m₁ m₂ b d₁ d₂ hs
    simp only [Bool.and_eq_true, beq_iff_eq] at h
    obtain ⟨⟨hdigits, rfl⟩, rfl⟩ := h
    refine ⟨[y₁, y₂, y₃, y₄], [m₁, m₂], [d₁, d₂], hs, rfl, rfl, rfl, ?_⟩
    have hmonth := List.all_eq_true.mp hdigits m₁ (by simp)
    rintro ⟨⟩
    exact absurd hmonth (by decide)
  · cases h

/-- A text that matches the pattern is parsed when it is what `isoformat` writes for some day. -/
theorem isSome_fromisoformat_iff {s : String} (h : dateShaped s = true) :
    (Date.fromisoformat s).isSome = true ↔ ∃ day : Date, s = day.isoformat := by
  constructor
  · intro hsome
    obtain ⟨day, hday⟩ := Option.isSome_iff_exists.mp hsome
    obtain ⟨years, months, days, hs, hyears, hmonths, hdays, hweek⟩ := exists_parts_of_dateShaped h
    exact ⟨day, Date.eq_isoformat_of_shape hs hyears hmonths hdays hweek hday⟩
  · rintro ⟨day, rfl⟩
    rw [Date.fromisoformat_isoformat]
    rfl

/-! ## Routes -/

/-- The upper case of three characters is a code when they become letters. -/
theorem isCode_upper_iff {s : String} (h : s.length = 3) :
    IsCode (upper s) ↔ ∀ c ∈ s.toList, isLetterLike c = true := by
  rw [← upper_letters_iff, h]
  exact Iff.rfl

theorem iata_of_isCode {code : String} (h : IsCode code) : iata code = true := by
  rw [iata, Bool.and_eq_true, decide_eq_true_eq, List.all_eq_true]
  exact ⟨h.1, fun c hc => isAlpha_of_isUpper (h.2 c hc)⟩

/-- Two different codes are a route that a search accepts. -/
theorem acceptsRoute_of_isCode {origin destination : String} (ho : IsCode origin) (hd : IsCode destination)
    (hne : origin ≠ destination) : AcceptsRoute origin destination := by
  refine ⟨⟨iata_of_isCode ho, iata_of_isCode hd⟩, ?_⟩
  rintro env service user request rfl rfl detail
  have hroute : upper request.origin ≠ upper request.destination := by
    rw [upper_eq_self ho.2, upper_eq_self hd.2]
    exact hne
  rw [searchFlightsFor, if_neg hroute]
  dsimp only
  split <;> simp

/-! ## Stored alerts -/

/-- A creation that succeeds appends the row of its payload, whose codes differ. -/
theorem handle_of_stores {env : AlertsEnv} {table : AlertTable} {userId id : ℕ} {payload : PriceAlertCreate} {now : ℚ}
    (h : Stores env table (.create userId payload id now)) :
    env.upper payload.origin ≠ env.upper payload.destination ∧
      payload.row env userId id now ∉ table.rows ∧
      (table.handle env (.create userId payload id now)).1.rows = table.rows ++ [payload.row env userId id now] := by
  obtain ⟨alert, halert⟩ := h
  simp only [AlertTable.handle] at halert ⊢
  split at halert
  · cases halert
  · rename_i hroute
    rw [if_neg hroute]
    split at halert
    · cases halert
    · rename_i hfits
      rw [if_neg hfits]
      split at halert
      · cases halert
      · rename_i hid
        rw [dif_neg hid]
        refine ⟨hroute, fun hmem => hid (List.mem_map_of_mem hmem), rfl⟩

theorem storesMonitorable_iff {env : AlertsEnv} {table : AlertTable} {userId id : ℕ} {payload : PriceAlertCreate}
    {now : ℚ} (h : Stores env table (.create userId payload id now)) :
    StoresMonitorable env table (.create userId payload id now) ↔
      Monitorable (payload.row env userId id now).alert := by
  obtain ⟨-, hnew, hrows⟩ := handle_of_stores h
  rw [StoresMonitorable, hrows]
  constructor
  · intro hall
    exact hall _ (List.mem_append_right _ List.mem_cons_self) hnew
  · intro hrow row hmem hnot
    rcases List.mem_append.mp hmem with hold | hnew
    · exact absurd hold hnot
    · rwa [List.mem_singleton.mp hnew]

/-- **Which accepted alerts can be monitored**: those that name a day of the calendar and codes of letters. -/
theorem stored_monitorable_iff (parse : String → Option ℕ) (fits : PriceAlert → Bool) (table : AlertTable)
    (userId id : ℕ) (payload : PriceAlertCreate) (now : ℚ)
    (hstored : Stores (pythonAlerts parse fits) table (.create userId payload id now)) :
    StoresMonitorable (pythonAlerts parse fits) table (.create userId payload id now) ↔ payload.NamesFlight := by
  obtain ⟨hroute, -, -⟩ := handle_of_stores hstored
  have hdate := isSome_fromisoformat_iff payload.date_shaped
  have horigin := isCode_upper_iff payload.origin_length
  have hdestination := isCode_upper_iff payload.destination_length
  rw [storesMonitorable_iff hstored]
  constructor
  · intro h
    exact ⟨hdate.mp h.date, horigin.mp h.origin, hdestination.mp h.destination⟩
  · intro h
    have ho := horigin.mpr h.origin
    have hd := hdestination.mpr h.destination
    exact ⟨hdate.mpr h.date, ho, hd, hroute, acceptsRoute_of_isCode ho hd hroute⟩

/-! ## Payloads that pass and fail -/

/-- The first alert is stored when its codes differ and the columns take it. -/
theorem stores_empty {env : AlertsEnv} {userId id : ℕ} {payload : PriceAlertCreate} {now : ℚ}
    (hroute : env.upper payload.origin ≠ env.upper payload.destination)
    (hfits : env.fits (payload.row env userId id now).alert = true) :
    Stores env .empty (.create userId payload id now) := by
  have hcreates : AlertRequest.creates env (.create userId payload id now) = some (payload.row env userId id now) := by
    rw [AlertRequest.creates, if_neg hroute]
    exact Option.filter_eq_some_iff.mpr ⟨rfl, hfits⟩
  have hfresh : (payload.row env userId id now).alert.id ∉ AlertTable.empty.rows.map (·.alert.id) := List.not_mem_nil
  exact ⟨_, congrArg Prod.snd (handle_create hcreates hfresh)⟩

/-- The sample environment with `str.upper` of Python. -/
def samplePythonAlerts : AlertsEnv := pythonAlerts sampleAlertsEnv.parse sampleAlertsEnv.fits

theorem length_thr : "thr".length = 3 := by decide

theorem length_dotless : "ıst".length = 3 := by decide

theorem length_noCode : "12!".length = 3 := by decide

theorem impossibleDay_shaped : dateShaped "2026-02-30" = true := by decide +kernel

/-- A route with a dotless `ı`. -/
def dotlessRoute : PriceAlertCreate := sampleCreate "thr" "ıst" length_thr length_dotless

/-- An alert for the 30th of February. -/
def impossibleDay : PriceAlertCreate :=
  { dotlessRoute with departureDate := "2026-02-30", date_shaped := impossibleDay_shaped }

/-- An alert for an origin that is no code. -/
def noCode : PriceAlertCreate := sampleCreate "12!" "ıst" length_noCode length_dotless

theorem samples_differ : upper "thr" ≠ upper "ıst" ∧ upper "12!" ≠ upper "ıst" := by decide +kernel

/-- The route with the dotless `ı` is stored as `THR` to `IST` and can be monitored. -/
theorem dotless_route_monitorable : Stores samplePythonAlerts .empty (.create 7 dotlessRoute 1 0) ∧
    StoresMonitorable samplePythonAlerts .empty (.create 7 dotlessRoute 1 0) := by
  have hstored : Stores samplePythonAlerts .empty (.create 7 dotlessRoute 1 0) := stores_empty samples_differ.1 rfl
  have hnames : dotlessRoute.NamesFlight :=
    ⟨⟨sampleDate, by decide +kernel⟩, List.all_eq_true.mp (by decide), List.all_eq_true.mp (by decide)⟩
  exact ⟨hstored, (stored_monitorable_iff _ _ .empty 7 1 dotlessRoute 0 hstored).mpr hnames⟩

/-- A day that does not exist is stored, and so is a code without letters. -/
theorem unmonitorable_alerts_stored :
    (Stores samplePythonAlerts .empty (.create 7 impossibleDay 1 0) ∧
      ¬StoresMonitorable samplePythonAlerts .empty (.create 7 impossibleDay 1 0)) ∧
    (Stores samplePythonAlerts .empty (.create 7 noCode 1 0) ∧
      ¬StoresMonitorable samplePythonAlerts .empty (.create 7 noCode 1 0)) := by
  constructor
  · have hstored : Stores samplePythonAlerts .empty (.create 7 impossibleDay 1 0) := stores_empty samples_differ.1 rfl
    refine ⟨hstored, fun h => ?_⟩
    have hnone : (Date.fromisoformat "2026-02-30").isSome = false := by decide +kernel
    exact Bool.false_ne_true (hnone.symm.trans ((storesMonitorable_iff hstored).mp h).date)
  · have hstored : Stores samplePythonAlerts .empty (.create 7 noCode 1 0) := stores_empty samples_differ.2 rfl
    refine ⟨hstored, fun h => ?_⟩
    have hcode := (isCode_upper_iff length_noCode).mp ((storesMonitorable_iff hstored).mp h).origin
    exact absurd (hcode '1' (by decide)) (by decide)

end SmartTravel
