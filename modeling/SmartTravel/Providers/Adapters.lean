import SmartTravel.Lib.Values

/-!
# The weather and the currency adapter

`_normalize` turns the payload of an upstream into a DTO. A `try` block reads the payload and translates the exceptions
it names; what is computed after the block, and the constructor of the DTO, raise as they do. So a payload is accepted
or refused cleanly only under conditions on its values (`weather_clean_iff`, `currency_clean_iff`).

Whether the lower bound of a field lets `nan` pass is up to Pydantic, and a parameter.
-/

namespace SmartTravel

open Py

/-- What leaves an adapter: a `ProviderUnavailableError`, an exception of Python, or Pydantic's `ValidationError`. -/
inductive AdapterError where
  | providerUnavailable (detail : String)
  | python (error : PyError)
  | validation
deriving DecidableEq

/-- An exception of a `try` block whose `except` clause names those in `caught`. -/
def translated (caught : List PyError) (detail : String) (e : PyError) : AdapterError :=
  if e ∈ caught then .providerUnavailable detail else .python e

/-- `Field(ge=0)` for a float. -/
def geZero (nanPasses : Bool) (x : Binary64) : Bool := if x = .nan then nanPasses else x.nonneg

/-- `Field(gt=0)` for a float. -/
def gtZero (nanPasses : Bool) (x : Binary64) : Bool := if x = .nan then nanPasses else x.pos

/-! ## Weather -/

/-- `WeatherForecast`. -/
structure WeatherForecast where
  latitude : Binary64
  longitude : Binary64
  date : String
  temperatureC : Binary64
  precipitationProbability : ℤ
  windKph : Binary64
  humidity : ℤ
deriving DecidableEq

/-- The constructor of `WeatherForecast`. -/
def WeatherForecast.validate (nanPasses : Bool) (forecast : WeatherForecast) : Except AdapterError WeatherForecast :=
  if (0 ≤ forecast.precipitationProbability ∧ forecast.precipitationProbability ≤ 100) ∧
      geZero nanPasses forecast.windKph = true ∧ 0 ≤ forecast.humidity ∧ forecast.humidity ≤ 100 then .ok forecast
  else .error .validation

namespace OpenMeteoWeatherProvider

/-- The exceptions that `_normalize` catches. -/
def caught : List PyError := [.keyError, .indexError, .typeError, .valueError]

/-- The `try` block of `_normalize`: temperature, precipitation and wind. -/
def readDaily (payload : Json) : Except PyError (Binary64 × ℤ × Binary64) := do
  let daily ← payload.getItem "daily"
  let temperature ← (← (← daily.getItem "temperature_2m_max").first).toFloat
  let precipitation ← ((← (← daily.getItem "precipitation_probability_max").first).orElse (.int 0)).toInt
  let wind ← (← (← daily.getItem "wind_speed_10m_max").first).toFloat
  return (temperature, precipitation, wind)

/-- The list comprehension of `_mean_humidity`. -/
def readings (isoDay : String) : List (Json × Json) → Except PyError (List Binary64)
  | [] => .ok []
  | (stamp, value) :: rest => do
    if (← stamp.startsWith isoDay) && value != .null then
      let reading ← value.toFloat
      return reading :: (← readings isoDay rest)
    else readings isoDay rest

/-- `_mean_humidity`. -/
def meanHumidity (payload : Json) (isoDay : String) : Except PyError ℤ := do
  let hourly := (← payload.get "hourly" .null).orElse (.obj [])
  let times := (← hourly.get "time" .null).orElse (.arr [])
  let values := (← hourly.get "relative_humidity_2m" .null).orElse (.arr [])
  let found ← readings isoDay ((← times.iter).zip (← values.iter))
  if found.isEmpty then return 0
  return max 0 (min 100 (← (← fmean found).round))

/-- `_normalize`. -/
def normalize (nanPasses : Bool) (payload : Json) (latitude longitude : Binary64) (isoDay : String) :
    Except AdapterError WeatherForecast := do
  let (temperature, precipitation, wind) ←
    (readDaily payload).mapError (translated caught "open-meteo returned an unexpected payload")
  let humidity ← (meanHumidity payload isoDay).mapError .python
  WeatherForecast.validate nanPasses ⟨latitude, longitude, isoDay, temperature.roundTo 1,
    max 0 (min 100 precipitation), wind.roundTo 1, humidity⟩

end OpenMeteoWeatherProvider

/-! ## Currency -/

/-- A currency code that the endpoint admits: three ASCII letters. -/
structure CurrencyCode where
  text : String
  length_eq : text.toList.length = 3
  letters : ∀ c ∈ text.toList, c.isAlpha = true

/-- `code.upper()`. -/
def CurrencyCode.upper (code : CurrencyCode) : String := String.ofList (code.text.toList.map Char.toUpper)

/-- `CurrencyConversion`. -/
structure CurrencyConversion where
  base : String
  quote : String
  rate : Binary64
  amount : Binary64
  converted : Binary64
  asOf : String
deriving DecidableEq

/-- The constructor of `CurrencyConversion`. -/
def CurrencyConversion.validate (nanPasses : Bool) (conversion : CurrencyConversion) :
    Except AdapterError CurrencyConversion :=
  if gtZero nanPasses conversion.rate = true then .ok conversion else .error .validation

namespace ExchangeRateProvider

/-- The exceptions that `_normalize` catches. -/
def caught : List PyError := [.keyError, .typeError, .valueError]

section
variable (repr : Json → String)

/-- `str(v)`; `repr` writes the values that are no texts. -/
def toStr : Json → String
  | .str s => s
  | v => repr v

/-- The `try` block of `_normalize`: rate, converted amount and date. -/
def readQuote (payload : Json) : Except PyError (Binary64 × Binary64 × String) := do
  let info ← payload.getItem "info"
  let rate ← (← info.getItem "rate").toFloat
  let converted ← (← payload.getItem "result").toFloat
  let asOf := toStr repr (← payload.get "date" (.str ""))
  return (rate, converted, asOf)

/-- `_normalize`. -/
def normalize (nanPasses : Bool) (payload : Json) (base quote : CurrencyCode) (amount : Binary64) :
    Except AdapterError CurrencyConversion := do
  let (rate, converted, asOf) ←
    (readQuote repr payload).mapError (translated caught "exchangerate.host returned an unexpected payload")
  CurrencyConversion.validate nanPasses ⟨base.upper, quote.upper, rate, amount, converted.roundTo 4, asOf⟩

end

end ExchangeRateProvider

/-! ## Clean outcomes -/

/-- An adapter returns something `Good` or raises a `ProviderUnavailableError`. -/
def Clean {α : Type} (Good : α → Prop) : Except AdapterError α → Prop
  | .ok a => Good a
  | .error e => ∃ detail, e = .providerUnavailable detail

section
variable {α β : Type} {Good : β → Prop} {caught : List PyError} {detail : String}

/-- **The rule for a `try` block**: it fails with exceptions that are caught, or what follows is clean. -/
theorem clean_try_bind {x : Except PyError α} {f : α → Except AdapterError β} :
    Clean Good (x.mapError (translated caught detail) >>= f) ↔
      (∀ e, x = .error e → e ∈ caught) ∧ ∀ a, x = .ok a → Clean Good (f a) := by
  cases x with
  | ok a => simp [Except.mapError, bind, Except.bind]
  | error e =>
    by_cases he : e ∈ caught
    · simp [Except.mapError, bind, Except.bind, Clean, translated, he]
    · simp [Except.mapError, bind, Except.bind, Clean, translated, he]

/-- Outside a `try` block nothing may be raised. -/
theorem clean_bind {x : Except PyError α} {f : α → Except AdapterError β} :
    Clean Good (x.mapError .python >>= f) ↔ ∃ a, x = .ok a ∧ Clean Good (f a) := by
  cases x with
  | ok a => simp [Except.mapError, bind, Except.bind]
  | error e => simp [Except.mapError, bind, Except.bind, Clean]

/-- A `try` block fails with exceptions that are caught, step by step. -/
theorem raises_bind_iff {x : Except PyError α} {f : α → Except PyError β} :
    (∀ e, x >>= f = .error e → e ∈ caught) ↔
      (∀ e, x = .error e → e ∈ caught) ∧ ∀ a, x = .ok a → ∀ e, f a = .error e → e ∈ caught := by
  cases x with
  | ok a => simp [bind, Except.bind]
  | error e => simp [bind, Except.bind]

/-- A conversion inside a `try` block that catches all but overflows fails on the values it overflows on. -/
theorem conversion_caught_iff {convert : Json → Except PyError α} {Bad : Json → Prop} {v : Json}
    (hcaught : .typeError ∈ caught ∧ .valueError ∈ caught ∧ .overflowError ∉ caught)
    (hconvert : ∀ e, convert v = .error e → e = .typeError ∨ e = .valueError ∨ e = .overflowError ∧ Bad v)
    (hbad : Bad v → convert v = .error .overflowError) :
    (∀ e, convert v = .error e → e ∈ caught) ↔ ¬ Bad v := by
  constructor
  · intro h hv
    exact hcaught.2.2 (h _ (hbad hv))
  · intro h e he
    rcases hconvert e he with rfl | rfl | ⟨-, hv⟩
    · exact hcaught.1
    · exact hcaught.2.1
    · exact absurd hv h

end

/-! ## The payload of the weather -/

namespace OpenMeteoWeatherProvider

/-- The first value of a daily series. -/
def dailyEntry (payload : Json) (name : String) : Option Json :=
  ((payload.member "daily").bind fun daily => daily.member name).bind Json.head?

/-- One line of the `try` block: a daily value, converted. -/
def readEntry {α : Type} (convert : Json → Except PyError α) (payload : Json) (name : String) : Except PyError α := do
  convert (← (← (← payload.getItem "daily").getItem name).first)

/-- `int(v or 0)`. -/
def intOrZero (v : Json) : Except PyError ℤ := (v.orElse (.int 0)).toInt

theorem readDaily_eq (payload : Json) : readDaily payload = do
    let temperature ← readEntry Json.toFloat payload "temperature_2m_max"
    let precipitation ← readEntry intOrZero payload "precipitation_probability_max"
    let wind ← readEntry Json.toFloat payload "wind_speed_10m_max"
    return (temperature, precipitation, wind) := by
  unfold readDaily readEntry
  cases payload.getItem "daily" with
  | error e => rfl
  | ok daily =>
    simp only [bind_assoc]
    rfl

/-- What subscripts raise is caught. -/
theorem lookup_caught : ∀ e ∈ [PyError.keyError, .indexError, .typeError], e ∈ caught := by decide

section
variable {α : Type} (convert : Json → Except PyError α) (payload : Json) (name : String)

/-- A line of the block converts the entry, or raises an exception that is caught. -/
theorem readEntry_eq : ∃ e ∈ caught, readEntry convert payload name =
    (dailyEntry payload name).elim (.error e) convert := by
  obtain ⟨e, he, hdaily⟩ := payload.getItem_eq "daily"
  unfold readEntry dailyEntry
  rw [hdaily]
  cases payload.member "daily" with
  | none => exact ⟨e, lookup_caught e (by simp at he ⊢; tauto), rfl⟩
  | some daily =>
    obtain ⟨e, he, hseries⟩ := daily.getItem_eq name
    simp only [Option.elim_some, Option.bind_some, bind, Except.bind]
    rw [hseries]
    cases daily.member name with
    | none => exact ⟨e, lookup_caught e (by simp at he ⊢; tauto), rfl⟩
    | some series =>
      obtain ⟨e, he, hfirst⟩ := series.first_eq
      simp only [Option.elim_some, Option.bind_some]
      rw [hfirst]
      cases series.head? with
      | none => exact ⟨e, lookup_caught e he, rfl⟩
      | some v => exact ⟨e, lookup_caught e he, rfl⟩

variable {convert payload name}

theorem readEntry_ok_iff {a : α} :
    readEntry convert payload name = .ok a ↔ ∃ v, dailyEntry payload name = some v ∧ convert v = .ok a := by
  obtain ⟨e, -, heq⟩ := readEntry_eq convert payload name
  rw [heq]
  cases dailyEntry payload name with
  | none => simp
  | some v => simp

/-- The exceptions of a line are caught unless its entry is one of those that the conversion overflows on. -/
theorem readEntry_caught_iff (payload : Json) (name : String) (Bad : Json → Prop)
    (hconvert : ∀ v e, convert v = .error e → e = .typeError ∨ e = .valueError ∨ e = .overflowError ∧ Bad v)
    (hbad : ∀ v, Bad v → convert v = .error .overflowError) :
    (∀ e, readEntry convert payload name = .error e → e ∈ caught) ↔
      ∀ v, dailyEntry payload name = some v → ¬ Bad v := by
  obtain ⟨e, he, heq⟩ := readEntry_eq convert payload name
  rw [heq]
  cases dailyEntry payload name with
  | none => simp [he]
  | some v =>
    simp only [Option.elim_some, Option.some.injEq, forall_eq']
    exact conversion_caught_iff (by decide) (hconvert v) (hbad v)

end

theorem intOrZero_error {v : Json} {e : PyError} (h : intOrZero v = .error e) :
    e = .typeError ∨ e = .valueError ∨ e = .overflowError ∧ v.Infinite := by
  unfold intOrZero Json.orElse at h
  split at h
  · exact Json.toInt_error h
  · cases h

theorem intOrZero_of_infinite {v : Json} (h : v.Infinite) : intOrZero v = .error .overflowError := by
  rw [intOrZero, Json.orElse_of_infinite h, Json.toInt_of_infinite h]

/-! ### The readings of the day -/

/-- A pair of a stamp and a value that is used: the stamp is a text, and the value of a stamp of the day is missing or a
number. -/
def CleanReading (isoDay : String) (entry : Json × Json) : Prop :=
  ∃ s, entry.1 = .str s ∧
    (isoDay.toList.isPrefixOf s.toList = true → entry.2 ≠ .null → ∃ x, entry.2.toFloat = .ok x)

/-- The number of a pair, if its stamp is of the day. -/
def reading? (isoDay : String) (entry : Json × Json) : Option Binary64 :=
  match entry.1 with
  | .str s => if isoDay.toList.isPrefixOf s.toList && entry.2 != .null then entry.2.toFloat.toOption else none
  | _ => none

/-- One round of the comprehension on a pair that is clean. -/
theorem readings_cons {isoDay : String} {entry : Json × Json} (h : CleanReading isoDay entry)
    (rest : List (Json × Json)) :
    readings isoDay (entry :: rest) = (readings isoDay rest).map ((reading? isoDay entry).toList ++ ·) := by
  obtain ⟨stamp, value⟩ := entry
  obtain ⟨s, hs, hread⟩ := h
  cases hs
  by_cases hday : (isoDay.toList.isPrefixOf s.toList && value != .null) = true
  · have hboth : isoDay.toList.isPrefixOf s.toList = true ∧ value ≠ .null := by simpa using hday
    obtain ⟨x, hx⟩ := hread hboth.1 hboth.2
    change value.toFloat = .ok x at hx
    simp only [readings, Json.startsWith, reading?, bind, Except.bind, hday, hx, if_true, Except.toOption]
    cases readings isoDay rest <;> rfl
  · simp only [readings, Json.startsWith, reading?, bind, Except.bind, hday]
    cases readings isoDay rest <;> rfl

/-- A pair that is not clean makes it raise. -/
theorem clean_of_readings_cons {isoDay : String} {entry : Json × Json} {rest : List (Json × Json)}
    {found : List Binary64} (h : readings isoDay (entry :: rest) = .ok found) : CleanReading isoDay entry := by
  obtain ⟨stamp, value⟩ := entry
  cases stamp with
  | str s =>
    refine ⟨s, rfl, fun hday hvalue => ?_⟩
    change value ≠ .null at hvalue
    change ∃ x, value.toFloat = .ok x
    cases hx : value.toFloat with
    | ok x => exact ⟨x, rfl⟩
    | error e => simp [readings, Json.startsWith, bind, Except.bind, hday, hvalue, hx] at h
  | _ => simp [readings, Json.startsWith, bind, Except.bind] at h

/-- What the comprehension computes, when it raises nothing. -/
theorem readings_ok_iff (isoDay : String) : ∀ {entries : List (Json × Json)} {found : List Binary64},
    readings isoDay entries = .ok found ↔
      (∀ entry ∈ entries, CleanReading isoDay entry) ∧ found = entries.filterMap (reading? isoDay)
  | [], found => by simp [readings, eq_comm]
  | entry :: rest, found => by
    rw [List.forall_mem_cons]
    have hfilter : (entry :: rest).filterMap (reading? isoDay) =
        (reading? isoDay entry).toList ++ rest.filterMap (reading? isoDay) := by
      rw [List.filterMap_cons]
      cases reading? isoDay entry <;> rfl
    constructor
    · intro h
      have hclean := clean_of_readings_cons h
      rw [readings_cons hclean] at h
      cases hrest : readings isoDay rest with
      | error e =>
        rw [hrest] at h
        cases h
      | ok found' =>
        rw [hrest] at h
        cases h
        obtain ⟨hall, rfl⟩ := (readings_ok_iff isoDay).mp hrest
        exact ⟨⟨hclean, hall⟩, hfilter.symm⟩
    · rintro ⟨⟨hclean, hall⟩, rfl⟩
      rw [readings_cons hclean, (readings_ok_iff isoDay).mpr ⟨hall, rfl⟩, hfilter]
      rfl

/-- The hourly part of the payload, or an empty object. -/
def hourly (payload : Json) : Json := ((payload.member "hourly").getD .null).orElse (.obj [])

/-- An hourly series, or an empty list. -/
def series (payload : Json) (name : String) : Json := (((hourly payload).member name).getD .null).orElse (.arr [])

/-- The mean humidity can be computed: the hourly part is an object, its two series can be iterated, the pairs are clean
and the mean of the readings of the day, if there are any, is finite. -/
def CleanHumidity (payload : Json) (isoDay : String) : Prop :=
  (∃ fields, hourly payload = .obj fields) ∧
    ∃ stamps values, (series payload "time").iter = .ok stamps ∧
      (series payload "relative_humidity_2m").iter = .ok values ∧
      (∀ entry ∈ stamps.zip values, CleanReading isoDay entry) ∧
      ((stamps.zip values).filterMap (reading? isoDay) = [] ∨
        ∃ mean, fmean ((stamps.zip values).filterMap (reading? isoDay)) = .ok (.finite mean))

/-- The end of `_mean_humidity`, from the pairs on. -/
def meanOf (isoDay : String) (entries : List (Json × Json)) : Except PyError ℤ := do
  let found ← readings isoDay entries
  if found.isEmpty then return 0
  return max 0 (min 100 (← (← fmean found).round))

theorem meanHumidity_eq {payload : Json} {fields fields' : List (String × Json)} (hpayload : payload = .obj fields)
    (hhourly : hourly payload = .obj fields') (isoDay : String) :
    meanHumidity payload isoDay = (do
      let stamps ← (series payload "time").iter
      let values ← (series payload "relative_humidity_2m").iter
      meanOf isoDay (stamps.zip values)) := by
  have hcolumn := fun name => Json.get_of_obj hhourly name .null
  rw [hourly] at hcolumn
  unfold meanHumidity meanOf series
  rw [Json.get_of_obj hpayload]
  simp only [bind, Except.bind, hcolumn]
  rfl

theorem meanOf_ok_iff {isoDay : String} {entries : List (Json × Json)} :
    (∃ n, meanOf isoDay entries = .ok n) ↔
      (∀ entry ∈ entries, CleanReading isoDay entry) ∧ (entries.filterMap (reading? isoDay) = [] ∨
        ∃ mean, fmean (entries.filterMap (reading? isoDay)) = .ok (.finite mean)) := by
  by_cases hclean : ∀ entry ∈ entries, CleanReading isoDay entry
  · have hfound := (readings_ok_iff isoDay).mpr ⟨hclean, rfl⟩
    rw [meanOf, hfound, and_iff_right hclean]
    generalize entries.filterMap (reading? isoDay) = found
    cases found with
    | nil => simp [bind, Except.bind, pure, Except.pure]
    | cons x found =>
      simp only [bind, Except.bind, List.isEmpty_cons, Bool.false_eq_true, if_false, reduceCtorEq, false_or]
      cases fmean (x :: found) with
      | error e => simp
      | ok mean =>
        cases mean with
        | finite y => simp [Binary64.round, pure, Except.pure]
        | _ => simp [Binary64.round]
  · refine iff_of_false ?_ fun h => hclean h.1
    rintro ⟨n, hn⟩
    rw [meanOf] at hn
    cases hfound : readings isoDay entries with
    | error e =>
      rw [hfound] at hn
      cases hn
    | ok found => exact hclean ((readings_ok_iff isoDay).mp hfound).1

/-- The mean is a percentage. -/
theorem meanHumidity_range {payload : Json} {isoDay : String} {n : ℤ} (h : meanHumidity payload isoDay = .ok n) :
    0 ≤ n ∧ n ≤ 100 := by
  simp only [meanHumidity, bind, Except.bind, pure, Except.pure] at h
  repeat' split at h
  all_goals cases h
  all_goals omega

/-- **When `_mean_humidity` returns.** -/
theorem meanHumidity_ok_iff {payload : Json} {fields : List (String × Json)} (hpayload : payload = .obj fields)
    (isoDay : String) : (∃ n, meanHumidity payload isoDay = .ok n) ↔ CleanHumidity payload isoDay := by
  unfold CleanHumidity
  by_cases hobj : ∃ fields, hourly payload = .obj fields
  · obtain ⟨fields', hhourly⟩ := hobj
    rw [meanHumidity_eq hpayload hhourly]
    rw [and_iff_right ⟨fields', hhourly⟩]
    cases (series payload "time").iter with
    | error e => simp [bind, Except.bind]
    | ok stamps =>
      cases (series payload "relative_humidity_2m").iter with
      | error e => simp [bind, Except.bind]
      | ok values =>
        refine meanOf_ok_iff.trans ⟨fun h => ⟨stamps, values, rfl, rfl, h⟩, ?_⟩
        rintro ⟨_, _, hstamps, hvalues, h⟩
        cases hstamps
        cases hvalues
        exact h
  · have hraises : meanHumidity payload isoDay = .error .attributeError := by
      have hget := Json.get_of_not_obj hobj "time" .null
      rw [hourly] at hget
      unfold meanHumidity
      rw [Json.get_of_obj hpayload]
      simp only [bind, Except.bind, hget]
    simp [hraises, hobj]

/-! ### The whole payload -/

/-- The daily value is a number for `convert`. -/
def Reads {α : Type} (convert : Json → Except PyError α) (payload : Json) (name : String) (a : α) : Prop :=
  ∃ v, dailyEntry payload name = some v ∧ convert v = .ok a

/-- A wind speed that is not negative when it is rounded to one decimal. -/
def CalmOrMore (wind : Binary64) : Prop := wind = .infinity false ∨ ∃ x, wind = .finite x ∧ -(1 / 20) ≤ x

/-- What `_normalize` needs of a payload, in the order in which it reads it: no daily value that overflows where it is
reached, and if all three can be read, a wind speed that is not negative and a humidity that can be computed. -/
structure CleanPayload (payload : Json) (isoDay : String) : Prop where
  temperature : ∀ v, dailyEntry payload "temperature_2m_max" = some v → ¬ v.Huge
  precipitation : ∀ t, Reads Json.toFloat payload "temperature_2m_max" t →
    ∀ v, dailyEntry payload "precipitation_probability_max" = some v → ¬ v.Infinite
  wind : ∀ t p, Reads Json.toFloat payload "temperature_2m_max" t →
    Reads intOrZero payload "precipitation_probability_max" p →
    ∀ v, dailyEntry payload "wind_speed_10m_max" = some v → ¬ v.Huge
  rest : ∀ t p w, Reads Json.toFloat payload "temperature_2m_max" t →
    Reads intOrZero payload "precipitation_probability_max" p → Reads Json.toFloat payload "wind_speed_10m_max" w →
    CalmOrMore w ∧ CleanHumidity payload isoDay

/-- A forecast within its bounds. -/
def GoodForecast (forecast : WeatherForecast) : Prop :=
  (0 ≤ forecast.precipitationProbability ∧ forecast.precipitationProbability ≤ 100) ∧
    (0 ≤ forecast.humidity ∧ forecast.humidity ≤ 100) ∧ forecast.windKph.nonneg = true

theorem readDaily_ok_iff {payload : Json} {t : Binary64} {p : ℤ} {w : Binary64} :
    readDaily payload = .ok (t, p, w) ↔ Reads Json.toFloat payload "temperature_2m_max" t ∧
      Reads intOrZero payload "precipitation_probability_max" p ∧
      Reads Json.toFloat payload "wind_speed_10m_max" w := by
  unfold Reads
  rw [readDaily_eq, ← readEntry_ok_iff, ← readEntry_ok_iff, ← readEntry_ok_iff]
  cases readEntry Json.toFloat payload "temperature_2m_max" with
  | error e => simp [bind, Except.bind]
  | ok t' =>
    cases readEntry intOrZero payload "precipitation_probability_max" with
    | error e => simp [bind, Except.bind]
    | ok p' =>
      cases readEntry Json.toFloat payload "wind_speed_10m_max" with
      | error e => simp [bind, Except.bind]
      | ok w' => simp [bind, Except.bind, pure, Except.pure]

/-- The exceptions of the `try` block are caught when no value that it reaches overflows. -/
theorem readDaily_caught_iff {payload : Json} :
    (∀ e, readDaily payload = .error e → e ∈ caught) ↔
      (∀ v, dailyEntry payload "temperature_2m_max" = some v → ¬ v.Huge) ∧
      ∀ t, Reads Json.toFloat payload "temperature_2m_max" t →
        (∀ v, dailyEntry payload "precipitation_probability_max" = some v → ¬ v.Infinite) ∧
        ∀ p, Reads intOrZero payload "precipitation_probability_max" p →
          ∀ v, dailyEntry payload "wind_speed_10m_max" = some v → ¬ v.Huge := by
  have hfloat := fun name => readEntry_caught_iff payload name Json.Huge (fun v e => Json.toFloat_error (v := v))
    (fun v => Json.toFloat_of_huge)
  have hint := fun name => readEntry_caught_iff payload name Json.Infinite (fun v e => intOrZero_error (v := v))
    (fun v => intOrZero_of_infinite)
  unfold Reads
  rw [readDaily_eq, raises_bind_iff, hfloat]
  simp only [← readEntry_ok_iff]
  refine and_congr_right fun _ => forall₂_congr fun t _ => ?_
  rw [raises_bind_iff, hint]
  refine and_congr_right fun _ => forall₂_congr fun p _ => ?_
  rw [raises_bind_iff, hfloat]
  simp [pure, Except.pure]

/-- The constructor accepts what is rounded and clamped, when the wind is not negative. -/
theorem validate_clean_iff (nanPasses : Bool) (forecast : WeatherForecast)
    (hp : 0 ≤ forecast.precipitationProbability ∧ forecast.precipitationProbability ≤ 100)
    (hh : 0 ≤ forecast.humidity ∧ forecast.humidity ≤ 100) :
    Clean GoodForecast (forecast.validate nanPasses) ↔ forecast.windKph.nonneg = true := by
  unfold WeatherForecast.validate geZero
  cases hwind : forecast.windKph with
  | nan => cases nanPasses <;> simp [Clean, GoodForecast, hp, hh, hwind, Binary64.nonneg]
  | infinity negative => cases negative <;> simp [Clean, GoodForecast, hp, hh, hwind, Binary64.nonneg]
  | finite x =>
    by_cases hx : 0 ≤ x
    · simp [Clean, GoodForecast, hp, hh, hwind, Binary64.nonneg, hx]
    · simp [Clean, hp, hh, Binary64.nonneg, hx]

theorem nonneg_roundTo_iff {wind : Binary64} : (wind.roundTo 1).nonneg = true ↔ CalmOrMore wind := by
  unfold CalmOrMore
  cases wind with
  | nan => simp [Binary64.roundTo, Binary64.nonneg]
  | infinity negative => simp [Binary64.roundTo, Binary64.nonneg]
  | finite x => simpa using Binary64.nonneg_roundTo_one x

theorem obj_of_reads {α : Type} {convert : Json → Except PyError α} {payload : Json} {name : String} {a : α}
    (h : Reads convert payload name a) : ∃ fields, payload = .obj fields := by
  obtain ⟨v, hv, -⟩ := h
  unfold dailyEntry at hv
  cases hdaily : payload.member "daily" with
  | none => simp [hdaily] at hv
  | some daily => exact Json.obj_of_member hdaily

/-- What follows the `try` block. -/
def finish (nanPasses : Bool) (payload : Json) (latitude longitude : Binary64) (isoDay : String)
    (daily : Binary64 × ℤ × Binary64) : Except AdapterError WeatherForecast := do
  let humidity ← (meanHumidity payload isoDay).mapError .python
  WeatherForecast.validate nanPasses ⟨latitude, longitude, isoDay, daily.1.roundTo 1, max 0 (min 100 daily.2.1),
    daily.2.2.roundTo 1, humidity⟩

section
variable {nanPasses : Bool} {payload : Json} {latitude longitude : Binary64} {isoDay : String}

theorem finish_clean_iff {t : Binary64} {p : ℤ} {w : Binary64} {fields : List (String × Json)}
    (hpayload : payload = .obj fields) :
    Clean GoodForecast (finish nanPasses payload latitude longitude isoDay (t, p, w)) ↔
      CalmOrMore w ∧ CleanHumidity payload isoDay := by
  have hclamped : 0 ≤ max 0 (min 100 p) ∧ max 0 (min 100 p) ≤ 100 := by omega
  rw [finish, clean_bind, ← meanHumidity_ok_iff hpayload, ← nonneg_roundTo_iff]
  constructor
  · rintro ⟨n, hn, hclean⟩
    exact ⟨(validate_clean_iff nanPasses _ hclamped (meanHumidity_range hn)).mp hclean, n, hn⟩
  · rintro ⟨hwind, n, hn⟩
    exact ⟨n, hn, (validate_clean_iff nanPasses _ hclamped (meanHumidity_range hn)).mpr hwind⟩

theorem normalize_clean_iff :
    Clean GoodForecast (normalize nanPasses payload latitude longitude isoDay) ↔
      (∀ e, readDaily payload = .error e → e ∈ caught) ∧
      ∀ daily, readDaily payload = .ok daily →
        Clean GoodForecast (finish nanPasses payload latitude longitude isoDay daily) := by
  rw [normalize]
  exact clean_try_bind

end

/-- **When the weather adapter is clean**: it returns a forecast within its bounds or refuses the payload exactly when
no daily value overflows where it is read and, if all are read, the wind is not negative and the humidity can be
computed. -/
theorem weather_clean_iff (nanPasses : Bool) (payload : Json) (latitude longitude : Binary64) (isoDay : String) :
    Clean GoodForecast (normalize nanPasses payload latitude longitude isoDay) ↔ CleanPayload payload isoDay := by
  rw [normalize_clean_iff, readDaily_caught_iff]
  constructor
  · rintro ⟨⟨ht, htp⟩, hfinish⟩
    refine ⟨ht, fun t h => (htp t h).1, fun t p h hp => (htp t h).2 p hp, fun t p w h hp hw => ?_⟩
    obtain ⟨fields, hpayload⟩ := obj_of_reads h
    exact (finish_clean_iff hpayload).mp (hfinish _ (readDaily_ok_iff.mpr ⟨h, hp, hw⟩))
  · intro h
    refine ⟨⟨h.temperature, fun t ht => ⟨h.precipitation t ht, fun p hp => h.wind t p ht hp⟩⟩, ?_⟩
    rintro ⟨t, p, w⟩ hread
    obtain ⟨ht, hp, hw⟩ := readDaily_ok_iff.mp hread
    obtain ⟨fields, hpayload⟩ := obj_of_reads ht
    exact (finish_clean_iff hpayload).mpr (h.rest t p w ht hp hw)

/-- A payload with these daily values and nothing hourly. -/
def dailyPayload (temperature precipitation wind : Json) : Json :=
  .obj [("daily", .obj [("temperature_2m_max", .arr [temperature]),
    ("precipitation_probability_max", .arr [precipitation]), ("wind_speed_10m_max", .arr [wind])])]

/-- A negative wind speed leaves the adapter as a `ValidationError`, a huge temperature as an `OverflowError`, and an
hourly part that is a list as an `AttributeError`. -/
theorem weather_payloads_escape :
    (normalize true (dailyPayload (.int 20) (.int 30) (.int (-5))) (.finite 52) (.finite 13) "2026-08-10" =
        .error .validation ∧
      normalize true (dailyPayload (.int (10 ^ 400)) (.int 30) (.int 12)) (.finite 52) (.finite 13) "2026-08-10" =
        .error (.python .overflowError) ∧
      normalize true (.obj [("daily", .obj [("temperature_2m_max", .arr [.int 20]),
        ("precipitation_probability_max", .arr [.int 30]), ("wind_speed_10m_max", .arr [.int 12])]),
        ("hourly", .arr [.int 1])]) (.finite 52) (.finite 13) "2026-08-10" = .error (.python .attributeError)) ∧
    ¬ ∀ payload, Clean GoodForecast (normalize true payload (.finite 52) (.finite 13) "2026-08-10") := by
  have hescapes : normalize true (dailyPayload (.int 20) (.int 30) (.int (-5))) (.finite 52) (.finite 13) "2026-08-10" =
      .error .validation := by decide +kernel
  refine ⟨⟨hescapes, by decide +kernel⟩, fun h => ?_⟩
  have hclean := h (dailyPayload (.int 20) (.int 30) (.int (-5)))
  rw [hescapes] at hclean
  obtain ⟨detail, hdetail⟩ := hclean
  cases hdetail

example : normalize true (dailyPayload (.int 20) .null (.str "7")) (.finite 52) (.finite 13) "2026-08-10" =
    .ok ⟨.finite 52, .finite 13, "2026-08-10", .finite 20, 0, .finite 7, 0⟩ := by decide +kernel

end OpenMeteoWeatherProvider

/-! ## The payload of the rates -/

namespace ExchangeRateProvider

/-- `payload["info"]["rate"]`. -/
def rateEntry (payload : Json) : Option Json := (payload.member "info").bind fun info => info.member "rate"

/-- What `_normalize` needs of a payload, in the order in which it reads it: neither number overflows where it is
reached, and if both can be read, the rate is positive. -/
structure CleanQuote (payload : Json) : Prop where
  rate : ∀ v, rateEntry payload = some v → ¬ v.Huge
  result : ∀ v x, rateEntry payload = some v → v.toFloat = .ok x → ∀ u, payload.member "result" = some u → ¬ u.Huge
  positive : ∀ v x u y, rateEntry payload = some v → v.toFloat = .ok x → payload.member "result" = some u →
    u.toFloat = .ok y → x.pos = true

/-- A conversion with a positive rate, its codes in upper case and the amount that was asked for. -/
def GoodConversion (base quote : CurrencyCode) (amount : Binary64) (conversion : CurrencyConversion) : Prop :=
  conversion.rate.pos = true ∧ conversion.base = base.upper ∧ conversion.quote = quote.upper ∧
    conversion.amount = amount ∧ ∀ c ∈ conversion.base.toList ++ conversion.quote.toList, c.isUpper = true

/-- What subscripts raise is caught. -/
theorem lookup_caught : ∀ e ∈ [PyError.keyError, .typeError], e ∈ caught := by decide

theorem getItem_caught {v : Json} {key : String} {e : PyError} (h : v.getItem key = .error e) : e ∈ caught := by
  obtain ⟨e', he', heq⟩ := v.getItem_eq key
  rw [heq] at h
  cases hmember : v.member key with
  | none =>
    rw [hmember] at h
    cases h
    exact lookup_caught _ he'
  | some x =>
    rw [hmember] at h
    cases h

/-- A conversion is caught unless the number is huge. -/
theorem toFloat_caught_iff {v : Json} : (∀ e, v.toFloat = .error e → e ∈ caught) ↔ ¬ v.Huge :=
  conversion_caught_iff (by decide) (fun _ => Json.toFloat_error) Json.toFloat_of_huge

section
variable (repr : Json → String) (payload : Json)

/-- The block up to the rate fails in a way that is caught, or it goes on with the rate. -/
theorem readQuote_eq : ∃ e ∈ caught, readQuote repr payload = (rateEntry payload).elim (.error e) fun v => do
    let rate ← v.toFloat
    let converted ← (← payload.getItem "result").toFloat
    return (rate, converted, toStr repr ((payload.member "date").getD (.str ""))) := by
  obtain ⟨e, he, hinfo⟩ := payload.getItem_eq "info"
  unfold readQuote rateEntry
  rw [hinfo]
  cases hmember : payload.member "info" with
  | none => exact ⟨e, lookup_caught e he, rfl⟩
  | some info =>
    obtain ⟨e, he, hrate⟩ := info.getItem_eq "rate"
    obtain ⟨fields, hpayload⟩ := Json.obj_of_member hmember
    simp only [Option.elim_some, Option.bind_some, bind, Except.bind]
    rw [hrate, Json.get_of_obj hpayload]
    cases info.member "rate" with
    | none => exact ⟨e, lookup_caught e he, rfl⟩
    | some v => exact ⟨e, lookup_caught e he, rfl⟩

variable {repr payload}

theorem readQuote_caught_iff :
    (∀ e, readQuote repr payload = .error e → e ∈ caught) ↔
      ∀ v, rateEntry payload = some v → ¬ v.Huge ∧
        ∀ x, v.toFloat = .ok x → ∀ u, payload.member "result" = some u → ¬ u.Huge := by
  obtain ⟨e, he, heq⟩ := readQuote_eq repr payload
  rw [heq]
  cases rateEntry payload with
  | none => simp [he]
  | some v =>
    simp only [Option.elim_some, Option.some.injEq, forall_eq']
    rw [raises_bind_iff, toFloat_caught_iff]
    refine and_congr_right fun _ => forall₂_congr fun x _ => ?_
    rw [raises_bind_iff, and_iff_right fun e => getItem_caught]
    simp only [Json.getItem_ok_iff]
    refine forall₂_congr fun u _ => ?_
    rw [raises_bind_iff, toFloat_caught_iff]
    simp [pure, Except.pure]

theorem readQuote_ok_iff {x y : Binary64} {asOf : String} :
    readQuote repr payload = .ok (x, y, asOf) ↔
      ∃ v u, rateEntry payload = some v ∧ v.toFloat = .ok x ∧ payload.member "result" = some u ∧ u.toFloat = .ok y ∧
        asOf = toStr repr ((payload.member "date").getD (.str "")) := by
  obtain ⟨e, -, heq⟩ := readQuote_eq repr payload
  rw [heq]
  cases rateEntry payload with
  | none => simp
  | some v =>
    simp only [Option.elim_some, Option.some.injEq, exists_and_left, exists_eq_left']
    cases v.toFloat with
    | error e => simp [bind, Except.bind]
    | ok x' =>
      simp only [← Json.getItem_ok_iff]
      cases payload.getItem "result" with
      | error e => simp [bind, Except.bind]
      | ok u =>
        cases hu : u.toFloat with
        | error e => simp [bind, Except.bind, hu]
        | ok y' => simp [bind, Except.bind, pure, Except.pure, hu, eq_comm]

end

theorem isUpper_upper (code : CurrencyCode) : ∀ c ∈ code.upper.toList, c.isUpper = true := by
  intro c hc
  rw [CurrencyCode.upper, String.toList_ofList] at hc
  obtain ⟨d, hd, rfl⟩ := List.mem_map.mp hc
  exact isUpper_toUpper (code.letters d hd)

/-- The constructor accepts a positive rate, and nothing else that is good. -/
theorem validate_clean_iff (nanPasses : Bool) (base quote : CurrencyCode) (rate amount converted : Binary64)
    (asOf : String) :
    Clean (GoodConversion base quote amount)
        (CurrencyConversion.validate nanPasses ⟨base.upper, quote.upper, rate, amount, converted, asOf⟩) ↔
      rate.pos = true := by
  have hupper : ∀ c ∈ base.upper.toList ++ quote.upper.toList, c.isUpper = true := fun c hc =>
    (List.mem_append.mp hc).elim (isUpper_upper base c) (isUpper_upper quote c)
  have hgood : GoodConversion base quote amount ⟨base.upper, quote.upper, rate, amount, converted, asOf⟩ ↔
      rate.pos = true := ⟨fun h => h.1, fun h => ⟨h, rfl, rfl, rfl, hupper⟩⟩
  unfold CurrencyConversion.validate gtZero
  cases rate with
  | nan => cases nanPasses <;> simp [Clean, GoodConversion, Binary64.pos]
  | infinity negative =>
    cases negative with
    | false => simpa [Clean, Binary64.pos] using hgood
    | true => simp [Clean, Binary64.pos]
  | finite x =>
    by_cases hx : 0 < x
    · simpa [Clean, Binary64.pos, hx] using hgood
    · simp [Clean, Binary64.pos, hx]

/-- **When the currency adapter is clean**: it returns a conversion with a positive rate or refuses the payload exactly
when neither number overflows where it is read and, if both are read, the rate is positive. -/
theorem currency_clean_iff (repr : Json → String) (nanPasses : Bool) (payload : Json) (base quote : CurrencyCode)
    (amount : Binary64) :
    Clean (GoodConversion base quote amount) (normalize repr nanPasses payload base quote amount) ↔
      CleanQuote payload := by
  have htry : Clean (GoodConversion base quote amount) (normalize repr nanPasses payload base quote amount) ↔
      (∀ e, readQuote repr payload = .error e → e ∈ caught) ∧
      ∀ read, readQuote repr payload = .ok read → Clean (GoodConversion base quote amount)
        (CurrencyConversion.validate nanPasses
          ⟨base.upper, quote.upper, read.1, amount, read.2.1.roundTo 4, read.2.2⟩) := by
    rw [normalize]
    exact clean_try_bind
  rw [htry, readQuote_caught_iff]
  constructor
  · rintro ⟨hcaught, hread⟩
    refine ⟨fun v hv => (hcaught v hv).1, fun v x hv => (hcaught v hv).2 x, fun v x u y hv hx hu hy => ?_⟩
    exact (validate_clean_iff nanPasses base quote x amount _ _).mp
      (hread _ (readQuote_ok_iff.mpr ⟨v, u, hv, hx, hu, hy, rfl⟩))
  · intro h
    refine ⟨fun v hv => ⟨h.rate v hv, fun x => h.result v x hv⟩, ?_⟩
    rintro ⟨x, y, asOf⟩ hread
    obtain ⟨v, u, hv, hx, hu, hy, -⟩ := readQuote_ok_iff.mp hread
    exact (validate_clean_iff nanPasses base quote x amount _ _).mpr (h.positive v x u y hv hx hu hy)

/-- Dollars and euros. -/
def usd : CurrencyCode := ⟨"usd", by decide, List.all_eq_true.mp (by decide)⟩
def eur : CurrencyCode := ⟨"eur", by decide, List.all_eq_true.mp (by decide)⟩

/-- A rate of zero leaves the adapter as a `ValidationError`, a huge one as an `OverflowError`. -/
theorem currency_payloads_escape :
    (normalize (fun _ => "") true (.obj [("info", .obj [("rate", .int 0)]), ("result", .int 0)]) usd eur (.finite 100) =
        .error .validation ∧
      normalize (fun _ => "") true (.obj [("info", .obj [("rate", .int (10 ^ 400))]), ("result", .int 0)]) usd eur
        (.finite 100) = .error (.python .overflowError)) ∧
    ¬ ∀ payload, Clean (GoodConversion usd eur (.finite 100))
      (normalize (fun _ => "") true payload usd eur (.finite 100)) := by
  have hescapes : normalize (fun _ => "") true (.obj [("info", .obj [("rate", .int 0)]), ("result", .int 0)]) usd eur
      (.finite 100) = .error .validation := by decide +kernel
  refine ⟨⟨hescapes, by decide +kernel⟩, fun h => ?_⟩
  have hclean := h (.obj [("info", .obj [("rate", .int 0)]), ("result", .int 0)])
  rw [hescapes] at hclean
  obtain ⟨detail, hdetail⟩ := hclean
  cases hdetail

end ExchangeRateProvider

end SmartTravel
