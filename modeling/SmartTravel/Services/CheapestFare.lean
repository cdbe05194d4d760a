import SmartTravel.Services.Degradation
import SmartTravel.Services.PriceMonitor

/-!
# The fare an alert is checked against

`_cheapest_price` searches by price and takes the first result, so it is the smallest amount among all offers for the
route and date (`cheapestPrice_eq`): neither de-duplication nor the page of one item loses it.

An amount is in the currency of its offer, and `_check` compares it with a target in the currency of the alert. The
message names the alert's currency. So an alert speaks of a fare that is on offer when one of the cheapest offers is in
its own currency (`own_currency_iff`).
-/

namespace SmartTravel

open Py

/-! ## The smallest amount on offer -/

section
variable (lower : String → String) (fromisoformat : String → Option Date)

/-- The offers for the route and the date of an alert; there are none for a date that does not parse. -/
def faresFor (flights : FlightAggregationService) (alert : PriceAlert) : List NormalizedFlight :=
  match fromisoformat alert.departureDate with
  | none => []
  | some departure => flights.offers ⟨alert.origin, alert.destination, departure, 1, "economy"⟩

variable {lower}

/-- The first item of the first page is the first of the list. -/
theorem head?_items_respond {α : Type} {ordered : List α} {ok failed limit : ℕ} {page : SearchResult α}
    (hlimit : 0 < limit) (h : respond ordered ok failed limit none = .ok page) : page.items.head? = ordered.head? := by
  have hzero : decodeCursor none = 0 := rfl
  rw [items_respond h, hzero, List.drop_zero, List.head?_take, if_neg hlimit.ne']

/-- The ranked flights, when no filter is asked for, hold a cheapest offer of every key. -/
theorem ranked_covers (lower : String → String) (flights : FlightAggregationService) (query : FlightSearchQuery)
    {f : NormalizedFlight} (hf : f ∈ flights.offers query) :
    ∃ r ∈ flights.ranked lower query none, r.flight.price.amountMinor ≤ f.price.amountMinor := by
  obtain ⟨g, hg, -, hle⟩ : ∃ g ∈ FlightAggregationService.dedupe lower (flights.offers query),
      g.dedupeKey lower = f.dedupeKey lower ∧ g.amount ≤ f.amount := exists_mem_bestPerKey hf
  have hflights : g ∈ (flights.ranked lower query none).map (·.flight) := by
    rw [FlightAggregationService.ranked, FlightAggregationService.map_flight_rank]
    exact List.mem_filter.mpr ⟨hg, matches_default lower g⟩
  obtain ⟨r, hr, rfl⟩ := List.mem_map.mp hflights
  exact ⟨r, hr, hle⟩

/-- A search by price shows the first of the ranked flights in order of their amounts. -/
theorem head?_search_price {flights : FlightAggregationService} {query : FlightSearchQuery}
    {page : SearchResult RankedFlight} (h : flights.search lower query .price none 1 none = .ok page) :
    page.items.head? = (sorted (FlightAggregationService.keys .price) (flights.ranked lower query none)).head? := by
  have hsort : FlightAggregationService.sort .price (flights.ranked lower query none) =
      .ok (sorted (FlightAggregationService.keys .price) (flights.ranked lower query none)) :=
    FlightAggregationService.sort_ranked lower flights query (fun h => by cases h) none
  rw [FlightAggregationService.ranked, FlightAggregationService.offers] at hsort
  rw [FlightAggregationService.search, searchWith] at h
  simp only [hsort] at h
  exact head?_items_respond Nat.one_pos h

variable (lower)

/-- **The cheapest price** is the smallest amount on offer. -/
theorem cheapestPrice_eq (flights : FlightAggregationService) (alert : PriceAlert) :
    cheapestPrice lower fromisoformat flights alert =
      .ok ((faresFor fromisoformat flights alert).map (·.price.amountMinor)).min? := by
  unfold cheapestPrice faresFor
  cases fromisoformat alert.departureDate with
  | none => rfl
  | some departure =>
    simp only
    generalize (⟨alert.origin, alert.destination, departure, 1, "economy"⟩ : FlightSearchQuery) = query
    obtain ⟨page, hpage⟩ := flights.search_price_ok lower query none 1 none
    rw [hpage]
    simp only [head?_search_price hpage, Except.ok.injEq]
    cases hfirst : (sorted (FlightAggregationService.keys .price) (flights.ranked lower query none)).head? with
    | none =>
      have hempty : flights.offers query = [] := by
        rw [List.eq_nil_iff_forall_not_mem]
        intro f hf
        obtain ⟨r, hr, -⟩ := ranked_covers lower flights query hf
        rw [List.head?_eq_none_iff] at hfirst
        rw [← (sorted_perm (FlightAggregationService.keys .price) _).mem_iff, hfirst] at hr
        cases hr
      rw [hempty]
      rfl
    | some r =>
      obtain ⟨hmem, hleast⟩ := head?_sorted hfirst
      symm
      rw [Option.map_some, List.min?_eq_some_iff]
      refine ⟨List.mem_map.mpr ⟨r.flight, ?_, rfl⟩, fun amount hamount => ?_⟩
      · exact FlightAggregationService.mem_offers_of_mem_ranked lower flights query none hmem
      · obtain ⟨f, hf, rfl⟩ := List.mem_map.mp hamount
        obtain ⟨r', hr', hle⟩ := ranked_covers lower flights query hf
        have hkey : r.flight.price.amountMinor ≤ r'.flight.price.amountMinor := by
          have hcast : ((r.flight.price.amountMinor : ℕ) : ℚ) ≤ ((r'.flight.price.amountMinor : ℕ) : ℚ) := hleast r' hr'
          exact_mod_cast hcast
        exact hkey.trans hle

/-- What the target is compared with: the smallest amount among the fares, if there are any. -/
theorem cheapestPrice_eq_some_iff {flights : FlightAggregationService} {alert : PriceAlert} {cheapest : ℕ} :
    cheapestPrice lower fromisoformat flights alert = .ok (some cheapest) ↔
      (∃ f ∈ faresFor fromisoformat flights alert, f.price.amountMinor = cheapest) ∧
        ∀ f ∈ faresFor fromisoformat flights alert, cheapest ≤ f.price.amountMinor := by
  rw [cheapestPrice_eq, Except.ok.injEq, List.min?_eq_some_iff]
  simp [List.mem_map]

/-- An alert is due when some fare meets its target. -/
theorem due_iff (run : MonitorRun) (alert : PriceAlert) :
    due lower fromisoformat run alert = true ↔
      ∃ f ∈ faresFor fromisoformat run.flights alert, f.price.amountMinor ≤ alert.targetAmountMinor := by
  unfold due
  rw [cheapestPrice_eq]
  cases hmin : ((faresFor fromisoformat run.flights alert).map (·.price.amountMinor)).min? with
  | none =>
    rw [List.min?_eq_none_iff, List.map_eq_nil_iff] at hmin
    simp [hmin]
  | some cheapest =>
    rw [List.min?_eq_some_iff] at hmin
    obtain ⟨hmem, hleast⟩ := hmin
    obtain ⟨f, hf, rfl⟩ := List.mem_map.mp hmem
    simp only [decide_eq_true_eq]
    constructor
    · intro hle
      exact ⟨f, hf, hle⟩
    · rintro ⟨g, hg, hle⟩
      exact (hleast _ (List.mem_map_of_mem hg)).trans hle

end

/-! ## The fare an alert sees -/

section
variable (lower : String → String) (fromisoformat : String → Option Date)

/-- The amounts of the offers of all providers that answer the query. -/
def amountsOffered (providers : List FlightProvider) (query : FlightSearchQuery) : Set ℕ :=
  { amount | ∃ p ∈ providers, ∃ offers, p.search query = .ok offers ∧ ∃ f ∈ offers, f.price.amountMinor = amount }

theorem mem_amountsOffered_iff {flights : FlightAggregationService} {query : FlightSearchQuery} {amount : ℕ} :
    amount ∈ amountsOffered flights.providers query ↔ ∃ f ∈ flights.offers query, f.price.amountMinor = amount := by
  constructor
  · rintro ⟨p, hp, offers, hoffers, f, hf, hamount⟩
    exact ⟨f, mem_fanOut_iff.mpr ⟨p, hp, offers, hoffers, hf⟩, hamount⟩
  · rintro ⟨f, hf, hamount⟩
    obtain ⟨p, hp, offers, hoffers, hmem⟩ := mem_fanOut_iff.mp hf
    exact ⟨p, hp, offers, hoffers, f, hmem, hamount⟩

/-- **The monitor sees the cheapest fare** of an alert whose date parses: none when every provider that answers has no
offer, and else the least of all amounts. -/
theorem cheapestPrice_isLeast (flights : FlightAggregationService) (alert : PriceAlert) (departure : Date)
    (hdate : fromisoformat alert.departureDate = some departure) :
    ∃ cheapest, cheapestPrice lower fromisoformat flights alert = .ok cheapest ∧
      (cheapest = none ↔ ∀ p ∈ flights.providers, ∀ offers,
        p.search ⟨alert.origin, alert.destination, departure, 1, "economy"⟩ = .ok offers → offers = []) ∧
      ∀ amount, cheapest = some amount ↔ IsLeast
        (amountsOffered flights.providers ⟨alert.origin, alert.destination, departure, 1, "economy"⟩) amount := by
  refine ⟨_, cheapestPrice_eq lower fromisoformat flights alert, ?_, fun amount => ?_⟩
  · rw [List.min?_eq_none_iff, List.map_eq_nil_iff, List.eq_nil_iff_forall_not_mem]
    simp only [faresFor, hdate, FlightAggregationService.offers, mem_fanOut_iff, not_exists, not_and]
    constructor
    · intro h p hp offers hoffers
      rw [List.eq_nil_iff_forall_not_mem]
      exact fun f => h f p hp offers hoffers
    · intro h f p hp offers hoffers hf
      rw [h p hp offers hoffers] at hf
      cases hf
  · rw [List.min?_eq_some_iff]
    simp only [faresFor, hdate, List.mem_map]
    constructor
    · rintro ⟨hmem, hleast⟩
      exact ⟨mem_amountsOffered_iff.mpr hmem, fun other hother => hleast other (mem_amountsOffered_iff.mp hother)⟩
    · rintro ⟨hmem, hleast⟩
      exact ⟨mem_amountsOffered_iff.mp hmem, fun other hother => hleast (mem_amountsOffered_iff.mpr hother)⟩

end

/-- With one of three providers down, the sample alert sees the fare of the last one. -/
theorem sampleAlert_sees_cheapest :
    ∃ cheapest, cheapestPrice asciiLower sampleFromisoformat degradedFlights (sampleAlert 0) = .ok cheapest ∧
      cheapest = some 100 ∧ IsLeast (amountsOffered degradedFlights.providers sampleFlightQuery) 100 := by
  obtain ⟨cheapest, hcheapest, -, hleast⟩ :=
    cheapestPrice_isLeast asciiLower sampleFromisoformat degradedFlights (sampleAlert 0) sampleDate rfl
  have hvalue : cheapestPrice asciiLower sampleFromisoformat degradedFlights (sampleAlert 0) = .ok (some 100) := by
    decide +kernel
  have hsome : cheapest = some 100 := Except.ok.inj (hcheapest.symm.trans hvalue)
  exact ⟨cheapest, hcheapest, hsome, (hleast 100).mp hsome⟩

/-! ## The amount in a message -/

/-- Different amounts are written differently. -/
theorem formatMinor_injective : Function.Injective formatMinor := by
  intro a b h
  have hlist := congrArg String.toList h
  simp only [formatMinor, String.toList_append] at hlist
  have hlen : (zeroPad 2 (a % 100)).toList.length = (zeroPad 2 (b % 100)).toList.length := by
    have hcents : ∀ n, n % 100 < 10 ^ 2 := fun n => Nat.mod_lt n (by decide)
    rw [length_zeroPad two_pos (hcents a), length_zeroPad two_pos (hcents b)]
  obtain ⟨hwhole, hcents⟩ := List.append_inj' hlist hlen
  have hwhole := List.append_cancel_right hwhole
  have hdiv : a / 100 = b / 100 := by
    rw [← ofDigitChars_zeroPad 1 (a / 100), hwhole, ofDigitChars_zeroPad]
  have hmod : a % 100 = b % 100 := by
    rw [← ofDigitChars_zeroPad 2 (a % 100), hcents, ofDigitChars_zeroPad]
  omega

/-- The message about an alert tells the amount. -/
theorem notice_amount {user user' : User} {alert : PriceAlert} {a b : ℕ}
    (h : notice user alert a = notice user' alert b) : a = b := by
  have hbody := congrArg (fun m => m.body.toList) h
  simp only [notice, String.toList_append, List.append_assoc, List.append_cancel_left_eq] at hbody
  have hformat := List.append_cancel_right hbody
  exact formatMinor_injective (String.toList_injective hformat)

/-! ## Fares in the alert's currency -/

section
variable (lower : String → String) (fromisoformat : String → Option Date)

/-- If `run_once` deactivates and announces the alert, then the message is about a fare on offer for its route and date
that is in its currency and meets its target. -/
def AnnouncesOwnCurrency (run : MonitorRun) (store : MonitorStore) (alert : PriceAlert) : Prop :=
  ∀ sent marked, checkAll lower fromisoformat run store.users (run.arrange store.active) = (sent, .ok marked) →
    mark run alert ∈ marked → ∀ m ∈ sent, m.alertId = alert.id →
    ∃ user ∈ store.users, ∃ fare ∈ faresFor fromisoformat run.flights alert,
      fare.price.currency = alert.currency ∧ fare.price.amountMinor ≤ alert.targetAmountMinor ∧
        m = notice user alert fare.price.amountMinor

/-- If any fare meets the target, then one of the cheapest fares is in the currency of the alert. -/
def CheapestInOwnCurrency (flights : FlightAggregationService) (alert : PriceAlert) : Prop :=
  (∃ fare ∈ faresFor fromisoformat flights alert, fare.price.amountMinor ≤ alert.targetAmountMinor) →
    ∃ fare ∈ faresFor fromisoformat flights alert, fare.price.currency = alert.currency ∧
      ∀ other ∈ faresFor fromisoformat flights alert, fare.price.amountMinor ≤ other.price.amountMinor

variable {lower fromisoformat}

theorem message?_eq_some {run : MonitorRun} {users : List User} {alert : PriceAlert} {m : Announcement}
    (h : message? lower fromisoformat run users alert = some m) :
    ∃ user ∈ users, ∃ cheapest, cheapestPrice lower fromisoformat run.flights alert = .ok (some cheapest) ∧
      cheapest ≤ alert.targetAmountMinor ∧ m = notice user alert cheapest := by
  unfold message? at h
  split at h
  · rename_i cheapest hcheapest
    split at h
    · rename_i hle
      obtain ⟨user, huser, rfl⟩ := Option.map_eq_some_iff.mp h
      exact ⟨user, List.mem_of_find?_eq_some huser, cheapest, hcheapest, hle, rfl⟩
    · cases h
  · cases h

/-- Alerts of a store with the same id are the same. -/
theorem MonitorStore.eq_of_id (store : MonitorStore) {a b : PriceAlert} (ha : a ∈ store.alerts) (hb : b ∈ store.alerts)
    (h : a.id = b.id) : a = b := List.inj_on_of_nodup_map store.ids_nodup ha hb h

/-- A message about an alert, sent by `run_once`, is the message for that alert. -/
theorem message?_of_mem_sent {run : MonitorRun} {store : MonitorStore} {alert : PriceAlert} (ha : alert ∈ store.alerts)
    {m : Announcement} (hm : m ∈ (checkAll lower fromisoformat run store.users (run.arrange store.active)).1)
    (hid : m.alertId = alert.id) : message? lower fromisoformat run store.users alert = some m := by
  rw [checkAll_eq] at hm
  obtain ⟨b, hb, hmsg⟩ := List.mem_filterMap.mp hm
  have hactive : b ∈ store.active := (run.arrange_perm _).mem_iff.mp ((List.takeWhile_sublist _).mem hb)
  have heq : b = alert := by
    refine store.eq_of_id (List.mem_of_mem_filter hactive) ha ?_
    rw [← message?_alertId lower fromisoformat run store.users hmsg, hid]
  exact heq ▸ hmsg

/-- A store with one alert and its owner. -/
def soleAlert (alert : PriceAlert) : MonitorStore where
  users := [⟨alert.userId, "owner@example.com", "", none, .user, true, true⟩]
  alerts := [alert]
  sent := []
  nextId := alert.id + 1
  ids_nodup := List.nodup_singleton _
  ids_lt := fun a ha => by rw [List.mem_singleton.mp ha]; exact Nat.lt_succ_self _

/-- A run over these flights in which nothing goes wrong. -/
def smoothRun (flights : FlightAggregationService) : MonitorRun :=
  ⟨flights, id, fun _ => false, fun _ => 0, [], id_perm⟩

/-- The only alert of a store is announced and deactivated when it is due. -/
theorem checkAll_soleAlert {flights : FlightAggregationService} {alert : PriceAlert} (hactive : alert.isActive = true)
    {cheapest : ℕ} (hcheapest : cheapestPrice lower fromisoformat flights alert = .ok (some cheapest))
    (hle : cheapest ≤ alert.targetAmountMinor) :
    checkAll lower fromisoformat (smoothRun flights) (soleAlert alert).users
        ((smoothRun flights).arrange (soleAlert alert).active) =
      ([notice ⟨alert.userId, "owner@example.com", "", none, .user, true, true⟩ alert cheapest],
        .ok [mark (smoothRun flights) alert]) := by
  have hlist : (smoothRun flights).arrange (soleAlert alert).active = [alert] := by
    simp [smoothRun, soleAlert, MonitorStore.active, hactive]
  have hcheck : check lower fromisoformat (smoothRun flights) (soleAlert alert).users alert =
      ([notice ⟨alert.userId, "owner@example.com", "", none, .user, true, true⟩ alert cheapest], .ok true) := by
    simp [check, smoothRun, hcheapest, soleAlert, Nat.not_lt.mpr hle]
  rw [hlist, checkAll, hcheck]
  rfl

variable (lower fromisoformat)

/-- **An alert fires on a fare in its own currency**, whatever else happens in the run, exactly when one of the cheapest
fares is in that currency as soon as any fare meets the target. -/
theorem own_currency_iff (flights : FlightAggregationService) (alert : PriceAlert) (hactive : alert.isActive = true) :
    (∀ run store, run.flights = flights → alert ∈ store.alerts →
      AnnouncesOwnCurrency lower fromisoformat run store alert) ↔
      CheapestInOwnCurrency fromisoformat flights alert := by
  constructor
  · rintro h ⟨fare, hfare, hle⟩
    have hdue : due lower fromisoformat (smoothRun flights) alert = true :=
      (due_iff lower fromisoformat _ alert).mpr ⟨fare, hfare, hle⟩
    cases hcheapest : cheapestPrice lower fromisoformat flights alert with
    | error e => simp [due, smoothRun, hcheapest] at hdue
    | ok found =>
      cases found with
      | none => simp [due, smoothRun, hcheapest] at hdue
      | some cheapest =>
        have hmeets : cheapest ≤ alert.targetAmountMinor := by simpa [due, smoothRun, hcheapest] using hdue
        have hrun := checkAll_soleAlert hactive hcheapest hmeets
        obtain ⟨user, -, own, hown, hcurrency, -, hnotice⟩ := h (smoothRun flights) (soleAlert alert) rfl
          (List.mem_singleton_self alert) _ _ hrun (List.mem_singleton_self _) _ (List.mem_singleton_self _) rfl
        -- The announced amount is the smallest one, so the fare it belongs to is a cheapest one.
        have hamount := notice_amount hnotice
        refine ⟨own, hown, hcurrency, fun other hother => ?_⟩
        rw [← hamount]
        exact ((cheapestPrice_eq_some_iff lower fromisoformat).mp hcheapest).2 other hother
  · rintro h run store rfl ha sent marked hrun - m hm hid
    have hmsg : message? lower fromisoformat run store.users alert = some m :=
      message?_of_mem_sent ha (by rw [hrun]; exact hm) hid
    obtain ⟨user, huser, cheapest, hcheapest, hle, rfl⟩ := message?_eq_some hmsg
    obtain ⟨⟨fare, hfare, hamount⟩, hleast⟩ := (cheapestPrice_eq_some_iff lower fromisoformat).mp hcheapest
    obtain ⟨own, hown, hcurrency, hcheap⟩ := h ⟨fare, hfare, hamount ▸ hle⟩
    have hsame : own.price.amountMinor = cheapest := by
      have hup := hcheap fare hfare
      have hlow := hleast own hown
      omega
    exact ⟨user, huser, own, hown, hcurrency, hsame ▸ hle, by rw [hsame]⟩

end

/-! ## A target in another currency -/

/-- The sample alert with its target in euros. -/
def euroAlert : PriceAlert := { sampleAlert 0 with currency := "EUR" }

/-- One fare, in dollars, below the number of the target. -/
def dollarFares : FlightAggregationService := staticFlights [sampleFlight "1" "KLM" 300 0] one_le_hundred

/-- The alert in euros is announced and deactivated although every fare is in dollars. -/
theorem euro_alert_fires_on_dollars :
    ¬ AnnouncesOwnCurrency asciiLower sampleFromisoformat (smoothRun dollarFares) (soleAlert euroAlert) euroAlert := by
  intro h
  have hrun : checkAll asciiLower sampleFromisoformat (smoothRun dollarFares) (soleAlert euroAlert).users
      ((smoothRun dollarFares).arrange (soleAlert euroAlert).active) =
      ([notice ⟨7, "owner@example.com", "", none, .user, true, true⟩ euroAlert 300],
        .ok [mark (smoothRun dollarFares) euroAlert]) := by decide +kernel
  obtain ⟨-, -, fare, hfare, hcurrency, -⟩ := h _ _ hrun (List.mem_singleton_self _) _ (List.mem_singleton_self _) rfl
  have hnone : ∀ fare ∈ faresFor sampleFromisoformat dollarFares euroAlert, fare.price.currency ≠ "EUR" := by
    decide +kernel
  exact hnone fare hfare hcurrency

/-- An alert in dollars is announced for the same fare, and rightly. -/
theorem dollar_alert_fires_on_dollars :
    (sampleAlert 0).isActive = true ∧
      AnnouncesOwnCurrency asciiLower sampleFromisoformat (smoothRun dollarFares) (soleAlert (sampleAlert 0))
        (sampleAlert 0) := by
  have hcheapest : CheapestInOwnCurrency sampleFromisoformat dollarFares (sampleAlert 0) := by
    intro _
    exact ⟨sampleFlight "1" "KLM" 300 0, by decide +kernel, by decide, by decide +kernel⟩
  exact ⟨rfl, (own_currency_iff asciiLower sampleFromisoformat dollarFares (sampleAlert 0) rfl).mpr hcheapest
    (smoothRun dollarFares) (soleAlert (sampleAlert 0)) rfl (List.mem_singleton_self _)⟩

end SmartTravel
