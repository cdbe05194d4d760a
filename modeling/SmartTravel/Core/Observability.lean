import SmartTravel.Core.Middleware
import SmartTravel.Lib.Runs

/-!
# What responses carry and what is counted

`SecurityHeadersMiddleware` and `PrometheusMiddleware` sit inside of the request id and outside of the exception
handlers. So what the routes or the handlers answer gets the security headers and is counted by method, route template
and status, and it is recognised by its `X-Request-ID`. An exception that no inner handler knows passes both layers: its
response has no such header, none of the security headers, and is in no counter.

The counters are therefore those of the responses with a request id, scrapes of `/metrics` excepted. Outside of all this
is the CORS layer: a preflight never comes in, it has the answer of that layer as it is and is in no counter
(`responses_are_hardened_and_counted`).
-/

namespace SmartTravel

open Py Runs

/-- A request as the layers see it: its method, its headers `Origin` and `Access-Control-Request-Method`, the template
of the route that matches, if one does, what the CORS layer adds to a reply or answers to a preflight, and what the
routes do. -/
structure WebRequest where
  method : String
  origin : Option String
  requestMethod : Option String
  traced : TracedRequest
  template : Option String
  fresh : String
  cors : CorsHeaders
  preflightReply : Reply
  routes : App

/-- `REQUEST_COUNT`, by method, path and status. -/
abbrev RequestCount := Dict (String × String × ℕ) ℕ

namespace RequestCount

/-- The value of a counter, 0 where it was never used. -/
def value (counts : RequestCount) (label : String × String × ℕ) : ℕ := (counts.get? label).getD 0

/-- `labels(..).inc()`. -/
def inc (counts : RequestCount) (label : String × String × ℕ) : RequestCount :=
  counts.set label (counts.value label + 1)

theorem value_inc (counts : RequestCount) (label label' : String × String × ℕ) :
    (counts.inc label).value label' = counts.value label' + (decide (label = label')).toNat := by
  unfold value inc
  rw [Dict.get?_set]
  by_cases h : label' = label
  · rw [if_pos h, h, decide_eq_true rfl]
    rfl
  · rw [if_neg h, decide_eq_false fun heq => h heq.symm]
    rfl

end RequestCount

/-- `_METRICS_PATH`. -/
def metricsPath : String := "/metrics"

/-- `_route_template`. -/
def WebRequest.routeTemplate (r : WebRequest) : String := r.template.getD "unmatched"

/-- The request id. -/
def WebRequest.id (r : WebRequest) : String := r.traced.id r.fresh

/-- The requests that `CORSMiddleware` answers itself, without the layers inside of it. -/
def WebRequest.preflight (r : WebRequest) : Bool :=
  decide (r.method = "OPTIONS") && r.origin.isSome && r.requestMethod.isSome

/-- The response to a request. -/
def WebRequest.reply (r : WebRequest) : Reply :=
  if r.preflight then r.preflightReply else createApp r.cors r.traced r.fresh r.routes

/-- What `PrometheusMiddleware` does to the counters. -/
def WebRequest.observe (r : WebRequest) (counts : RequestCount) : RequestCount :=
  if r.preflight then counts
  else if r.traced.path = metricsPath then counts
  else
    match securityHeadersMiddleware r.traced (exceptionMiddleware r.routes) (some r.id) with
    | (_, .error _) => counts
    | (_, .ok reply) => counts.inc (r.method, r.routeTemplate, reply.response.status)

/-- The application serves a request. -/
def webMachine : Machine RequestCount WebRequest Reply :=
  ⟨fun counts r => (r.observe counts, r.reply)⟩

/-! ## Headers -/

theorem get?_setDefault (headers : Dict String String) (name value k : String) :
    (setDefault headers name value).get? k = (headers.get? k).or (if k = name then some value else none) := by
  unfold setDefault
  split
  · rename_i hsome
    by_cases hk : k = name
    · obtain ⟨v, hv⟩ := Option.isSome_iff_exists.mp hsome
      rw [hk, hv]
      rfl
    · rw [if_neg hk, Option.or_none]
  · rename_i hnone
    rw [Dict.get?_set]
    by_cases hk : k = name
    · rw [hk, Option.not_isSome_iff_eq_none.mp hnone, if_pos rfl]
      rfl
    · rw [if_neg hk, if_neg hk, Option.or_none]

theorem get?_foldl_setDefault (k : String) : ∀ (es : List (String × String)) (headers : Dict String String),
    (es.foldl (fun h e => setDefault h e.1 e.2) headers).get? k = (headers.get? k).or (es.lookup k)
  | [], headers => (Option.or_none).symm
  | e :: es, headers => by
    rw [List.foldl_cons, get?_foldl_setDefault k es, get?_setDefault, Dict.lookup_cons_ite, Option.or_assoc]
    congr 1
    split <;> rfl

/-- The value that a response gets for a security header that it does not bring: the documentation has a policy of its
own. -/
def hardenedValue (path name : String) : Option String :=
  if name = "Content-Security-Policy" ∧ path ∈ docsPaths then some docsCsp else securityHeaders.lookup name

/-- The response is the one that the routes or a handler gave, with the request id, and with every security header that
it did not bring itself. -/
structure Hardened (r : WebRequest) (own reply : Reply) : Prop where
  response : reply.response = own.response
  id : reply.headers.get? requestIdHeader = some r.id
  headers : ∀ name value, hardenedValue r.traced.path name = some value →
    reply.headers.get? name = some ((own.headers.get? name).getD value)

/-- The response to an exception that no inner handler knows. -/
def bareReply : Reply := ⟨Raised.other.response none, Dict.empty⟩

/-- The CORS layer leaves the security headers alone. -/
def CorsHeaders.Apart (cors : CorsHeaders) : Prop := ∀ e ∈ securityHeaders, e.1 ∉ cors.headers.map Prod.fst

/-- A header with a value of its own is one of the security headers. -/
theorem mem_securityHeaders {path name value : String} (h : hardenedValue path name = some value) :
    ∃ e ∈ securityHeaders, e.1 = name := by
  unfold hardenedValue at h
  split at h
  · rename_i hdocs
    exact ⟨("Content-Security-Policy", "default-src 'none'; frame-ancestors 'none'"), by decide, hdocs.1.symm⟩
  · obtain ⟨before, after, heq, -⟩ := List.lookup_eq_some_iff.mp h
    exact ⟨(name, value), heq ▸ List.mem_append_right before List.mem_cons_self, rfl⟩

/-- `SecurityHeadersMiddleware` on a reply. -/
theorem get?_security (headers : Dict String String) {path name value : String}
    (h : hardenedValue path name = some value) :
    (securityHeaders.foldl (fun h e => setDefault h e.1 e.2)
      (if path ∈ docsPaths then setDefault headers "Content-Security-Policy" docsCsp else headers)).get? name =
      some ((headers.get? name).getD value) := by
  rw [get?_foldl_setDefault]
  unfold hardenedValue at h
  by_cases hpath : path ∈ docsPaths
  · rw [if_pos hpath, get?_setDefault, Option.or_assoc]
    by_cases hname : name = "Content-Security-Policy"
    · rw [if_pos ⟨hname, hpath⟩] at h
      rw [if_pos hname, h]
      cases headers.get? name <;> rfl
    · rw [if_neg fun hboth => hname hboth.1] at h
      rw [if_neg hname, Option.none_or, h]
      cases headers.get? name <;> rfl
  · rw [if_neg fun hboth => hpath hboth.2] at h
    rw [if_neg hpath, h]
    cases headers.get? name <;> rfl

/-! ## One request -/

section
variable {r : WebRequest}

/-- **What the inner layers answer** comes out hardened. -/
theorem createApp_hardened (hcors : r.cors.Apart) {ctx : Option String} {own : Reply}
    (h : exceptionMiddleware r.routes (some r.id) = (ctx, .ok own)) :
    Hardened r own (createApp r.cors r.traced r.fresh r.routes) := by
  obtain ⟨hresponse, hid⟩ := createApp_of_reply r.cors h
  refine ⟨hresponse, hid, fun name value hvalue => ?_⟩
  obtain ⟨e, he, rfl⟩ := mem_securityHeaders hvalue
  have hother : e.1 ≠ requestIdHeader := by
    intro heq
    have hnone : ∀ e ∈ securityHeaders, e.1 ≠ requestIdHeader := by decide
    exact hnone e he heq
  have hsecurity := get?_security own.headers hvalue
  have h' : exceptionMiddleware r.routes (some (r.traced.id r.fresh)) = (ctx, .ok own) := h
  simp only [createApp, serverErrorMiddleware, corsMiddleware, requestContextMiddleware, prometheusMiddleware,
    securityHeadersMiddleware, h']
  rw [get?_foldl_set_of_notMem _ (hcors e he), Dict.get?_set_of_ne _ _ hother, hsecurity]

/-- The response is recognised as one of the inner layers and counted under the label. -/
def counted (label : String × String × ℕ) (e : WebRequest × Reply) : Bool :=
  !e.1.preflight && decide (e.1.traced.path ≠ metricsPath) && (e.2.headers.get? requestIdHeader).isSome &&
    decide ((e.1.method, e.1.routeTemplate, e.2.response.status) = label)

/-- **One request** is counted by what it is answered. -/
theorem value_observe (counts : RequestCount) (label : String × String × ℕ) :
    (r.observe counts).value label =
      counts.value label + (counted label (r, r.reply)).toNat := by
  unfold WebRequest.observe WebRequest.reply
  by_cases hpreflight : r.preflight = true
  · simp only [hpreflight, if_true, counted, Bool.not_true, Bool.false_and, Bool.toNat_false, Nat.add_zero]
  simp only [hpreflight, if_false, counted, Bool.not_false, Bool.true_and, Bool.false_eq_true]
  by_cases hpath : r.traced.path = metricsPath
  · simp only [hpath, if_true, ne_eq, not_true_eq_false, decide_false, Bool.false_and, Bool.toNat_false, Nat.add_zero]
  · simp only [hpath, if_false, ne_eq, not_false_eq_true, decide_true, Bool.true_and]
    cases hinner : exceptionMiddleware r.routes (some r.id) with
    | mk ctx outcome =>
      cases outcome with
      | error failure =>
        have hbare : createApp r.cors r.traced r.fresh r.routes = bareReply := createApp_of_exception hinner
        simp only [securityHeadersMiddleware, hinner, hbare]
        rfl
      | ok own =>
        obtain ⟨hresponse, hid⟩ := createApp_of_reply r.cors hinner
        simp only [securityHeadersMiddleware, hinner, RequestCount.value_inc, hid, hresponse, Option.isSome_some,
          Bool.true_and]

end

/-! ## Runs -/

/-- The request was answered: a preflight by the CORS layer, any other with a hardened or the bare response. -/
def Answered (e : WebRequest × Reply) : Prop :=
  if e.1.preflight then e.2 = e.1.preflightReply
  else
    (∃ ctx own, exceptionMiddleware e.1.routes (some e.1.id) = (ctx, .ok own) ∧ Hardened e.1 own e.2) ∨
      (∃ ctx failure, exceptionMiddleware e.1.routes (some e.1.id) = (ctx, .error failure)) ∧ e.2 = bareReply

theorem answered_reply {r : WebRequest} (hcors : r.cors.Apart) : Answered (r, r.reply) := by
  unfold Answered WebRequest.reply
  split
  · rfl
  · cases hinner : exceptionMiddleware r.routes (some r.id) with
    | mk ctx outcome =>
      cases outcome with
      | error failure => exact .inr ⟨⟨ctx, failure, rfl⟩, createApp_of_exception hinner⟩
      | ok own => exact .inl ⟨ctx, own, rfl, createApp_hardened hcors hinner⟩

theorem answered_log : ∀ (rs : List WebRequest) (counts : RequestCount), (∀ r ∈ rs, r.cors.Apart) →
    ∀ e ∈ webMachine.log counts rs, Answered e
  | [], _, _, e, he => absurd he List.not_mem_nil
  | r :: rs, counts, hcors, e, he => by
    rcases List.mem_cons.mp he with rfl | he
    · exact answered_reply (hcors r List.mem_cons_self)
    · exact answered_log rs _ (fun r' hr' => hcors r' (List.mem_cons_of_mem r hr')) e he

/-- **Responses are hardened and counted.** In every run of requests, whatever the routes do: a preflight has the answer
of the CORS layer; a response of the routes or of a handler has its request id and every security header, those that it
did not bring itself with the strict values (on the documentation paths with the policy for them); and any other is the
bare one for an unknown exception. Each counter is what it was plus the number of responses with a request id that have
its method, route template and status, except to `/metrics` and to preflights. -/
theorem responses_are_hardened_and_counted (counts : RequestCount) (rs : List WebRequest)
    (hcors : ∀ r ∈ rs, r.cors.Apart) :
    (∀ e ∈ webMachine.log counts rs, Answered e) ∧
      ∀ label, (webMachine.run counts rs).value label =
        counts.value label + (webMachine.log counts rs).countP (counted label) := by
  refine ⟨answered_log rs counts hcors, fun label => ?_⟩
  rw [← Machine.total_countP]
  exact webMachine.growth (fun counts => counts.value label) _ (fun counts r => value_observe counts label) counts rs

/-- The answer of the CORS layer to a preflight from an origin it knows. -/
def allowedReply : Reply := ⟨⟨200, "text/plain", .str "OK"⟩, Dict.empty⟩

/-- A preflight, the search that it was for, which is refused, a scrape, and an endpoint that fails. -/
def fourRequests : List WebRequest :=
  [⟨"OPTIONS", some "https://app.example.com", some "GET", ⟨"/api/v1/flights/search", none⟩,
      some "/api/v1/flights/search", "0f", noCors, allowedReply, failingRoutes (.http 405 "Method Not Allowed")⟩,
    ⟨"GET", some "https://app.example.com", none, ⟨"/api/v1/flights/search", some "abc"⟩,
      some "/api/v1/flights/search", "1f", noCors, allowedReply,
      failingRoutes (.raised (.app ⟨.rateLimited, "rate limit exceeded, slow down", Dict.empty⟩))⟩,
    ⟨"GET", none, none, ⟨"/metrics", none⟩, some "/metrics", "2f", noCors, allowedReply,
      failingRoutes (.http 404 "Not Found")⟩,
    ⟨"GET", none, none, ⟨"/api/v1/weather", none⟩, some "/api/v1/weather", "3f", noCors, allowedReply,
      failingRoutes (.raised .other)⟩]

/-- The refusal is counted under its status, the preflight and the failure nowhere. -/
theorem fourRequests_counted :
    (∀ e ∈ webMachine.log Dict.empty fourRequests, Answered e) ∧
      (webMachine.run Dict.empty fourRequests).items = [(("GET", "/api/v1/flights/search", 429), 1)] := by
  have hcors : ∀ r ∈ fourRequests, r.cors.Apart := by
    intro r hr e _
    have hnone : r.cors.headers = [] := by
      simp only [fourRequests, List.mem_cons, List.not_mem_nil, or_false] at hr
      rcases hr with rfl | rfl | rfl | rfl <;> rfl
    rw [hnone]
    exact List.not_mem_nil
  exact ⟨(responses_are_hardened_and_counted Dict.empty fourRequests hcors).1, by decide +kernel⟩

end SmartTravel
