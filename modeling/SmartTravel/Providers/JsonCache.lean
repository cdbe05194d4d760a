import SmartTravel.Lib.JsonLoads
import SmartTravel.Providers.HttpClient

/-!
# Payloads through the cache as text

`get_json` caches a payload as the text that `json.dumps` writes and returns what `json.loads` reads of it. With the
decoder of the library in place of the parameter, nothing is lost on the way: what the upstream gave was read by that
decoder and is canonical, hence read back exactly, in every run of overlapping calls (`json_cache_is_lossless`).
-/

namespace SmartTravel

open Py Runs

/-- A body that is JSON was decoded from its text. -/
def Upstream.Decoded : Upstream → Prop
  | .response _ (some payload) => ∃ body, Json.loads body = some payload
  | _ => True

/-- A payload of an attempt is the decoded body. -/
theorem Upstream.Decoded.payload {reply : Upstream} (h : reply.Decoded) {payload : Json}
    (hreply : reply.payload = .ok payload) : payload.Canonical := by
  cases reply with
  | transportError => cases hreply
  | otherError => cases hreply
  | response status body =>
    simp only [Upstream.payload] at hreply
    split at hreply
    · cases hreply
    split at hreply
    · cases hreply
    cases body with
    | none => cases hreply
    | some decoded =>
      cases hreply
      obtain ⟨text, htext⟩ := h
      exact Json.canonical_of_loads htext

section
variable (env : HttpEnv) (s₀ : HttpState) (es : List HttpEvent)

/-- **The cache is lossless** for what is stored as JSON. -/
structure Lossless : Prop where
  /-- Payloads and params are read back from their texts. -/
  reads_back : ReadsBack env es
  /-- At any time each entry is read as the payload of a call that got it from the upstream and returned it. -/
  entries : ∀ pre post, es = pre ++ post → ∀ key text deadline,
    ((httpMachine env).run s₀ pre).cache.store.get? key = some (text, deadline) →
    ∃ c t r payload, Stored ((httpMachine env).log s₀ pre) c t r payload ∧ env.loads text = some payload
  /-- No lookup finds a text that is not JSON. -/
  lookups : ∀ pre c t r post, es = pre ++ .start c t r :: post →
    (((httpMachine env).run s₀ pre).step env (.start c t r)).2 ≠ .raised .jsonDecode

end

section
variable {env : HttpEnv} {s : HttpState}

/-- A lookup raises only over an entry that is not JSON. -/
theorem start_raised {c : ℕ} {t : ℚ} {r : GetJson} (h : (s.step env (.start c t r)).2 = .raised .jsonDecode) :
    ∃ key text deadline, s.cache.store.get? key = some (text, deadline) ∧ env.loads text = none := by
  simp only [HttpState.step] at h
  split at h
  · unfold HttpState.start at h
    split at h
    · cases h
    · rename_i key ttl _
      split at h
      · cases h
      · rename_i cache text hget
        have hfound : (s.cache.get key t).2 = some text := by rw [hget]
        obtain ⟨deadline, hentry, -⟩ := InMemoryCache.get_eq_some_iff.mp hfound
        split at h
        · rename_i hloads
          exact ⟨key, text, deadline, hentry, hloads⟩
        · cases h
  · cases h

/-- **Caching JSON as text loses nothing.** In every run of overlapping `get_json` calls of clients over one cache, with
params that JSON can express and upstreams that answer with any texts, the cache is lossless. -/
theorem json_cache_is_lossless (env : HttpEnv) (hloads : env.loads = Json.loads)
    (breaker : ProviderName → CircuitBreaker) (es : List HttpEvent)
    (hbodies : ∀ c t reply, HttpEvent.attempt c t reply ∈ es → reply.Decoded)
    (hparams : ∀ c t r, HttpEvent.start c t r ∈ es → r.object.Canonical) : Lossless env (.initial breaker) es := by
  have hback : ReadsBack env es := by
    refine ⟨fun c t reply payload hmem hreply => ?_, fun c t r hmem => ?_⟩
    · rw [hloads]
      exact Json.loads_dumps ((hbodies c t reply hmem).payload hreply)
    · rw [hloads]
      exact Json.loads_dumps (Json.canonical_sortKeys (hparams c t r hmem))
  have hentries : ∀ pre post, es = pre ++ post → ∀ key text deadline,
      ((httpMachine env).run (.initial breaker) pre).cache.store.get? key = some (text, deadline) →
      ∃ c t r payload, Stored ((httpMachine env).log (.initial breaker) pre) c t r payload ∧
        env.loads text = some payload := by
    intro pre post hes key text deadline hentry
    obtain ⟨c, t, r, ttl, payload, hstored, -, rfl, -⟩ := (run_httpInv env breaker pre).entry key text deadline hentry
    obtain ⟨t', reply, o, hattempt, -, hreply⟩ := hstored.gave
    refine ⟨c, t, r, payload, hstored, hback.payload c t' reply payload ?_ hreply⟩
    rw [hes]
    exact List.mem_append_left _ (mem_of_mem_log hattempt)
  refine ⟨hback, hentries, fun pre c t r post hes hraised => ?_⟩
  obtain ⟨key, text, deadline, hentry, hnone⟩ := start_raised hraised
  obtain ⟨-, -, -, payload, -, hsome⟩ := hentries pre _ hes key text deadline hentry
  rw [hnone] at hsome
  cases hsome

end

/-- The sample client with the decoder of the library. -/
def jsonEnv : HttpEnv := { sampleHttpEnv with loads := Json.loads }

/-- A payload with a float and a text beyond ASCII, and a second call while the entry lives. -/
def decodedThenHit : List HttpEvent :=
  [.start 0 0 (sampleGetJson pageFirst), .enter 0 0,
    .attempt 0 2 (.response 200 (some (.obj [("t", .float (.finite false 1 (-1))), ("s", .str "é")]))), .settle 0 2,
    .store 0 2, .start 1 61 (sampleGetJson pageLast)]

/-- The payload may come from a text with a key twice and a float that is not shortest. -/
theorem decodedThenHit_lossless :
    Lossless jsonEnv (.initial fun p => ⟨p.name, 5, 30, .closed, 0, 0⟩) decodedThenHit := by
  refine json_cache_is_lossless jsonEnv rfl _ decodedThenHit (fun c t reply hmem => ?_) fun c t r hmem => ?_
  · simp only [decodedThenHit, List.mem_cons, List.not_mem_nil, or_false, reduceCtorEq, false_or,
      HttpEvent.attempt.injEq] at hmem
    obtain ⟨-, -, rfl⟩ := hmem
    exact ⟨"\x7b\"t\": 0.10, \"s\": 1, \"s\": \"\\u00e9\"\x7d", by decide +kernel⟩
  · simp only [decodedThenHit, List.mem_cons, List.not_mem_nil, or_false, reduceCtorEq, false_or,
      HttpEvent.start.injEq] at hmem
    have hone : Json.Canonical (.int 1) := by
      unfold Json.Canonical
      decide +kernel
    rcases hmem with ⟨-, -, rfl⟩ | ⟨-, -, rfl⟩
    · exact ⟨Dict.nodup _, hone, trivial, trivial⟩
    · exact ⟨Dict.nodup _, trivial, hone, trivial⟩

end SmartTravel
