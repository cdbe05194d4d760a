import SmartTravel.Lib.Text

/-!
# The caller's address behind trusted proxies

`ProxyTrust.client_ip` believes `X-Forwarded-For` only from a peer inside a trusted network, and then takes the
right-most hop that is not inside one. Parsing addresses and networks and the membership test are `ipaddress`'s own;
here they are the parameter `IpAddress`.

The hops of a joined header are the hops of its pieces (`hops_append_comma`, `hops_combined`), and the code's reverse
scan is the last untrusted hop (`clientIp_of_lines`). So a caller cannot change what an honest suffix says
(`forged_hops_cannot_change_identity`); but the code reads only the first header line, and agrees with the joined header
exactly when the later lines bring no other untrusted hop (`repeated_lines_iff`).
-/

namespace SmartTravel

/-- The used parts of `ipaddress`: `ip_address`, `ip_network(strict=False)`, `in`. A `ValueError` is `none`. -/
structure IpAddress (Addr Net : Type) where
  ipAddress : String → Option Addr
  ipNetwork : String → Option Net
  contains : Net → Addr → Bool

/-- `FORWARDED_FOR_HEADER`. -/
def forwardedForHeader : String := "x-forwarded-for"

/-- What `client_ip` reads of a request: the peer and the header lines as received, names in lower case. -/
structure Request where
  client : Option String
  headers : List (String × String)

/-- `request.headers.get(name, default)`: the first line of that name. -/
def Request.header (r : Request) (name default : String) : String := (r.headers.lookup name).getD default

/-- All lines of that name. -/
def Request.lines (r : Request) (name : String) : List String :=
  (r.headers.filter (fun h => h.1 == name)).map Prod.snd

/-- `[part.strip() for part in forwarded.split(",") if part.strip()]`. -/
def hops (forwarded : String) : List String := ((Py.split ',' forwarded).map Py.strip).filter (· ≠ "")

/-- The networks that parsed. -/
structure ProxyTrust (Addr Net : Type) where
  ip : IpAddress Addr Net
  networks : List Net

namespace ProxyTrust

variable {Addr Net : Type}

/-- `__init__`: an invalid CIDR is dropped. -/
def new (ip : IpAddress Addr Net) (trustedCidrs : Option (List String)) : ProxyTrust Addr Net :=
  ⟨ip, (trustedCidrs.getD []).filterMap ip.ipNetwork⟩

def configured (p : ProxyTrust Addr Net) : Bool := !p.networks.isEmpty

/-- `trusts`: no address, no network, or text that is not an address is not trusted. -/
def trusts (p : ProxyTrust Addr Net) : Option String → Bool
  | none => false
  | some address =>
    if address = "" ∨ p.networks = [] then false
    else
      match p.ip.ipAddress address with
      | none => false
      | some ip => p.networks.any (fun network => p.ip.contains network ip)

/-- `client_ip`. -/
def clientIp (p : ProxyTrust Addr Net) (request : Request) : Option String :=
  let peer := request.client
  if !p.trusts peer then peer
  else
    let forwarded := request.header forwardedForHeader ""
    match (hops forwarded).reverse.find? (fun hop => !p.trusts (some hop)) with
    | some hop => some hop
    | none => peer

end ProxyTrust

/-! ## Hops of joined text -/

theorem hops_append_comma (p s : String) : hops (p ++ "," ++ s) = hops p ++ hops s := by
  have h := Py.split_append_sep ',' p s
  rw [show String.singleton ',' = "," from rfl] at h
  simp only [hops, h, List.map_append, List.filter_append]

@[simp] theorem hops_empty : hops "" = [] := by decide +kernel

/-- The header that HTTP defines several lines to be equivalent to. -/
def combined (lines : List String) : String := Py.join ',' lines

theorem hops_combined : ∀ lines : List String, hops (combined lines) = lines.flatMap hops
  | [] => hops_empty
  | [l] => by simp [combined, Py.join]
  | l :: l' :: ls => by
    have h := hops_append_comma l (combined (l' :: ls))
    rw [hops_combined (l' :: ls)] at h
    rw [List.flatMap_cons, ← h]
    rfl

/-- The first line is what `headers.get` returns. -/
theorem Request.header_eq (r : Request) (name default : String) :
    r.header name default = (r.lines name).head?.getD default := by
  obtain ⟨client, headers⟩ := r
  simp only [Request.header, Request.lines]
  induction headers with
  | nil => rfl
  | cons h hs ih =>
    obtain ⟨n, v⟩ := h
    rw [List.lookup_cons]
    by_cases hn : n = name
    · simp [hn]
    · have h₁ : (name == n) = false := by simpa using fun e => hn e.symm
      have h₂ : (n == name) = false := by simpa using hn
      simpa [h₁, h₂] using ih

namespace ProxyTrust

variable {Addr Net : Type} (p : ProxyTrust Addr Net)

/-- The hops of a header that are not inside a trusted network. -/
def untrustedHops (forwarded : String) : List String := (hops forwarded).filter (fun hop => !p.trusts (some hop))

theorem untrustedHops_append_comma (f s : String) :
    p.untrustedHops (f ++ "," ++ s) = p.untrustedHops f ++ p.untrustedHops s := by
  simp only [untrustedHops, hops_append_comma, List.filter_append]

theorem untrustedHops_combined (lines : List String) :
    p.untrustedHops (combined lines) = lines.flatMap p.untrustedHops := by
  simp only [untrustedHops, hops_combined, List.filter_flatMap]
  rfl

variable {p} {r : Request}

theorem clientIp_of_untrusted (h : p.trusts r.client = false) : p.clientIp r = r.client := by
  simp [clientIp, h]

/-- The reverse scan finds the last untrusted hop of the first line. -/
theorem clientIp_of_lines (h : p.trusts r.client = true) :
    p.clientIp r =
      ((p.untrustedHops ((r.lines forwardedForHeader).head?.getD "")).getLast?).or r.client := by
  simp only [clientIp, h, Bool.not_true, Bool.false_eq_true, if_false, Request.header_eq, untrustedHops,
    List.getLast?_filter]
  cases List.find? (fun hop => !p.trusts (some hop)) (hops ((r.lines forwardedForHeader).head?.getD "")).reverse <;> rfl

theorem not_trusts_of_mem {hop f : String} (h : hop ∈ p.untrustedHops f) : p.trusts (some hop) = false := by
  simpa using (List.mem_filter.mp h).2

/-- **Forged hops cannot change the caller's identity.** (a) An untrusted peer is the caller, whatever the header holds.
(b) Behind a trusted peer with a single header line, the caller is the right-most non-blank trimmed hop outside the
trusted networks, or the peer. (c) Text put in front of a line that holds such a hop changes nothing. -/
theorem forged_hops_cannot_change_identity (ip : IpAddress Addr Net) (cidrs : Option (List String)) (r : Request) :
    ((new ip cidrs).trusts r.client = false → (new ip cidrs).clientIp r = r.client) ∧
    (∀ v, (new ip cidrs).trusts r.client = true → r.lines forwardedForHeader = [v] →
      (new ip cidrs).clientIp r = (((new ip cidrs).untrustedHops v).getLast?).or r.client) ∧
    (∀ r' P S, r.lines forwardedForHeader = [P ++ "," ++ S] → r'.lines forwardedForHeader = [S] →
      r'.client = r.client → (∃ hop ∈ hops S, (new ip cidrs).trusts (some hop) = false) →
      (new ip cidrs).clientIp r = (new ip cidrs).clientIp r') := by
  refine ⟨clientIp_of_untrusted, fun v ht hv => ?_, fun r' P S hr hr' hc hhop => ?_⟩
  · rw [clientIp_of_lines ht, hv]; rfl
  · cases ht : (new ip cidrs).trusts r.client with
    | false => rw [clientIp_of_untrusted ht, clientIp_of_untrusted (hc ▸ ht), hc]
    | true =>
      rw [clientIp_of_lines ht, clientIp_of_lines (hc ▸ ht), hr, hr', hc]
      simp only [List.head?_cons, Option.getD_some, untrustedHops_append_comma, List.getLast?_append]
      obtain ⟨hop, hmem, hno⟩ := hhop
      -- The honest suffix has a last untrusted hop, and that one decides in both headers.
      have hne : (new ip cidrs).untrustedHops S ≠ [] :=
        List.ne_nil_of_mem (List.mem_filter.mpr ⟨hmem, by simp [hno]⟩)
      rw [List.getLast?_eq_some_getLast hne]
      rfl

/-! ## IPv4 addresses -/

/-- A decimal octet without leading zeros. -/
def octet (s : String) : Option ℕ :=
  let cs := s.toList
  if cs.length = 0 ∨ 3 < cs.length ∨ ¬ cs.all Char.isDigit ∨ (cs.head? = some '0' ∧ cs.length ≠ 1) then none
  else
    let n := cs.foldl (fun n c => 10 * n + (c.toNat - '0'.toNat)) 0
    if n ≤ 255 then some n else none

def ipv4Address (s : String) : Option ℕ :=
  match (Py.split '.' s).mapM octet with
  | some [a, b, c, d] => some (((a * 256 + b) * 256 + c) * 256 + d)
  | _ => none

/-- An address and a prefix length. -/
def ipv4Network (s : String) : Option (ℕ × ℕ) :=
  match Py.split '/' s with
  | [a] => (ipv4Address a).map (·, 32)
  | [a, n] => (ipv4Address a).bind fun addr => (octet n).bind fun len => if len ≤ 32 then some (addr, len) else none
  | _ => none

/-- `ipaddress` restricted to IPv4 in dotted and prefix notation. -/
def ipv4 : IpAddress ℕ (ℕ × ℕ) where
  ipAddress := ipv4Address
  ipNetwork := ipv4Network
  contains network addr := network.1 >>> (32 - network.2) == addr >>> (32 - network.2)

/-- A request through the proxy `10.1.2.3` with the given lines. -/
def proxied (lines : List String) : Request := ⟨some "10.1.2.3", lines.map (forwardedForHeader, ·)⟩

/-- The caller behind two trusted proxies, with and without forged hops in front. -/
theorem forged_prefix_is_ignored :
    (new ipv4 (some ["10.0.0.0/8"])).clientIp (proxied ["1.2.3.4, 10.9.9.9" ++ "," ++ " 203.0.113.9, 10.4.5.6"]) =
        some "203.0.113.9" ∧
      (new ipv4 (some ["10.0.0.0/8"])).clientIp (proxied ["1.2.3.4, 10.9.9.9" ++ "," ++ " 203.0.113.9, 10.4.5.6"]) =
        (new ipv4 (some ["10.0.0.0/8"])).clientIp (proxied [" 203.0.113.9, 10.4.5.6"]) := by
  obtain ⟨_, hb, hc⟩ := forged_hops_cannot_change_identity ipv4 (some ["10.0.0.0/8"])
    (proxied ["1.2.3.4, 10.9.9.9" ++ "," ++ " 203.0.113.9, 10.4.5.6"])
  refine ⟨?_, ?_⟩
  · rw [hb _ (by decide +kernel) rfl]
    decide +kernel
  · exact hc (proxied [" 203.0.113.9, 10.4.5.6"]) _ _ rfl rfl rfl ⟨"203.0.113.9", by decide +kernel, by decide +kernel⟩

/-! ## Repeated header lines -/

/-- The last untrusted hop of the lines after the first. -/
def laterHop (p : ProxyTrust Addr Net) (lines : List String) : Option String :=
  (lines.tail.flatMap p.untrustedHops).getLast?

/-- The last untrusted hop of the first line. -/
def firstHop (p : ProxyTrust Addr Net) (lines : List String) : Option String :=
  (p.untrustedHops (lines.head?.getD "")).getLast?

/-- **When repeated lines agree with the joined header.** Behind a trusted peer, the caller read off several lines is
the caller read off the one line they are equivalent to, if and only if the lines after the first hold no untrusted
hop, or their right-most one is also the right-most one of the first line. -/
theorem repeated_lines_iff (ip : IpAddress Addr Net) (cidrs : Option (List String)) (r r' : Request)
    (ht : (new ip cidrs).trusts r.client = true) (hc : r'.client = r.client)
    (hr' : r'.lines forwardedForHeader = [combined (r.lines forwardedForHeader)]) :
    (new ip cidrs).clientIp r = (new ip cidrs).clientIp r' ↔
      (new ip cidrs).laterHop (r.lines forwardedForHeader) = none ∨
        (new ip cidrs).laterHop (r.lines forwardedForHeader) =
          (new ip cidrs).firstHop (r.lines forwardedForHeader) := by
  rw [clientIp_of_lines ht, clientIp_of_lines (hc ▸ ht), hr', hc]
  simp only [List.head?_cons, Option.getD_some, untrustedHops_combined]
  generalize r.lines forwardedForHeader = lines
  have hsplit : lines.flatMap (new ip cidrs).untrustedHops =
      (new ip cidrs).untrustedHops (lines.head?.getD "") ++ lines.tail.flatMap (new ip cidrs).untrustedHops := by
    cases lines with
    | nil => simp [untrustedHops]
    | cons l ls => rfl
  rw [hsplit, List.getLast?_append]
  change (firstHop _ lines).or r.client = ((laterHop _ lines).or (firstHop _ lines)).or r.client ↔ _
  cases hl : laterHop (new ip cidrs) lines with
  | none => simp
  | some hop =>
    have hno : (new ip cidrs).trusts (some hop) = false := by
      obtain ⟨l, _, hmem⟩ := List.mem_flatMap.mp (List.mem_of_getLast? hl)
      exact not_trusts_of_mem hmem
    cases hf : firstHop (new ip cidrs) lines with
    | none =>
      -- The peer is trusted, so it is not the hop the joined header names.
      have hne : r.client ≠ some hop := fun he => by rw [he, hno] at ht; cases ht
      simpa using hne
    | some hop' => simp [eq_comm]

/-- A proxy that appends the hop it saw as a line of its own: the caller's forged first line wins. -/
theorem forged_first_line_wins :
    (new ipv4 (some ["10.0.0.0/8"])).trusts (proxied ["1.2.3.4", "203.0.113.9"]).client = true ∧
      (new ipv4 (some ["10.0.0.0/8"])).clientIp (proxied ["1.2.3.4", "203.0.113.9"]) = some "1.2.3.4" ∧
      (new ipv4 (some ["10.0.0.0/8"])).clientIp (proxied [combined ["1.2.3.4", "203.0.113.9"]]) =
        some "203.0.113.9" := by
  decide +kernel

/-- Later lines that only name trusted proxies change nothing. -/
theorem trusted_later_lines_agree :
    (new ipv4 (some ["10.0.0.0/8"])).clientIp (proxied ["203.0.113.9", "10.4.5.6"]) =
      (new ipv4 (some ["10.0.0.0/8"])).clientIp (proxied [combined ["203.0.113.9", "10.4.5.6"]]) :=
  (repeated_lines_iff ipv4 (some ["10.0.0.0/8"]) (proxied ["203.0.113.9", "10.4.5.6"])
    (proxied [combined ["203.0.113.9", "10.4.5.6"]]) (by decide +kernel) rfl rfl).mpr (Or.inl (by decide +kernel))

end ProxyTrust

end SmartTravel
