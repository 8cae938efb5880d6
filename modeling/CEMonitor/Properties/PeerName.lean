import CEMonitor.Consumer
import CEMonitor.PeerName

/-!
# What `getPeerName` says of a peer

Both branches end in the same text processing, `lastToken`, which keeps a text that does not begin
with a colon and cuts down every other. They differ in the bytes that they take for the address.
-/

namespace CEMonitor

open Infra Infra.Inet

/-! ## The end of both branches -/

theorem lastToken_of_head {peer : String} (h : peer.toList.head? ≠ some ':') :
    lastToken peer = .returned peer := by
  have hfind : ¬Text.findLastOf peer ':' 0 ≠ none := by
    rw [Text.findLastOf_zero, if_neg h]
    exact not_not.mpr rfl
  rw [lastToken, if_neg hfind]

/-- What stands behind the last colon of a text that begins with one. -/
theorem lastToken_of_last {peer : String} {u v : List Char} (hpeer : peer.toList = u ++ ':' :: v)
    (hv : ':' ∉ v) (h : peer.toList.head? = some ':') :
    lastToken peer = .returned (String.ofList v) := by
  have hfind : Text.findLastOf peer ':' 0 ≠ none := by
    rw [Text.findLastOf_zero, if_pos h]
    exact Option.some_ne_none 0
  have hlast := Text.getLast?_splitCompress hpeer hv
  have hpos : 0 < (Text.splitCompress ':' peer).length := by
    refine List.length_pos_iff.mpr fun hnil => ?_
    rw [hnil] at hlast
    cases hlast
  rw [lastToken, if_pos hfind]
  refine at?_eq_returned_iff.mpr ⟨by omega, ?_⟩
  have hindex : ((Text.splitCompress ':' peer).length - 1 : Int).toNat
      = (Text.splitCompress ':' peer).length - 1 := by
    omega
  rw [hindex, ← List.getLast?_eq_getElem?, hlast]

/-- A text that begins with a colon is never kept. -/
theorem lastToken_ne_self {peer : String} (h : peer.toList.head? = some ':') :
    lastToken peer ≠ .returned peer := by
  obtain ⟨u, v, hpeer, hv⟩ := Text.exists_last_of_mem (List.mem_of_head? h)
  rw [lastToken_of_last hpeer hv h]
  intro hself
  have hchars : v = peer.toList := by
    rw [← String.toList_ofList (l := v), Outcome.returned.inj hself]
  exact hv (hchars ▸ List.mem_of_head? h)

/-! ## The plain branch -/

theorem SockAddr.length_bytes_le (p : SockAddr) : p.bytes.length ≤ 28 := by
  cases p <;> simp [SockAddr.bytes]

theorem load_plain {p : SockAddr} {off n : Nat} {pre bytes post : List UInt8}
    (hp : p.bytes = pre ++ bytes ++ post) (hpre : pre.length = off) (hn : bytes.length = n) :
    (getpeername (some p) (Buffer.uninitialised 128)).load off n
      = (.returned bytes : Result (List UInt8)) := by
  rw [getpeername, Buffer.store_uninitialised (Nat.le_trans p.length_bytes_le (by decide)), hp]
  exact Buffer.load_map_some hpre hn

/-- Without authentication the text of the address is what `lastToken` is given. -/
theorem getPeerName_plain (context : Bool) (p : SockAddr) :
    getPeerName false context (some p) = lastToken p.text := by
  cases p with
  | inet port addr =>
    -- the family, the address, and the room for its text
    have hbytes : (SockAddr.inet port addr).bytes
        = [] ++ [2, 0] ++ (port.toList ++ addr.toList ++ List.replicate 8 0) := rfl
    have hfamily : (getpeername (some (.inet port addr)) (Buffer.uninitialised 128)).load 0 2
        = (.returned [2, 0] : Result (List UInt8)) := load_plain hbytes rfl rfl
    have haddr : (getpeername (some (.inet port addr)) (Buffer.uninitialised 128)).load 4 4
        = (.returned addr.toList : Result (List UInt8)) :=
      load_plain rfl (by simp) addr.length_toList
    have hfits : (inet_ntop4 addr.toList).length < INET6_ADDRSTRLEN := by
      have hle := length_inet_ntop4_le addr.toList
      rw [addr.length_toList] at hle
      exact Nat.lt_of_le_of_lt hle (by decide)
    simp [getPeerName, ss_family, hfamily, haddr, inet_ntop, AF_INET, hfits, stringOfArray,
      SockAddr.text]
  | inet6 port flowinfo addr scopeId =>
    have hbytes : (SockAddr.inet6 port flowinfo addr scopeId).bytes
        = [] ++ [10, 0] ++ (port.toList ++ flowinfo.toList ++ addr.toList ++ scopeId.toList) := rfl
    have hfamily : (getpeername (some (.inet6 port flowinfo addr scopeId))
        (Buffer.uninitialised 128)).load 0 2 = (.returned [10, 0] : Result (List UInt8)) :=
      load_plain hbytes rfl rfl
    have haddr : (getpeername (some (.inet6 port flowinfo addr scopeId))
        (Buffer.uninitialised 128)).load 8 16 = (.returned addr.toList : Result (List UInt8)) :=
      load_plain rfl (by simp) addr.length_toList
    have hfits : (inet_ntop6 addr.toList).length < INET6_ADDRSTRLEN :=
      length_inet_ntop6_lt addr.length_toList
    simp [getPeerName, ss_family, hfamily, haddr, inet_ntop, AF_INET, AF_INET6, hfits,
      stringOfArray, SockAddr.text]

/-! ## The authenticated branch -/

/--
The authenticated branch takes the bytes behind the first eight for the address of a
`sockaddr_in6`. Printing them is defined only when a zero byte ends them within the structure.
-/
theorem getPeerName_overlay {p : SockAddr} {front addr tail : List UInt8}
    (hbytes : p.bytes ++ List.replicate (28 - p.bytes.length) 0 = front ++ addr ++ tail)
    (hfront : front.length = 8) (haddr : addr.length = 16) :
    getPeerName true true (some p)
      = if 0 ∈ addr ++ tail then lastToken (String.ofList (inet_ntop6 addr)) else .undefined := by
  have hbuf : getpeername (some p) (Buffer.zeroed 28) = (front ++ addr ++ tail).map some := by
    rw [getpeername, Buffer.store_zeroed p.length_bytes_le, hbytes]
  have hload : Buffer.load 8 16 ((front ++ addr ++ tail).map some)
      = (.returned addr : Result (List UInt8)) := by
    rw [← List.append_nil ((front ++ addr ++ tail).map some)]
    exact Buffer.load_map_some hfront haddr
  have hdrop : ((front ++ addr ++ tail).map some).drop 8 = (addr ++ tail).map some := by
    rw [← List.map_drop, List.append_assoc, ← hfront, List.drop_left]
  have hfits : (inet_ntop6 addr).length < 1024 :=
    Nat.lt_trans (length_inet_ntop6_lt haddr) (by decide)
  simp only [getPeerName, hbuf, hdrop, Buffer.scan_map_some, hload]
  by_cases h : 0 ∈ addr ++ tail
  · simp [h, inet_ntop, AF_INET, AF_INET6, hfits, stringOfArray]
  · simp [h]

/-- An IPv4 address is not where it is looked for; zeros are. -/
theorem getPeerName_inet (port : Vector UInt8 2) (addr : Vector UInt8 4) :
    getPeerName true true (some (.inet port addr)) = .returned "" := by
  have hbytes : (SockAddr.inet port addr).bytes
      ++ List.replicate (28 - (SockAddr.inet port addr).bytes.length) 0
      = ([2, 0] ++ port.toList ++ addr.toList) ++ List.replicate 16 0 ++ List.replicate 4 0 := by
    simp [SockAddr.bytes]
  rw [getPeerName_overlay hbytes (by simp) (by simp), if_pos (by simp)]
  have htext : String.ofList (inet_ntop6 (List.replicate 16 0)) = "::" := by decide
  rw [htext]
  exact lastToken_of_last (u := [':']) (v := []) rfl List.not_mem_nil rfl

theorem getPeerName_inet6 (port : Vector UInt8 2) (flowinfo : Vector UInt8 4)
    (addr : Vector UInt8 16) (scopeId : Vector UInt8 4) :
    getPeerName true true (some (.inet6 port flowinfo addr scopeId))
      = if 0 ∈ addr.toList ++ scopeId.toList then
          lastToken (SockAddr.inet6 port flowinfo addr scopeId).text
        else .undefined := by
  have hbytes : (SockAddr.inet6 port flowinfo addr scopeId).bytes
      ++ List.replicate (28 - (SockAddr.inet6 port flowinfo addr scopeId).bytes.length) 0
      = ([10, 0] ++ port.toList ++ flowinfo.toList) ++ addr.toList ++ scopeId.toList := by
    simp [SockAddr.bytes]
  exact getPeerName_overlay hbytes (by simp) addr.length_toList

/-- The address stands where the authenticated branch looks for it, and printing it ends. -/
def SockAddr.Overlaid : SockAddr → Prop
  | .inet _ _ => False
  | .inet6 _ _ addr scopeId => 0 ∈ addr.toList ++ scopeId.toList

theorem exists_lastToken (peer : String) : ∃ s, lastToken peer = .returned s := by
  by_cases h : peer.toList.head? = some ':'
  · obtain ⟨u, v, hpeer, hv⟩ := Text.exists_last_of_mem (List.mem_of_head? h)
    exact ⟨String.ofList v, lastToken_of_last hpeer hv h⟩
  · exact ⟨peer, lastToken_of_head h⟩

theorem lastToken_inet (port : Vector UInt8 2) (addr : Vector UInt8 4) :
    lastToken (SockAddr.inet port addr).text = .returned (SockAddr.inet port addr).text := by
  refine lastToken_of_head fun h => ?_
  have hmem := List.mem_of_head? h
  rw [SockAddr.text, String.toList_ofList] at hmem
  exact colon_not_mem_inet_ntop4 addr.toList hmem

theorem text_inet_ne_empty (port : Vector UInt8 2) (addr : Vector UInt8 4) :
    (SockAddr.inet port addr).text ≠ "" := by
  intro h
  have hlen := addr.length_toList
  have hne : addr.toList ≠ [] := by
    intro hnil
    rw [hnil] at hlen
    cases hlen
  exact inet_ntop4_ne_nil hne (String.ofList_eq_empty_iff.mp h)

theorem getPeerName_of_overlaid {p : SockAddr} (h : p.Overlaid) :
    getPeerName true true (some p) = lastToken p.text := by
  cases p with
  | inet port addr => exact absurd h id
  | inet6 port flowinfo addr scopeId =>
    have hmem : 0 ∈ addr.toList ++ scopeId.toList := h
    rw [getPeerName_inet6, if_pos hmem]

/-- Otherwise nothing comes back, or the empty text for an IPv4 peer. -/
theorem getPeerName_of_not_overlaid {p : SockAddr} {s : String} (h : ¬p.Overlaid)
    (hs : getPeerName true true (some p) = .returned s) :
    s = "" ∧ ∃ port addr, p = .inet port addr := by
  cases p with
  | inet port addr =>
    rw [getPeerName_inet] at hs
    exact ⟨(Outcome.returned.inj hs).symm, port, addr, rfl⟩
  | inet6 port flowinfo addr scopeId =>
    have hmem : 0 ∉ addr.toList ++ scopeId.toList := h
    rw [getPeerName_inet6, if_neg hmem] at hs
    cases hs

/--
Authentication leaves the result as it is exactly for the IPv6 peers with a zero byte in their
address or scope.
-/
theorem getPeerName_authn_eq_iff (p : SockAddr) :
    getPeerName true true (some p) = getPeerName false true (some p) ↔ p.Overlaid := by
  rw [getPeerName_plain]
  constructor
  · intro h
    by_contra hover
    -- the plain branch returns a text, and not the empty one for an IPv4 peer
    obtain ⟨s, hs⟩ := exists_lastToken p.text
    obtain ⟨hempty, port, addr, rfl⟩ := getPeerName_of_not_overlaid hover (h.trans hs)
    rw [lastToken_inet] at hs
    exact text_inet_ne_empty port addr ((Outcome.returned.inj hs).trans hempty)
  · exact getPeerName_of_overlaid

/-- A peer over IPv4. -/
def ipv4Peer : SockAddr := .inet #v[0x1f, 0x90] #v[10, 0, 0, 1]

/-- It loses its address when authentication is on. -/
theorem ipv4Peer_authn_differs :
    getPeerName false true (some ipv4Peer) = .returned "10.0.0.1" ∧
      getPeerName true true (some ipv4Peer) = .returned "" := by
  refine ⟨?_, getPeerName_inet _ _⟩
  rw [getPeerName_plain, ipv4Peer, lastToken_inet]
  decide

/-! ## Peers told apart -/

namespace SockAddr

/-- What the client IP is expected to be. -/
def expected (p : SockAddr) : String := String.ofList (shown p.address)

/-- The text does not begin with a colon, unless the address is a mapped one. -/
def Kept (p : SockAddr) : Prop :=
  p.text.toList.head? = some ':' → ∃ quad, p.address = mapped quad

theorem length_address (p : SockAddr) : p.address.length = 16 := by
  cases p with
  | inet port addr => simp [address, mapped]
  | inet6 port flowinfo addr scopeId => exact addr.length_toList

theorem expected_inet (port : Vector UInt8 2) (addr : Vector UInt8 4) :
    (SockAddr.inet port addr).expected = (SockAddr.inet port addr).text := by
  have hquad : quad? (mapped addr.toList) = some addr.toList := quad?_eq_some_iff.mpr rfl
  simp only [expected, address, shown, hquad, text]

/-- The last token of a mapped address is the dotted quad. -/
theorem lastToken_of_mapped {p : SockAddr} {quad : List UInt8} (h : quad? p.address = some quad) :
    lastToken p.text = .returned p.expected := by
  cases p with
  | inet port addr => rw [lastToken_inet, expected_inet]
  | inet6 port flowinfo addr scopeId =>
    have haddr : addr.toList = mapped quad := quad?_eq_some_iff.mp h
    have htext : (SockAddr.inet6 port flowinfo addr scopeId).text.toList
        = [':', ':', 'f', 'f', 'f', 'f'] ++ ':' :: inet_ntop4 quad := by
      have hlen : quad.length = 4 := length_of_quad? addr.length_toList h
      rw [text, String.toList_ofList, haddr, inet_ntop6_mapped hlen]
      rfl
    rw [lastToken_of_last htext (colon_not_mem_inet_ntop4 quad) (by rw [htext]; rfl), expected,
      shown, h]

theorem text_of_not_mapped {p : SockAddr} (h : quad? p.address = none) :
    p.text = String.ofList (inet_ntop6 p.address) ∧ p.expected = p.text := by
  cases p with
  | inet port addr =>
    have hquad : quad? (mapped addr.toList) = some addr.toList := quad?_eq_some_iff.mpr rfl
    rw [address, hquad] at h
    cases h
  | inet6 port flowinfo addr scopeId =>
    refine ⟨rfl, ?_⟩
    rw [expected, shown, h]
    rfl

theorem lastToken_eq_expected_iff (p : SockAddr) :
    lastToken p.text = .returned p.expected ↔ p.Kept := by
  cases hquad : quad? p.address with
  | some quad =>
    exact iff_of_true (lastToken_of_mapped hquad) fun _ => ⟨quad, quad?_eq_some_iff.mp hquad⟩
  | none =>
    rw [(text_of_not_mapped hquad).2]
    constructor
    · exact fun h hhead => absurd h (lastToken_ne_self hhead)
    · intro hkept
      refine lastToken_of_head fun hhead => ?_
      obtain ⟨quad, hmapped⟩ := hkept hhead
      rw [quad?_eq_some_iff.mpr hmapped] at hquad
      cases hquad

/-- Of the texts that are kept, each belongs to one address. -/
theorem expected_inj {p q : SockAddr} (hp : p.Kept) (hq : q.Kept)
    (h : p.expected = q.expected) : p.address = q.address := by
  have hhead : ∀ {p : SockAddr}, p.Kept → quad? p.address = none →
      (inet_ntop6 p.address).head? ≠ some ':' := by
    intro p hkept hnone hhead
    rw [← String.toList_ofList (l := inet_ntop6 p.address), ← (text_of_not_mapped hnone).1]
      at hhead
    obtain ⟨quad, hmapped⟩ := hkept hhead
    rw [quad?_eq_some_iff.mpr hmapped] at hnone
    cases hnone
  have hshown : shown p.address = shown q.address := by
    rw [← String.toList_ofList (l := shown p.address), ← expected, h, expected,
      String.toList_ofList]
  exact shown_inj p.length_address q.length_address (hhead hp) (hhead hq) hshown

end SockAddr

/-- One peer's name is right when its text is kept and the branch reads it. -/
theorem getPeerName_eq_expected_iff (authn : Bool) (p : SockAddr) :
    getPeerName authn true (some p) = .returned p.expected ↔
      p.Kept ∧ (authn = true → p.Overlaid) := by
  cases authn with
  | false =>
    rw [getPeerName_plain, p.lastToken_eq_expected_iff]
    simp
  | true =>
    by_cases hover : p.Overlaid
    · rw [getPeerName_of_overlaid hover, p.lastToken_eq_expected_iff]
      simp [hover]
    · refine iff_of_false (fun h => ?_) fun h => hover (h.2 rfl)
      obtain ⟨hempty, port, addr, rfl⟩ := getPeerName_of_not_overlaid hover h
      rw [SockAddr.expected_inet] at hempty
      exact text_inet_ne_empty port addr hempty

/-- A connection that `accept` takes from the peer `p`. -/
def Connection.IsFrom (x : Connection) (authn : Bool) (p : SockAddr) : Prop :=
  getPeerName authn true (some p) = .returned x.peerName

/-- So it is for the client IP that `accept` leaves. -/
theorem clientIP_accept_iff {rt : SoapRuntime} {x : Connection} {l l' : Listener} {p : SockAddr}
    (hx : x.IsFrom l.consumer.authn p) (h : l.accept rt x = (.returned true, l')) :
    l'.consumer.clientIP = p.expected ↔ p.Kept ∧ (l.consumer.authn = true → p.Overlaid) := by
  have hclientIP : l'.consumer.clientIP = x.peerName := by
    rcases l.accept_cases rt x with ⟨-, hraised | ⟨message, code, hreturned⟩⟩ | ⟨-, -, htaken⟩
    · rw [hraised] at h
      cases h
    · rw [hreturned] at h
      cases h
    · rw [htaken] at h
      cases h
      rfl
  rw [hclientIP, ← getPeerName_eq_expected_iff, hx, Outcome.returned.injEq]

/--
In either branch two peers get the expected names, and different ones for different addresses,
exactly when their texts are kept and, with authentication, the structure fits them.
-/
theorem getPeerName_distinguishes_iff (authn : Bool) (p q : SockAddr) :
    (getPeerName authn true (some p) = .returned p.expected ∧
      getPeerName authn true (some q) = .returned q.expected ∧
      (getPeerName authn true (some p) = getPeerName authn true (some q) →
        p.address = q.address)) ↔
      p.Kept ∧ q.Kept ∧ (authn = true → p.Overlaid ∧ q.Overlaid) := by
  constructor
  · rintro ⟨hp, hq, -⟩
    obtain ⟨hkp, hop⟩ := (getPeerName_eq_expected_iff authn p).mp hp
    obtain ⟨hkq, hoq⟩ := (getPeerName_eq_expected_iff authn q).mp hq
    exact ⟨hkp, hkq, fun h => ⟨hop h, hoq h⟩⟩
  · rintro ⟨hkp, hkq, hover⟩
    have hp := (getPeerName_eq_expected_iff authn p).mpr ⟨hkp, fun h => (hover h).1⟩
    have hq := (getPeerName_eq_expected_iff authn q).mpr ⟨hkq, fun h => (hover h).2⟩
    refine ⟨hp, hq, fun h => ?_⟩
    rw [hp, hq] at h
    exact SockAddr.expected_inj hkp hkq (Outcome.returned.inj h)

/-- An IPv6 peer with the given address. -/
def ipv6Peer (addr : Vector UInt8 16) : SockAddr :=
  .inet6 #v[0x1f, 0x90] #v[0, 0, 0, 0] addr #v[0, 0, 0, 0]

def loopback : SockAddr := ipv6Peer #v[0, 0, 0, 0, 0, 0, 0, 0, 0, 0, 0, 0, 0, 0, 0, 1]

def longLeading : SockAddr := ipv6Peer #v[0, 0, 0, 0, 0, 0, 0, 0, 0, 5, 0, 1, 0, 1, 0, 1]

/-- `::1` and `::5:1:1:1` are both called `1`. -/
theorem loopback_not_distinguished :
    loopback.text = "::1" ∧ longLeading.text = "::5:1:1:1" ∧
      getPeerName false true (some loopback) = .returned "1" ∧
      getPeerName false true (some longLeading) = .returned "1" ∧
      loopback.address ≠ longLeading.address := by
  have hloopback : loopback.text = "::1" := by decide
  have hlongLeading : longLeading.text = "::5:1:1:1" := by decide
  refine ⟨hloopback, hlongLeading, ?_, ?_, by decide⟩
  · rw [getPeerName_plain, hloopback]
    exact lastToken_of_last (u := [':']) (v := ['1']) rfl (by decide) rfl
  · rw [getPeerName_plain, hlongLeading]
    exact lastToken_of_last (u := [':', ':', '5', ':', '1', ':', '1']) (v := ['1']) rfl
      (by decide) rfl

end CEMonitor
