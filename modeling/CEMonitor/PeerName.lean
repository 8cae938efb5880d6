import CEMonitor.Infra.Buffer
import CEMonitor.Infra.Inet
import CEMonitor.Infra.Text
import CEMonitor.Exceptions

/-!
# `CEConsumer::getPeerName`: the IP address of the peer

`accept` stores its result as the client IP; it is the `peerName` of a `Connection`. The function
has two branches, written separately: without authentication it asks the consumer's socket, with
authentication that of the plugin, into a different structure.
-/

namespace CEMonitor

open Infra Infra.Inet

def AF_INET : Nat := 2

def AF_INET6 : Nat := 10

def INET6_ADDRSTRLEN : Nat := 46

/-- A socket address, every field as its bytes in memory. -/
inductive SockAddr where
  | inet (port : Vector UInt8 2) (addr : Vector UInt8 4)
  | inet6 (port : Vector UInt8 2) (flowinfo : Vector UInt8 4) (addr : Vector UInt8 16)
      (scopeId : Vector UInt8 4)
  deriving DecidableEq, Repr

namespace SockAddr

/-- `sockaddr_in` with its padding, and `sockaddr_in6`, as Linux lays them out. -/
def bytes : SockAddr → List UInt8
  | .inet port addr => [2, 0] ++ port.toList ++ addr.toList ++ List.replicate 8 0
  | .inet6 port flowinfo addr scopeId =>
    [10, 0] ++ port.toList ++ flowinfo.toList ++ addr.toList ++ scopeId.toList

/-- The text of the address. -/
def text : SockAddr → String
  | .inet _ addr => String.ofList (inet_ntop4 addr.toList)
  | .inet6 _ _ addr _ => String.ofList (inet_ntop6 addr.toList)

/-- The IP address, an IPv4 one in its mapped form. -/
def address : SockAddr → List UInt8
  | .inet _ addr => mapped addr.toList
  | .inet6 _ _ addr _ => addr.toList

end SockAddr

/-- `getpeername`: the buffer is filled, unless there is no peer any more. -/
def getpeername (peer : Option SockAddr) (b : Buffer) : Buffer :=
  match peer with
  | some p => Buffer.store p.bytes b
  | none => b

/-- `inet_ntop`, for the two families it is called with. A text that does not fit with its NUL
leaves `dst` as it was. -/
def inet_ntop (af : Nat) (src : List UInt8) (size : Nat) (dst : Option String) : Option String :=
  let text := if af = AF_INET then inet_ntop4 src else inet_ntop6 src
  if text.length < size then some (String.ofList text) else dst

/-- The end of both branches: behind the last colon, if the text begins with one. -/
def lastToken (peer : String) : Result String :=
  if Text.findLastOf peer ':' 0 ≠ none then
    let splitVec := Text.splitCompress ':' peer
    at? splitVec ((splitVec.length : Int) - 1)
  else .returned peer

/-- `string peer = ipstr`, for an array that may not have been written. -/
def stringOfArray : Option String → Result String
  | some s => .returned s
  | none => .undefined

/-- The family, a little-endian number at the start of every address. -/
def ss_family (b : Buffer) : Result Nat :=
  (b.load 0 2).map fun bytes => bytes.foldr (fun d n => d.toNat + 256 * n) 0

/-- `CEConsumer::getPeerName`. `context` tells whether the plugin has a connection. -/
def getPeerName (authn context : Bool) (peer : Option SockAddr) : Result String :=
  if ¬authn then
    let addr_client := getpeername peer (Buffer.uninitialised 128)
    (ss_family addr_client).bind fun family =>
      let ipstr : Result (Option String) :=
        if family = AF_INET then
          (addr_client.load 4 4).map fun sin_addr =>
            inet_ntop AF_INET sin_addr INET6_ADDRSTRLEN none
        else if family = AF_INET6 then
          (addr_client.load 8 16).map fun sin6_addr =>
            inet_ntop AF_INET6 sin6_addr INET6_ADDRSTRLEN none
        else .returned none -- the array stays as it was
      ipstr.bind fun ipstr => (stringOfArray ipstr).bind lastToken
  else if context then
    let peerAddress := getpeername peer (Buffer.zeroed 28)
    -- the address is printed as if it were a C string
    (Buffer.scan (peerAddress.drop 8)).bind fun _ =>
      (peerAddress.load 8 16).bind fun sin6_addr =>
        (stringOfArray (inet_ntop AF_INET6 sin6_addr 1024 (some ""))).bind lastToken
  else .returned ""

/-! ## The name of the peer -/

/-- The loop of `resolveName` over the addresses: the first name that is not empty. An address
without a name is `none`. -/
def firstHostname : List (Option String) → String
  | [] => "UnresolvedHost"
  | none :: rest => firstHostname rest
  | some hostname :: rest => if hostname ≠ "" then hostname else firstHostname rest

/-- `resolveName`, for what `getaddrinfo` found; `none` when it failed or found nothing. -/
def resolveName (found : Option (List (Option String))) : String :=
  match found with
  | none => "UnresolvedHost"
  | some hosts => firstHostname hosts

/-- There is always a name. -/
theorem firstHostname_ne_empty (hosts : List (Option String)) : firstHostname hosts ≠ "" := by
  induction hosts with
  | nil => decide
  | cons host rest ih =>
    cases host with
    | none => exact ih
    | some hostname =>
      rw [firstHostname]
      split
      · next h => exact h
      · exact ih

theorem resolveName_ne_empty (found : Option (List (Option String))) : resolveName found ≠ "" := by
  cases found with
  | none => decide
  | some hosts => exact firstHostname_ne_empty hosts

end CEMonitor
