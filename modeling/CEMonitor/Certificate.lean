import CEMonitor.Exceptions
import CEMonitor.Infra.Calendar

/-!
# `AbsRequest::authenticate`: credentials and their expiry

Reading the expiry time of a certificate out of its ASN.1 text, the time that is left, and the
whole of `authenticate` around it.
-/

namespace CEMonitor

open Infra Calendar

/-! ## The expiry time -/

/-- `g2`: the two bytes at `i` taken as decimal digits. Bytes that are not there cannot be read. -/
def g2 (data : List UInt8) (i : Nat) : Result Int :=
  match data[i]?, data[i + 1]? with
  | some a, some b => .returned (((a.toNat : Int) - 48) * 10 + b.toNat - 48)
  | _, _ => .undefined

/-- The zone offset in minutes that stands after the twelve digits. -/
def zoneOffset (data : List UInt8) : Result Int :=
  (Outcome.deref data[12]?).bind fun zone =>
    if zone = 90 then .returned 0 -- 'Z'
    else
      (g2 data 13).bind fun hours =>
        (g2 data 15).bind fun minutes =>
          let offset := hours * 60 + minutes
          .returned (if zone = 45 then -offset else offset) -- '-'

/-- `ASN1_UTCTIME_get`, on the bytes that can be read from `s->data` on. -/
def ASN1_UTCTIME_get (data : List UInt8) : Result Int :=
  (g2 data 0).bind fun year =>
    -- two digits stand for 1950 to 2049
    let year := if year < 50 then year + 100 else year
    (g2 data 2).bind fun mon =>
      (g2 data 4).bind fun mday =>
        (g2 data 6).bind fun hour =>
          (g2 data 8).bind fun min =>
            (g2 data 10).bind fun sec =>
              (zoneOffset data).bind fun offset =>
                .returned <| timegm
                  { year := year, mon := mon - 1, mday := mday, hour := hour, min := min,
                    sec := sec } - offset * 60

/-- What OpenSSL makes of the proxy file, step by step. -/
structure ProxyFile where
  allocated : Bool
  opened : Bool
  /-- The bytes behind `X509_get_notAfter`, when the file holds a certificate. -/
  notAfter : Option (List UInt8)

def getProxyTimeLeftSpec : List ExceptionClass := [.abs .authenticationInit]

/-- `getProxyTimeLeft`: whole minutes, rounded towards zero. -/
def getProxyTimeLeft (now : Int) (f : ProxyFile) (pxfile : String) : Result Int :=
  throws getProxyTimeLeftSpec <|
    if f.allocated then
      if f.opened then
        match f.notAfter with
        | some data => (ASN1_UTCTIME_get data).map fun t => (t - now).tdiv 60
        | none =>
          .raised (.abs .authenticationInit ("unable to read X509 proxy file: " ++ pxfile))
      else .raised (.abs .authenticationInit ("unable to open X509 proxy file: " ++ pxfile))
    else
      .raised
        (.abs .authenticationInit ("unable to allocate memory for the proxy file: " ++ pxfile))

/-! ## `authenticate` -/

def expiredMessage : String := "Proxy certificate has expired. Please Check it."

/-- The expiry check of `authenticate`: the time left, clamped at zero. -/
def checkExpiry (now : Int) (f : ProxyFile) (certificate : String) : Result Unit :=
  (getProxyTimeLeft now f certificate).bind fun leftcert =>
    let leftcert := if leftcert < 0 then 0 else leftcert
    if leftcert = 0 then .raised (.abs .authenticationInit expiredMessage) else .returned ()

/-- What `authenticate` finds: the two files, and what the gSOAP plugin answers. -/
structure Credentials where
  certificateExists : Bool
  keyExists : Bool
  keyOpens : Bool
  certificateOpens : Bool
  file : ProxyFile
  initContext : Bool
  setCredential : Bool
  noAuth : Bool
  registerPlugin : Bool

def authenticateSpec : List ExceptionClass := [.abs .authenticationInit]

/-- `AbsRequest::authenticate`. -/
def authenticate (now : Int) (cr : Credentials) (certificate key : String) : Result Unit :=
  throws authenticateSpec <|
    if !cr.certificateExists then
      .raised
        (.abs .authenticationInit ("Certificate file [" ++ certificate ++ "] missing on disk"))
    else if !cr.keyExists then
      .raised (.abs .authenticationInit ("Key file [" ++ key ++ "] missing on disk"))
    else if !cr.keyOpens then
      .raised (.abs .authenticationInit
        ("keyfile [" ++ key ++ "] is there but cannot open it for reading"))
    else if !cr.certificateOpens then
      .raised (.abs .authenticationInit
        ("certfile [" ++ certificate ++ "] is there but cannot open it for reading"))
    else
      (checkExpiry now cr.file certificate).bind fun _ =>
        if !cr.initContext then
          .raised (.abs .authenticationInit "gsplugin initialization failed")
        else if !cr.setCredential then
          .raised (.abs .authenticationInit
            "Cannot set credentials in the gsoap-plugin context")
        else if !cr.noAuth ∧ !cr.registerPlugin then
          .raised (.abs .authenticationInit "soap_register_plugin_arg FAILED")
        else .returned ()

end CEMonitor
