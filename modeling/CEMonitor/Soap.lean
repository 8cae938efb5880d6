import CEMonitor.Exceptions

/-!
# The SOAP runtime as the client sees it

The client reads gSOAP's `struct soap` after each remote call: the error number, the endpoint
it tried, the four fault strings and the typed fault detail. gSOAP itself is not part of the
repository. Its one function that changes what is read, `soap_set_fault`, is a parameter
(`SoapRuntime`) with the behaviour the client relies on.
-/

namespace CEMonitor

/-! ## Error numbers -/

def SOAP_OK : Int := 0
def SOAP_CLI_FAULT : Int := 1
def SOAP_SVR_FAULT : Int := 2
def SOAP_FAULT : Int := 12

/-! ## Faults -/

/-- `cefaults__BaseFaultType`, the common base of every typed fault. -/
structure BaseFault where
  methodName : String
  timestamp : Int
  errorCode : Option String
  description : Option String
  faultCause : Option String
  deriving DecidableEq, Repr

/-- `SOAP_ENV__Detail`: the type number of the fault and the fault itself. -/
structure Detail where
  type : Int
  fault : Option BaseFault
  deriving DecidableEq, Repr

/-- `SOAP_ENV__Fault`: `detail` is filled by SOAP 1.1, `SOAP_ENV__Detail` by SOAP 1.2. -/
structure Fault where
  detail : Option Detail
  detail12 : Option Detail
  deriving DecidableEq, Repr

/--
`struct soap`. The fault strings are what `*soap_faultstring(soap)` and its siblings return;
`none` is the null pointer. `endpoint`, `host` and `path` are character arrays, never null.
-/
structure Soap where
  error : Int
  version : Int
  endpoint : String
  host : String
  path : String
  faultstring : Option String
  faultcode : Option String
  faultsubcode : Option String
  faultdetail : Option String
  fault : Option Fault
  deriving DecidableEq, Repr

namespace Soap

/-- The state `soap_new` returns. -/
def new : Soap where
  error := SOAP_OK
  version := 1
  endpoint := ""
  host := ""
  path := ""
  faultstring := none
  faultcode := none
  faultsubcode := none
  faultdetail := none
  fault := none

/-- The error is one of the three that carry a SOAP fault, not a transport error. -/
def IsFault (s : Soap) : Prop :=
  s.error = SOAP_FAULT ∨ s.error = SOAP_CLI_FAULT ∨ s.error = SOAP_SVR_FAULT

instance (s : Soap) : Decidable s.IsFault :=
  inferInstanceAs (Decidable (_ ∨ _ ∨ _))

/-- The typed detail of the envelope version in use. -/
def detail? (s : Soap) : Option Detail :=
  s.fault.bind fun f => if s.version = 2 then f.detail12 else f.detail

end Soap

/--
`soap_set_fault`: gives a failed call whose fault code is missing a code and a text, and does
not touch the typed detail.
-/
structure SoapRuntime where
  setFault : Soap → Soap
  faultcode_setFault : ∀ s, (setFault s).faultcode ≠ none
  faultstring_setFault : ∀ s, (setFault s).faultstring ≠ none
  detail_setFault : ∀ s, (setFault s).detail? = s.detail?

namespace SoapRuntime

/-- `soap_set_fault` with one code and one text for every error. -/
def plain (code text : String) : SoapRuntime where
  setFault s :=
    { s with
      faultcode := some (s.faultcode.getD code)
      faultstring := some (s.faultstring.getD text) }
  faultcode_setFault _ := Option.some_ne_none _
  faultstring_setFault _ := Option.some_ne_none _
  detail_setFault _ := rfl

end SoapRuntime

end CEMonitor
