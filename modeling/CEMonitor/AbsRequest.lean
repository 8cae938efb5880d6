import CEMonitor.Infra.Text
import CEMonitor.Soap

/-!
# `AbsRequest`: the error half of every request

Every remote operation ends a failed call in the same way: `setError` stores a message and a
code in the object, then `throwCEException` raises the class that the type number of the fault
selects or, when there is no typed fault, `throwAbsException` classifies the stored message.
-/

namespace CEMonitor

open Infra

/-! ## The object -/

/--
The type numbers the constructor asks gSOAP for, one per fault class it knows
(`m_BaseFault_integer` and its siblings). gSOAP numbers its types from 1, each type once.
-/
structure FaultIntegers where
  baseFault : Int
  subscriptionFault : Int
  topicNotSupportedFault : Int
  dialectNotSupportedFault : Int
  genericFault : Int
  authenticationFault : Int
  authorizationFault : Int
  subscriptionNotFoundFault : Int
  positive : ∀ n ∈ [baseFault, subscriptionFault, topicNotSupportedFault,
    dialectNotSupportedFault, genericFault, authenticationFault, authorizationFault,
    subscriptionNotFoundFault], 0 < n
  distinct : [baseFault, subscriptionFault, topicNotSupportedFault,
    dialectNotSupportedFault, genericFault, authenticationFault, authorizationFault,
    subscriptionNotFoundFault].Nodup

namespace FaultIntegers

/-- The number of the fault that a class of exceptions is named after. -/
def ofClass (n : FaultIntegers) : FaultClass → Int
  | .generic => n.genericFault
  | .topicNotSupported => n.topicNotSupportedFault
  | .dialectNotSupported => n.dialectNotSupportedFault
  | .subscription => n.subscriptionFault
  | .authentication => n.authenticationFault
  | .authorization => n.authorizationFault
  | .subscriptionNotFound => n.subscriptionNotFoundFault

theorem ofClass_pos (n : FaultIntegers) (c : FaultClass) : 0 < n.ofClass c := by
  apply n.positive
  cases c <;> simp [ofClass]

theorem ofClass_inj (n : FaultIntegers) {c d : FaultClass} (h : n.ofClass c = n.ofClass d) :
    c = d := by
  have hnd := n.distinct
  simp only [List.nodup_cons, List.mem_cons, List.not_mem_nil, or_false, not_or] at hnd
  cases c <;> cases d <;> first | rfl | (simp only [ofClass] at h; grind)

/-- The numbers listed in a comment of `CEException.h`, and the next free one. -/
def sample : FaultIntegers where
  baseFault := 26
  subscriptionFault := 23
  topicNotSupportedFault := 24
  dialectNotSupportedFault := 25
  genericFault := 27
  authenticationFault := 28
  authorizationFault := 29
  subscriptionNotFoundFault := 30
  positive := by decide
  distinct := by decide

end FaultIntegers

structure AbsRequest where
  soap : Soap
  serviceURL : String
  integers : FaultIntegers
  errorMessage : String
  errorCode : String

namespace AbsRequest

/-- The constructor. -/
def new (n : FaultIntegers) : AbsRequest where
  soap := Soap.new
  serviceURL := ""
  integers := n
  errorMessage := ""
  errorCode := ""

def setServiceURL (url : String) (r : AbsRequest) : AbsRequest := { r with serviceURL := url }

/-! ## Storing the error -/

/-- One of the four fault strings, under its label, when gSOAP has it. -/
def faultPart (label : String) : Option String → String
  | some s => label ++ s ++ "]"
  | none => ""

/-- The address in the message: the endpoint tried, or host and path when there is none. -/
def connectionTo (s : Soap) : String :=
  if s.endpoint ≠ "" then "Connection to service [" ++ s.endpoint ++ "] failed: "
  else "Connection to service [http(s)://" ++ s.host ++ s.path ++ "] failed: "

/-- The message of a transport error. -/
def transportMessage (s : Soap) : String :=
  connectionTo s ++ faultPart "FaultString=[" s.faultstring
    ++ faultPart " - FaultCode=[" s.faultcode
    ++ faultPart " - FaultSubCode=[" s.faultsubcode
    ++ faultPart " - FaultDetail=[" s.faultdetail

/-- `if (!*soap_faultcode(soap)) soap_set_fault(soap);` -/
def withFaultcode (rt : SoapRuntime) (s : Soap) : Soap :=
  if s.faultcode = none then rt.setFault s else s

/--
`AbsRequest::setError`. The branch of a transport error stores the message only; the other
branch stores message and code. The function is declared `throw()`.
-/
def setError (rt : SoapRuntime) (r : AbsRequest) : Result AbsRequest :=
  throws [] <|
    if r.soap.error ≠ SOAP_FAULT ∧ r.soap.error ≠ SOAP_CLI_FAULT
        ∧ r.soap.error ≠ SOAP_SVR_FAULT then
      -- the code stays what it was
      .returned { r with errorMessage := transportMessage r.soap }
    else if r.soap.error ≠ 0 then
      let s := withFaultcode rt r.soap
      (stringOf s.faultstring).bind fun message =>
        (stringOf s.faultcode).bind fun code =>
          .returned { r with soap := s, errorMessage := message, errorCode := code }
    else .returned r

/-! ## Finding the typed fault -/

/-- `AbsRequest::getFault`. -/
def getFault (r : AbsRequest) : Option BaseFault :=
  if r.soap.version = 2 then
    match r.soap.fault with
    | some f =>
      match f.detail12 with
      | some d => d.fault
      | none => none
    | none => none
  else
    match r.soap.fault with
    | some f =>
      match f.detail with
      | some d => d.fault
      | none => none
    | none => none

/-- `AbsRequest::getFaultType`. -/
def getFaultType (r : AbsRequest) : Int :=
  if r.soap.version = 2 then
    match r.soap.fault with
    | some f =>
      match f.detail12 with
      | some d => d.type
      | none => -1
    | none => -1
  else
    match r.soap.fault with
    | some f =>
      match f.detail with
      | some d => d.type
      | none => -1
    | none => -1

/-! ## Raising -/

/-- The specification of `throwCEException`. -/
def throwCEExceptionSpec : List ExceptionClass :=
  [.ce .generic, .ce .topicNotSupported, .ce .dialectNotSupported, .ce .subscription,
    .ce .authentication, .ce .authorization, .ce .subscriptionNotFound]

/-- The data copied out of the fault; all empty when there is none. -/
def faultData : Option BaseFault → CEException
  | some f =>
    { methodName := f.methodName
      timestamp := f.timestamp
      errorCode := f.errorCode.getD ""
      description := f.description.getD ""
      faultCause := f.faultCause.getD "" }
  | none =>
    { methodName := "", timestamp := 0, errorCode := "", description := "", faultCause := "" }

/-- The data raised for a type number that no registered fault has. -/
def unrecognizedFault (now : Int) : CEException where
  methodName := "Client internal error"
  timestamp := now
  errorCode := ""
  description := "Fault type not recognized"
  faultCause := ""

/--
`AbsRequest::throwCEException`. The source tests the number of the TopicNotSupported fault
twice in a row; the second test is dead.
-/
def throwCEException {α : Type} (now : Int) (r : AbsRequest) (ex : Int) : Result α :=
  throws throwCEExceptionSpec <|
    let fault := faultData r.getFault
    if ex = r.integers.genericFault then .raised (.ce .generic fault)
    else if ex = r.integers.topicNotSupportedFault then .raised (.ce .topicNotSupported fault)
    else if ex = r.integers.topicNotSupportedFault then .raised (.ce .topicNotSupported fault)
    else if ex = r.integers.dialectNotSupportedFault then
      .raised (.ce .dialectNotSupported fault)
    else if ex = r.integers.subscriptionFault then .raised (.ce .subscription fault)
    else if ex = r.integers.authorizationFault then .raised (.ce .authorization fault)
    else if ex = r.integers.authenticationFault then .raised (.ce .authentication fault)
    else if ex = r.integers.subscriptionNotFoundFault then
      .raised (.ce .subscriptionNotFound fault)
    else .raised (.ce .generic (unrecognizedFault now))

/-- `AbsRequest::throwAbsException`. -/
def throwAbsException {α : Type} (r : AbsRequest) : Result α :=
  throws [.abs .serviceNotFound, .abs .general] <|
    let mex := r.errorMessage
    let code := r.errorCode
    if mex = "No route to host" ∨ mex = "Host not found" ∨ Text.contains code "Server.NoService"
        ∨ mex = "Connection refused" ∨ mex = "HTTP error" then
      .raised (.abs .serviceNotFound r.errorMessage)
    else .raised (.abs .general mex)

/-- The choice every operation makes after `setError`. -/
def throwException {α : Type} (now : Int) (r : AbsRequest) : Result α :=
  if 0 < r.getFaultType then r.throwCEException now r.getFaultType else r.throwAbsException

/-! ## What `setError` stores -/

section SetError

variable {rt : SoapRuntime} {r : AbsRequest}

theorem not_isFault_iff {s : Soap} : ¬s.IsFault ↔
    s.error ≠ SOAP_FAULT ∧ s.error ≠ SOAP_CLI_FAULT ∧ s.error ≠ SOAP_SVR_FAULT := by
  simp only [Soap.IsFault, not_or, ne_eq]

theorem error_ne_zero_of_isFault {s : Soap} (h : s.IsFault) : s.error ≠ 0 := by
  rcases h with h | h | h <;> rw [h] <;> decide

theorem faultcode_withFaultcode (rt : SoapRuntime) (s : Soap) :
    (withFaultcode rt s).faultcode ≠ none := by
  unfold withFaultcode
  split
  · exact rt.faultcode_setFault s
  · assumption

/-- Only a fault that came with a code can still lack a text. -/
theorem faultstring_withFaultcode_eq_none (rt : SoapRuntime) {s : Soap} :
    (withFaultcode rt s).faultstring = none ↔ s.faultcode ≠ none ∧ s.faultstring = none := by
  unfold withFaultcode
  split
  · next h => simp [h, rt.faultstring_setFault s]
  · next h => simp [h]

@[simp] theorem detail_withFaultcode (s : Soap) : (withFaultcode rt s).detail? = s.detail? := by
  unfold withFaultcode
  split
  · exact rt.detail_setFault s
  · rfl

theorem setError_of_not_isFault (h : ¬r.soap.IsFault) :
    setError rt r = .returned { r with errorMessage := transportMessage r.soap } := by
  rw [setError, if_pos (not_isFault_iff.mp h)]
  rfl

/-- A SOAP fault whose text is there: both members are overwritten. -/
theorem setError_of_isFault (h : r.soap.IsFault) {message code : String}
    (hm : (withFaultcode rt r.soap).faultstring = some message)
    (hc : (withFaultcode rt r.soap).faultcode = some code) :
    setError rt r = .returned
      { r with soap := withFaultcode rt r.soap, errorMessage := message, errorCode := code } := by
  rw [setError, if_neg (fun hn => not_isFault_iff.mpr hn h), if_pos (error_ne_zero_of_isFault h)]
  simp only [hm, hc, stringOf_some, Outcome.bind_returned]
  rfl

/-- A SOAP fault without text: `std::string` is built from a null pointer under `throw()`. -/
theorem setError_of_faultstring_none (h : r.soap.IsFault)
    (hm : (withFaultcode rt r.soap).faultstring = none) : setError rt r = .unexpected := by
  rw [setError, if_neg (fun hn => not_isFault_iff.mpr hn h), if_pos (error_ne_zero_of_isFault h)]
  simp only [hm, stringOf_none, Outcome.bind_raised]
  rfl

/-- The two ways `setError` can end. -/
theorem setError_cases (rt : SoapRuntime) (r : AbsRequest) :
    setError rt r = .unexpected ∨ ∃ r', setError rt r = .returned r' := by
  by_cases h : r.soap.IsFault
  · cases hm : (withFaultcode rt r.soap).faultstring with
    | none => exact Or.inl (setError_of_faultstring_none h hm)
    | some message =>
      obtain ⟨code, hc⟩ := Option.ne_none_iff_exists'.mp (faultcode_withFaultcode rt r.soap)
      exact Or.inr ⟨_, setError_of_isFault h hm hc⟩
  · exact Or.inr ⟨_, setError_of_not_isFault h⟩

theorem setError_eq_unexpected_iff :
    setError rt r = .unexpected ↔
      r.soap.IsFault ∧ r.soap.faultcode ≠ none ∧ r.soap.faultstring = none := by
  by_cases h : r.soap.IsFault
  · cases hm : (withFaultcode rt r.soap).faultstring with
    | none =>
      have hnull := (faultstring_withFaultcode_eq_none rt).mp hm
      simp [setError_of_faultstring_none h hm, h, hnull]
    | some message =>
      obtain ⟨code, hc⟩ := Option.ne_none_iff_exists'.mp (faultcode_withFaultcode rt r.soap)
      have hn : ¬(r.soap.faultcode ≠ none ∧ r.soap.faultstring = none) := by
        rw [← faultstring_withFaultcode_eq_none rt, hm]
        simp
      simp only [setError_of_isFault h hm hc, reduceCtorEq, h, true_and, hn]
  · simp [setError_of_not_isFault h, h]

/-- `setError` touches nothing but the message, the code and gSOAP's fault strings. -/
theorem setError_frame {r' : AbsRequest} (h : setError rt r = .returned r') :
    r'.integers = r.integers ∧ r'.serviceURL = r.serviceURL ∧ r'.soap.detail? = r.soap.detail? := by
  by_cases hf : r.soap.IsFault
  · cases hm : (withFaultcode rt r.soap).faultstring with
    | none =>
      rw [setError_of_faultstring_none hf hm] at h
      cases h
    | some message =>
      obtain ⟨code, hc⟩ := Option.ne_none_iff_exists'.mp (faultcode_withFaultcode rt r.soap)
      rw [setError_of_isFault hf hm hc] at h
      cases h
      exact ⟨rfl, rfl, detail_withFaultcode r.soap⟩
  · rw [setError_of_not_isFault hf] at h
    cases h
    exact ⟨rfl, rfl, rfl⟩

/-- The composed message of a transport error starts with the address it tried to reach. -/
theorem prefix_transportMessage (s : Soap) :
    "Connection to".toList <+: (transportMessage s).toList := by
  rw [← List.isPrefixOf_iff_prefix]
  unfold transportMessage connectionTo
  split <;> simp [List.isPrefixOf]

end SetError

/-! ## What is raised -/

theorem getFaultType_eq (r : AbsRequest) :
    r.getFaultType = (r.soap.detail?.map Detail.type).getD (-1) := by
  unfold getFaultType Soap.detail?
  cases hf : r.soap.fault with
  | none => simp
  | some f =>
    by_cases hv : r.soap.version = 2
    · cases hd : f.detail12 <;> simp [hv, hd]
    · cases hd : f.detail <;> simp [hv, hd]

theorem getFault_eq (r : AbsRequest) : r.getFault = r.soap.detail?.bind Detail.fault := by
  unfold getFault Soap.detail?
  cases hf : r.soap.fault with
  | none => simp
  | some f =>
    by_cases hv : r.soap.version = 2
    · cases hd : f.detail12 <;> simp [hv, hd]
    · cases hd : f.detail <;> simp [hv, hd]

/-- A registered number selects the class named after its fault. -/
theorem throwCEException_ofClass {α : Type} (now : Int) (r : AbsRequest) (c : FaultClass) :
    (r.throwCEException now (r.integers.ofClass c) : Result α)
      = .raised (.ce c (faultData r.getFault)) := by
  have hinj : ∀ d, r.integers.ofClass c = r.integers.ofClass d ↔ c = d :=
    fun d => ⟨r.integers.ofClass_inj, fun h => by rw [h]⟩
  have h1 := hinj .generic
  have h2 := hinj .topicNotSupported
  have h3 := hinj .dialectNotSupported
  have h4 := hinj .subscription
  have h5 := hinj .authorization
  have h6 := hinj .authentication
  simp only [FaultIntegers.ofClass] at h1 h2 h3 h4 h5 h6
  unfold throwCEException throws
  cases c <;>
    simp [FaultIntegers.ofClass, h1, h2, h3, h4, h5, h6, Outcome.throwing, throwCEExceptionSpec]

/-- Any other number gives a GenericException that names no fault. -/
theorem throwCEException_of_unregistered {α : Type} {now ex : Int} {r : AbsRequest}
    (h : ∀ c, ex ≠ r.integers.ofClass c) :
    (r.throwCEException now ex : Result α) = .raised (.ce .generic (unrecognizedFault now)) := by
  have h1 := h .generic
  have h2 := h .topicNotSupported
  have h3 := h .dialectNotSupported
  have h4 := h .subscription
  have h5 := h .authorization
  have h6 := h .authentication
  have h7 := h .subscriptionNotFound
  simp only [FaultIntegers.ofClass] at h1 h2 h3 h4 h5 h6 h7
  unfold throwCEException throws
  simp only [h1, h2, h3, h4, h5, h6, h7, if_false]
  rfl

/-- The four texts that `throwAbsException` looks for in the stored message. -/
def unreachableMessages : List String :=
  ["No route to host", "Host not found", "Connection refused", "HTTP error"]

/-- The stored message or the stored code says that there is no service to talk to. -/
def Unreachable (r : AbsRequest) : Prop :=
  r.errorMessage ∈ unreachableMessages ∨ Text.contains r.errorCode "Server.NoService" = true

instance (r : AbsRequest) : Decidable r.Unreachable :=
  inferInstanceAs (Decidable (_ ∨ _))

/-- No composed message is one of the four texts. -/
theorem transportMessage_not_mem (s : Soap) : transportMessage s ∉ unreachableMessages := by
  intro hmem
  have hpre := prefix_transportMessage s
  simp only [unreachableMessages, List.mem_cons, List.not_mem_nil, or_false] at hmem
  rcases hmem with h | h | h | h <;> rw [h] at hpre <;> revert hpre <;> decide

theorem throwAbsException_eq {α : Type} (r : AbsRequest) :
    (r.throwAbsException : Result α) =
      if r.Unreachable then .raised (.abs .serviceNotFound r.errorMessage)
      else .raised (.abs .general r.errorMessage) := by
  unfold throwAbsException throws Unreachable unreachableMessages
  simp only [List.mem_cons, List.not_mem_nil, or_false]
  split
  · next h =>
    rw [if_pos (by tauto)]
    rfl
  · next h =>
    rw [if_neg (by tauto)]
    rfl

/-- A typed fault of a registered class is raised as that class. -/
theorem throwException_of_ofClass {α : Type} {now : Int} {r : AbsRequest} {c : FaultClass}
    (h : r.getFaultType = r.integers.ofClass c) :
    (r.throwException now : Result α) = .raised (.ce c (faultData r.getFault)) := by
  rw [throwException, h, if_pos (r.integers.ofClass_pos c), throwCEException_ofClass]

/-- Without a typed fault the stored message and code decide. -/
theorem throwException_of_nonpos {α : Type} {now : Int} {r : AbsRequest}
    (h : r.getFaultType ≤ 0) : (r.throwException now : Result α) = r.throwAbsException := by
  rw [throwException, if_neg (by omega)]

/-- The exception does not depend on the type of the value that is not returned. -/
theorem throwException_eq_raised (now : Int) (r : AbsRequest) :
    ∃ e, ∀ α : Type, (r.throwException now : Result α) = .raised e := by
  by_cases hpos : 0 < r.getFaultType
  · by_cases hreg : ∃ c, r.getFaultType = r.integers.ofClass c
    · obtain ⟨c, hc⟩ := hreg
      exact ⟨_, fun α => throwException_of_ofClass hc⟩
    · refine ⟨.ce .generic (unrecognizedFault now), fun α => ?_⟩
      rw [throwException, if_pos hpos]
      exact throwCEException_of_unregistered fun c hc => hreg ⟨c, hc⟩
  · have hle : r.getFaultType ≤ 0 := by omega
    by_cases hu : r.Unreachable
    · refine ⟨.abs .serviceNotFound r.errorMessage, fun α => ?_⟩
      rw [throwException_of_nonpos hle, throwAbsException_eq, if_pos hu]
    · refine ⟨.abs .general r.errorMessage, fun α => ?_⟩
      rw [throwException_of_nonpos hle, throwAbsException_eq, if_neg hu]

end AbsRequest

end CEMonitor
