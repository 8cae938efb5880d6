import CEMonitor.Operations

/-!
# What a failed call raises

Three questions about the exception that leaves an operation when its call fails, for all nine
operations at once.

* Is an unreachable service reported as a ServiceNotFoundException? `throwAbsException`
  compares the stored message with the bare texts of gSOAP, but `setError` stores a composed
  one, so only the stored code can decide.
* Is the exception one that the operation's specification lists? `throwCEException` is shared
  and raises any of seven classes; each operation lists its own.
* Does the exception carry the data of a typed fault? The constructor registers eight classes,
  and `throwCEException` compares with seven of them.
-/

namespace CEMonitor

open Infra

/-! ## Transport errors -/

/-- gSOAP could not reach the service, and says so with one of the four texts. -/
structure ConnectionFailure (s : Soap) : Prop where
  transport : ¬s.IsFault
  untyped : ∀ d, s.detail? = some d → d.type ≤ 0
  text : ∃ t ∈ AbsRequest.unreachableMessages, s.faultstring = some t

theorem getFaultType_nonpos {r : AbsRequest} (h : ∀ d, r.soap.detail? = some d → d.type ≤ 0) :
    r.getFaultType ≤ 0 := by
  rw [AbsRequest.getFaultType_eq]
  cases hd : r.soap.detail? with
  | none => simp
  | some d => exact h d hd

variable {rt : SoapRuntime} {c : RequestClass} {op : Operation c} {o : Object c}

/-- Every operation may raise the two classes of `throwAbsException`. -/
theorem abs_mem_spec (op : Operation c) :
    .abs .serviceNotFound ∈ op.spec ∧ .abs .general ∈ op.spec := by
  cases op <;> simp only [Operation.spec] <;> decide

/-- A transport error is classified by the composed message and the code that was there before. -/
theorem exec_transport (h : op.Fails o) (ht : ¬op.soap.IsFault)
    (hu : ∀ d, op.soap.detail? = some d → d.type ≤ 0) :
    (op.exec rt o).outcome =
      (if Text.contains o.base.errorCode "Server.NoService" = true then
        .raised (.abs .serviceNotFound (AbsRequest.transportMessage op.soap))
      else .raised (.abs .general (AbsRequest.transportMessage op.soap))) ∧
    (op.exec rt o).obj.base.errorMessage = AbsRequest.transportMessage op.soap ∧
    (op.exec rt o).obj.base.errorCode = o.base.errorCode := by
  obtain ⟨hout, hobj⟩ := Operation.exec_of_fails rt h
  have hset : (op.received o).setError rt = .returned
      { op.received o with errorMessage := AbsRequest.transportMessage op.soap } :=
    AbsRequest.setError_of_not_isFault ht
  have hfail : ∀ α : Type, (op.received o).fail rt op.now =
      ((AbsRequest.throwAbsException
        { op.received o with errorMessage := AbsRequest.transportMessage op.soap } : Result α),
        { op.received o with errorMessage := AbsRequest.transportMessage op.soap }) := by
    intro α
    rw [AbsRequest.fail, hset]
    exact congrArg (·, _) (AbsRequest.throwException_of_nonpos (getFaultType_nonpos hu))
  refine ⟨?_, by rw [hobj, hfail], by rw [hobj, hfail]; rfl⟩
  rw [hout, hfail, AbsRequest.throwAbsException_eq]
  have hiff : (AbsRequest.Unreachable
      { op.received o with errorMessage := AbsRequest.transportMessage op.soap }) ↔
      Text.contains o.base.errorCode "Server.NoService" = true :=
    or_iff_right (AbsRequest.transportMessage_not_mem op.soap)
  by_cases hc : Text.contains o.base.errorCode "Server.NoService" = true
  · rw [if_pos (hiff.mpr hc), if_pos hc]
    exact Outcome.throwing_raised_of_mem (abs_mem_spec op).1
  · rw [if_neg (fun hh => hc (hiff.mp hh)), if_neg hc]
    exact Outcome.throwing_raised_of_mem (abs_mem_spec op).2

/--
**An unreachable service is reported as one exactly when an earlier fault says so.**

The texts that gSOAP gives for this very call play no part: what decides is whether the code
stored by an earlier failed call contains `Server.NoService`.
-/
theorem serviceNotFound_iff (rt : SoapRuntime) {c : RequestClass} (op : Operation c)
    (o : Object c) (h : op.Fails o) (hs : ConnectionFailure op.soap) :
    (∃ cause, (op.exec rt o).outcome = .raised (.abs .serviceNotFound cause)) ↔
      Text.contains o.base.errorCode "Server.NoService" = true := by
  rw [(exec_transport h hs.transport hs.untyped).1]
  by_cases hc : Text.contains o.base.errorCode "Server.NoService" = true
  · rw [if_pos hc]
    exact ⟨fun _ => hc, fun _ => ⟨_, rfl⟩⟩
  · rw [if_neg hc]
    refine ⟨?_, fun h => absurd h hc⟩
    rintro ⟨cause, hcause⟩
    cases hcause

/-- gSOAP's state after a refused connection: a TCP error. -/
def refusedConnection : Soap :=
  { Soap.new with
    error := 28
    endpoint := "https://ce:8443/ce-monitor/services/CEMonitor"
    host := "ce"
    path := "/ce-monitor/services/CEMonitor"
    faultstring := some "Connection refused"
    faultcode := some "SOAP-ENV:Client" }

theorem refusedConnection_connectionFailure : ConnectionFailure refusedConnection where
  transport := by decide
  untyped := by decide
  text := ⟨"Connection refused", by decide, rfl⟩

/-- A `CEInfo` with the URL of that service; `errorCode` is what an earlier call left. -/
def infoAt (errorCode : String) : Object .ceInfo :=
  show CEInfo from
    { CEInfo.new .sample with
      base :=
        { (AbsRequest.new .sample).setServiceURL refusedConnection.endpoint with
          errorCode := errorCode } }

/-- A refused connection on a new object raises a GeneralException. -/
theorem getInfo_refused_general :
    ConnectionFailure refusedConnection ∧
    (Operation.getInfo ⟨0, refusedConnection, none⟩).Fails (infoAt "") ∧
    ¬∃ cause, ((Operation.getInfo ⟨0, refusedConnection, none⟩).exec
        (.plain "SOAP-ENV:Client" "Client fault") (infoAt "")).outcome
      = .raised (.abs .serviceNotFound cause) := by
  have hfails : (Operation.getInfo ⟨0, refusedConnection, none⟩).Fails (infoAt "") := by decide
  refine ⟨refusedConnection_connectionFailure, hfails, ?_⟩
  rintro ⟨cause, hcause⟩
  rw [(exec_transport hfails refusedConnection_connectionFailure.transport
    refusedConnection_connectionFailure.untyped).1, if_neg (by decide)] at hcause
  cases hcause

/-- The same refused connection after a call that the service itself had turned away. -/
theorem getInfo_refused_afterNoService :
    ∃ cause, ((Operation.getInfo ⟨0, refusedConnection, none⟩).exec
        (.plain "SOAP-ENV:Client" "Client fault") (infoAt "SOAP-ENV:Server.NoService")).outcome
      = .raised (.abs .serviceNotFound cause) :=
  (serviceNotFound_iff (.plain "SOAP-ENV:Client" "Client fault")
    (Operation.getInfo ⟨0, refusedConnection, none⟩) (infoAt "SOAP-ENV:Server.NoService")
    (by decide) refusedConnection_connectionFailure).mpr (by decide)

/-! ## Exception specifications -/

/-- The typed fault of a failed call is raised as the class named after it. -/
def Selects (n : FaultIntegers) (s : Soap) (cl : FaultClass) : Prop :=
  ∃ d, s.detail? = some d ∧ d.type = n.ofClass cl

/-- `setError` would build a string from the null pointer gSOAP left for the fault text. -/
def TextMissing (s : Soap) : Prop :=
  s.IsFault ∧ s.faultcode ≠ none ∧ s.faultstring = none

theorem getFaultType_eq_ofClass_iff {r : AbsRequest} {cl : FaultClass} :
    r.getFaultType = r.integers.ofClass cl ↔ Selects r.integers r.soap cl := by
  have hpos := r.integers.ofClass_pos cl
  rw [AbsRequest.getFaultType_eq, Selects]
  cases hd : r.soap.detail? with
  | none =>
    simp only [Option.map_none, Option.getD_none, reduceCtorEq, false_and, exists_false,
      iff_false]
    omega
  | some d => simp

theorem ce_mem_spec_iff {cl : FaultClass} : .ce cl ∈ op.spec ↔ cl ∉ op.unlisted := by
  cases op <;> cases cl <;> simp only [Operation.spec, Operation.unlisted] <;> decide

/-- Every operation may raise a GenericException. -/
theorem generic_mem_spec (op : Operation c) : .ce .generic ∈ op.spec := by
  cases op <;> simp only [Operation.spec] <;> decide

/-- What leaves `throwException` is in the specification of every operation, or is the class
that the typed fault selects. -/
theorem throwException_cls (now : Int) (r : AbsRequest) :
    ∃ e, (∀ α : Type, (r.throwException now : Result α) = .raised e) ∧
      ((∃ cl, Selects r.integers r.soap cl ∧ e.cls = .ce cl) ∨
        (∀ cl, ¬Selects r.integers r.soap cl) ∧
          (e.cls = .ce .generic ∨ e.cls = .abs .serviceNotFound ∨ e.cls = .abs .general)) := by
  by_cases hsel : ∃ cl, Selects r.integers r.soap cl
  · obtain ⟨cl, hcl⟩ := hsel
    exact ⟨_, fun α => AbsRequest.throwException_of_ofClass (getFaultType_eq_ofClass_iff.mpr hcl),
      Or.inl ⟨cl, hcl, rfl⟩⟩
  · have hnone : ∀ cl, ¬Selects r.integers r.soap cl := fun cl h => hsel ⟨cl, h⟩
    by_cases hpos : 0 < r.getFaultType
    · refine ⟨.ce .generic (AbsRequest.unrecognizedFault now), fun α => ?_,
        Or.inr ⟨hnone, Or.inl rfl⟩⟩
      rw [AbsRequest.throwException, if_pos hpos]
      exact AbsRequest.throwCEException_of_unregistered
        fun cl h => hnone cl (getFaultType_eq_ofClass_iff.mp h)
    · have hle : r.getFaultType ≤ 0 := by omega
      by_cases hu : r.Unreachable
      · refine ⟨.abs .serviceNotFound r.errorMessage, fun α => ?_,
          Or.inr ⟨hnone, Or.inr (Or.inl rfl)⟩⟩
        rw [AbsRequest.throwException_of_nonpos hle, AbsRequest.throwAbsException_eq, if_pos hu]
      · refine ⟨.abs .general r.errorMessage, fun α => ?_,
          Or.inr ⟨hnone, Or.inr (Or.inr rfl)⟩⟩
        rw [AbsRequest.throwException_of_nonpos hle, AbsRequest.throwAbsException_eq, if_neg hu]

/-- A failed call ends the program in `setError`, or raises what `throwException` does. -/
theorem outcome_of_fails (rt : SoapRuntime) (h : op.Fails o) :
    (TextMissing op.soap ∧ (op.exec rt o).outcome = .unexpected) ∨
    (¬TextMissing op.soap ∧ ∃ r' : AbsRequest, r'.integers = o.base.integers ∧
      r'.soap.detail? = op.soap.detail? ∧
      (op.exec rt o).outcome = throws op.spec (r'.throwException op.now)) := by
  obtain ⟨hout, -⟩ := Operation.exec_of_fails rt h
  rcases AbsRequest.fail_cases rt op.now (op.received o) with ⟨hset, hf⟩ | ⟨r', hset, hf⟩
  · refine Or.inl ⟨AbsRequest.setError_eq_unexpected_iff.mp hset, ?_⟩
    rw [hout, hf]
    rfl
  · have hmiss : ¬TextMissing op.soap := by
      intro hm
      have hun : (op.received o).setError rt = .unexpected :=
        AbsRequest.setError_eq_unexpected_iff.mpr hm
      rw [hun] at hset
      cases hset
    obtain ⟨hint, -, hdet⟩ := AbsRequest.setError_frame hset
    exact Or.inr ⟨hmiss, r', hint, hdet, by rw [hout, hf]⟩

/--
**A failed call ends in a listed exception exactly when the fault has its text and its class is
not left out.**

The two ways to `std::unexpected` are a SOAP fault with a code and no text, and a typed fault
whose class the operation's own specification leaves out.
-/
theorem raised_mem_spec_iff (rt : SoapRuntime) {c : RequestClass} (op : Operation c)
    (o : Object c) (h : op.Fails o) :
    (∃ e, (op.exec rt o).outcome = .raised e ∧ e.cls ∈ op.spec) ↔
      ¬TextMissing op.soap ∧ ∀ cl ∈ op.unlisted, ¬Selects o.base.integers op.soap cl := by
  rcases outcome_of_fails rt h with ⟨hmiss, hout⟩ | ⟨hmiss, r', hint, hdet, hout⟩
  · -- `setError` itself ends the program
    rw [hout]
    constructor
    · rintro ⟨e, he, -⟩
      cases he
    · exact fun hh => absurd hmiss hh.1
  · have hsel : ∀ cl, Selects r'.integers r'.soap cl ↔ Selects o.base.integers op.soap cl := by
      intro cl
      rw [Selects, Selects, hint, hdet]
    obtain ⟨e, he, hcls⟩ := throwException_cls op.now r'
    rw [hout, he]
    simp only [Outcome.throwing_eq_raised_iff, hmiss, not_false_eq_true, true_and]
    rcases hcls with ⟨cl, hcl, hec⟩ | ⟨hnone, hec⟩
    · -- a registered fault: its class decides, and no other class is selected
      constructor
      · rintro ⟨e', ⟨he', hm⟩, -⟩ cl' hcl' hsel'
        cases he'
        obtain ⟨d, hd, ht⟩ := (hsel cl).mp hcl
        obtain ⟨d', hd', ht'⟩ := hsel'
        rw [hd] at hd'
        cases hd'
        have hsame : cl = cl' := o.base.integers.ofClass_inj (ht.symm.trans ht')
        rw [hec, ce_mem_spec_iff, hsame] at hm
        exact hm hcl'
      · intro hall
        have hm : e.cls ∈ op.spec := by
          rw [hec, ce_mem_spec_iff]
          exact fun hun => hall cl hun ((hsel cl).mp hcl)
        exact ⟨e, ⟨rfl, hm⟩, hm⟩
    · -- no registered fault: one of the three classes that every operation lists
      have hm : e.cls ∈ op.spec := by
        rcases hec with hec | hec | hec <;> rw [hec]
        · exact generic_mem_spec op
        · exact (abs_mem_spec op).1
        · exact (abs_mem_spec op).2
      exact ⟨fun _ cl _ hcl => hnone cl ((hsel cl).mpr hcl), fun _ => ⟨e, ⟨rfl, hm⟩, hm⟩⟩

/-- gSOAP's state after a typed fault with the given type number. -/
def typedFault (type : Int) : Soap :=
  { Soap.new with
    error := SOAP_FAULT
    faultstring := some "fault"
    faultcode := some "SOAP-ENV:Server"
    fault := some
      { detail := some
          { type := type
            fault := some
              { methodName := "GetTopics"
                timestamp := 0
                errorCode := none
                description := none
                faultCause := none } }
        detail12 := none } }

/-- A service that answers GetTopics with a TopicNotSupported fault ends the client. -/
theorem getTopics_topicNotSupported_unexpected :
    (Operation.getTopics ⟨0, typedFault 24, none⟩).Fails (Object.new .sample .ceTopics) ∧
    ¬∃ e, ((Operation.getTopics ⟨0, typedFault 24, none⟩).exec
        (.plain "SOAP-ENV:Client" "Client fault") (Object.new .sample .ceTopics)).outcome
          = .raised e ∧
      e.cls ∈ (Operation.getTopics ⟨0, typedFault 24, none⟩).spec := by
  refine ⟨by decide, ?_⟩
  have hout : ((Operation.getTopics ⟨0, typedFault 24, none⟩).exec
      (.plain "SOAP-ENV:Client" "Client fault") (Object.new .sample .ceTopics)).outcome
        = .unexpected := rfl
  rw [hout]
  rintro ⟨e, he, -⟩
  cases he

/-- An authorization fault in answer to GetTopics is raised as such. -/
theorem getTopics_authorization_listed :
    ∃ e, ((Operation.getTopics ⟨0, typedFault 29, none⟩).exec
        (.plain "SOAP-ENV:Client" "Client fault") (Object.new .sample .ceTopics)).outcome
          = .raised e ∧
      e.cls ∈ (Operation.getTopics ⟨0, typedFault 29, none⟩).spec := by
  refine (raised_mem_spec_iff (.plain "SOAP-ENV:Client" "Client fault")
    (Operation.getTopics ⟨0, typedFault 29, none⟩) (Object.new .sample .ceTopics)
    (by decide)).mpr ⟨?_, ?_⟩
  · rintro ⟨-, -, hnone⟩
    cases hnone
  · rintro cl hcl ⟨d, hd, ht⟩
    cases hd
    cases cl <;> revert hcl ht <;> decide

/-! ## The data of a fault -/

/-- The number of a class the constructor registers; the base class has no exception. -/
def FaultIntegers.registered (n : FaultIntegers) : Option FaultClass → Int
  | some cl => n.ofClass cl
  | none => n.baseFault

theorem FaultIntegers.baseFault_ne_ofClass (n : FaultIntegers) (cl : FaultClass) :
    n.baseFault ≠ n.ofClass cl := by
  have hnot := (List.nodup_cons.mp n.distinct).1
  intro h
  apply hnot
  rw [h]
  cases cl <;> simp [FaultIntegers.ofClass]

/-- The number of the base class is compared with none: what is raised names no fault. -/
theorem throwException_of_baseFault {α : Type} {now : Int} {r : AbsRequest}
    (h : r.getFaultType = r.integers.baseFault) :
    (r.throwException now : Result α) = .raised (.ce .generic (AbsRequest.unrecognizedFault now)) := by
  have hpos : 0 < r.getFaultType := by
    rw [h]
    exact r.integers.positive _ List.mem_cons_self
  rw [AbsRequest.throwException, if_pos hpos]
  apply AbsRequest.throwCEException_of_unregistered
  intro cl hcl
  exact r.integers.baseFault_ne_ofClass cl (h.symm.trans hcl)

/-- The exception carries the data of the fault, and is of the class named after it when there
is one. -/
def Carries (named : Option FaultClass) (f : BaseFault) (r : Result Unit) : Prop :=
  ∃ cl e, r = .raised (.ce cl e) ∧ (∀ c, named = some c → cl = c) ∧
    e.methodName = f.methodName ∧ e.timestamp = f.timestamp ∧ e.errorCode = f.errorCode.getD "" ∧
    e.description = f.description.getD "" ∧ e.faultCause = f.faultCause.getD ""

/-- A fault that says what the client says of one it does not recognize. -/
structure LooksUnrecognized (now : Int) (f : BaseFault) : Prop where
  methodName : f.methodName = "Client internal error"
  timestamp : f.timestamp = now
  errorCode : f.errorCode.getD "" = ""
  description : f.description.getD "" = "Fault type not recognized"
  faultCause : f.faultCause.getD "" = ""

/-- Where the data gets through. -/
def Recognized (op : Operation c) (f : BaseFault) : Option FaultClass → Prop
  | some cl => cl ∉ op.unlisted
  | none => LooksUnrecognized op.now f

/--
**A fault of a registered class arrives whole exactly when its class has an exception that the
operation lists.**

The base class is registered and never compared with: such a fault arrives as one that the
client does not recognize, without its data.
-/
theorem carries_iff_recognized (rt : SoapRuntime) {c : RequestClass} (op : Operation c)
    (o : Object c) (named : Option FaultClass) (d : Detail) (f : BaseFault) (h : op.Fails o)
    (hd : op.soap.detail? = some d) (hf : d.fault = some f)
    (ht : d.type = o.base.integers.registered named) :
    Carries named f (op.exec rt o).outcome ↔ ¬TextMissing op.soap ∧ Recognized op f named := by
  rcases outcome_of_fails rt h with ⟨hmiss, hout⟩ | ⟨hmiss, r', hint, hdet, hout⟩
  · rw [hout]
    refine iff_of_false ?_ fun hh => hh.1 hmiss
    rintro ⟨cl, e, he, -⟩
    cases he
  · have hfault : r'.getFault = some f := by
      rw [AbsRequest.getFault_eq, hdet, hd]
      exact hf
    have htype : r'.getFaultType = r'.integers.registered named := by
      rw [AbsRequest.getFaultType_eq, hdet, hd, hint]
      exact ht
    rw [hout, and_iff_right hmiss]
    cases named with
    | some cl =>
      rw [AbsRequest.throwException_of_ofClass htype, hfault]
      by_cases hlisted : cl ∈ op.unlisted
      · -- the specification turns the exception into the end of the program
        have hspec : ¬Exception.cls (.ce cl (AbsRequest.faultData (some f))) ∈ op.spec :=
          fun hm => ce_mem_spec_iff.mp hm hlisted
        rw [throws, Outcome.throwing_raised_of_not_mem hspec]
        refine iff_of_false ?_ (not_not.mpr hlisted)
        rintro ⟨cl', e, he, -⟩
        cases he
      · have hspec : Exception.cls (.ce cl (AbsRequest.faultData (some f))) ∈ op.spec :=
          ce_mem_spec_iff.mpr hlisted
        rw [throws, Outcome.throwing_raised_of_mem hspec]
        refine iff_of_true ⟨cl, _, rfl, fun c hc => ?_, rfl, rfl, rfl, rfl, rfl⟩ hlisted
        exact Option.some.inj hc
    | none =>
      have hspec : Exception.cls (.ce .generic (AbsRequest.unrecognizedFault op.now)) ∈ op.spec :=
        generic_mem_spec op
      rw [throwException_of_baseFault htype, throws, Outcome.throwing_raised_of_mem hspec]
      constructor
      · rintro ⟨cl, e, he, -, hmethod, htime, hcode, hdescription, hcause⟩
        cases he
        exact ⟨hmethod.symm, htime.symm, hcode.symm, hdescription.symm, hcause.symm⟩
      · rintro ⟨hmethod, htime, hcode, hdescription, hcause⟩
        refine ⟨.generic, _, rfl, fun c hc => ?_, hmethod.symm, htime.symm, hcode.symm,
          hdescription.symm, hcause.symm⟩
        cases hc

/-- The fault of `typedFault`. -/
def getTopicsFault : BaseFault where
  methodName := "GetTopics"
  timestamp := 0
  errorCode := none
  description := none
  faultCause := none

/-- A BaseFault arrives as a GenericException that does not name its method. -/
theorem getTopics_baseFault_lost :
    (Operation.getTopics ⟨0, typedFault 26, none⟩).Fails (Object.new .sample .ceTopics) ∧
    (Operation.getTopics ⟨0, typedFault 26, none⟩).soap.detail? = some ⟨26, some getTopicsFault⟩ ∧
    (26 : Int) = FaultIntegers.sample.registered none ∧
    ¬Carries none getTopicsFault ((Operation.getTopics ⟨0, typedFault 26, none⟩).exec
      (.plain "SOAP-ENV:Client" "Client fault") (Object.new .sample .ceTopics)).outcome := by
  refine ⟨by decide, rfl, rfl, ?_⟩
  rintro ⟨cl, e, he, -, hmethod, -⟩
  cases he
  exact absurd hmethod (by decide)

/-- An AuthorizationFault arrives with its data. -/
theorem getTopics_authorization_carried :
    Carries (some .authorization) getTopicsFault
      ((Operation.getTopics ⟨0, typedFault 29, none⟩).exec
        (.plain "SOAP-ENV:Client" "Client fault") (Object.new .sample .ceTopics)).outcome := by
  refine (carries_iff_recognized (.plain "SOAP-ENV:Client" "Client fault")
    (Operation.getTopics ⟨0, typedFault 29, none⟩) (Object.new .sample .ceTopics)
    (some .authorization) ⟨29, some getTopicsFault⟩ getTopicsFault (by decide) rfl rfl
    rfl).mpr ⟨?_, ?_⟩
  · rintro ⟨-, -, hnone⟩
    cases hnone
  · show FaultClass.authorization ∉ _
    decide

end CEMonitor
