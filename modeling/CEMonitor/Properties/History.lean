import CEMonitor.Infra.Run
import CEMonitor.Properties.Failures

/-!
# What an object remembers of earlier failures

The message and the code of the last error are members, and the two branches of `setError` do
not overwrite the same ones: a SOAP fault stores both, a transport error only the message, and
an exception that an operation raises by itself stores neither. Over a whole sequence of
operations each member holds what the last call that wrote it wrote, and the report of the last
failure is the one of a fresh object exactly when nothing older shows through.
-/

namespace CEMonitor

open Infra

/-! ## Sequences of operations -/

namespace Operation

/-- One operation of a sequence. An exception is caught by the caller, who goes on. -/
def step (rt : SoapRuntime) {c : RequestClass} (op : Operation c) (o : Object c) :
    Option (Object c) :=
  match (op.exec rt o).outcome with
  | .returned _ => some (op.exec rt o).obj
  | .raised _ => some (op.exec rt o).obj
  | .unexpected => none
  | .undefined => none

variable {rt : SoapRuntime} {c : RequestClass}

theorem obj_of_step {op : Operation c} {o o' : Object c} (h : op.step rt o = some o') :
    o' = (op.exec rt o).obj := by
  unfold step at h
  split at h <;> cases h <;> rfl

theorem outcome_of_step {op : Operation c} {o o' : Object c} (h : op.step rt o = some o') :
    (op.exec rt o).outcome ≠ .unexpected := by
  intro hun
  rw [step, hun] at h
  cases h

@[simp] theorem tested_fresh (op : Operation c) (o : Object c) :
    op.tested o.fresh = op.tested o := by
  cases op <;> rfl

theorem fails_fresh (op : Operation c) (o : Object c) : op.Fails o.fresh ↔ op.Fails o := by
  unfold Fails Reaches
  rw [tested_fresh]

/-! ## Who writes what -/

/-- The code that an operation stores: the fault code of a call that ends in a SOAP fault. -/
def storesCode (rt : SoapRuntime) (o : Object c) (op : Operation c) : Option String :=
  if op.Fails o ∧ op.soap.IsFault then (AbsRequest.withFaultcode rt op.soap).faultcode else none

/-- The message that an operation stores: of a SOAP fault its text, of a transport error the
composed one. -/
def storesMessage (rt : SoapRuntime) (o : Object c) (op : Operation c) : Option String :=
  if op.Fails o then
    if op.soap.IsFault then (AbsRequest.withFaultcode rt op.soap).faultstring
    else some (AbsRequest.transportMessage op.soap)
  else none

/-- An operation overwrites the two members with what it stores, and otherwise keeps them. -/
theorem stores_of_exec {op : Operation c} {o : Object c}
    (h : (op.exec rt o).outcome ≠ .unexpected) :
    (op.exec rt o).obj.base.errorCode = (storesCode rt o op).getD o.base.errorCode ∧
    (op.exec rt o).obj.base.errorMessage = (storesMessage rt o op).getD o.base.errorMessage := by
  unfold storesCode storesMessage
  by_cases hf : op.Fails o
  · obtain ⟨hout, hobj⟩ := exec_of_fails rt hf
    rw [if_pos hf, hobj]
    rcases AbsRequest.fail_cases rt op.now (op.received o) with ⟨-, hfail⟩ | ⟨r', hset, hfail⟩
    · rw [hfail Unit] at hout
      exact absurd hout h
    · rw [hfail Unit]
      -- both members come from the fault, and without a fault string `setError` does not return
      by_cases hs : op.soap.IsFault
      · rw [if_pos ⟨hf, hs⟩, if_pos hs]
        cases hm : (AbsRequest.withFaultcode rt op.soap).faultstring with
        | none =>
          have hun : (op.received o).setError rt = .unexpected :=
            AbsRequest.setError_of_faultstring_none hs hm
          rw [hun] at hset
          cases hset
        | some message =>
          obtain ⟨code, hc⟩ :=
            Option.ne_none_iff_exists'.mp (AbsRequest.faultcode_withFaultcode rt op.soap)
          have hret : (op.received o).setError rt = .returned _ :=
            AbsRequest.setError_of_isFault hs hm hc
          rw [hret] at hset
          cases hset
          rw [hc]
          exact ⟨rfl, rfl⟩
      · rw [if_neg (fun hh => hs hh.2), if_neg hs]
        have hret : (op.received o).setError rt = .returned _ :=
          AbsRequest.setError_of_not_isFault hs
        rw [hret] at hset
        cases hset
        exact ⟨rfl, rfl⟩
  · obtain ⟨s, hs⟩ := exec_of_not_fails rt hf
    rw [hs, if_neg (fun hh => hf hh.1), if_neg hf]
    exact ⟨rfl, rfl⟩

/-! ## Whole sequences -/

/-- `o` has the parameters of `o₀`: the same operations get as far as their call. -/
def SameParameters (o₀ o : Object c) : Prop :=
  (∀ op : Operation c, op.Fails o ↔ op.Fails o₀)

theorem sameParameters_step {o₀ : Object c} (op : Operation c) (o o' : Object c)
    (hp : SameParameters o₀ o) (h : op.step rt o = some o') : SameParameters o₀ o' := by
  intro p
  rw [obj_of_step h, fails_exec]
  exact hp p

theorem sameParameters_run {o₀ o : Object c} {ops : List (Operation c)}
    (h : run (step rt) ops o₀ = some o) : SameParameters o₀ o :=
  run_preserves sameParameters_step (fun _ => Iff.rfl) h

theorem errorCode_run {o₀ o : Object c} {ops : List (Operation c)}
    (h : run (step rt) ops o₀ = some o) :
    o.base.errorCode = (lastWrite (storesCode rt o₀) ops).getD o₀.base.errorCode := by
  refine run_lastWrite (SameParameters o₀) (fun o => o.base.errorCode) sameParameters_step ?_
    (fun _ => Iff.rfl) h
  intro op o o' hp hstep
  have hcode := (stores_of_exec (outcome_of_step hstep)).1
  rw [obj_of_step hstep, hcode, storesCode, storesCode]
  simp only [hp op]

theorem errorMessage_run {o₀ o : Object c} {ops : List (Operation c)}
    (h : run (step rt) ops o₀ = some o) :
    o.base.errorMessage = (lastWrite (storesMessage rt o₀) ops).getD o₀.base.errorMessage := by
  refine run_lastWrite (SameParameters o₀) (fun o => o.base.errorMessage) sameParameters_step ?_
    (fun _ => Iff.rfl) h
  intro op o o' hp hstep
  have hmessage := (stores_of_exec (outcome_of_step hstep)).2
  rw [obj_of_step hstep, hmessage, storesMessage, storesMessage]
  simp only [hp op]

/-! ## The report of a failure -/

/-- The class of the exception that came out, if one did. -/
def raisedClass (k : Call (Object c) Unit) : Option ExceptionClass :=
  match k.outcome with
  | .raised e => some e.cls
  | _ => none

/-- What the caller learns from a failure: the class of the exception, `getErrorMessage` and
`getErrorCode`. -/
def report (k : Call (Object c) Unit) : Option ExceptionClass × String × String :=
  (raisedClass k, k.obj.base.errorMessage, k.obj.base.errorCode)

/-- An exception that an operation raises by itself is raised on a fresh object too. -/
theorem raised_fresh_of_not_fails {op : Operation c} {o : Object c} {e : Exception}
    (hf : ¬op.Fails o) (h : (op.exec rt o).outcome = .raised e) :
    (op.exec rt o.fresh).outcome = .raised e := by
  cases op with
  | getTopicEvents eventMex x =>
    have hurl : (CEEvent.base o.fresh).serviceURL = (CEEvent.base o).serviceURL := rfl
    simp only [exec, dropValue, CEEvent.getTopicEvents, hurl] at h ⊢
    by_cases hu : (CEEvent.base o).serviceURL = ""
    · rw [if_pos hu] at h ⊢
      exact h
    · have he : ¬x.soap.error ≠ SOAP_OK :=
        not_not.mpr (error_of_not_fails hf fun ht => hu (Option.some.inj ht))
      rw [if_neg hu, if_neg he] at h ⊢
      -- the response is the call's own, or the one that neither object has
      cases hr : x.resp with
      | some r =>
        rw [hr] at h
        cases r with
        | none => exact h
        | some events => cases h
      | none =>
        rw [hr] at h
        simp only [Option.getD_none] at h ⊢
        cases harr : CEEvent.eventArray o with
        | none =>
          rw [harr] at h
          exact h
        | some events =>
          rw [harr] at h
          cases h
  | getInfo x =>
    have he : ¬x.soap.error ≠ SOAP_OK :=
      not_not.mpr (error_of_not_fails hf (Option.some_ne_none _).symm)
    simp only [exec, CEInfo.getInfo, if_neg he] at h
    cases h
  | getTopics x =>
    have he : x.soap.error = SOAP_OK :=
      error_of_not_fails hf (Option.some_ne_none _).symm
    have hleft : CETopics.topicArray o.fresh = CETopics.topicArray o := rfl
    simp only [exec, CETopics.getTopics, if_pos he, hleft] at h ⊢
    cases hr : x.resp.getD (CETopics.topicArray o) with
    | none =>
      rw [hr] at h
      exact h
    | some topics =>
      rw [hr] at h
      cases h
  | subscribe x =>
    have hurl : CESubscription.consumerURL o.fresh = CESubscription.consumerURL o := rfl
    simp only [exec, CESubscription.subscribe, hurl] at h ⊢
    by_cases hu : CESubscription.consumerURL o = ""
    · rw [if_pos hu] at h ⊢
      exact h
    · have he : x.soap.error = SOAP_OK :=
        error_of_not_fails hf fun ht => hu (Option.some.inj ht)
      rw [if_neg hu, if_pos he] at h ⊢
      cases hr : x.resp.getD (some { subscriptionID := "", expirationTime := some 0 }) with
      | none =>
        rw [hr] at h
        exact h
      | some ref =>
        rw [hr] at h
        cases h
  | unsubscribe subID x | pause subID x | resume subID x =>
    have hurl : (CESubscription.base o.fresh).serviceURL = (CESubscription.base o).serviceURL := rfl
    simp only [exec, CESubscription.unsubscribe, CESubscription.pause, CESubscription.resume,
      CESubscription.onSubscription, hurl] at h ⊢
    by_cases hu : (CESubscription.base o).serviceURL = ""
    · rw [if_pos hu] at h ⊢
      exact h
    · have he : ¬x.soap.error ≠ SOAP_OK :=
        not_not.mpr (error_of_not_fails hf fun ht => hu (Option.some.inj ht))
      rw [if_neg hu, if_neg he] at h
      cases h
  | list endpoint target x =>
    have he : x.soap.error = SOAP_OK :=
      error_of_not_fails hf (Option.some_ne_none _).symm
    simp only [exec, CESubscriptionMgr.list, if_pos he] at h ⊢
    cases hr : x.resp.getD none with
    | none =>
      rw [hr] at h
      exact h
    | some subscriptions =>
      rw [hr] at h
      exact h
  | update endpoint subid newConsumerURL topic policy t x =>
    have he : x.soap.error = SOAP_OK :=
      error_of_not_fails hf (Option.some_ne_none _).symm
    simp only [exec, dropValue, CESubscriptionMgr.update, if_pos he] at h ⊢
    exact h

/-- A failed call on two objects that `setError` cannot tell apart is reported alike. -/
theorem report_congr {op : Operation c} {o p : Object c} (ho : op.Fails o) (hp : op.Fails p)
    (h : (op.received o).setError rt = (op.received p).setError rt)
    (hret : (op.received o).setError rt ≠ .unexpected) :
    report (op.exec rt o) = report (op.exec rt p) := by
  obtain ⟨hout, hobj⟩ := exec_of_fails rt ho
  obtain ⟨hout', hobj'⟩ := exec_of_fails rt hp
  have hfail : (op.received o).fail (α := Unit) rt op.now = (op.received p).fail rt op.now := by
    rcases AbsRequest.setError_cases rt (op.received o) with hun | ⟨r', hr'⟩
    · exact absurd hun hret
    · unfold AbsRequest.fail
      rw [← h, hr']
  unfold report raisedClass
  rw [hout, hobj, hout', hobj', hfail]

theorem report_fresh_iff_of_fails {op : Operation c} {o : Object c} {e : Exception}
    (hf : op.Fails o) (h : (op.exec rt o).outcome = .raised e) :
    report (op.exec rt o) = report (op.exec rt o.fresh) ↔
      op.soap.IsFault ∨ o.base.errorCode = "" := by
  have hf' : op.Fails o.fresh := (fails_fresh op o).mpr hf
  have hraised : (op.exec rt o).outcome ≠ .unexpected := by
    intro hun
    rw [h] at hun
    cases hun
  by_cases hs : op.soap.IsFault
  · -- both members are overwritten, whatever they held
    refine ⟨fun _ => Or.inl hs, fun _ => ?_⟩
    cases hm : (AbsRequest.withFaultcode rt op.soap).faultstring with
    | none =>
      have hun : (op.received o).setError rt = .unexpected :=
        AbsRequest.setError_of_faultstring_none hs hm
      rw [(exec_of_fails rt hf).1, AbsRequest.fail, hun] at hraised
      exact absurd rfl hraised
    | some message =>
      obtain ⟨code, hc⟩ :=
        Option.ne_none_iff_exists'.mp (AbsRequest.faultcode_withFaultcode rt op.soap)
      have hret : (op.received o).setError rt = .returned _ :=
        AbsRequest.setError_of_isFault hs hm hc
      have hret' : (op.received o.fresh).setError rt = .returned _ :=
        AbsRequest.setError_of_isFault hs hm hc
      refine report_congr hf hf' ?_ fun hun => ?_
      · rw [hret, hret', received, received, Object.base_fresh]
        rfl
      · rw [hret] at hun
        cases hun
  · have hret : (op.received o).setError rt = .returned _ :=
      AbsRequest.setError_of_not_isFault hs
    have hret' : (op.received o.fresh).setError rt = .returned _ :=
      AbsRequest.setError_of_not_isFault hs
    constructor
    · -- the code is the old one, and a fresh object has none
      intro heq
      have hraised' : (op.exec rt o.fresh).outcome ≠ .unexpected := by
        intro hun
        have hcls := congrArg Prod.fst heq
        simp only [report, raisedClass, h, hun] at hcls
        cases hcls
      have hnone : storesCode rt o op = none := if_neg (fun hh => hs hh.2)
      have hnone' : storesCode rt o.fresh op = none := if_neg (fun hh => hs hh.2)
      have hcode := (stores_of_exec hraised).1
      have hcode' := (stores_of_exec hraised').1
      rw [hnone, Option.getD_none] at hcode
      rw [hnone', Option.getD_none, Object.base_fresh] at hcode'
      have hsame : (op.exec rt o).obj.base.errorCode = (op.exec rt o.fresh).obj.base.errorCode :=
        congrArg (fun t => t.2.2) heq
      rw [hcode, hcode'] at hsame
      exact Or.inr hsame
    · intro hor
      have hempty : o.base.errorCode = "" := hor.resolve_left hs
      refine report_congr hf hf' ?_ fun hun => ?_
      · rw [hret, hret', received, received, Object.base_fresh, hempty]
        rfl
      · rw [hret] at hun
        cases hun

theorem report_fresh_iff_of_not_fails {op : Operation c} {o : Object c} {e : Exception}
    (hf : ¬op.Fails o) (h : (op.exec rt o).outcome = .raised e) :
    report (op.exec rt o) = report (op.exec rt o.fresh) ↔
      o.base.errorMessage = "" ∧ o.base.errorCode = "" := by
  have hf' : ¬op.Fails o.fresh := fun hh => hf ((fails_fresh op o).mp hh)
  have h' := raised_fresh_of_not_fails hf h
  obtain ⟨s, hs⟩ := exec_of_not_fails rt hf
  obtain ⟨s', hs'⟩ := exec_of_not_fails rt hf'
  simp only [report, raisedClass, h, h', hs, hs', Prod.mk.injEq, true_and, Object.base_fresh]
  rfl

/-- Nothing older shows through: the last call writes both members, or it finds those it does
not write as a fresh object has them. -/
def Forgotten (rt : SoapRuntime) (o : Object c) (ops : List (Operation c)) (op : Operation c) :
    Prop :=
  if op.Fails o then op.soap.IsFault ∨ (lastWrite (storesCode rt o) ops).getD "" = ""
  else (lastWrite (storesMessage rt o) ops).getD "" = "" ∧
    (lastWrite (storesCode rt o) ops).getD "" = ""

/--
**A failure is reported as by a fresh object exactly when nothing older shows through.**

The sequence starts from a new object with its parameters set. What an earlier call can leave
behind is the code of the last SOAP fault, which a transport error does not overwrite, and,
for an exception that the operation raises by itself, also the last message.
-/
theorem report_eq_fresh_iff (rt : SoapRuntime) {c : RequestClass} (o₀ : Object c)
    (ops : List (Operation c)) (op : Operation c) (o : Object c) (e : Exception)
    (hrun : run (step rt) ops o₀.fresh = some o) (hraised : (op.exec rt o).outcome = .raised e) :
    report (op.exec rt o) = report (op.exec rt o.fresh) ↔ Forgotten rt o₀.fresh ops op := by
  have hparams := sameParameters_run hrun op
  have hcode := errorCode_run hrun
  have hmessage := errorMessage_run hrun
  rw [Object.base_fresh] at hcode hmessage
  unfold Forgotten
  by_cases hf : op.Fails o
  · rw [if_pos (hparams.mp hf), report_fresh_iff_of_fails hf hraised, hcode]
    rfl
  · rw [if_neg (fun hh => hf (hparams.mpr hh)), report_fresh_iff_of_not_fails hf hraised, hcode,
      hmessage]
    rfl

/-- gSOAP's state after the service turned a call away with the given fault code. -/
def serviceFault (code : String) : Soap :=
  { Soap.new with
    error := SOAP_SVR_FAULT
    faultstring := some "service unavailable"
    faultcode := some code }

/-- `list` on a new object, with a SOAP fault and no detail. -/
def listFault (code : String) : Operation .ceSubscriptionMgr :=
  .list "https://ce:8443/ce-monitor/services/CEMonitor" [] ⟨0, serviceFault code, none⟩

/-- `list` on the same object, refused. -/
def listRefused : Operation .ceSubscriptionMgr :=
  .list "https://ce:8443/ce-monitor/services/CEMonitor" [] ⟨0, refusedConnection, none⟩

/-- A refused connection after a fault of the service: another class and another code than on
a fresh object. -/
theorem listRefused_afterNoService_differs :
    ∃ o e, run (step (.plain "SOAP-ENV:Client" "Client fault"))
        [listFault "SOAP-ENV:Server.NoService"] (Object.new .sample .ceSubscriptionMgr).fresh
        = some o ∧
      (listRefused.exec (.plain "SOAP-ENV:Client" "Client fault") o).outcome = .raised e ∧
      raisedClass (listRefused.exec (.plain "SOAP-ENV:Client" "Client fault") o)
        ≠ raisedClass (listRefused.exec (.plain "SOAP-ENV:Client" "Client fault") o.fresh) ∧
      report (listRefused.exec (.plain "SOAP-ENV:Client" "Client fault") o)
        ≠ report (listRefused.exec (.plain "SOAP-ENV:Client" "Client fault") o.fresh) := by
  refine ⟨_, _, rfl, rfl, ?_, ?_⟩
  · decide
  · decide

/-- A fault after a refused connection is reported as on a fresh object. -/
theorem listFault_afterRefused_same :
    ∃ o, run (step (.plain "SOAP-ENV:Client" "Client fault")) [listRefused]
        (Object.new .sample .ceSubscriptionMgr).fresh = some o ∧
      report ((listFault "SOAP-ENV:Server").exec (.plain "SOAP-ENV:Client" "Client fault") o)
        = report ((listFault "SOAP-ENV:Server").exec
            (.plain "SOAP-ENV:Client" "Client fault") o.fresh) :=
  ⟨_, rfl, (report_eq_fresh_iff (.plain "SOAP-ENV:Client" "Client fault")
    (Object.new .sample .ceSubscriptionMgr) [listRefused] (listFault "SOAP-ENV:Server") _ _
    rfl rfl).mpr (Or.inl (by decide))⟩

end Operation

end CEMonitor
