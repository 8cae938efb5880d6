import CEMonitor.Consumer
import CEMonitor.Infra.Run

/-!
# What `serve` says of a request, and what older requests add to it

The handler tells `serve` about a null notification through a process-wide variable, and only
the handler writes it. A request that ends before the handler runs finds what an earlier request
left there. `errorMessage` and the events are kept between the calls as well. Over a whole
sequence of calls these are the three ways in which the past shows, and the last theorem says
exactly when none of them does.
-/

namespace CEMonitor

open Infra

/-! ## Verdicts -/

/-- What a caller learns of a request: the message and code of a failure, the events of a
success. -/
inductive Verdict where
  | failed (errorMessage errorCode : String)
  | succeeded (events : List Event)
  | raised (e : Exception)
  | unexpected
  | undefined
  deriving DecidableEq

def verdict : Result Bool × Listener → Verdict
  | (.returned false, l) => .failed l.consumer.errorMessage l.consumer.errorCode
  | (.returned true, l) => .succeeded l.consumer.events
  | (.raised e, _) => .raised e
  | (.unexpected, _) => .unexpected
  | (.undefined, _) => .undefined

/-- The error that `serve` reports for a null pointer. -/
def Verdict.nullPointer : Verdict := .failed Listener.nullPointerMessage ""

/-- The error that gSOAP recorded, as `setError` reads it. -/
def recorded (rt : SoapRuntime) (s : Soap) : Verdict :=
  match (AbsRequest.withFaultcode rt s).faultstring, (AbsRequest.withFaultcode rt s).faultcode with
  | some message, some code => .failed message code
  | _, _ => .raised (.std .logicError)

/-- The handler got a null notification or one without topic. -/
def sawNull : Option Notification → Bool
  | none => true
  | some n => n.topic.isNone

/-- What a request makes of `pointer_nullness`; `none` when the handler is not reached. -/
def Request.sawNull? (r : Request) : Option Bool := r.handler.map sawNull

/-- The same for a call. -/
def ConsumerCall.sawNull? : ConsumerCall → Option Bool
  | .accept _ => none
  | .serve r => r.sawNull?
  | .getNextEventMessage => none
  | .reset => none

section

variable {rt : SoapRuntime} {r : Request} {l : Listener}

/-! ## The flag -/

theorem pointer_nullness_handler (notif : Option Notification) (g : Globals) :
    (monitorws__Notify notif g).2.pointer_nullness = sawNull notif := by
  cases notif with
  | none => rfl
  | some n => cases ht : n.topic <;> simp only [monitorws__Notify, sawNull, ht] <;> rfl

theorem pointer_nullness_dispatch (r : Request) (g : Globals) :
    (Listener.dispatch r g).pointer_nullness = r.sawNull?.getD g.pointer_nullness := by
  unfold Listener.dispatch Request.sawNull?
  cases r.handler with
  | none => rfl
  | some notif => exact pointer_nullness_handler notif g

theorem pointer_nullness_serveError (s : Soap) :
    (l.serveError rt s).2.globals.pointer_nullness = l.globals.pointer_nullness := by
  unfold Listener.serveError
  split
  · rcases CEConsumer.setError_cases rt s l.consumer with h | ⟨message, code, h⟩
    · rw [h]
    · rw [h]; exact Globals.pointer_nullness_release _
  · exact Globals.pointer_nullness_release _

/-- `SOAP_OK` is the answer to a notification with a topic. -/
theorem sawNull?_of_ok (h : r.ret = SOAP_OK) : r.sawNull? = some false := by
  obtain ⟨n, t, hn, ht, -⟩ := Listener.serve_of_ok (.plain "" "") r (.new false) h
  rw [Request.sawNull?, hn, Option.map_some, sawNull, ht]
  rfl

/-- Only the handler writes the flag. -/
theorem pointer_nullness_serve :
    (l.serve rt r).2.globals.pointer_nullness = r.sawNull?.getD l.globals.pointer_nullness := by
  by_cases hret : r.ret = SOAP_OK
  · obtain ⟨n, t, -, -, hserve⟩ := Listener.serve_of_ok rt r l hret
    rw [hserve, (Listener.publish_frame n _).2.2, sawNull?_of_ok hret]
    rfl
  · rw [Listener.serve_of_error rt r l hret, pointer_nullness_serveError]
    exact pointer_nullness_dispatch r l.globals

theorem globals_accept (x : Connection) : (l.accept rt x).2.globals = l.globals := by
  rcases l.accept_cases rt x with ⟨-, h | ⟨message, code, h⟩⟩ | ⟨-, -, h⟩
  · rw [h]; rfl
  · rw [h]; rfl
  · rw [h]; rfl

theorem pointer_nullness_step {y : ConsumerCall} {l' : Listener} (h : y.step rt l = some l') :
    l'.globals.pointer_nullness = y.sawNull?.getD l.globals.pointer_nullness := by
  cases y with
  | accept x => rw [eq_of_goesOn h, globals_accept]; rfl
  | serve r => rw [eq_of_goesOn h]; exact pointer_nullness_serve
  | getNextEventMessage => rw [eq_of_goesOn h]; rfl
  | reset => cases h; rfl

/-- After a run the flag is what the last request that reached the handler made of it. -/
theorem pointer_nullness_run {ys : List ConsumerCall} {authn : Bool}
    (h : run (ConsumerCall.step rt) ys (Listener.new authn) = some l) :
    l.globals.pointer_nullness = (lastWrite ConsumerCall.sawNull? ys).getD false :=
  run_lastWrite (fun _ => True) (fun l => l.globals.pointer_nullness)
    (fun _ _ _ _ _ => trivial) (fun _ _ _ _ hstep => pointer_nullness_step hstep) trivial h

/-! ## The verdict on one request -/

/-- The flag is up: the null pointer is reported, whatever went wrong. -/
theorem verdict_of_flag (hret : r.ret ≠ SOAP_OK)
    (hflag : r.sawNull?.getD l.globals.pointer_nullness = true) :
    verdict (l.serve rt r) = .nullPointer := by
  rw [Listener.serve_of_error rt r l hret, Listener.serveError, pointer_nullness_dispatch, hflag,
    if_neg (not_not.mpr rfl)]
  rfl

/-- The flag is down and gSOAP recorded an error: that is reported. -/
theorem verdict_of_error (hret : r.ret ≠ SOAP_OK)
    (hflag : r.sawNull?.getD l.globals.pointer_nullness = false) (herror : r.soap.error ≠ 0) :
    verdict (l.serve rt r) = recorded rt r.soap := by
  rw [Listener.serve_of_error rt r l hret, Listener.serveError, pointer_nullness_dispatch, hflag,
    if_pos nofun, CEConsumer.setError, if_pos herror, recorded]
  dsimp only
  cases hm : (AbsRequest.withFaultcode rt r.soap).faultstring with
  | none => rfl
  | some message =>
    cases hc : (AbsRequest.withFaultcode rt r.soap).faultcode with
    | none => rfl
    | some code => rfl

/-- The flag is down and gSOAP recorded no error: the last one is reported again. -/
theorem verdict_of_no_error (hret : r.ret ≠ SOAP_OK)
    (hflag : r.sawNull?.getD l.globals.pointer_nullness = false) (herror : r.soap.error = 0) :
    verdict (l.serve rt r) = .failed l.consumer.errorMessage l.consumer.errorCode := by
  rw [Listener.serve_of_error rt r l hret, Listener.serveError, pointer_nullness_dispatch, hflag,
    if_pos nofun, CEConsumer.setError, if_neg (not_not.mpr herror)]
  rfl

/-- An accepted notification that is published: its events follow those already there. -/
theorem verdict_of_completes {n : Notification} (hret : r.ret = SOAP_OK)
    (hn : r.handler = some (some n)) (h : Listener.Completes n) :
    verdict (l.serve rt r)
      = .succeeded (l.consumer.events ++ Listener.publishedEvents n) := by
  obtain ⟨hout, hevents⟩ :=
    Listener.publish_of_completes { l with globals := ⟨.live n, false⟩ } h
  rw [(Listener.serve_of_handler hret hn).2]
  generalize Listener.publish n _ = p at hout hevents
  obtain ⟨out, l'⟩ := p
  obtain rfl : out = .returned true := hout
  exact congrArg Verdict.succeeded hevents

/-- An accepted notification that is not published ends in its own way. -/
theorem verdict_of_not_completes (rt : SoapRuntime) {n : Notification} (hret : r.ret = SOAP_OK)
    (hn : r.handler = some (some n)) (h : ¬Listener.Completes n) :
    ∃ v, v ≠ .nullPointer ∧ ∀ l : Listener, verdict (l.serve rt r) = v := by
  rcases Listener.publish_of_not_completes h with hundefined | hraised
  · refine ⟨.undefined, nofun, fun l => ?_⟩
    rw [(Listener.serve_of_handler hret hn).2, hundefined]
    rfl
  · refine ⟨.raised (.std .outOfRange), nofun, fun l => ?_⟩
    obtain ⟨hout, -⟩ := hraised { l with globals := ⟨.live n, false⟩ }
    rw [(Listener.serve_of_handler hret hn).2]
    generalize Listener.publish n _ = p at hout
    obtain ⟨out, l'⟩ := p
    obtain rfl : out = .raised (.std .outOfRange) := hout
    rfl

end

/-! ## When the past does not show -/

/-- The verdict on `r` is that of a consumer that has served nothing, and it is the null pointer
exactly when the handler saw one. -/
structure OwnVerdict (rt : SoapRuntime) (authn : Bool) (r : Request) (l : Listener) : Prop where
  fresh : verdict (l.serve rt r) = verdict ((Listener.new authn).serve rt r)
  nullPointer : verdict (l.serve rt r) = .nullPointer ↔ r.sawNull? = some true

/--
Nothing of the calls `ys` shows in the verdict on `r`, which finds the consumer `c`: the events
of an accepted notification are the first since a reset, the last request that reached the
handler before one that does not was in order, and a failure has an error of its own to report.
-/
structure Unaffected (rt : SoapRuntime) (ys : List ConsumerCall) (c : CEConsumer) (r : Request) : Prop where
  events : r.ret = SOAP_OK →
    ∀ n, r.handler = some (some n) → Listener.Completes n → c.events = []
  flag : r.sawNull? = none → lastWrite ConsumerCall.sawNull? ys ≠ some true
  error : r.ret ≠ SOAP_OK → r.sawNull? ≠ some true →
    if r.soap.error = 0 then c.errorMessage = "" ∧ c.errorCode = ""
    else recorded rt r.soap ≠ .nullPointer

section

variable {rt : SoapRuntime} {authn : Bool} {ys : List ConsumerCall} {r : Request} {l : Listener}

theorem ownVerdict_iff_of_ok (hret : r.ret = SOAP_OK) :
    OwnVerdict rt authn r l ↔ Unaffected rt ys l.consumer r := by
  have hsaw := sawNull?_of_ok hret
  obtain ⟨n, t, hn, -, -⟩ := Listener.serve_of_ok rt r l hret
  by_cases hcompletes : Listener.Completes n
  · have hl : verdict (l.serve rt r) = _ := verdict_of_completes hret hn hcompletes
    have hfresh : verdict ((Listener.new authn).serve rt r) = _ :=
      verdict_of_completes hret hn hcompletes
    constructor
    · rintro ⟨h, -⟩
      rw [hl, hfresh] at h
      -- the new consumer had none, so what this one shows beyond it was there before
      have hevents : l.consumer.events = [] :=
        List.append_left_eq_self.mp (Verdict.succeeded.inj h)
      exact ⟨fun _ _ _ _ => hevents, fun h => absurd (hsaw.symm.trans h) nofun,
        fun h => absurd hret h⟩
    · rintro ⟨hevents, -, -⟩
      refine ⟨?_, ?_⟩
      · rw [hl, hfresh, hevents hret n hn hcompletes]
        rfl
      · rw [hl, hsaw]
        exact ⟨nofun, nofun⟩
  · obtain ⟨v, hv, hall⟩ := verdict_of_not_completes rt hret hn hcompletes
    constructor
    · intro _
      refine ⟨?_, fun h => absurd (hsaw.symm.trans h) nofun, fun h => absurd hret h⟩
      intro _ n' hn' h
      rw [hn] at hn'
      cases hn'
      exact absurd h hcompletes
    · intro _
      refine ⟨by rw [hall, hall], ?_⟩
      rw [hall, hsaw]
      exact ⟨fun h => absurd h hv, nofun⟩

/-- With the flag down a failure is reported alike unless there is no error to report, or the
recorded one reads like the null pointer. -/
theorem ownVerdict_iff_of_no_flag (hret : r.ret ≠ SOAP_OK) (hsaw : r.sawNull? ≠ some true)
    (hflag : r.sawNull?.getD l.globals.pointer_nullness = false) :
    OwnVerdict rt authn r l ↔
      if r.soap.error = 0 then l.consumer.errorMessage = "" ∧ l.consumer.errorCode = ""
      else recorded rt r.soap ≠ .nullPointer := by
  have hfreshFlag : r.sawNull?.getD (Listener.new authn).globals.pointer_nullness = false := by
    cases h : r.sawNull? with
    | none => rfl
    | some b =>
      rw [h] at hflag
      exact hflag
  by_cases herror : r.soap.error = 0
  · rw [if_pos herror]
    have hl : verdict (l.serve rt r) = _ := verdict_of_no_error hret hflag herror
    have hfresh : verdict ((Listener.new authn).serve rt r) = .failed "" "" :=
      verdict_of_no_error hret hfreshFlag herror
    constructor
    · rintro ⟨h, -⟩
      rw [hl, hfresh] at h
      exact Verdict.failed.inj h
    · rintro ⟨hmessage, hcode⟩
      rw [hmessage, hcode] at hl
      refine ⟨by rw [hl, hfresh], ?_⟩
      rw [hl]
      exact ⟨fun h => absurd h (by decide), fun h => absurd h hsaw⟩
  · rw [if_neg herror]
    have hl : verdict (l.serve rt r) = _ := verdict_of_error hret hflag herror
    have hfresh : verdict ((Listener.new authn).serve rt r) = _ :=
      verdict_of_error hret hfreshFlag herror
    constructor
    · rintro ⟨-, h⟩ hnull
      rw [hl] at h
      exact hsaw (h.mp hnull)
    · intro hnull
      refine ⟨by rw [hl, hfresh], ?_⟩
      rw [hl]
      exact ⟨fun h => absurd h hnull, fun h => absurd h hsaw⟩

theorem ownVerdict_iff_of_error (hret : r.ret ≠ SOAP_OK)
    (hrun : l.globals.pointer_nullness = (lastWrite ConsumerCall.sawNull? ys).getD false) :
    OwnVerdict rt authn r l ↔ Unaffected rt ys l.consumer r := by
  cases hsaw : r.sawNull? with
  | none =>
    have hne : r.sawNull? ≠ some true := by rw [hsaw]; exact nofun
    by_cases hlast : lastWrite ConsumerCall.sawNull? ys = some true
    · -- an older null pointer is still on record
      have hl : verdict (l.serve rt r) = .nullPointer := by
        apply verdict_of_flag hret
        rw [hsaw, hrun, hlast]
        rfl
      constructor
      · rintro ⟨-, h⟩
        exact absurd (h.mp hl) hne
      · rintro ⟨-, h, -⟩
        exact absurd hlast (h hsaw)
    · have hflag : r.sawNull?.getD l.globals.pointer_nullness = false := by
        rw [hsaw, hrun]
        cases hw : lastWrite ConsumerCall.sawNull? ys with
        | none => rfl
        | some b =>
          cases b with
          | false => rfl
          | true => exact absurd hw hlast
      rw [ownVerdict_iff_of_no_flag hret hne hflag]
      constructor
      · intro h
        exact ⟨fun hok => absurd hok hret, fun _ => hlast, fun _ _ => h⟩
      · intro h
        exact h.error hret hne
  | some b =>
    cases b with
    | false =>
      have hne : r.sawNull? ≠ some true := by rw [hsaw]; exact nofun
      have hflag : r.sawNull?.getD l.globals.pointer_nullness = false := by rw [hsaw]; rfl
      rw [ownVerdict_iff_of_no_flag hret hne hflag]
      constructor
      · intro h
        exact ⟨fun hok => absurd hok hret, fun hnone => absurd (hsaw.symm.trans hnone) nofun,
          fun _ _ => h⟩
      · intro h
        exact h.error hret hne
    | true =>
      -- the handler has just seen the null pointer
      have hnull : ∀ m : Listener, verdict (m.serve rt r) = .nullPointer := by
        intro m
        apply verdict_of_flag hret
        rw [hsaw]
        rfl
      constructor
      · intro _
        exact ⟨fun hok => absurd hok hret, fun hnone => absurd (hsaw.symm.trans hnone) nofun,
          fun _ hne => absurd hsaw hne⟩
      · intro _
        refine ⟨by rw [hnull, hnull], ?_⟩
        rw [hnull, hsaw]
        exact ⟨fun _ => rfl, fun _ => rfl⟩

end

/--
**A request gets its own verdict exactly when nothing of the past shows.**

The handler is the only one to write `pointer_nullness`. After a null notification a request
that does not get as far as the handler is reported as a null pointer, whatever happened to it,
and so is every such request until the handler runs again.
-/
theorem ownVerdict_iff_unaffected (rt : SoapRuntime) (authn : Bool) (ys : List ConsumerCall) (r : Request)
    (l : Listener) (h : run (ConsumerCall.step rt) ys (Listener.new authn) = some l) :
    OwnVerdict rt authn r l ↔ Unaffected rt ys l.consumer r := by
  by_cases hret : r.ret = SOAP_OK
  · exact ownVerdict_iff_of_ok hret
  · exact ownVerdict_iff_of_error hret (pointer_nullness_run h)

/-- A null notification. -/
def nullRequest : Request where
  ret := SOAP_FAULT
  soap := { Soap.new with error := SOAP_FAULT }
  handler := some none
  ok_accepted := nofun

/-- A connection closed before the request was read. -/
def closedRequest : Request where
  ret := -1
  soap :=
    { Soap.new with
      error := -1
      faultcode := some "SOAP-ENV:Server"
      faultstring := some "End of file or no input" }
  handler := none
  ok_accepted := nofun

/-- The closed connection is reported as such by a new consumer, and as a null pointer after a
null notification. -/
theorem closedRequest_afterNull_nullPointer :
    ∃ l, run (ConsumerCall.step (.plain "SOAP-ENV:Server" "")) [.serve nullRequest] (Listener.new false)
        = some l ∧
      verdict ((Listener.new false).serve (.plain "SOAP-ENV:Server" "") closedRequest)
        = .failed "End of file or no input" "SOAP-ENV:Server" ∧
      verdict (l.serve (.plain "SOAP-ENV:Server" "") closedRequest)
        = .failed "A null pointer as been sent by the CEMon" "" ∧
      ¬OwnVerdict (.plain "SOAP-ENV:Server" "") false closedRequest l := by
  refine ⟨_, rfl, rfl, rfl, ?_⟩
  rintro ⟨h, -⟩
  exact absurd h (by decide)

/-- A null notification is reported as one after a closed connection. -/
theorem nullRequest_afterClosed_own :
    ∃ l, run (ConsumerCall.step (.plain "SOAP-ENV:Server" "")) [.serve closedRequest] (Listener.new false)
        = some l ∧
      OwnVerdict (.plain "SOAP-ENV:Server" "") false nullRequest l :=
  ⟨_, rfl, (ownVerdict_iff_unaffected (.plain "SOAP-ENV:Server" "") false [.serve closedRequest]
    nullRequest _ rfl).mpr ⟨nofun, nofun, fun _ h => absurd rfl h⟩⟩

end CEMonitor
