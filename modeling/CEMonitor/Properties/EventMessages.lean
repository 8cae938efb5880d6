import CEMonitor.Infra.Run
import CEMonitor.Requests

/-!
# The messages a `CEEvent` hands out

`getTopicEvents` is documented to fill an array that `getNumberOfMessages` counts and
`getNextEventMessage` walks through. It copies the messages into the caller's list instead; the
lines that filled the array are commented out. So the size stays zero in every run, whatever
the service sends, and the documented view is right only of an answer without messages.

The accessors that return a message by value read the same event. They make their result from
NULL when there is nothing to return, and a `std::string` cannot be made from NULL.
-/

namespace CEMonitor

open Infra

/--
A call on a `CEEvent`, with what it meets.

`inherited` stands for `cleanup` and `authenticate`, which work on the part inherited from
`AbsRequest` alone; `base` is whatever they leave there.
-/
inductive EventCall where
  | setServiceURL (url : String)
  | inherited (base : AbsRequest)
  | setRequestParam (topic : Option Topic)
  | getTopicEvents (eventMex : List (List String)) (x : Exchange (Option (List (Option Event))))
  | getNextEventMessage
  | getLastEventMessage
  | getEventMessageAt (idx : Int)

namespace CEEvent

/-- One call of a run. -/
def step (rt : SoapRuntime) : EventCall → CEEvent → Option CEEvent
  | .setServiceURL url, o => some { o with base := o.base.setServiceURL url }
  | .inherited base, o => some { o with base := base }
  | .setRequestParam topic, o => some (o.setRequestParam topic)
  | .getTopicEvents eventMex x, o => (o.getTopicEvents rt eventMex x).goesOn
  | .getNextEventMessage, o =>
    match o.getNextEventMessage with
    | (.returned _, o) => some o
    | _ => none
  | .getLastEventMessage, o =>
    match o.getLastEventMessage with
    | .returned _ => some o
    | _ => none
  | .getEventMessageAt idx, o =>
    match o.getEventMessageAt idx with
    | .returned _ => some o
    | _ => none

/-! ## The array that stays empty -/

/-- The size and the cursor are what the constructor made them. -/
structure Blank (o : CEEvent) : Prop where
  sizeMessage : o.sizeMessage = 0
  messageCounter : o.messageCounter = 0

theorem blank_getTopicEvents (rt : SoapRuntime) (eventMex : List (List String))
    (x : Exchange (Option (List (Option Event)))) {o : CEEvent} (h : Blank o) :
    Blank (o.getTopicEvents rt eventMex x).obj := by
  obtain ⟨hsize, hcounter⟩ := h
  unfold getTopicEvents
  split
  · exact ⟨hsize, hcounter⟩
  · simp only
    split
    · exact ⟨hsize, hcounter⟩
    · split
      · exact ⟨hsize, hcounter⟩
      · exact ⟨hsize, hcounter⟩

/-- The cursor is always at the end. -/
theorem getNextEventMessage_of_blank {o : CEEvent} (h : Blank o) :
    o.getNextEventMessage = (.returned none, o) := by
  obtain ⟨hsize, hcounter⟩ := h
  unfold getNextEventMessage
  split
  · rfl
  · rw [if_pos (by omega), ← hcounter]

/-- The accessors are const. -/
theorem eq_of_accessor {o o' : CEEvent} {r : Result String}
    (h : (match r with | .returned _ => some o | _ => none) = some o') : o' = o := by
  split at h <;> cases h
  rfl

theorem blank_step {rt : SoapRuntime} (call : EventCall) (o o' : CEEvent) (h : Blank o)
    (hstep : step rt call o = some o') : Blank o' := by
  cases call with
  | setServiceURL url =>
    cases hstep
    exact ⟨h.sizeMessage, h.messageCounter⟩
  | inherited base =>
    cases hstep
    exact ⟨h.sizeMessage, h.messageCounter⟩
  | setRequestParam topic =>
    cases hstep
    exact ⟨h.sizeMessage, h.messageCounter⟩
  | getTopicEvents eventMex x =>
    rw [Call.obj_of_goesOn hstep]
    exact blank_getTopicEvents rt eventMex x h
  | getNextEventMessage =>
    rw [step, getNextEventMessage_of_blank h] at hstep
    cases hstep
    exact h
  | getLastEventMessage =>
    rw [eq_of_accessor hstep]
    exact h
  | getEventMessageAt idx =>
    rw [eq_of_accessor hstep]
    exact h

/-! ## The documented view -/

/-- `k` calls of `getNextEventMessage` and what they return. -/
def reads : Nat → CEEvent → List (Result (Option String))
  | 0, _ => []
  | k + 1, o => o.getNextEventMessage.1 :: reads k o.getNextEventMessage.2

theorem reads_of_blank {o : CEEvent} (k : Nat) (h : Blank o) :
    reads k o = List.replicate k (.returned none) := by
  induction k with
  | zero => rfl
  | succ k ih => rw [reads, getNextEventMessage_of_blank h, ih, List.replicate_succ]

/-- The messages of a response: those of all events that are not null, in order. -/
def receivedMessages (events : List (Option Event)) : List String :=
  (events.filterMap id).flatMap Event.message

/-- The array is as documented: it counts the messages, and hands them out one by one with a
NULL at the end. -/
structure ShowsMessages (ms : List String) (o : CEEvent) : Prop where
  number : o.getNumberOfMessages = ms.length
  reads : reads (ms.length + 1) o = (ms.map fun m => .returned (some m)) ++ [.returned none]

/-- A successful call has an array of events. -/
theorem eventArray_of_returned {rt : SoapRuntime} {eventMex v : List (List String)}
    {x : Exchange (Option (List (Option Event)))} {o : CEEvent}
    (h : (o.getTopicEvents rt eventMex x).outcome = .returned v) :
    ∃ events, (o.getTopicEvents rt eventMex x).obj.eventArray = some events := by
  unfold getTopicEvents at h ⊢
  by_cases hurl : o.base.serviceURL = ""
  · rw [if_pos hurl] at h
    cases h
  · rw [if_neg hurl] at h ⊢
    by_cases herr : x.soap.error ≠ SOAP_OK
    · simp only [if_pos herr] at h
      exact absurd (Outcome.throwing_eq_returned_iff.mp h)
        (AbsRequest.fail_ne_returned rt x.now _ v)
    · simp only [if_neg herr] at h ⊢
      cases hr : x.resp.getD o.eventArray with
      | none =>
        rw [hr] at h
        cases h
      | some events =>
        rw [hr] at h
        cases h
        exact ⟨events, rfl⟩

/--
**After a successful `getTopicEvents` the documented view is right exactly of a response
without messages.**

The run starts from a new object; the event that the object points at is never set, and may be
anything.
-/
theorem showsMessages_iff (rt : SoapRuntime) (n : FaultIntegers) (event : Option Event)
    (calls : List EventCall) (o : CEEvent) (eventMex v : List (List String))
    (x : Exchange (Option (List (Option Event))))
    (hrun : run (step rt) calls { CEEvent.new n with event := event } = some o)
    (hret : (o.getTopicEvents rt eventMex x).outcome = .returned v) :
    ∃ events, (o.getTopicEvents rt eventMex x).obj.eventArray = some events ∧
      (ShowsMessages (receivedMessages events) (o.getTopicEvents rt eventMex x).obj ↔
        ∀ e, some e ∈ events → e.message = []) := by
  obtain ⟨events, hevents⟩ := eventArray_of_returned hret
  refine ⟨events, hevents, ?_⟩
  have hblank : Blank (o.getTopicEvents rt eventMex x).obj :=
    blank_getTopicEvents rt eventMex x (run_preserves blank_step ⟨rfl, rfl⟩ hrun)
  have hnil : receivedMessages events = [] ↔ ∀ e, some e ∈ events → e.message = [] := by
    simp [receivedMessages, List.flatMap_eq_nil_iff]
  rw [← hnil]
  constructor
  · rintro ⟨hnumber, -⟩
    have hzero : (o.getTopicEvents rt eventMex x).obj.getNumberOfMessages = 0 := by
      rw [getNumberOfMessages, hblank.sizeMessage, ite_self]
    rw [hzero] at hnumber
    exact List.length_eq_zero_iff.mp (by omega)
  · intro hms
    rw [hms]
    refine ⟨?_, reads_of_blank 1 hblank⟩
    rw [getNumberOfMessages, hblank.sizeMessage, ite_self]
    rfl

/-- A successful call that brings one event with the given messages. -/
def oneEvent (message : List String) : Exchange (Option (List (Option Event))) where
  now := 0
  soap := Soap.new
  resp := some (some [some { id := 1, timestamp := 0, producer := "ce", message := message }])

/-- A new object with its service URL set. -/
def ready : List EventCall := [.setServiceURL "https://ce:8443/ce-monitor/services/CEMonitor"]

/-- One message is received and none is shown. -/
theorem oneEvent_not_shown :
    ∃ o v, run (step (.plain "SOAP-ENV:Client" "")) ready (CEEvent.new .sample) = some o ∧
      (o.getTopicEvents (.plain "SOAP-ENV:Client" "") [] (oneEvent ["idle"])).outcome
        = .returned v ∧
      (o.getTopicEvents (.plain "SOAP-ENV:Client" "") [] (oneEvent ["idle"])).obj.eventArray
        = some [some { id := 1, timestamp := 0, producer := "ce", message := ["idle"] }] ∧
      ¬ShowsMessages
        (receivedMessages [some { id := 1, timestamp := 0, producer := "ce", message := ["idle"] }])
        (o.getTopicEvents (.plain "SOAP-ENV:Client" "") [] (oneEvent ["idle"])).obj := by
  refine ⟨_, _, rfl, rfl, rfl, ?_⟩
  rintro ⟨hnumber, -⟩
  have hone : (0 : Int) = 1 := hnumber
  omega

/-- An event without messages is shown as it is. -/
theorem emptyEvent_shown :
    ∃ o events, run (step (.plain "SOAP-ENV:Client" "")) ready (CEEvent.new .sample) = some o ∧
      ShowsMessages (receivedMessages events)
        (o.getTopicEvents (.plain "SOAP-ENV:Client" "") [] (oneEvent [])).obj := by
  obtain ⟨events, hevents, hiff⟩ := showsMessages_iff (.plain "SOAP-ENV:Client" "") .sample none
    ready _ [] _ (oneEvent []) rfl rfl
  refine ⟨_, events, rfl, hiff.mpr ?_⟩
  cases hevents
  intro e he
  cases List.mem_singleton.mp he
  rfl

/-! ## Messages by value -/

/-- `getLastEventMessage` returns when there is a last message to return. -/
theorem getLastEventMessage_returned_iff {o : CEEvent} {s : String} :
    o.getLastEventMessage = .returned s ↔ o.retrievedInfo = true ∧
      ∃ e m, o.event = some e ∧ e.message.getLast? = some m ∧ Text.cStr m = s := by
  rw [getLastEventMessage, Outcome.throwing_eq_returned_iff]
  by_cases hretrieved : o.retrievedInfo = true
  · rw [if_neg (not_not.mpr hretrieved)]
    cases hevent : o.event with
    | none => simp
    | some e =>
      by_cases hlen : e.message.length = 0
      · have hnil := List.length_eq_zero_iff.mp hlen
        simp [hnil]
      · have hlast : (e.message.length - 1 : Int) = ((e.message.length - 1 : Nat) : Int) := by
          omega
        simp only [if_pos hlen, hlast, Outcome.bind_eq_returned_iff, at?_eq_returned_iff,
          Int.toNat_natCast, ← List.getLast?_eq_getElem?, Int.natCast_nonneg, true_and,
          stringOf_some, Outcome.returned.injEq, Option.some.injEq, hretrieved]
        constructor
        · rintro ⟨m, hm, hs⟩
          exact ⟨e, m, rfl, hm, hs⟩
        · rintro ⟨e', m, rfl, hm, hs⟩
          exact ⟨m, hm, hs⟩
  · rw [if_pos hretrieved]
    simp [hretrieved]

/-- So does `getEventMessageAt`, for an index of a message. -/
theorem getEventMessageAt_returned_iff {o : CEEvent} {idx : Int} {s : String} :
    o.getEventMessageAt idx = .returned s ↔ o.retrievedInfo = true ∧
      ∃ e m, o.event = some e ∧ 0 ≤ idx ∧ e.message[idx.toNat]? = some m ∧ Text.cStr m = s := by
  rw [getEventMessageAt, Outcome.throwing_eq_returned_iff]
  by_cases hretrieved : o.retrievedInfo = true
  · rw [if_neg (not_not.mpr hretrieved)]
    by_cases hidx : idx < 0
    · rw [if_pos hidx]
      simp [not_le.mpr hidx]
    · rw [if_neg hidx]
      cases hevent : o.event with
      | none => simp
      | some e =>
        simp only [Outcome.deref_some, Outcome.bind_returned, Option.some.injEq, hretrieved,
          true_and]
        by_cases hlt : idx < e.message.length
        · have hlen : ¬e.message.length = 0 := by omega
          -- the vector is not empty, so `size() - 1` does not wrap
          have hbound : ¬idx > sizeMinusOne e.message := by
            rw [sizeMinusOne, if_neg hlen]
            omega
          rw [if_neg hbound, if_pos hlen]
          simp only [Outcome.bind_eq_returned_iff, at?_eq_returned_iff, stringOf_some,
            Outcome.returned.injEq]
          constructor
          · rintro ⟨m, ⟨hidx, hm⟩, hs⟩
            exact ⟨e, m, rfl, hidx, hm, hs⟩
          · rintro ⟨e', m, rfl, hidx, hm, hs⟩
            exact ⟨m, ⟨hidx, hm⟩, hs⟩
        · -- no message: the first test or the second sees it
          have hfails : ∀ body : Result String,
              (if idx > sizeMinusOne e.message then stringOf none
                else if e.message.length ≠ 0 then body else stringOf none)
                = .raised (.std .logicError) := by
            intro body
            by_cases hlen : e.message.length = 0
            · rw [if_neg (not_not.mpr hlen), ite_self]
              rfl
            · have hbound : idx > sizeMinusOne e.message := by
                rw [sizeMinusOne, if_neg hlen]
                omega
              rw [if_pos hbound]
              rfl
          rw [hfails]
          constructor
          · intro hraised
            cases hraised
          · rintro ⟨e', m, rfl, -, hm, -⟩
            rw [List.getElem?_eq_none (by omega)] at hm
            cases hm
  · rw [if_pos hretrieved]
    simp [hretrieved]

/-- A `getTopicEvents` of the run returned. -/
def Retrieved (rt : SoapRuntime) (calls : List EventCall) (o₀ : CEEvent) : Prop :=
  ∃ o eventMex x v, (o, EventCall.getTopicEvents eventMex x) ∈ trace (step rt) calls o₀ ∧
    (o.getTopicEvents rt eventMex x).outcome = .returned v

/-- What a call of a run writes to the flag. -/
def writesRetrieved (rt : SoapRuntime) : CEEvent × EventCall → Option Bool
  | (o, .getTopicEvents eventMex x) =>
    match (o.getTopicEvents rt eventMex x).outcome with
    | .returned _ => some true
    | _ => none
  | _ => none

theorem exists_of_writesRetrieved {rt : SoapRuntime} {o : CEEvent} {call : EventCall} {b : Bool}
    (h : writesRetrieved rt (o, call) = some b) :
    b = true ∧ ∃ eventMex x v, call = .getTopicEvents eventMex x ∧
      (o.getTopicEvents rt eventMex x).outcome = .returned v := by
  cases call with
  | getTopicEvents eventMex x =>
    simp only [writesRetrieved] at h
    split at h
    · next v hv =>
      cases h
      exact ⟨rfl, eventMex, x, v, rfl, hv⟩
    · cases h
  | setServiceURL | inherited | setRequestParam | getNextEventMessage | getLastEventMessage |
    getEventMessageAt => cases h

theorem retrievedInfo_getTopicEvents (rt : SoapRuntime) (eventMex : List (List String))
    (x : Exchange (Option (List (Option Event)))) (o : CEEvent) :
    (o.getTopicEvents rt eventMex x).obj.event = o.event ∧
    (o.getTopicEvents rt eventMex x).obj.retrievedInfo
      = (writesRetrieved rt (o, .getTopicEvents eventMex x)).getD o.retrievedInfo := by
  unfold writesRetrieved
  by_cases hurl : o.base.serviceURL = ""
  · simp only [getTopicEvents, if_pos hurl]
    exact ⟨trivial, rfl⟩
  · by_cases herr : x.soap.error ≠ SOAP_OK
    · simp only [getTopicEvents, if_neg hurl, if_pos herr, true_and]
      split
      · next v hv =>
        exact absurd (Outcome.throwing_eq_returned_iff.mp hv)
          (AbsRequest.fail_ne_returned rt x.now _ v)
      · rfl
    · simp only [getTopicEvents, if_neg hurl, if_neg herr]
      cases x.resp.getD o.eventArray with
      | none => exact ⟨rfl, rfl⟩
      | some events => exact ⟨rfl, rfl⟩

theorem retrievedInfo_getNextEventMessage (o : CEEvent) :
    o.getNextEventMessage.2.event = o.event ∧
      o.getNextEventMessage.2.retrievedInfo = o.retrievedInfo := by
  unfold getNextEventMessage
  split
  · exact ⟨rfl, rfl⟩
  · split
    · exact ⟨rfl, rfl⟩
    · split
      · split <;> exact ⟨rfl, rfl⟩
      · exact ⟨rfl, rfl⟩

theorem retrievedInfo_step {rt : SoapRuntime} (call : EventCall) (o o' : CEEvent)
    (hstep : step rt call o = some o') :
    o'.event = o.event ∧
      o'.retrievedInfo = (writesRetrieved rt (o, call)).getD o.retrievedInfo := by
  cases call with
  | setServiceURL url =>
    cases hstep
    exact ⟨rfl, rfl⟩
  | inherited base =>
    cases hstep
    exact ⟨rfl, rfl⟩
  | setRequestParam topic =>
    cases hstep
    exact ⟨rfl, rfl⟩
  | getTopicEvents eventMex x =>
    rw [Call.obj_of_goesOn hstep]
    exact retrievedInfo_getTopicEvents rt eventMex x o
  | getNextEventMessage =>
    have hobj : o' = o.getNextEventMessage.2 := by
      simp only [step] at hstep
      split at hstep
      · next m o'' hnext =>
        cases hstep
        rw [hnext]
      · cases hstep
    rw [hobj]
    exact retrievedInfo_getNextEventMessage o
  | getLastEventMessage =>
    rw [eq_of_accessor hstep]
    exact ⟨rfl, rfl⟩
  | getEventMessageAt idx =>
    rw [eq_of_accessor hstep]
    exact ⟨rfl, rfl⟩

/-- The event is what it was, and the flag says that something was retrieved. -/
theorem retrievedInfo_run {rt : SoapRuntime} {calls : List EventCall} {o₀ o : CEEvent}
    (hnew : o₀.retrievedInfo = false) (h : run (step rt) calls o₀ = some o) :
    o.event = o₀.event ∧ (o.retrievedInfo = true ↔ Retrieved rt calls o₀) := by
  have hkeep : ∀ call s s', s.event = o₀.event → step rt call s = some s' →
      s'.event = o₀.event :=
    fun call s s' hs hstep => (retrievedInfo_step call s s' hstep).1.trans hs
  have hevent : o.event = o₀.event := run_preserves hkeep rfl h
  -- only `getTopicEvents` writes the flag, and it never lowers it
  have hflag := run_lastWrite_trace (fun _ => True) CEEvent.retrievedInfo
    (fun _ _ _ _ _ => trivial) (fun call o o' _ hstep => (retrievedInfo_step call o o' hstep).2)
    trivial h
  refine ⟨hevent, ?_⟩
  rw [hflag, hnew]
  constructor
  · intro htrue
    cases hlast : lastWrite (writesRetrieved rt) (trace (step rt) calls o₀) with
    | none =>
      rw [hlast] at htrue
      cases htrue
    | some b =>
      obtain ⟨⟨o, call⟩, hmem, hwrite⟩ := exists_of_lastWrite_eq_some hlast
      obtain ⟨-, eventMex, x, v, rfl, hv⟩ := exists_of_writesRetrieved hwrite
      exact ⟨o, eventMex, x, v, hmem, hv⟩
  · rintro ⟨o, eventMex, x, v, hmem, hv⟩
    have hwrite : writesRetrieved rt (o, .getTopicEvents eventMex x) = some true := by
      simp only [writesRetrieved, hv]
    cases hlast : lastWrite (writesRetrieved rt) (trace (step rt) calls o₀) with
    | none =>
      rw [lastWrite_eq_none_iff.mp hlast _ hmem] at hwrite
      cases hwrite
    | some b =>
      obtain ⟨p, -, hb⟩ := exists_of_lastWrite_eq_some hlast
      exact (exists_of_writesRetrieved hb).1

/-- `getLastEventMessage` returns: the last message when there is one, and some text otherwise. -/
def ReturnsLast (o : CEEvent) : Prop :=
  ∃ s, o.getLastEventMessage = .returned s ∧
    ∀ e m, o.event = some e → e.message.getLast? = some m → s = m

/-- `getEventMessageAt` returns: the message at the index when there is one, and some text
otherwise. -/
def ReturnsAt (idx : Int) (o : CEEvent) : Prop :=
  ∃ s, o.getEventMessageAt idx = .returned s ∧
    ∀ e m, o.event = some e → 0 ≤ idx → e.message[idx.toNat]? = some m → s = m

/--
**The accessors that return a message by value return exactly when something was retrieved and
there is a message to return.**

The event they read is the one the object pointed at from the start: no constructor sets that
pointer and no other code does, so with a null pointer they never return. The message comes back
whole when no NUL stands in it.
-/
theorem accessors_return_iff (rt : SoapRuntime) (n : FaultIntegers) (event : Option Event)
    (calls : List EventCall) (o : CEEvent)
    (hrun : run (step rt) calls { CEEvent.new n with event := event } = some o) :
    (ReturnsLast o ↔ Retrieved rt calls { CEEvent.new n with event := event } ∧
      ∃ e m, event = some e ∧ e.message.getLast? = some m ∧ Text.NulFree m) ∧
    ∀ idx, ReturnsAt idx o ↔ Retrieved rt calls { CEEvent.new n with event := event } ∧
      ∃ e m, event = some e ∧ 0 ≤ idx ∧ e.message[idx.toNat]? = some m ∧ Text.NulFree m := by
  obtain ⟨hevent, hretrieved⟩ := retrievedInfo_run rfl hrun
  rw [← hretrieved]
  have hevent' : o.event = event := hevent
  constructor
  · constructor
    · rintro ⟨s, hs, hasked⟩
      obtain ⟨hflag, e, m, he, hm, hcut⟩ := getLastEventMessage_returned_iff.mp hs
      refine ⟨hflag, e, m, hevent'.symm.trans he, hm, ?_⟩
      rw [← Text.cStr_eq_self_iff, hcut, hasked e m he hm]
    · rintro ⟨hflag, e, m, he, hm, hnul⟩
      refine ⟨m, getLastEventMessage_returned_iff.mpr
        ⟨hflag, e, m, hevent'.trans he, hm, Text.cStr_of_nulFree hnul⟩, ?_⟩
      intro e' m' he' hm'
      rw [hevent', he] at he'
      cases he'
      rw [hm] at hm'
      exact Option.some.inj hm'
  · intro idx
    constructor
    · rintro ⟨s, hs, hasked⟩
      obtain ⟨hflag, e, m, he, hidx, hm, hcut⟩ := getEventMessageAt_returned_iff.mp hs
      refine ⟨hflag, e, m, hevent'.symm.trans he, hidx, hm, ?_⟩
      rw [← Text.cStr_eq_self_iff, hcut, hasked e m he hidx hm]
    · rintro ⟨hflag, e, m, he, hidx, hm, hnul⟩
      refine ⟨m, getEventMessageAt_returned_iff.mpr
        ⟨hflag, e, m, hevent'.trans he, hidx, hm, Text.cStr_of_nulFree hnul⟩, ?_⟩
      intro e' m' he' _ hm'
      rw [hevent', he] at he'
      cases he'
      rw [hm] at hm'
      exact Option.some.inj hm'

/-- On a new object the first ends in `std::unexpected`; once something was retrieved the other
follows the null pointer. -/
theorem newObject_accessors_fail :
    (CEEvent.new .sample).getLastEventMessage = .unexpected ∧
    ∃ o o', run (step (.plain "SOAP-ENV:Client" "")) ready (CEEvent.new .sample) = some o ∧
      (o.getTopicEvents (.plain "SOAP-ENV:Client" "") [] (oneEvent ["idle"])).goesOn = some o' ∧
      o'.getEventMessageAt 0 = .undefined ∧ o'.getLastEventMessage = .unexpected ∧
      ¬ReturnsLast o' ∧ ¬ReturnsAt 0 o' := by
  refine ⟨rfl, _, _, rfl, rfl, rfl, rfl, ?_, ?_⟩
  · rintro ⟨s, hs, -⟩
    cases hs
  · rintro ⟨s, hs, -⟩
    cases hs

/-- Where the pointer happens to lead to an event with one message, both return it. -/
theorem idleEvent_accessors_return :
    ∃ o, run (step (.plain "SOAP-ENV:Client" "")) (ready ++ [.getTopicEvents [] (oneEvent [])])
        { CEEvent.new .sample with
          event := some { id := 1, timestamp := 0, producer := "ce", message := ["idle"] } }
        = some o ∧ ReturnsLast o ∧ ReturnsAt 0 o := by
  have hiff := accessors_return_iff (.plain "SOAP-ENV:Client" "") .sample
    (some { id := 1, timestamp := 0, producer := "ce", message := ["idle"] })
    (ready ++ [.getTopicEvents [] (oneEvent [])]) _ rfl
  have hretrieved : Retrieved (.plain "SOAP-ENV:Client" "")
      (ready ++ [.getTopicEvents [] (oneEvent [])])
      { CEEvent.new .sample with
        event := some { id := 1, timestamp := 0, producer := "ce", message := ["idle"] } } :=
    ⟨_, _, _, _, List.mem_of_getElem? (i := 1) rfl, rfl⟩
  refine ⟨_, rfl, hiff.1.mpr ⟨hretrieved, _, _, rfl, rfl, by decide⟩,
    (hiff.2 0).mpr ⟨hretrieved, _, _, rfl, by decide, rfl, by decide⟩⟩

end CEEvent

end CEMonitor
