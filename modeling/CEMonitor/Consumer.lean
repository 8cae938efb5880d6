import CEMonitor.AbsRequest
import CEMonitor.Types

/-!
# `CEConsumer`: the listener for notifications

The members of the consumer that describe the last notification and its sender, and the calls
that change them. The handler that gSOAP calls for a notification is a plain function; it hands
the notification over through two process-wide variables, which are part of the state here.
What the outside world supplies is a `Connection` for `accept` and a `Request` for `serve`.
-/

namespace CEMonitor

open Infra

/-- `Message.size()`, passed as an `int`. -/
def Event.size (e : Event) : Int := (e.message.length : Int).bmod (2 ^ 32)

theorem Event.size_le (e : Event) : e.size ≤ e.message.length := by
  unfold Event.size
  rw [Int.bmod_eq_emod]
  split <;> omega

theorem Event.size_eq {e : Event} (h : e.message.length < 2 ^ 31) : e.size = e.message.length := by
  unfold Event.size
  rw [Int.bmod_eq_emod]
  split <;> omega

/-- The members. `authn` is set by the constructor, when it is given certificate and key. -/
structure CEConsumer where
  authn : Bool
  errorMessage : String
  errorCode : String
  clientIP : String
  clientName : String
  clientDN : String
  eventTimestamp : Int
  topic : Option Topic
  messageSize : Int
  eventID : Int
  eventProducer : String
  messages : List String
  messageCounter : Int
  events : List Event
  deriving DecidableEq, Repr

namespace CEConsumer

/-- The constructor. -/
def new (authn : Bool) : CEConsumer where
  authn := authn
  errorMessage := ""
  errorCode := ""
  clientIP := ""
  clientName := ""
  clientDN := ""
  eventTimestamp := 0
  topic := none
  messageSize := 0
  eventID := 0
  eventProducer := ""
  messages := []
  messageCounter := 0
  events := []

/-- `CEConsumer::reset`. -/
def reset (c : CEConsumer) : CEConsumer :=
  { c with
    eventID := 0
    messageSize := 0
    messageCounter := 0
    eventTimestamp := 0
    eventProducer := ""
    clientIP := ""
    clientName := ""
    messages := []
    events := []
    topic := none }

/-- `CEConsumer::setError`, after the call that left gSOAP in the state `s`. It has no
specification: the exception of a null text gets out. -/
def setError (rt : SoapRuntime) (s : Soap) (c : CEConsumer) : Result CEConsumer :=
  if s.error ≠ 0 then
    let s := AbsRequest.withFaultcode rt s
    (stringOf s.faultstring).bind fun message =>
      (stringOf s.faultcode).bind fun code =>
        .returned { c with errorMessage := message, errorCode := code }
  else .returned c

/-- The next value of a `short` counter. -/
def shortSucc (j : Int) : Int := (j + 1).bmod (2 ^ 16)

/-- The loop of `setResponse`, from `j` on; `acc` is `Messages`, which keeps what was pushed when
`at` raises. The first argument bounds the rounds, see `copyLoop_of_le`. -/
def copyLoop (messages : List String) (size : Int) : Nat → Int → List String →
    Result Unit × List String
  | 0, _, acc => (.undefined, acc)
  | fuel + 1, j, acc =>
    if j < size then
      match at? messages j with
      | .returned m => copyLoop messages size fuel (shortSucc j) (acc ++ [m])
      | .raised e => (.raised e, acc)
      | .unexpected => (.unexpected, acc)
      | .undefined => (.undefined, acc)
    else (.returned (), acc)

/-- `CEConsumer::setResponse`. -/
def setResponse (eventid size timestamp : Int) (producer : String) (messages : Option (List String))
    (c : CEConsumer) : Result Unit × CEConsumer :=
  let c := { c with
    eventID := eventid
    messageSize := size
    eventTimestamp := timestamp
    eventProducer := producer }
  match messages with
  | some messages =>
    let (e, acc) := copyLoop messages size (messages.length + 1) 0 c.messages
    (e, { c with messages := acc })
  | none => (.returned (), c)

/-- The two calls of `setResponse` in `serve`, for the first event. -/
def setFirstEvent (e : Event) (c : CEConsumer) : Result Unit × CEConsumer :=
  if e.message.length ≠ 0 then
    c.setResponse e.id e.size e.timestamp e.producer (some e.message)
  else c.setResponse e.id 0 e.timestamp e.producer none

/-- `CEConsumer::getNextEventMessage`. The counter moves on before the message is looked up. -/
def getNextEventMessage (c : CEConsumer) : Result (Option String) × CEConsumer :=
  if c.messageCounter ≥ c.messageSize then (.returned none, { c with messageCounter := 0 })
  else
    ((at? c.messages c.messageCounter).map some, { c with messageCounter := c.messageCounter + 1 })

/-- `setError` changes the error only, and does not always manage to. -/
theorem setError_cases (rt : SoapRuntime) (s : Soap) (c : CEConsumer) :
    c.setError rt s = .raised (.std .logicError) ∨
      ∃ message code,
        c.setError rt s = .returned { c with errorMessage := message, errorCode := code } := by
  unfold setError
  split
  · cases hm : (AbsRequest.withFaultcode rt s).faultstring with
    | none => exact Or.inl (by simp only [hm, stringOf_none, Outcome.bind_raised])
    | some message =>
      obtain ⟨code, hc⟩ := Option.ne_none_iff_exists'.mp (AbsRequest.faultcode_withFaultcode rt s)
      exact Or.inr ⟨message, code, by simp only [hm, hc, stringOf_some, Outcome.bind_returned]⟩
  · exact Or.inr ⟨c.errorMessage, c.errorCode, rfl⟩

/-! ### The copied messages -/

section CopyLoop

variable {messages acc : List String} {size : Int} {fuel i : Nat}

theorem shortSucc_of_lt (h : i < 32767) : shortSucc (i : Int) = ((i + 1 : Nat) : Int) := by
  unfold shortSucc
  rw [Int.bmod_eq_of_le (by omega) (by omega)]
  rfl

/-- Up to the largest `short` the loop copies what it is told to. -/
theorem copyLoop_of_le (hsize : size ≤ 32767) (hlen : size ≤ messages.length)
    (hi : i ≤ messages.length) (hfuel : messages.length < fuel + i) :
    copyLoop messages size fuel i acc
      = (.returned (), acc ++ (messages.take size.toNat).drop i) := by
  induction fuel generalizing i acc with
  | zero => omega
  | succ fuel ih =>
    by_cases hj : (i : Int) < size
    · have hlt : i < messages.length := by omega
      have htake : i < (messages.take size.toNat).length := by
        rw [List.length_take]
        omega
      rw [copyLoop, if_pos hj, at?_of_lt hlt]
      show copyLoop messages size fuel (shortSucc i) (acc ++ [messages[i]]) = _
      rw [shortSucc_of_lt (by omega), ih (by omega) (by omega), List.drop_eq_getElem_cons htake,
        List.getElem_take, List.append_assoc]
      rfl
    · have hdrop : (messages.take size.toNat).drop i = [] := by
        rw [List.drop_eq_nil_iff, List.length_take]
        omega
      rw [copyLoop, if_neg hj, hdrop, List.append_nil]

/-- Beyond it the counter wraps to a negative index, which `at` refuses. -/
theorem copyLoop_of_gt (hsize : 32767 < size) (hlen : size ≤ messages.length) (hi : i ≤ 32767)
    (hfuel : 32768 < fuel + i) :
    (copyLoop messages size fuel i acc).1 = .raised (.std .outOfRange) := by
  induction fuel generalizing i acc with
  | zero => omega
  | succ fuel ih =>
    have hlt : i < messages.length := by omega
    rw [copyLoop, if_pos (by omega), at?_of_lt hlt]
    show (copyLoop messages size fuel (shortSucc i) (acc ++ [messages[i]])).1 = _
    by_cases hlast : i < 32767
    · rw [shortSucc_of_lt hlast]
      exact ih (by omega) (by omega)
    · -- the successor of the largest `short`
      obtain rfl : i = 32767 := by omega
      obtain ⟨fuel, rfl⟩ : ∃ m, fuel = m + 1 := ⟨fuel - 1, by omega⟩
      have hwrap : shortSucc ((32767 : Nat) : Int) = -32768 := by decide
      have hat : at? messages (-32768) = .raised (.std .outOfRange) := rfl
      rw [hwrap, copyLoop, if_pos (by omega), hat]

end CopyLoop

theorem setResponse_of_copyLoop {messages acc : List String} {size : Int} {out : Result Unit}
    (eventid timestamp : Int) (producer : String) (c : CEConsumer)
    (h : copyLoop messages size (messages.length + 1) 0 c.messages = (out, acc)) :
    c.setResponse eventid size timestamp producer (some messages) =
      (out,
        { c with
          eventID := eventid
          messageSize := size
          eventTimestamp := timestamp
          eventProducer := producer
          messages := acc }) := by
  unfold setResponse
  simp only [h]

theorem setFirstEvent_of_le {e : Event} (c : CEConsumer) (hsize : e.size ≤ 32767) :
    c.setFirstEvent e =
      (.returned (),
        { c with
          eventID := e.id
          messageSize := e.size
          eventTimestamp := e.timestamp
          eventProducer := e.producer
          messages := c.messages ++ e.message.take e.size.toNat }) := by
  by_cases hlen : e.message.length ≠ 0
  · have hcopy : copyLoop e.message e.size (e.message.length + 1) ((0 : Nat) : Int) c.messages
        = (.returned (), c.messages ++ (e.message.take e.size.toNat).drop 0) :=
      copyLoop_of_le hsize e.size_le (by omega) (by omega)
    rw [Int.natCast_zero, List.drop_zero] at hcopy
    rw [setFirstEvent, if_pos hlen, setResponse_of_copyLoop _ _ _ _ hcopy]
  · have hnil : e.message = [] := List.length_eq_zero_iff.mp (not_not.mp hlen)
    have hzero : e.size = 0 := by
      rw [Event.size_eq (by omega), hnil]
      rfl
    rw [setFirstEvent, if_neg hlen, hzero, hnil, List.take_nil, List.append_nil]
    rfl

theorem setFirstEvent_of_gt {e : Event} (c : CEConsumer) (hsize : 32767 < e.size) :
    ∃ messages, c.setFirstEvent e =
      (.raised (.std .outOfRange),
        { c with
          eventID := e.id
          messageSize := e.size
          eventTimestamp := e.timestamp
          eventProducer := e.producer
          messages := messages }) := by
  have hle := e.size_le
  have hlen : e.message.length ≠ 0 := by omega
  have hraise : (copyLoop e.message e.size (e.message.length + 1) ((0 : Nat) : Int) c.messages).1
      = .raised (.std .outOfRange) :=
    copyLoop_of_gt hsize hle (by omega) (by omega)
  rw [Int.natCast_zero] at hraise
  generalize hcopy : copyLoop e.message e.size (e.message.length + 1) 0 c.messages = p at hraise
  obtain ⟨out, acc⟩ := p
  obtain rfl : out = .raised (.std .outOfRange) := hraise
  exact ⟨acc, by rw [setFirstEvent, if_pos hlen, setResponse_of_copyLoop _ _ _ _ hcopy]⟩

end CEConsumer

/-! ## The handler -/

/-- A global pointer to an object that gSOAP owns and frees. -/
inductive Pointer where
  | null
  | live (n : Notification)
  | dangling
  deriving DecidableEq, Repr

/-- The process-wide variables. -/
structure Globals where
  notification : Pointer
  pointer_nullness : Bool
  deriving DecidableEq, Repr

namespace Globals

/-- At the start of the process. -/
def start : Globals where
  notification := .null
  pointer_nullness := false

/-- `soap_destroy` and `soap_end` free what was received. -/
def release (g : Globals) : Globals :=
  match g.notification with
  | .live _ => { g with notification := .dangling }
  | _ => g

@[simp] theorem pointer_nullness_release (g : Globals) :
    g.release.pointer_nullness = g.pointer_nullness := by
  unfold release
  split <;> rfl

end Globals

set_option linter.style.nameCheck false in
/-- `monitorws__Notify`. -/
def monitorws__Notify (notif : Option Notification) (g : Globals) : Int × Globals :=
  let g := { g with
    notification := match notif with | some n => .live n | none => .null
    pointer_nullness := false }
  match notif with
  | none => (SOAP_FAULT, { g with pointer_nullness := true })
  | some n =>
    match n.topic with
    | none => (SOAP_FAULT, { g with pointer_nullness := true })
    | some _ => (SOAP_OK, g)

/--
One request, as `CEMON_CONSUMER_serve` deals with it: what it returns, gSOAP's state after it,
and what the handler was given if it was called. It returns `SOAP_OK` only when the handler has.
-/
structure Request where
  ret : Int
  soap : Soap
  handler : Option (Option Notification)
  ok_accepted : ret = SOAP_OK →
    ∃ notif, handler = some notif ∧ ∀ g, (monitorws__Notify notif g).1 = SOAP_OK

/-- What `accept` finds: the credentials, the socket, and who is at its other end. -/
structure Connection where
  credentialSet : Bool
  accepted : Bool
  soap : Soap
  peerDN : String
  peerName : String
  hostName : String

/-! ## The calls -/

/-- The consumer and the process it lives in. -/
structure Listener where
  consumer : CEConsumer
  globals : Globals
  deriving DecidableEq, Repr

namespace Listener

/-- A new consumer in a process that has not received anything. -/
def new (authn : Bool) : Listener where
  consumer := CEConsumer.new authn
  globals := .start

def reset (l : Listener) : Listener := { l with consumer := l.consumer.reset }

/-- `CEConsumer::bind`, for the socket that `soap_bind` returns and the state it leaves. -/
def bind (rt : SoapRuntime) (localSocket : Int) (s : Soap) (l : Listener) :
    Result Bool × Listener :=
  if localSocket < 0 then
    match l.consumer.setError rt s with
    | .returned c => (.returned false, { l with consumer := c })
    | .raised e => (.raised e, l)
    | .unexpected => (.unexpected, l)
    | .undefined => (.undefined, l)
  else (.returned true, l)

/-- `CEConsumer::accept`. -/
def accept (rt : SoapRuntime) (x : Connection) (l : Listener) : Result Bool × Listener :=
  let l := l.reset
  if l.consumer.authn ∧ ¬x.credentialSet then (.returned false, l)
  else if ¬x.accepted then
    match l.consumer.setError rt x.soap with
    | .returned c => (.returned false, { l with consumer := c })
    | .raised e => (.raised e, l)
    | .unexpected => (.unexpected, l)
    | .undefined => (.undefined, l)
  else
    (.returned true, { l with consumer := { l.consumer with
      clientDN := if l.consumer.authn then x.peerDN else ""
      clientIP := x.peerName
      clientName := x.hostName } })

def nullPointerMessage : String := "A null pointer as been sent by the CEMon"

/-- The first half of `serve`: gSOAP processes the request and calls the handler. -/
def dispatch (r : Request) (g : Globals) : Globals :=
  match r.handler with
  | some notif => (monitorws__Notify notif g).2
  | none => g

/-- What `serve` does with a request that was not answered with `SOAP_OK`. -/
def serveError (rt : SoapRuntime) (s : Soap) (l : Listener) : Result Bool × Listener :=
  if ¬l.globals.pointer_nullness then
    match l.consumer.setError rt s with
    | .returned c => (.returned false, { consumer := c, globals := l.globals.release })
    | .raised e => (.raised e, l)
    | .unexpected => (.unexpected, l)
    | .undefined => (.undefined, l)
  else
    (.returned false,
      { consumer := { l.consumer with errorCode := "", errorMessage := nullPointerMessage }
        globals := l.globals.release })

/-- What `serve` does with a notification that was accepted. -/
def publish (n : Notification) (l : Listener) : Result Bool × Listener :=
  let c := { l.consumer with topic := n.topic.map Topic.copy }
  match n.event with
  | [] => (.undefined, l) -- `Event[0]` of an empty vector
  | none :: _ => (.returned true, { consumer := c, globals := l.globals.release })
  | some e :: _ =>
    match c.setFirstEvent e with
    | (.returned _, c) =>
      (.returned true,
        { consumer := { c with events := c.events ++ n.event.filterMap id }
          globals := l.globals.release })
    | (.raised e, c) => (.raised e, { l with consumer := c })
    | (.unexpected, c) => (.unexpected, { l with consumer := c })
    | (.undefined, c) => (.undefined, { l with consumer := c })

/-- `CEConsumer::serve`. -/
def serve (rt : SoapRuntime) (r : Request) (l : Listener) : Result Bool × Listener :=
  let l := { l with globals := dispatch r l.globals }
  if r.ret ≠ SOAP_OK then l.serveError rt r.soap
  else
    match l.globals.notification with
    | .live n => l.publish n
    -- the pointer is followed before it is tested
    | .null => (.undefined, l)
    | .dangling => (.undefined, l)

/-- `CEConsumer::getNextEventMessage`. -/
def getNextEventMessage (l : Listener) : Result (Option String) × Listener :=
  let (m, c) := l.consumer.getNextEventMessage
  (m, { l with consumer := c })

end Listener

/-! ## Sequences of calls -/

/-- A call on the consumer, with what it meets. -/
inductive ConsumerCall where
  | accept (x : Connection)
  | serve (r : Request)
  | getNextEventMessage
  | reset

/-- The state in which the caller goes on; an exception is caught. -/
def goesOn {α : Type} (p : Result α × Listener) : Option Listener :=
  match p.1 with
  | .returned _ => some p.2
  | .raised _ => some p.2
  | .unexpected => none
  | .undefined => none

theorem eq_of_goesOn {α : Type} {p : Result α × Listener} {l : Listener} (h : goesOn p = some l) :
    l = p.2 := by
  unfold goesOn at h
  split at h <;> cases h <;> rfl

/-- One call of a sequence. -/
def ConsumerCall.step (rt : SoapRuntime) : ConsumerCall → Listener → Option Listener
  | .accept x, l => goesOn (l.accept rt x)
  | .serve r, l => goesOn (l.serve rt r)
  | .getNextEventMessage, l => goesOn l.getNextEventMessage
  | .reset, l => some l.reset

namespace Listener

/-! ## What `accept` does -/

/-- It takes the connection, or leaves what `reset` leaves but for the error. -/
theorem accept_cases (rt : SoapRuntime) (x : Connection) (l : Listener) :
    ((l.consumer.authn = true ∧ ¬x.credentialSet ∨ ¬x.accepted) ∧
      (l.accept rt x = (.raised (.std .logicError), l.reset) ∨
        ∃ message code, l.accept rt x =
          (.returned false, { l.reset with consumer :=
            { l.reset.consumer with errorMessage := message, errorCode := code } }))) ∨
    (¬(l.consumer.authn = true ∧ ¬x.credentialSet) ∧ x.accepted ∧
      l.accept rt x =
        (.returned true, { l.reset with consumer := { l.reset.consumer with
          clientDN := if l.consumer.authn then x.peerDN else ""
          clientIP := x.peerName
          clientName := x.hostName } })) := by
  by_cases hcred : l.reset.consumer.authn = true ∧ ¬x.credentialSet = true
  · refine Or.inl ⟨Or.inl hcred, Or.inr ⟨l.consumer.errorMessage, l.consumer.errorCode, ?_⟩⟩
    simp only [accept, if_pos hcred]
    rfl
  · by_cases hacc : x.accepted = true
    · refine Or.inr ⟨hcred, hacc, ?_⟩
      simp only [accept, if_neg hcred, if_neg (not_not.mpr hacc)]
      rfl
    · refine Or.inl ⟨Or.inr hacc, ?_⟩
      simp only [accept, if_neg hcred, if_pos hacc]
      rcases CEConsumer.setError_cases rt x.soap l.reset.consumer with h | ⟨message, code, h⟩
      · rw [h]
        exact Or.inl rfl
      · rw [h]
        exact Or.inr ⟨message, code, rfl⟩

/-! ## What `publish` leaves -/

/-- The rest of `serve` gets to its end: there is a first event, null or with no more messages
than a `short` can count. -/
def Completes (n : Notification) : Prop :=
  match n.event with
  | [] => False
  | none :: _ => True
  | some e :: _ => e.size ≤ 32767

/-- The events added: all that are not null, when the first is not. -/
def publishedEvents (n : Notification) : List Event :=
  match n.event with
  | some _ :: _ => n.event.filterMap id
  | _ => []

theorem publish_of_event {n : Notification} {e : Event} {rest : List (Option Event)} (l : Listener)
    (hn : n.event = some e :: rest) (hsize : e.size ≤ 32767) :
    l.publish n =
      (.returned true,
        { consumer := { l.consumer with
            topic := n.topic.map Topic.copy
            eventID := e.id
            messageSize := e.size
            eventTimestamp := e.timestamp
            eventProducer := e.producer
            messages := l.consumer.messages ++ e.message.take e.size.toNat
            events := l.consumer.events ++ n.event.filterMap id }
          globals := l.globals.release }) := by
  rw [publish, hn]
  simp only [CEConsumer.setFirstEvent_of_le _ hsize]

theorem publish_of_completes {n : Notification} (l : Listener) (h : Completes n) :
    (l.publish n).1 = .returned true ∧
    (l.publish n).2.consumer.events = l.consumer.events ++ publishedEvents n := by
  unfold Completes at h
  unfold publishedEvents
  cases hn : n.event with
  | nil =>
    rw [hn] at h
    exact absurd h id
  | cons e rest =>
    rw [hn] at h
    cases e with
    | none =>
      rw [publish, hn, List.append_nil]
      exact ⟨rfl, rfl⟩
    | some e =>
      rw [publish_of_event l hn h, hn]
      exact ⟨rfl, rfl⟩

/-- Otherwise it ends in the same way whatever the consumer holds, and publishes nothing. -/
theorem publish_of_not_completes {n : Notification} (h : ¬Completes n) :
    (∀ l : Listener, l.publish n = (.undefined, l)) ∨
    ∀ l : Listener, (l.publish n).1 = .raised (.std .outOfRange) ∧
      (l.publish n).2.consumer.events = l.consumer.events := by
  unfold Completes at h
  cases hn : n.event with
  | nil =>
    refine Or.inl fun l => ?_
    rw [publish, hn]
  | cons e rest =>
    rw [hn] at h
    cases e with
    | none => exact absurd trivial h
    | some e =>
      refine Or.inr fun l => ?_
      obtain ⟨messages, hfirst⟩ := CEConsumer.setFirstEvent_of_gt
        { l.consumer with topic := n.topic.map Topic.copy } (not_le.mp h)
      rw [publish, hn]
      simp only [hfirst, and_self]

/-- `publish` leaves the peer's DN and the other global variable alone. -/
theorem publish_frame (n : Notification) (l : Listener) :
    (l.publish n).2.consumer.authn = l.consumer.authn ∧
    (l.publish n).2.consumer.clientDN = l.consumer.clientDN ∧
    (l.publish n).2.globals.pointer_nullness = l.globals.pointer_nullness := by
  cases hn : n.event with
  | nil =>
    rw [publish, hn]
    exact ⟨rfl, rfl, rfl⟩
  | cons e rest =>
    cases e with
    | none =>
      rw [publish, hn]
      exact ⟨rfl, rfl, Globals.pointer_nullness_release _⟩
    | some e =>
      by_cases hsize : e.size ≤ 32767
      · rw [publish_of_event l hn hsize]
        exact ⟨rfl, rfl, Globals.pointer_nullness_release _⟩
      · obtain ⟨messages, hfirst⟩ := CEConsumer.setFirstEvent_of_gt
          { l.consumer with topic := n.topic.map Topic.copy } (not_le.mp hsize)
        rw [publish, hn]
        simp only [hfirst, and_self]

/-! ## What `serve` does -/

variable (rt : SoapRuntime) (r : Request) (l : Listener)

theorem serve_of_error (h : r.ret ≠ SOAP_OK) :
    l.serve rt r
      = ({ l with globals := dispatch r l.globals } : Listener).serveError rt r.soap := by
  rw [serve]
  exact if_pos h

/-- `SOAP_OK` means that the handler has just accepted a notification with a topic. -/
theorem serve_of_ok (h : r.ret = SOAP_OK) :
    ∃ n t, r.handler = some (some n) ∧ n.topic = some t ∧
      l.serve rt r = ({ l with globals := ⟨.live n, false⟩ } : Listener).publish n := by
  obtain ⟨notif, hhandler, haccepted⟩ := r.ok_accepted h
  have hok := haccepted l.globals
  cases notif with
  | none => cases hok
  | some n =>
    cases ht : n.topic with
    | none =>
      simp only [monitorws__Notify, ht] at hok
      cases hok
    | some t =>
      refine ⟨n, t, hhandler, ht, ?_⟩
      have hdispatch : dispatch r l.globals = ⟨.live n, false⟩ := by
        simp only [dispatch, hhandler, monitorws__Notify, ht]
      rw [serve, hdispatch]
      exact if_neg (not_not.mpr h)

variable {rt r l} in
/-- The same, for the notification that the handler got. -/
theorem serve_of_handler {n : Notification} (h : r.ret = SOAP_OK)
    (hn : r.handler = some (some n)) :
    (∃ t, n.topic = some t) ∧
    l.serve rt r = ({ l with globals := ⟨.live n, false⟩ } : Listener).publish n := by
  obtain ⟨n', t, hn', ht, hserve⟩ := serve_of_ok rt r l h
  rw [hn] at hn'
  cases hn'
  exact ⟨⟨t, ht⟩, hserve⟩

end Listener

end CEMonitor
