import CEMonitor.AbsRequest
import CEMonitor.Types

/-!
# The request classes and their remote operations

`CEEvent`, `CEInfo`, `CETopics`, `CESubscription` and `CESubscriptionMgr`: the members each
adds to `AbsRequest`, and the nine remote operations. What the outside world supplies during
one operation (the clock, gSOAP's state after the call, the response) is an `Exchange`; what
the operation does is a `Call`: how it ended, the object it left and the messages it sent.
-/

namespace CEMonitor

open Infra

/-! ## One exchange with the service -/

/-- A message handed to gSOAP, with the endpoint it is sent to. -/
inductive SoapCall where
  | getTopicEvent (endpoint : String) (topic : Option Topic)
  | getInfo (endpoint : String)
  | getTopics (endpoint : String)
  | subscribe (endpoint : String) (sub : SubscriptionData)
  | unsubscribe (endpoint : String) (ref : SubscriptionRef)
  | pauseSubscription (endpoint : String) (ref : SubscriptionRef)
  | resumeSubscription (endpoint : String) (ref : SubscriptionRef)
  | getSubscription (endpoint : String)
  | update (endpoint : String) (sub : SubscriptionData)
  deriving DecidableEq, Repr

/--
The outside world during one operation. A `soap_call_...` returns `soap->error`. `resp` is what
it leaves in the response structure, `none` when it does not touch it.
-/
structure Exchange (ρ : Type) where
  now : Int
  soap : Soap
  resp : Option ρ

/-- What an operation does. -/
structure Call (σ α : Type) where
  outcome : Result α
  obj : σ
  sent : List SoapCall

/-- The object with which the caller goes on; an exception is caught. -/
def Call.goesOn {σ α : Type} (k : Call σ α) : Option σ :=
  match k.outcome with
  | .returned _ => some k.obj
  | .raised _ => some k.obj
  | .unexpected => none
  | .undefined => none

theorem Call.obj_of_goesOn {σ α : Type} {k : Call σ α} {s : σ} (h : k.goesOn = some s) :
    s = k.obj := by
  unfold Call.goesOn at h
  split at h <;> cases h <;> rfl

theorem Call.outcome_of_goesOn {σ α : Type} {k : Call σ α} {s : σ} (h : k.goesOn = some s) :
    (∃ a, k.outcome = .returned a) ∨ ∃ e, k.outcome = .raised e := by
  unfold Call.goesOn at h
  split at h
  · next a ha => exact Or.inl ⟨a, ha⟩
  · next e he => exact Or.inr ⟨e, he⟩
  · cases h
  · cases h

/-- The end of every failed call: `setError`, then the exception. -/
def AbsRequest.fail {α : Type} (rt : SoapRuntime) (now : Int) (r : AbsRequest) :
    Result α × AbsRequest :=
  match r.setError rt with
  | .returned r' => (r'.throwException now, r')
  | .raised e => (.raised e, r)
  | .unexpected => (.unexpected, r)
  | .undefined => (.undefined, r)

namespace AbsRequest

/-- A failed call ends in an exception or, inside `setError`, in `std::unexpected`. -/
theorem fail_cases (rt : SoapRuntime) (now : Int) (r : AbsRequest) :
    (setError rt r = .unexpected ∧ ∀ α : Type, r.fail rt now = ((.unexpected : Result α), r)) ∨
    ∃ r', setError rt r = .returned r' ∧
      ∀ α : Type, r.fail rt now = ((r'.throwException now : Result α), r') := by
  rcases setError_cases rt r with h | ⟨r', h⟩
  · exact Or.inl ⟨h, fun α => by rw [fail, h]⟩
  · exact Or.inr ⟨r', h, fun α => by rw [fail, h]⟩

theorem fail_ne_returned {α : Type} (rt : SoapRuntime) (now : Int) (r : AbsRequest) (a : α) :
    (r.fail rt now).1 ≠ .returned a := by
  intro heq
  rcases fail_cases rt now r with ⟨-, h⟩ | ⟨r', -, h⟩
  · rw [h] at heq
    cases heq
  · obtain ⟨e, he⟩ := throwException_eq_raised now r'
    rw [h, he] at heq
    cases heq

theorem map_fail {α β : Type} (rt : SoapRuntime) (now : Int) (r : AbsRequest) (f : α → β) :
    (r.fail rt now : Result α × AbsRequest).1.map f = (r.fail rt now).1 := by
  rcases fail_cases rt now r with ⟨-, h⟩ | ⟨r', -, h⟩
  · rw [h α, h β]
    rfl
  · obtain ⟨e, he⟩ := throwException_eq_raised now r'
    rw [h α, h β]
    simp only [he, Outcome.map_raised]

theorem fail_snd {α β : Type} (rt : SoapRuntime) (now : Int) (r : AbsRequest) :
    (r.fail rt now : Result α × AbsRequest).2 = (r.fail rt now : Result β × AbsRequest).2 := by
  rcases fail_cases rt now r with ⟨-, h⟩ | ⟨r', -, h⟩
  · rw [h α, h β]
  · rw [h α, h β]

end AbsRequest

variable (rt : SoapRuntime)

/-! ## CEEvent -/

structure CEEvent where
  base : AbsRequest
  topic : Option Topic
  /-- `m_evtResp.Event`, which no live code fills. -/
  event : Option Event
  /-- `m_topicEvtResp.EventArray`. -/
  eventArray : Option (List (Option Event))
  sizeMessage : Int
  messageCounter : Int
  retrievedInfo : Bool

namespace CEEvent

def new (n : FaultIntegers) : CEEvent where
  base := AbsRequest.new n
  topic := none
  event := none
  eventArray := none
  sizeMessage := 0
  messageCounter := 0
  retrievedInfo := false

/-- `CEEvent::setRequestParam`. -/
def setRequestParam (topic : Option Topic) (o : CEEvent) : CEEvent := { o with topic := topic }

def getTopicEventsSpec : List ExceptionClass :=
  [.ce .generic, .ce .topicNotSupported, .ce .dialectNotSupported, .abs .serviceNotFound,
    .abs .general, .ce .authentication, .ce .authorization]

/-- `CEEvent::getTopicEvents`; the value is `event_Mex` after the call. -/
def getTopicEvents (eventMex : List (List String)) (x : Exchange (Option (List (Option Event))))
    (o : CEEvent) : Call CEEvent (List (List String)) :=
  if o.base.serviceURL = "" then
    { outcome := throws getTopicEventsSpec <|
        .raised (.abs .general "Must set a remote service to connect to")
      obj := o
      sent := [] }
  else
    let sent := [SoapCall.getTopicEvent o.base.serviceURL o.topic]
    let o := { o with
      base := { o.base with soap := x.soap }
      eventArray := x.resp.getD o.eventArray }
    if x.soap.error ≠ SOAP_OK then
      let (e, base) := o.base.fail rt x.now
      { outcome := throws getTopicEventsSpec e, obj := { o with base := base }, sent := sent }
    else
      match o.eventArray with
      | none =>
        { outcome := throws getTopicEventsSpec <|
            .raised (.abs .general "Null pointer Event. Probable de-serialization error")
          obj := o
          sent := sent }
      | some events =>
        { outcome := .returned
            (eventMex ++ events.filterMap fun e => e.map Event.message)
          obj := { o with retrievedInfo := true }
          sent := sent }

/-- `CEEvent::getNumberOfMessages`. -/
def getNumberOfMessages (o : CEEvent) : Int := if o.retrievedInfo then o.sizeMessage else 0

/-- `CEEvent::getNextEventMessage`, which reads the event that no live code fills. -/
def getNextEventMessage (o : CEEvent) : Result (Option String) × CEEvent :=
  if ¬o.retrievedInfo then (.returned none, o)
  else if o.messageCounter > o.sizeMessage - 1 then
    (.returned none, { o with messageCounter := 0 })
  else
    match o.event with
    | some e =>
      if e.message.length ≠ 0 then
        (throws [] ((at? e.message o.messageCounter).map some),
          { o with messageCounter := o.messageCounter + 1 })
      else (.returned none, o)
    | none => (.returned none, o)

/-- `CEEvent::getLastEventMessage`. It returns a `std::string` that is made from a `const char*`,
NULL included, under `throw()`. -/
def getLastEventMessage (o : CEEvent) : Result String :=
  throws [] <|
    if ¬o.retrievedInfo then stringOf none
    else
      match o.event with
      | some e =>
        if e.message.length ≠ 0 then
          (at? e.message (e.message.length - 1)).bind fun m => stringOf (some (Text.cStr m))
        else stringOf none
      | none => stringOf none

/-- `size() - 1` for a `size_t`, which wraps at zero. -/
def sizeMinusOne (messages : List String) : Int :=
  if messages.length = 0 then 2 ^ 64 - 1 else messages.length - 1

/-- `CEEvent::getEventMessageAt`. The index is tested before the event, and with its size. -/
def getEventMessageAt (idx : Int) (o : CEEvent) : Result String :=
  throws [] <|
    if ¬o.retrievedInfo then stringOf none
    else if idx < 0 then stringOf none
    else
      (Outcome.deref o.event).bind fun e =>
        if idx > sizeMinusOne e.message then stringOf none
        else if e.message.length ≠ 0 then
          (at? e.message idx).bind fun m => stringOf (some (Text.cStr m))
        else stringOf none

end CEEvent

/-! ## CEInfo -/

structure CEInfo where
  base : AbsRequest
  /-- `resp.CEInfo`. -/
  info : Option Info

namespace CEInfo

/-- The response points at the object's own empty `info` until a call fills it. -/
def new (n : FaultIntegers) : CEInfo where
  base := AbsRequest.new n
  info := some
    { serviceVersion := "", description := none, topic := [], action := [], property := [] }

def getInfoSpec : List ExceptionClass :=
  [.ce .generic, .ce .topicNotSupported, .ce .dialectNotSupported, .abs .serviceNotFound,
    .abs .general, .ce .authentication, .ce .authorization]

/-- `CEInfo::getInfo`. -/
def getInfo (x : Exchange (Option Info)) (o : CEInfo) : Call CEInfo Unit :=
  -- the service URL is not tested
  let sent := [SoapCall.getInfo o.base.serviceURL]
  let o := { o with
    base := { o.base with soap := x.soap }
    info := x.resp.getD o.info }
  if x.soap.error ≠ SOAP_OK then
    let (e, base) := o.base.fail rt x.now
    { outcome := throws getInfoSpec e, obj := { o with base := base }, sent := sent }
  else { outcome := .returned (), obj := o, sent := sent }

theorem info_getInfo (x : Exchange (Option Info)) (o : CEInfo) :
    (o.getInfo rt x).obj.info = x.resp.getD o.info := by
  unfold getInfo
  split <;> rfl

/-- Copying a response's topics into the caller's vector. -/
def copyTopics (ps : List (Option Topic)) : Result (List Topic) :=
  Outcome.traverse (fun t => .returned t.copy) ps

/-- Copying a response's actions into the caller's vector. -/
def copyActions (ps : List (Option Action)) : Result (List Action) :=
  Outcome.traverse Action.copy ps

theorem copyTopics_returns_iff {ps : List (Option Topic)} :
    (∃ ts, copyTopics ps = .returned ts) ↔ none ∉ ps :=
  Outcome.traverse_returns_iff_not_mem fun t => ⟨t.copy, rfl⟩

theorem copyActions_returns_iff {ps : List (Option Action)} :
    (∃ as, copyActions ps = .returned as) ↔ ∀ p ∈ ps, ∃ a, p = some a ∧ a.Intact := by
  rw [copyActions, Outcome.traverse_returns_iff]
  constructor
  · intro h p hp
    obtain ⟨a, b, ha, hb⟩ := h p hp
    exact ⟨a, ha, Action.copy_returns_iff.mp ⟨b, hb⟩⟩
  · intro h p hp
    obtain ⟨a, ha, hintact⟩ := h p hp
    exact ⟨a, _, ha, Action.copy_of_intact hintact⟩

/-- `CEInfo::getTopics`. -/
def getTopics (tvec : List Topic) (o : CEInfo) : Result (List Topic) :=
  match o.info with
  | some info => (copyTopics info.topic).map fun ts => tvec ++ ts
  | none => .returned tvec

/-- `CEInfo::getActions`. -/
def getActions (avec : List Action) (o : CEInfo) : Result (List Action) :=
  match o.info with
  | some info => (copyActions info.action).map fun as => avec ++ as
  | none => .returned avec

end CEInfo

/-! ## CETopics -/

structure CETopics where
  base : AbsRequest
  retrievedTopics : Bool
  /-- `topicResp.TopicArray`. One that leads nowhere is an array with a null entry: following it is
  undefined. -/
  topicArray : Option (List (Option Topic))
  sizeTopic : Int

namespace CETopics

/-- The constructor does not set `topicResp`: its content is whatever the memory held. -/
def new (n : FaultIntegers) (topicResp : Option (List (Option Topic))) : CETopics where
  base := AbsRequest.new n
  retrievedTopics := false
  topicArray := topicResp
  sizeTopic := 0

def getTopicsSpec : List ExceptionClass :=
  [.ce .generic, .abs .serviceNotFound, .abs .general, .ce .authentication, .ce .authorization]

/-- `CETopics::getTopics`. -/
def getTopics (x : Exchange (Option (List (Option Topic)))) (o : CETopics) : Call CETopics Unit :=
  let sent := [SoapCall.getTopics o.base.serviceURL]
  let o := { o with
    base := { o.base with soap := x.soap }
    retrievedTopics := false
    sizeTopic := 0
    topicArray := x.resp.getD o.topicArray }
  if x.soap.error = SOAP_OK then
    match o.topicArray with
    | some topics =>
      { outcome := .returned ()
        -- a `size_t` stored in an `int`
        obj := { o with
          sizeTopic := (topics.length : Int).bmod (2 ^ 32)
          retrievedTopics := true }
        sent := sent }
    | none =>
      { outcome := throws getTopicsSpec <| .raised (.abs .general
          "GetTopicResponse->topicArray is NULL! Probable de-serialization error")
        obj := o
        sent := sent }
  else
    let (e, base) := o.base.fail rt x.now
    { outcome := throws getTopicsSpec e, obj := { o with base := base }, sent := sent }

/-- Whatever the call comes to, the structure holds what gSOAP left there. -/
theorem topicArray_getTopics (x : Exchange (Option (List (Option Topic)))) (o : CETopics) :
    (o.getTopics rt x).obj.topicArray = x.resp.getD o.topicArray := by
  simp only [getTopics]
  split
  · split <;> rfl
  · rfl

/-- `CETopics::getNumberOfTopics`. -/
def getNumberOfTopics (o : CETopics) : Int := o.sizeTopic

/-- `CETopics::getTopicArray`. -/
def getTopicArray (tvec : List Topic) (o : CETopics) : Result (List Topic) :=
  match o.topicArray with
  | some topics => (CEInfo.copyTopics topics).map fun ts => tvec ++ ts
  | none => .returned tvec

section GetTopicArray

variable {o : CETopics} (tvec : List Topic)

theorem getTopicArray_of_none (h : o.topicArray = none) : o.getTopicArray tvec = .returned tvec := by
  rw [getTopicArray, h]

variable {topics : List (Option Topic)}

theorem getTopicArray_returns_iff (h : o.topicArray = some topics) :
    (∃ tvec', o.getTopicArray tvec = .returned tvec') ↔ none ∉ topics := by
  rw [getTopicArray, h]
  exact Outcome.map_returns_iff.trans CEInfo.copyTopics_returns_iff

/-- Every topic is copied, in order. -/
theorem getTopicArray_eq_returned_iff (h : o.topicArray = some topics) (tvec' : List Topic) :
    o.getTopicArray tvec = .returned tvec' ↔
      ∃ ts, tvec' = tvec ++ ts ∧
        List.Forall₂ (fun p t => ∃ a : Topic, p = some a ∧ t = a.copy) topics ts := by
  have hcopies : ∀ ts, CEInfo.copyTopics topics = .returned ts ↔
      List.Forall₂ (fun p t => ∃ a : Topic, p = some a ∧ t = a.copy) topics ts := by
    intro ts
    rw [CEInfo.copyTopics, Outcome.traverse_eq_returned_iff]
    simp only [Outcome.returned.injEq, eq_comm]
  rw [getTopicArray, h]
  simp only [Outcome.map_eq_returned_iff, hcopies]
  constructor
  · rintro ⟨ts, hts, rfl⟩
    exact ⟨ts, rfl, hts⟩
  · rintro ⟨ts, rfl, hts⟩
    exact ⟨ts, hts, rfl⟩

end GetTopicArray

end CETopics

/-! ## CESubscription -/

structure CESubscription where
  base : AbsRequest
  subscriptionID : String
  topic : Option Topic
  policy : Option Policy
  consumerURL : String
  duration : Int

namespace CESubscription

def new (n : FaultIntegers) : CESubscription where
  base := AbsRequest.new n
  subscriptionID := ""
  topic := none
  policy := none
  consumerURL := ""
  duration := 0

/-- `CESubscription::setSubscribeParam`. -/
def setSubscribeParam (consumer : String) (topic : Topic) (policy : Policy) (duration : Int)
    (o : CESubscription) : Result CESubscription :=
  policy.copy.map fun policy =>
    { o with
      consumerURL := consumer
      topic := some topic.copy
      policy := some policy
      duration := duration }

def subscribeSpec : List ExceptionClass :=
  [.ce .generic, .ce .topicNotSupported, .ce .dialectNotSupported, .ce .subscription,
    .ce .authentication, .ce .authorization, .abs .serviceNotFound, .abs .general]

/-- `CESubscription::subscribe`. It tests the consumer URL, not the service URL. -/
def subscribe (x : Exchange (Option SubscriptionRef)) (o : CESubscription) :
    Call CESubscription Unit :=
  if o.consumerURL = "" then
    { outcome := throws subscribeSpec <| .raised (.abs .general "Consumer URL not set")
      obj := o
      sent := [] }
  else
    let sub : SubscriptionData :=
      { id := none
        monitorConsumerURL := Text.cStr o.consumerURL
        expirationTime := some (x.now + o.duration)
        topic := o.topic
        policy := o.policy
        name := none
        type := none
        jarPath := none }
    let sent := [SoapCall.subscribe o.base.serviceURL sub]
    let o := { o with base := { o.base with soap := x.soap } }
    if x.soap.error = SOAP_OK then
      -- untouched, the response holds the reference allocated before the call
      match x.resp.getD (some { subscriptionID := "", expirationTime := some 0 }) with
      | some ref =>
        { outcome := .returned ()
          obj := { o with subscriptionID := ref.subscriptionID }
          sent := sent }
      | none =>
        { outcome := throws subscribeSpec <| .raised (.abs .general
            "Serialization Error: subscription reference field of SOAP structure is NULL")
          obj := o
          sent := sent }
    else
      let (e, base) := o.base.fail rt x.now
      { outcome := throws subscribeSpec e
        obj := { o with base := base, subscriptionID := "" }
        sent := sent }

/-- With a consumer URL one message is sent. It has the topic and the policy of the object, and
expires when the duration is over. -/
theorem sent_subscribe (o : CESubscription) (h : o.consumerURL ≠ "")
    (x : Exchange (Option SubscriptionRef)) :
    ∃ sub, ((o.subscribe rt x).sent = [.subscribe o.base.serviceURL sub] ∧
      sub.topic = o.topic ∧ sub.expirationTime = some (x.now + o.duration)) ∧
      sub.policy = o.policy := by
  unfold subscribe
  rw [if_neg h]
  simp only
  split
  · split <;> exact ⟨_, ⟨rfl, rfl, rfl⟩, rfl⟩
  · exact ⟨_, ⟨rfl, rfl, rfl⟩, rfl⟩

/-- `CESubscription::getSubscriptionID`. -/
def getSubscriptionID (o : CESubscription) : String := o.subscriptionID

/-- The specification that `unsubscribe`, `pause` and `resume` share. -/
def subscriptionIDSpec : List ExceptionClass :=
  [.ce .generic, .ce .subscription, .ce .authentication, .ce .authorization,
    .ce .subscriptionNotFound, .abs .serviceNotFound, .abs .general]

/-- The common body of `unsubscribe`, `pause` and `resume`; `msg` is the remote method. -/
def onSubscription (msg : String → SubscriptionRef → SoapCall) (subID : String)
    (x : Exchange Unit) (o : CESubscription) : Call CESubscription Unit :=
  if o.base.serviceURL = "" then
    { outcome := throws subscriptionIDSpec <| .raised (.abs .general "Service URL not set")
      obj := o
      sent := [] }
  else
    let ref : SubscriptionRef := { subscriptionID := subID, expirationTime := some 0 }
    let sent := [msg o.base.serviceURL ref]
    let o := { o with base := { o.base with soap := x.soap } }
    if x.soap.error ≠ SOAP_OK then
      let (e, base) := o.base.fail rt x.now
      { outcome := throws subscriptionIDSpec e, obj := { o with base := base }, sent := sent }
    else { outcome := .returned (), obj := o, sent := sent }

/-- `CESubscription::unsubscribe`. -/
def unsubscribe : String → Exchange Unit → CESubscription → Call CESubscription Unit :=
  onSubscription rt .unsubscribe

/-- `CESubscription::pause`. -/
def pause : String → Exchange Unit → CESubscription → Call CESubscription Unit :=
  onSubscription rt .pauseSubscription

/-- `CESubscription::resume`. -/
def resume : String → Exchange Unit → CESubscription → Call CESubscription Unit :=
  onSubscription rt .resumeSubscription

end CESubscription

/-! ## CESubscriptionMgr -/

structure CESubscriptionMgr where
  base : AbsRequest

namespace CESubscriptionMgr

def new (n : FaultIntegers) : CESubscriptionMgr where
  base := AbsRequest.new n

def listSpec : List ExceptionClass :=
  [.ce .generic, .ce .subscription, .ce .authentication, .ce .authorization,
    .abs .serviceNotFound, .abs .general]

/-- The loop of `list`: `target` grows entry by entry until an entry lacks a field. -/
def listLoop (endpoint : String) :
    List (Option SubscriptionData) → List Subscription → Result Unit × List Subscription
  | [], target => (.returned (), target)
  -- the entry itself is not tested, and neither is its policy
  | none :: _, target => (.undefined, target)
  | some s :: rest, target =>
    match s.id, s.expirationTime, s.topic with
    | some id, some t, some topic =>
      match s.policy with
      | none => (.undefined, target)
      | some policy =>
        listLoop endpoint rest
          (target ++
            [{ subscriptionID := id
               expirationTime := t
               rate := policy.rate
               consumerURL := s.monitorConsumerURL
               topicName := topic.name
               endpoint := endpoint }])
    | _, _, _ =>
      (.raised (.abs .general "id or ExpirationTime or Topic are NULL pointer"), target)

/-- `CESubscriptionMgr::list`; the second component is `target` after the call. -/
def list (endpoint : String) (target : List Subscription)
    (x : Exchange (Option (List (Option SubscriptionData)))) (o : CESubscriptionMgr) :
    Call CESubscriptionMgr Unit × List Subscription :=
  let sent := [SoapCall.getSubscription endpoint]
  let o := { o with base := { o.base with soap := x.soap } }
  if x.soap.error = SOAP_OK then
    match x.resp.getD none with
    | some subscriptions =>
      let (e, target) := listLoop endpoint subscriptions target
      ({ outcome := throws listSpec e, obj := o, sent := sent }, target)
    | none =>
      ({ outcome := throws listSpec <|
          .raised (.abs .general "Received NULL SubscriptionList pointer")
         obj := o
         sent := sent }, target)
  else
    let (e, base) := o.base.fail rt x.now
    ({ outcome := throws listSpec e, obj := { o with base := base }, sent := sent }, target)

def updateSpec : List ExceptionClass :=
  [.ce .generic, .ce .topicNotSupported, .ce .dialectNotSupported, .ce .subscription,
    .ce .authentication, .ce .authorization, .ce .subscriptionNotFound, .abs .serviceNotFound,
    .abs .general]

/-- `CESubscriptionMgr::update`. It returns the response's reference without testing it. -/
def update (endpoint subid newConsumerURL : String) (topic : Topic) (policy : Policy) (t : Int)
    (x : Exchange (Option SubscriptionRef)) (o : CESubscriptionMgr) :
    Call CESubscriptionMgr String :=
  let sub : SubscriptionData :=
    { id := some subid
      monitorConsumerURL := newConsumerURL
      expirationTime := some t
      topic := some topic
      policy := some policy
      name := none
      type := none
      jarPath := none }
  let sent := [SoapCall.update endpoint sub]
  let o := { o with base := { o.base with soap := x.soap } }
  if x.soap.error = SOAP_OK then
    { outcome := throws updateSpec <|
        (Outcome.deref (x.resp.getD none)).map SubscriptionRef.subscriptionID
      obj := o
      sent := sent }
  else
    let (e, base) := o.base.fail rt x.now
    { outcome := throws updateSpec e, obj := { o with base := base }, sent := sent }

end CESubscriptionMgr

end CEMonitor
