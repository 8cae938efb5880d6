import CEMonitor.Infra.Ownership
import CEMonitor.Requests

/-!
# The objects of the client in memory

The message classes as C++ has them: an object with pointer members, made with `new`, copied
pointer by pointer and freed by a destructor that follows its pointers. `Types.lean` and
`Requests.lean` speak of values, as if an object were the tree below it; here are the objects, and
what every member function does to the memory. gSOAP follows the pointers of a request when it
writes the message, so the remote calls read the trees.
-/

namespace CEMonitor

open Infra

/-- `Topic`. -/
structure TopicObject where
  name : String
  visibility : Option String
  dialect : List (Option Nat)

/-- `Topic::Topic(const string&)`. -/
def TopicObject.new (name : String) : TopicObject where
  name := name
  visibility := none
  dialect := []

/-- `ActionW`. -/
structure ActionObject where
  name : Option Nat
  type : Option Nat
  id : Option Nat
  jarPath : Option Nat
  doActionWhenQueryIs : Bool
  parameter : List (Option Nat)
  property : List (Option Nat)

/-- `Policy`. -/
structure PolicyObject where
  query : Option Nat
  action : List (Option Nat)
  rate : Int

/-- `CESubscription`. -/
structure SubscriptionObject where
  base : AbsRequest
  subscriptionID : String
  topic : Option Nat
  policy : Option Nat
  consumerURL : String
  duration : Int

/-- `CEEvent`. The topic is the caller's. -/
structure EventObject where
  base : AbsRequest
  topic : Option Nat
  event : Option Event
  eventArray : Option (List (Option Event))
  sizeMessage : Int
  messageCounter : Int
  retrievedInfo : Bool

/-- The subscription that the object stands for when its pointers stand for these. -/
def SubscriptionObject.holding (topic : Option Topic) (policy : Option Policy)
    (o : SubscriptionObject) : CESubscription where
  base := o.base
  subscriptionID := o.subscriptionID
  topic := topic
  policy := policy
  consumerURL := o.consumerURL
  duration := o.duration

/-- The event that the object stands for when its pointer stands for this topic. -/
def EventObject.holding (topic : Option Topic) (o : EventObject) : CEEvent where
  base := o.base
  topic := topic
  event := o.event
  eventArray := o.eventArray
  sizeMessage := o.sizeMessage
  messageCounter := o.messageCounter
  retrievedInfo := o.retrievedInfo

/-- The object of an event, with a pointer in place of the topic. -/
def EventObject.ofEvent (topic : Option Nat) (o : CEEvent) : EventObject where
  base := o.base
  topic := topic
  event := o.event
  eventArray := o.eventArray
  sizeMessage := o.sizeMessage
  messageCounter := o.messageCounter
  retrievedInfo := o.retrievedInfo

namespace Objects

/-- One object. -/
inductive Cell where
  | text (s : String)
  | dialect (d : Dialect)
  | parameter (p : Parameter)
  | property (p : Property)
  | query (q : Query)
  | action (a : ActionObject)
  | topic (t : TopicObject)
  | policy (p : PolicyObject)
  | subscription (s : SubscriptionObject)
  | manager (m : CESubscriptionMgr)
  | event (e : EventObject)

namespace Cell

def text? : Cell → Option String
  | text s => some s
  | _ => none

def dialect? : Cell → Option Dialect
  | dialect d => some d
  | _ => none

def parameter? : Cell → Option Parameter
  | parameter p => some p
  | _ => none

def property? : Cell → Option Property
  | property p => some p
  | _ => none

def query? : Cell → Option Query
  | query q => some q
  | _ => none

def action? : Cell → Option ActionObject
  | action a => some a
  | _ => none

def topic? : Cell → Option TopicObject
  | topic t => some t
  | _ => none

def policy? : Cell → Option PolicyObject
  | policy p => some p
  | _ => none

def subscription? : Cell → Option SubscriptionObject
  | subscription s => some s
  | _ => none

def manager? : Cell → Option CESubscriptionMgr
  | manager m => some m
  | _ => none

def event? : Cell → Option EventObject
  | event e => some e
  | _ => none

end Cell

/-- Code of the client on these objects. -/
abbrev Code (β : Type) := Prog Exception Cell β

/-! ## Dialects, parameters, properties and queries -/

/-- `DialectW::DialectW(const DialectW&)`. -/
def copyDialect (p : Nat) : Code Nat := do
  let d ← Prog.loadAs Cell.dialect? p
  Prog.new (.dialect d.copy)

/-- `DialectW::setDialectName`. -/
def setDialectName (newName : String) (p : Nat) : Code Unit := do
  let d ← Prog.loadAs Cell.dialect? p
  Prog.store p (.dialect (d.setDialectName newName))

/-- `DialectW::addQueryLanguage`. -/
def addQueryLanguage (newQl : String) (p : Nat) : Code Unit := do
  let d ← Prog.loadAs Cell.dialect? p
  Prog.store p (.dialect (d.addQueryLanguage newQl))

/-- The implicit copy constructor of `ParameterW`, in `ActionW::init`; `ActionW::addParameter` makes
the same object from the two strings. -/
def copyParameter (p : Nat) : Code Nat := do
  let a ← Prog.loadAs Cell.parameter? p
  Prog.new (.parameter { name := a.name, value := a.value })

/-- The implicit copy constructor of `PropertyW`, in `ActionW::init`. -/
def copyProperty (p : Nat) : Code Nat := do
  let a ← Prog.loadAs Cell.property? p
  Prog.new (.property { name := a.name, value := a.value })

/-- `QueryW::QueryW(const QueryW&)`. -/
def copyQuery (p : Nat) : Code Nat := do
  let q ← Prog.loadAs Cell.query? p
  Prog.new (.query { expression := q.expression, queryLanguage := q.queryLanguage })

/-! ## Topics -/

/-- `Topic::Topic(const Topic&)`. -/
def copyTopic (p : Nat) : Code Nat := do
  let t ← Prog.loadAs Cell.topic? p
  let dialect ← Prog.each (Prog.mapUnlessNull copyDialect) t.dialect
  Prog.new (.topic { name := t.name, visibility := none, dialect := dialect })

/-- `Topic::~Topic`, and the object itself. -/
def deleteTopic (p : Nat) : Code Unit := do
  let t ← Prog.loadAs Cell.topic? p
  Prog.forEach (Prog.unlessNull Prog.free) t.dialect
  Prog.free p

/-- `Topic::addDialect`. -/
def addDialect (d : Option Nat) (p : Nat) : Code Unit := do
  let newDial ← Prog.mapUnlessNull copyDialect d
  let t ← Prog.loadAs Cell.topic? p
  Prog.store p (.topic { t with dialect := t.dialect ++ [newDial] })

/-- `Topic::getDialectAt(idx)->setDialectName(newName)`. -/
def setDialectNameAt (idx : Nat) (newName : String) (p : Nat) : Code Unit := do
  let t ← Prog.loadAs Cell.topic? p
  let d ← Prog.address (t.dialect[idx]?).join
  setDialectName newName d

/-- What gSOAP makes of a topic. -/
def readTopic (p : Nat) : Code Topic := do
  let t ← Prog.loadAs Cell.topic? p
  let dialect ← Prog.each (Prog.mapUnlessNull (Prog.loadAs Cell.dialect?)) t.dialect
  pure { name := t.name, visibility := t.visibility, dialect := dialect }

/-! ## Actions -/

/-- `ActionW::ActionW(const string&, const string&, const bool)`. -/
def newAction (name type : String) (doActionWhenQueryIs : Bool) : Code Nat := do
  let name ← Prog.new (.text name)
  let type ← Prog.new (.text type)
  let id ← Prog.new (.text "")
  let jarPath ← Prog.new (.text "")
  Prog.new (.action
    { name := some name
      type := some type
      id := some id
      jarPath := some jarPath
      doActionWhenQueryIs := doActionWhenQueryIs
      parameter := []
      property := [] })

/-- `if(p) q = new string(*p); else q = new string("");`. -/
def copyText : Option Nat → Code Nat
  | some p => do
    let s ← Prog.loadAs Cell.text? p
    Prog.new (.text s)
  | none => Prog.new (.text "")

/-- A copy of an entry of a vector, through a pointer that is not tested. -/
def copyEntry (copy : Nat → Code Nat) (p : Option Nat) : Code (Option Nat) := do
  let p ← Prog.address p
  let q ← copy p
  pure (some q)

/-- `ActionW::ActionW(const ActionW&)`, that is `init`. -/
def copyAction (p : Nat) : Code Nat := do
  let a ← Prog.loadAs Cell.action? p
  let name ← copyText a.name
  let type ← copyText a.type
  let id ← copyText a.id
  let parameter ← Prog.each (copyEntry copyParameter) a.parameter
  let property ← Prog.each (copyEntry copyProperty) a.property
  let jarPath ← Prog.new (.text "")
  Prog.new (.action
    { name := some name
      type := some type
      id := some id
      jarPath := some jarPath
      doActionWhenQueryIs := a.doActionWhenQueryIs
      parameter := parameter
      property := property })

/-- `ActionW::~ActionW`, and the object itself. -/
def deleteAction (p : Nat) : Code Unit := do
  let a ← Prog.loadAs Cell.action? p
  Prog.forEach (Prog.unlessNull Prog.free) a.parameter
  Prog.forEach (Prog.unlessNull Prog.free) a.property
  -- `delete` of a null pointer does nothing
  Prog.unlessNull Prog.free a.id
  Prog.unlessNull Prog.free a.jarPath
  Prog.unlessNull Prog.free a.name
  Prog.unlessNull Prog.free a.type
  Prog.free p

/-- `ActionW::addParameter`. -/
def addParameter (q p : Nat) : Code Unit := do
  let newP ← copyParameter q
  let a ← Prog.loadAs Cell.action? p
  Prog.store p (.action { a with parameter := a.parameter ++ [some newP] })

/-- What gSOAP makes of an action. -/
def readAction (p : Nat) : Code Action := do
  let a ← Prog.loadAs Cell.action? p
  let name ← Prog.mapUnlessNull (Prog.loadAs Cell.text?) a.name
  let type ← Prog.mapUnlessNull (Prog.loadAs Cell.text?) a.type
  let id ← Prog.mapUnlessNull (Prog.loadAs Cell.text?) a.id
  let jarPath ← Prog.mapUnlessNull (Prog.loadAs Cell.text?) a.jarPath
  let parameter ← Prog.each (Prog.mapUnlessNull (Prog.loadAs Cell.parameter?)) a.parameter
  let property ← Prog.each (Prog.mapUnlessNull (Prog.loadAs Cell.property?)) a.property
  pure
    { name := name
      type := type
      id := id
      jarPath := jarPath
      doActionWhenQueryIs := a.doActionWhenQueryIs
      parameter := parameter
      property := property }

/-! ## Policies -/

/-- `Policy::Policy(const Policy&)`. -/
def copyPolicy (p : Nat) : Code Nat := do
  let a ← Prog.loadAs Cell.policy? p
  let query ← Prog.mapUnlessNull copyQuery a.query
  let action ← Prog.each (copyEntry copyAction) a.action
  Prog.new (.policy { query := query, action := action, rate := a.rate })

/-- `Policy::~Policy`, and the object itself. -/
def deletePolicy (p : Nat) : Code Unit := do
  let a ← Prog.loadAs Cell.policy? p
  Prog.unlessNull Prog.free a.query
  Prog.forEach (Prog.unlessNull deleteAction) a.action
  Prog.free p

/-- `Policy::addAction`. -/
def addAction (a p : Nat) : Code Unit := do
  let tmpA ← copyAction a
  let o ← Prog.loadAs Cell.policy? p
  Prog.store p (.policy { o with action := o.action ++ [some tmpA] })

/-- `Policy::setQuery`. The old query is gone before the new one is copied. -/
def setQuery (q : Option Nat) (p : Nat) : Code Unit := do
  let o ← Prog.loadAs Cell.policy? p
  Prog.unlessNull Prog.free o.query
  let query ← Prog.mapUnlessNull copyQuery q
  Prog.store p (.policy { o with query := query })

/-- `Policy::addAction_Query`. -/
def addAction_Query (a : Nat) (q : Option Nat) (p : Nat) : Code Unit := do
  addAction a p
  setQuery q p

/-- `Policy::getActionAt(idx)->addParameter(q)`. -/
def addParameterAt (idx : Nat) (q p : Nat) : Code Unit := do
  let o ← Prog.loadAs Cell.policy? p
  let a ← Prog.address (o.action[idx]?).join
  addParameter q a

/-- What gSOAP makes of a policy. -/
def readPolicy (p : Nat) : Code Policy := do
  let a ← Prog.loadAs Cell.policy? p
  let query ← Prog.mapUnlessNull (Prog.loadAs Cell.query?) a.query
  let action ← Prog.each (Prog.mapUnlessNull readAction) a.action
  pure { query := query, action := action, rate := a.rate }

/-! ## Requests -/

/-- `CESubscription::CESubscription()`. -/
def newSubscription (n : FaultIntegers) : Code Nat :=
  Prog.new (.subscription
    { base := AbsRequest.new n
      subscriptionID := ""
      topic := none
      policy := none
      consumerURL := ""
      duration := 0 })

/-- `CESubscription::~CESubscription`, and the object itself. -/
def deleteSubscription (p : Nat) : Code Unit := do
  let o ← Prog.loadAs Cell.subscription? p
  Prog.unlessNull deleteTopic o.topic
  Prog.unlessNull deletePolicy o.policy
  Prog.free p

/-- `CESubscription::setSubscribeParam`. -/
def setSubscribeParam (consumer : String) (topic policy : Nat) (duration : Int) (p : Nat) :
    Code Unit := do
  let o ← Prog.loadAs Cell.subscription? p
  Prog.unlessNull deleteTopic o.topic
  Prog.unlessNull deletePolicy o.policy
  let newTopic ← copyTopic topic
  let newPolicy ← copyPolicy policy
  Prog.store p (.subscription
    { o with
      consumerURL := consumer
      topic := some newTopic
      policy := some newPolicy
      duration := duration })

/-- How a remote call ended and what it sent. -/
abbrev Reply := Result Unit × List SoapCall

/-- gSOAP follows a pointer of the request if there is a request. -/
def follow {β : Type} (url : String) (read : Nat → Code β) (p : Option Nat) : Code (Option β) :=
  if url = "" then pure none else Prog.mapUnlessNull read p

/-- `CESubscription::subscribe`. -/
def subscribe (rt : SoapRuntime) (x : Exchange (Option SubscriptionRef)) (p : Nat) :
    Code Reply := do
  let o ← Prog.loadAs Cell.subscription? p
  let topic ← follow o.consumerURL readTopic o.topic
  let policy ← follow o.consumerURL readPolicy o.policy
  let k := (o.holding topic policy).subscribe rt x
  Prog.store p (.subscription
    { o with base := k.obj.base, subscriptionID := k.obj.subscriptionID })
  pure (k.outcome, k.sent)

/-- `CESubscriptionMgr::update`, which only borrows the topic and the policy. -/
def update (rt : SoapRuntime) (endpoint subid newConsumerURL : String) (topic policy : Nat)
    (t : Int) (x : Exchange (Option SubscriptionRef)) (p : Nat) : Code Reply := do
  let o ← Prog.loadAs Cell.manager? p
  let topic ← readTopic topic
  let policy ← readPolicy policy
  let k := o.update rt endpoint subid newConsumerURL topic policy t x
  Prog.store p (.manager k.obj)
  pure (k.outcome.map fun _ => (), k.sent)

/-- `CEEvent::setRequestParam`. The pointer is kept, not what it points at. -/
def setRequestParam (topic : Option Nat) (p : Nat) : Code Unit := do
  let o ← Prog.loadAs Cell.event? p
  Prog.store p (.event { o with topic := topic })

/-- `CEEvent::getTopicEvents`. -/
def getTopicEvents (rt : SoapRuntime) (eventMex : List (List String))
    (x : Exchange (Option (List (Option Event)))) (p : Nat) : Code Reply := do
  let o ← Prog.loadAs Cell.event? p
  let topic ← follow o.base.serviceURL readTopic o.topic
  let k := (o.holding topic).getTopicEvents rt eventMex x
  Prog.store p (.event (.ofEvent o.topic k.obj))
  pure (k.outcome.map fun _ => (), k.sent)

/-! ## Objects of any class -/

/-- `AbsRequest::setServiceURL`, in a class that derives from `AbsRequest`. -/
def Cell.setServiceURL? (url : String) : Cell → Option Cell
  | subscription o => some (.subscription { o with base := o.base.setServiceURL url })
  | manager o => some (.manager { o with base := o.base.setServiceURL url })
  | event o => some (.event { o with base := o.base.setServiceURL url })
  | _ => none

def setServiceURL (url : String) (p : Nat) : Code Unit := do
  let c ← Prog.loadAs (Cell.setServiceURL? url) p
  Prog.store p c

/-- The copy constructor of the object's class. The requests have none that the library uses. -/
def copyObject (p : Nat) : Code Nat := do
  let c ← Prog.load p
  match c with
  | .dialect _ => copyDialect p
  | .parameter _ => copyParameter p
  | .query _ => copyQuery p
  | .action _ => copyAction p
  | .topic _ => copyTopic p
  | .policy _ => copyPolicy p
  | _ => Prog.undefined

/-- `delete`, or the end of the object's scope. -/
def deleteObject (p : Nat) : Code Unit := do
  let c ← Prog.load p
  match c with
  | .action _ => deleteAction p
  | .topic _ => deleteTopic p
  | .policy _ => deletePolicy p
  | .subscription _ => deleteSubscription p
  | _ => Prog.free p

end Objects

end CEMonitor
