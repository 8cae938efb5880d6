import CEMonitor.Infra.Run
import CEMonitor.Objects

/-!
# Programs that use the library

A client makes objects, hands them to each other's member functions, lets a request object make
its remote calls, and deletes them. Its statements are given twice: as a step on the values of its
variables, which is how one reads such a program, and as what the compiled program does, where a
variable is the address of an object and the objects point at each other.

Variables are numbered in the order in which they are made. A variable that was deleted has no
value. A statement that uses one, uses an object of another class, or passes a null pointer where
the library follows it, has no meaning on values: the step is `none`.
-/

namespace CEMonitor

open Infra

namespace Client

/-- One statement. -/
inductive Statement where
  | newDialect (name : String)
  | newParameter (name value : String)
  | newQuery (expr qlang : String)
  | newAction (name type : String) (doActionWhenQueryIs : Bool)
  | newTopic (name : String)
  | newPolicy (rate : Int)
  | newSubscription (n : FaultIntegers)
  | newManager (n : FaultIntegers)
  | newEvent (n : FaultIntegers)
  | copy (i : Nat)
  | delete (i : Nat)
  | setDialectName (i : Nat) (newName : String)
  | addQueryLanguage (i : Nat) (newQl : String)
  | setDialectNameAt (i idx : Nat) (newName : String)
  | addDialect (i : Nat) (d : Option Nat)
  | addParameter (i q : Nat)
  | addParameterAt (i idx q : Nat)
  | addAction (i a : Nat)
  | addAction_Query (i a : Nat) (q : Option Nat)
  | setQuery (i : Nat) (q : Option Nat)
  | setServiceURL (i : Nat) (url : String)
  | setSubscribeParam (i : Nat) (consumer : String) (topic policy : Nat) (duration : Int)
  | subscribe (i : Nat) (x : Exchange (Option SubscriptionRef))
  | update (i : Nat) (endpoint subid newConsumerURL : String) (topic policy : Nat) (t : Int)
      (x : Exchange (Option SubscriptionRef))
  | setRequestParam (i : Nat) (topic : Option Nat)
  | getTopicEvents (i : Nat) (eventMex : List (List String))
      (x : Exchange (Option (List (Option Event))))

/-! ## On values -/

/-- The value of a variable. An event keeps which variable its topic is, not the topic. -/
inductive Value where
  | dialect (d : Dialect)
  | parameter (p : Parameter)
  | query (q : Query)
  | action (a : Action)
  | topic (t : Topic)
  | policy (p : Policy)
  | subscription (s : CESubscription)
  | manager (m : CESubscriptionMgr)
  | event (topic : Option Nat) (e : CEEvent)

namespace Value

def dialect? : Value → Option Dialect
  | dialect d => some d
  | _ => none

def parameter? : Value → Option Parameter
  | parameter p => some p
  | _ => none

def query? : Value → Option Query
  | query q => some q
  | _ => none

def action? : Value → Option Action
  | action a => some a
  | _ => none

def topic? : Value → Option Topic
  | topic t => some t
  | _ => none

def policy? : Value → Option Policy
  | policy p => some p
  | _ => none

def subscription? : Value → Option CESubscription
  | subscription s => some s
  | _ => none

def manager? : Value → Option CESubscriptionMgr
  | manager m => some m
  | _ => none

def event? : Value → Option (Option Nat × CEEvent)
  | event t e => some (t, e)
  | _ => none

end Value

/-- The value of a call that returns. -/
def returned? {α : Type} : Result α → Option α
  | .returned a => some a
  | _ => none

/-- The copy constructors. -/
def Value.copy : Value → Option Value
  | .dialect d => some (.dialect d.copy)
  | .parameter p => some (.parameter p)
  | .query q => some (.query q)
  | .action a => (returned? a.copy).map .action
  | .topic t => some (.topic t.copy)
  | .policy p => (returned? p.copy).map .policy
  | _ => none

def Value.setServiceURL (url : String) : Value → Option Value
  | .subscription o => some (.subscription { o with base := o.base.setServiceURL url })
  | .manager o => some (.manager { o with base := o.base.setServiceURL url })
  | .event t o => some (.event t { o with base := o.base.setServiceURL url })
  | _ => none

/-- The variables, and the remote calls so far. -/
structure State where
  vars : List (Option Value)
  replies : List Objects.Reply

namespace State

def start : State where
  vars := []
  replies := []

/-- The value of a variable that is there. -/
def var (i : Nat) (s : State) : Option Value := s.vars[i]?.join

/-- The value of a variable of one class. -/
def get {α : Type} (cast : Value → Option α) (i : Nat) (s : State) : Option α :=
  (s.var i).bind cast

/-- A pointer argument: null, or a variable. -/
def arg {α : Type} (cast : Value → Option α) (i : Option Nat) (s : State) : Option (Option α) :=
  match i with
  | none => some none
  | some i => (s.get cast i).map some

def declare (v : Value) (s : State) : State := { s with vars := s.vars ++ [some v] }

def assign (i : Nat) (v : Value) (s : State) : State := { s with vars := s.vars.set i (some v) }

def drop (i : Nat) (s : State) : State := { s with vars := s.vars.set i none }

/-- After a remote call the program goes on, if the call returned or raised an exception. -/
def called (i : Nat) (v : Value) (outcome : Result Unit) (sent : List SoapCall) (s : State) :
    Option State :=
  match outcome with
  | .returned _ | .raised _ =>
    some { vars := s.vars.set i (some v), replies := s.replies ++ [(outcome, sent)] }
  | .unexpected | .undefined => none

end State

/-- A statement on the values. -/
def step (rt : SoapRuntime) : Statement → State → Option State
  | .newDialect name, s => some (s.declare (.dialect (Dialect.new name)))
  | .newParameter name value, s => some (s.declare (.parameter { name := name, value := value }))
  | .newQuery expr qlang, s =>
    some (s.declare (.query { expression := expr, queryLanguage := qlang }))
  | .newAction name type b, s => some (s.declare (.action (Action.new name type b)))
  | .newTopic name, s => some (s.declare (.topic (Topic.new name)))
  | .newPolicy rate, s => some (s.declare (.policy (Policy.new rate)))
  | .newSubscription n, s => some (s.declare (.subscription (CESubscription.new n)))
  | .newManager n, s => some (s.declare (.manager (CESubscriptionMgr.new n)))
  | .newEvent n, s => some (s.declare (.event none (CEEvent.new n)))
  | .copy i, s => do
    let v ← s.var i
    let w ← v.copy
    pure (s.declare w)
  | .delete i, s => do
    let _ ← s.var i
    pure (s.drop i)
  | .setDialectName i newName, s => do
    let d ← s.get Value.dialect? i
    pure (s.assign i (.dialect (d.setDialectName newName)))
  | .addQueryLanguage i newQl, s => do
    let d ← s.get Value.dialect? i
    pure (s.assign i (.dialect (d.addQueryLanguage newQl)))
  | .setDialectNameAt i idx newName, s => do
    let t ← s.get Value.topic? i
    let d ← t.dialect[idx]?.join
    pure (s.assign i (.topic
      { t with dialect := t.dialect.set idx (some (d.setDialectName newName)) }))
  | .addDialect i d, s => do
    let t ← s.get Value.topic? i
    let d ← s.arg Value.dialect? d
    pure (s.assign i (.topic (t.addDialect d)))
  | .addParameter i q, s => do
    let a ← s.get Value.action? i
    let p ← s.get Value.parameter? q
    pure (s.assign i (.action (a.addParameter p)))
  | .addParameterAt i idx q, s => do
    let p ← s.get Value.policy? i
    let a ← p.action[idx]?.join
    let q ← s.get Value.parameter? q
    pure (s.assign i (.policy { p with action := p.action.set idx (some (a.addParameter q)) }))
  | .addAction i a, s => do
    let p ← s.get Value.policy? i
    let a ← s.get Value.action? a
    let p ← returned? (p.addAction a)
    pure (s.assign i (.policy p))
  | .addAction_Query i a q, s => do
    let p ← s.get Value.policy? i
    let a ← s.get Value.action? a
    let q ← s.arg Value.query? q
    let p ← returned? (p.addAction_Query a q)
    pure (s.assign i (.policy p))
  | .setQuery i q, s => do
    let p ← s.get Value.policy? i
    let q ← s.arg Value.query? q
    pure (s.assign i (.policy (p.setQuery q)))
  | .setServiceURL i url, s => do
    let v ← s.var i
    let v ← v.setServiceURL url
    pure (s.assign i v)
  | .setSubscribeParam i consumer topic policy duration, s => do
    let o ← s.get Value.subscription? i
    let t ← s.get Value.topic? topic
    let p ← s.get Value.policy? policy
    let o ← returned? (o.setSubscribeParam consumer t p duration)
    pure (s.assign i (.subscription o))
  | .subscribe i x, s => do
    let o ← s.get Value.subscription? i
    let k := o.subscribe rt x
    s.called i (.subscription k.obj) k.outcome k.sent
  | .update i endpoint subid newConsumerURL topic policy t x, s => do
    let o ← s.get Value.manager? i
    let topic ← s.get Value.topic? topic
    let policy ← s.get Value.policy? policy
    let k := o.update rt endpoint subid newConsumerURL topic policy t x
    s.called i (.manager k.obj) (k.outcome.map fun _ => ()) k.sent
  | .setRequestParam i topic, s => do
    let (_, e) ← s.get Value.event? i
    let _ ← s.arg Value.topic? topic
    pure (s.assign i (.event topic e))
  | .getTopicEvents i eventMex x, s => do
    let (topic, e) ← s.get Value.event? i
    let t ← s.arg Value.topic? topic
    let k := { e with topic := t }.getTopicEvents rt eventMex x
    s.called i (.event topic k.obj) (k.outcome.map fun _ => ()) k.sent

/-! ## On objects -/

/-- The addresses of the variables, and the remote calls so far. -/
structure Machine where
  vars : List Nat
  replies : List Objects.Reply

namespace Machine

def start : Machine where
  vars := []
  replies := []

def declare (p : Nat) (m : Machine) : Machine := { m with vars := m.vars ++ [p] }

/-- A pointer argument. -/
def pointer (m : Machine) : Option Nat → Objects.Code (Option Nat)
  | none => pure none
  | some j => do
    let p ← Prog.address m.vars[j]?
    pure (some p)

/-- After a remote call the program goes on, if the call returned or raised an exception. -/
def called (reply : Objects.Reply) (m : Machine) : Objects.Code Machine :=
  match reply.1 with
  | .returned _ | .raised _ => pure { m with replies := m.replies ++ [reply] }
  | .unexpected => fun _ => .unexpected
  | .undefined => Prog.undefined

end Machine

/-- A statement on the objects. -/
@[simp]
def exec (rt : SoapRuntime) : Statement → Machine → Objects.Code Machine
  | .newDialect name, m => do
    let p ← Prog.new (.dialect (Dialect.new name))
    pure (m.declare p)
  | .newParameter name value, m => do
    let p ← Prog.new (.parameter { name := name, value := value })
    pure (m.declare p)
  | .newQuery expr qlang, m => do
    let p ← Prog.new (.query { expression := expr, queryLanguage := qlang })
    pure (m.declare p)
  | .newAction name type b, m => do
    let p ← Objects.newAction name type b
    pure (m.declare p)
  | .newTopic name, m => do
    let p ← Prog.new (.topic (TopicObject.new name))
    pure (m.declare p)
  | .newPolicy rate, m => do
    let p ← Prog.new (.policy { query := none, action := [], rate := rate })
    pure (m.declare p)
  | .newSubscription n, m => do
    let p ← Objects.newSubscription n
    pure (m.declare p)
  | .newManager n, m => do
    let p ← Prog.new (.manager (CESubscriptionMgr.new n))
    pure (m.declare p)
  | .newEvent n, m => do
    let p ← Prog.new (.event (.ofEvent none (CEEvent.new n)))
    pure (m.declare p)
  | .copy i, m => do
    let p ← Prog.address m.vars[i]?
    let q ← Objects.copyObject p
    pure (m.declare q)
  | .delete i, m => do
    let p ← Prog.address m.vars[i]?
    Objects.deleteObject p
    pure m
  | .setDialectName i newName, m => do
    let p ← Prog.address m.vars[i]?
    Objects.setDialectName newName p
    pure m
  | .addQueryLanguage i newQl, m => do
    let p ← Prog.address m.vars[i]?
    Objects.addQueryLanguage newQl p
    pure m
  | .setDialectNameAt i idx newName, m => do
    let p ← Prog.address m.vars[i]?
    Objects.setDialectNameAt idx newName p
    pure m
  | .addDialect i d, m => do
    let p ← Prog.address m.vars[i]?
    let d ← m.pointer d
    Objects.addDialect d p
    pure m
  | .addParameter i q, m => do
    let p ← Prog.address m.vars[i]?
    let q ← Prog.address m.vars[q]?
    Objects.addParameter q p
    pure m
  | .addParameterAt i idx q, m => do
    let p ← Prog.address m.vars[i]?
    let q ← Prog.address m.vars[q]?
    Objects.addParameterAt idx q p
    pure m
  | .addAction i a, m => do
    let p ← Prog.address m.vars[i]?
    let a ← Prog.address m.vars[a]?
    Objects.addAction a p
    pure m
  | .addAction_Query i a q, m => do
    let p ← Prog.address m.vars[i]?
    let a ← Prog.address m.vars[a]?
    let q ← m.pointer q
    Objects.addAction_Query a q p
    pure m
  | .setQuery i q, m => do
    let p ← Prog.address m.vars[i]?
    let q ← m.pointer q
    Objects.setQuery q p
    pure m
  | .setServiceURL i url, m => do
    let p ← Prog.address m.vars[i]?
    Objects.setServiceURL url p
    pure m
  | .setSubscribeParam i consumer topic policy duration, m => do
    let p ← Prog.address m.vars[i]?
    let topic ← Prog.address m.vars[topic]?
    let policy ← Prog.address m.vars[policy]?
    Objects.setSubscribeParam consumer topic policy duration p
    pure m
  | .subscribe i x, m => do
    let p ← Prog.address m.vars[i]?
    let reply ← Objects.subscribe rt x p
    m.called reply
  | .update i endpoint subid newConsumerURL topic policy t x, m => do
    let p ← Prog.address m.vars[i]?
    let topic ← Prog.address m.vars[topic]?
    let policy ← Prog.address m.vars[policy]?
    let reply ← Objects.update rt endpoint subid newConsumerURL topic policy t x p
    m.called reply
  | .setRequestParam i topic, m => do
    let p ← Prog.address m.vars[i]?
    let topic ← m.pointer topic
    Objects.setRequestParam topic p
    pure m
  | .getTopicEvents i eventMex x, m => do
    let p ← Prog.address m.vars[i]?
    let reply ← Objects.getTopicEvents rt eventMex x p
    m.called reply

/-- A program, statement by statement. -/
def execAll (rt : SoapRuntime) : List Statement → Machine → Objects.Code Machine
  | [], m => pure m
  | c :: cs, m => do
    let m ← exec rt c m
    execAll rt cs m

end Client

end CEMonitor
