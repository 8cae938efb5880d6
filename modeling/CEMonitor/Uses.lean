import CEMonitor.Operations
import CEMonitor.Infra.Run

/-!
# A program on one request object

What the user of a request object does with it: remote operations, `setServiceURL`, `cleanup`, and
the accessors that read the last response. `CEInfo` and `CETopics` keep the response structure of
their call. What its pointers lead to belongs to gSOAP, and `cleanup` frees it without touching the
pointers.
-/

namespace CEMonitor

open Infra

/-! ## The accessors of `CEInfo` -/

namespace CEInfo

/-- `CEInfo::getVersion`. -/
def getVersion (o : CEInfo) : String :=
  match o.info with
  | some info => Text.cStr info.serviceVersion
  | none => ""

/-- `CEInfo::getDescription`. -/
def getDescription (o : CEInfo) : String :=
  match o.info.bind Info.description with
  | some description => Text.cStr description
  | none => ""

/-- The loop of `CEInfo::getDN`, which passes over null pointers. -/
def hostDN : List (Option Property) → String
  | [] => ""
  | some p :: ps => if p.name = "hostDN" then p.value else hostDN ps
  | none :: ps => hostDN ps

/-- `CEInfo::getDN`. -/
def getDN (o : CEInfo) : String :=
  match o.info with
  | some info => hostDN info.property
  | none => ""

end CEInfo

/-! ## What an object keeps -/

/-- What the accessors of a class read through a pointer that the object keeps. `CEEvent` keeps
one that no accessor reads, and the subscription classes have their responses on the stack. -/
def Kept : RequestClass → Type
  | .ceEvent => Unit
  | .ceInfo => Info
  | .ceTopics => List (Option Topic)
  | .ceSubscription => Unit
  | .ceSubscriptionMgr => Unit

namespace Object

/-- What the pointer leads to. -/
def kept : {c : RequestClass} → Object c → Option (Kept c)
  | .ceEvent, _ => none
  | .ceInfo, (o : CEInfo) => o.info
  | .ceTopics, (o : CETopics) => o.topicArray
  | .ceSubscription, _ => none
  | .ceSubscriptionMgr, _ => none

/-- `AbsRequest::setServiceURL`. -/
def setServiceURL (url : String) : {c : RequestClass} → Object c → Object c
  | .ceEvent, (o : CEEvent) => { o with base := o.base.setServiceURL url }
  | .ceInfo, (o : CEInfo) => { o with base := o.base.setServiceURL url }
  | .ceTopics, (o : CETopics) => { o with base := o.base.setServiceURL url }
  | .ceSubscription, (o : CESubscription) => { o with base := o.base.setServiceURL url }
  | .ceSubscriptionMgr, (o : CESubscriptionMgr) => { o with base := o.base.setServiceURL url }

end Object

namespace Operation

variable {c : RequestClass}

/-- What gSOAP leaves behind the pointer, if it gets there. -/
def response? : {c : RequestClass} → Operation c → Option (Option (Kept c))
  | _, .getInfo x => x.resp
  | _, .getTopics x => x.resp
  | _, _ => none

/-- A call without an error has written the response structure that the object keeps. -/
def Delivers : {c : RequestClass} → Operation c → Prop
  | _, .getTopicEvents _ x => x.soap.error = SOAP_OK → x.resp ≠ none
  | _, .getInfo x => x.soap.error = SOAP_OK → x.resp ≠ none
  | _, .getTopics x => x.soap.error = SOAP_OK → x.resp ≠ none
  | _, _ => True

end Operation

/-- The accessors of what a call left in the object. Those of `CEEvent` for messages read another
response, which no call writes. -/
inductive Accessor : RequestClass → Type where
  | getNumberOfMessages : Accessor .ceEvent
  | getVersion : Accessor .ceInfo
  | getDescription : Accessor .ceInfo
  | getDN : Accessor .ceInfo
  | getTopics (tvec : List Topic) : Accessor .ceInfo
  | getActions (avec : List Action) : Accessor .ceInfo
  | getNumberOfTopics : Accessor .ceTopics
  | getTopicArray (tvec : List Topic) : Accessor .ceTopics
  | getSubscriptionID : Accessor .ceSubscription

namespace Accessor

/-- Whether the accessor goes through the pointer, or reads members of the object only. -/
def follows : {c : RequestClass} → Accessor c → Bool
  | .ceInfo, _ => true
  | _, .getTopicArray _ => true
  | _, _ => false

/-- The values the accessors return, forgotten. -/
def read : {c : RequestClass} → Accessor c → Object c → Result Unit
  | _, .getNumberOfMessages, (o : CEEvent) =>
    (Outcome.returned o.getNumberOfMessages).map fun _ => ()
  | _, .getVersion, (o : CEInfo) => (Outcome.returned o.getVersion).map fun _ => ()
  | _, .getDescription, (o : CEInfo) => (Outcome.returned o.getDescription).map fun _ => ()
  | _, .getDN, (o : CEInfo) => (Outcome.returned o.getDN).map fun _ => ()
  | _, .getTopics tvec, (o : CEInfo) => (o.getTopics tvec).map fun _ => ()
  | _, .getActions avec, (o : CEInfo) => (o.getActions avec).map fun _ => ()
  | _, .getNumberOfTopics, (o : CETopics) =>
    (Outcome.returned o.getNumberOfTopics).map fun _ => ()
  | _, .getTopicArray tvec, (o : CETopics) => (o.getTopicArray tvec).map fun _ => ()
  | _, .getSubscriptionID, (o : CESubscription) =>
    (Outcome.returned o.getSubscriptionID).map fun _ => ()

end Accessor

/-! ## Programs -/

/-- Whose the data is that the pointer leads to. -/
inductive Data where
  /-- A member of the object, or nobody's. -/
  | own
  | received
  | freed
  deriving DecidableEq, Repr

/-- A request object and what became of its response. -/
structure InUse (c : RequestClass) where
  object : Object c
  data : Data

/-- One use of a request object. -/
inductive Use (c : RequestClass) where
  | setServiceURL (url : String)
  | call (op : Operation c) (h : op.Delivers)
  | cleanup
  | read (a : Accessor c)

namespace InUse

variable {c : RequestClass}

/-- An object that nothing has been received for. -/
def new (o : Object c) : InUse c where
  object := o
  data := .own

/-- `AbsRequest::cleanup`: `soap_destroy` and `soap_end`. -/
def cleanup (s : InUse c) : InUse c :=
  { s with data := if s.data = .own then .own else .freed }

/-- The object after an operation. -/
def called (op : Operation c) (o : Object c) (s : InUse c) : InUse c where
  object := o
  data := (op.response?.map fun _ => Data.received).getD s.data

/-- The pointer leads to what is not there any more. -/
def Dangles (s : InUse c) : Prop := s.data = .freed ∧ s.object.kept.isSome

instance (s : InUse c) : Decidable s.Dangles := inferInstanceAs (Decidable (_ ∧ _))

/-- An accessor, which changes nothing. -/
def read (a : Accessor c) (s : InUse c) : Option (InUse c) :=
  if a.follows ∧ s.Dangles then none
  else
    match a.read s.object with
    | .returned _ => some s
    | _ => none

end InUse

/-- The program catches an exception and goes on. -/
def Use.step (rt : SoapRuntime) {c : RequestClass} : Use c → InUse c → Option (InUse c)
  | .setServiceURL url, s => some { s with object := s.object.setServiceURL url }
  | .call op _, s => (op.exec rt s.object).goesOn.map fun o => s.called op o
  | .cleanup, s => some s.cleanup
  | .read a, s => s.read a

end CEMonitor
