import CEMonitor.Client
import CEMonitor.Commands

/-!
# Five command lines on objects

`main` of `glite-ce-monitor-subscribe`, `glite-ce-monitor-subupdate` and
`glite-ce-monitor-getevent`, statement by statement, as far as it makes objects: `Commands.lean`
has the values. An exception ends the program where it is caught, so each `main` comes in two
parts, up to what the `catch` clauses do as well, and the rest. `glite-ce-monitor-gettopics` and
`glite-ce-monitor-getinfo` make objects only after the answer.
-/

namespace CEMonitor.Client

open Infra Commands

/-! ## `glite-ce-monitor-subscribe` -/

/-- The loop over the pieces of `--dialects`; `next` is the next variable. -/
def addPieces (T : Nat) : Nat → List String → List Statement
  | _, [] => []
  | next, it :: its =>
    if it ≠ "" then
      .newDialect it :: .addDialect T (some next) :: .delete next :: addPieces T (next + 1) its
    else addPieces T next its

/-- The variable `P`, behind `ceS`, `T` and one `D` for each piece that is not empty. -/
def policyVar (o : Options) : Nat :=
  ((Text.split ',' o.dialects).filter (· ≠ "")).length + 2

/-- Up to `setSubscribeParam`. -/
def subscribeMade (n : FaultIntegers) (o : Options) (serviceURL : String) : List Statement :=
  let P := policyVar o
  [.newSubscription n, .setServiceURL 0 serviceURL, .newTopic o.topic] ++
    addPieces 1 2 (Text.split ',' o.dialects) ++
    [.newPolicy o.rate, .newAction "SendNotification" "" true,
      .newAction "DoNotSendNotification" "" false, .addAction P (P + 1), .addAction P (P + 2),
      .setSubscribeParam 0 o.consumerURL 1 P o.duration]

/-- Up to `delete(ceS)`. -/
def subscribeCall (n : FaultIntegers) (o : Options) (serviceURL : String)
    (x : Exchange (Option SubscriptionRef)) : List Statement :=
  subscribeMade n o serviceURL ++ [.addDialect 1 none, .subscribe 0 x, .delete 0]

/-- The end of the scope of `A2`, `A1`, `P` and `T`. -/
def subscribeReturn (o : Options) : List Statement :=
  let P := policyVar o
  [.delete (P + 2), .delete (P + 1), .delete P, .delete 1]

/-! ## `glite-ce-monitor-subupdate` -/

/-- Up to the call. -/
def subupdateMade (n : FaultIntegers) (o : Options) : List Statement :=
  [.newManager n, .newTopic o.topic, .newPolicy o.rate, .addDialect 1 none]

/-- Up to `delete(ceS)`. -/
def subupdateCall (n : FaultIntegers) (o : Options) (serviceURL : String)
    (x : Exchange (Option SubscriptionRef)) : List Statement :=
  subupdateMade n o ++
    [.update 0 serviceURL o.subscriptionID o.consumerURL 1 2 (x.now + o.duration) x, .delete 0]

/-- The end of the scope of `P` and `T`. -/
def subupdateReturn : List Statement := [.delete 2, .delete 1]

/-! ## `glite-ce-monitor-getevent` -/

/-- The dialect `dial` is made with `new`. -/
def newDial (o : Options) : List Statement :=
  if o.dialects ≠ "" then [.newDialect o.dialects, .addDialect 0 (some 1)] else []

/-- The variable `ceE`, behind `topic` and perhaps `dial`. -/
def eventVar (o : Options) : Nat := if o.dialects ≠ "" then 2 else 1

/-- Up to the call. -/
def geteventMade (n : FaultIntegers) (o : Options) (serviceURL : String) : List Statement :=
  .newTopic o.topic :: newDial o ++
    [.newEvent n, .setServiceURL (eventVar o) serviceURL, .setRequestParam (eventVar o) (some 0)]

/-- And the call; the `catch` clauses delete nothing. -/
def geteventCall (n : FaultIntegers) (o : Options) (serviceURL : String)
    (x : Exchange (Option (List (Option Event)))) : List Statement :=
  geteventMade n o serviceURL ++ [.getTopicEvents (eventVar o) [] x]

/-- `delete(ceE)`, and the end of the scope of `topic`. -/
def geteventReturn (o : Options) : List Statement := [.delete (eventVar o), .delete 0]

/-! ## `glite-ce-monitor-gettopics` and `glite-ce-monitor-getinfo` -/

/-- The loops of `CETopics::getTopicArray`, `CEInfo::getTopics` and `CEInfo::getActions`. -/
def copyReceived (copy : Nat → Objects.Code Nat) (ps : List (Option Nat)) :
    Objects.Code (List Nat) :=
  Prog.each (fun p => do copy (← Prog.address p)) ps

/-- `print`, which follows the pointers of the object. -/
def printObject {α : Type} (read : Nat → Objects.Code α) (print : α → Result String) (p : Nat) :
    Objects.Code Unit := do
  let a ← read p
  let _ ← Prog.lift (print a)
  pure ()

/-- A response in memory: the addresses in its vectors, none when the response itself is null. -/
structure Received where
  topic : List (Option Nat)
  action : List (Option Nat)

/-- `cleanup`, in the destructor of `AbsRequest`. -/
def freeReceived (r : Received) : Objects.Code Unit := do
  Prog.forEach (Prog.unlessNull Objects.deleteTopic) r.topic
  Prog.forEach (Prog.unlessNull Objects.deleteAction) r.action

/-- `main` of `gettopics` behind the remote call, to `delete(ceT)`. -/
def gettopicsReturn (r : Received) : Objects.Code Unit := do
  let T ← copyReceived Objects.copyTopic r.topic
  Prog.forEach (printObject Objects.readTopic Topic.print) T
  Prog.forEach Objects.deleteTopic T
  freeReceived r

/-- `main` of `getinfo` behind the remote call, to `delete(ceI)`. -/
def getinfoReturn (r : Received) : Objects.Code Unit := do
  let T ← copyReceived Objects.copyTopic r.topic
  let A ← copyReceived Objects.copyAction r.action
  Prog.forEach (printObject Objects.readTopic Topic.print) T
  Prog.forEach (printObject Objects.readAction Action.print) A
  Prog.forEach Objects.deleteTopic T
  -- only the vector `A` itself is deleted
  freeReceived r

end CEMonitor.Client
