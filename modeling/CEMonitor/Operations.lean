import CEMonitor.Requests

/-!
# One remote operation on a request object

The nine operations side by side, indexed by the class of the object they belong to, so that
an operation can only be applied to an object that has it. What the properties of all nine
rest on is `exec_of_fails`: once the call is made and gSOAP reports an error, every operation
does the same thing, up to the specification it declares.
-/

namespace CEMonitor

open Infra

/-- The request classes with remote operations. -/
inductive RequestClass where
  | ceEvent
  | ceInfo
  | ceTopics
  | ceSubscription
  | ceSubscriptionMgr
  deriving DecidableEq, Repr

/-- The objects of a class. -/
def Object : RequestClass → Type
  | .ceEvent => CEEvent
  | .ceInfo => CEInfo
  | .ceTopics => CETopics
  | .ceSubscription => CESubscription
  | .ceSubscriptionMgr => CESubscriptionMgr

namespace Object

/-- The `AbsRequest` part. -/
def base : {c : RequestClass} → Object c → AbsRequest
  | .ceEvent, o => CEEvent.base o
  | .ceInfo, o => CEInfo.base o
  | .ceTopics, o => CETopics.base o
  | .ceSubscription, o => CESubscription.base o
  | .ceSubscriptionMgr, o => CESubscriptionMgr.base o

/-- The consumer URL, for the class that has one. -/
def consumerURL : {c : RequestClass} → Object c → String
  | .ceSubscription, o => CESubscription.consumerURL o
  | _, _ => ""

/-- A newly constructed object, with no topics in the structure that `CETopics` does not set. -/
def new (n : FaultIntegers) : (c : RequestClass) → Object c
  | .ceEvent => CEEvent.new n
  | .ceInfo => CEInfo.new n
  | .ceTopics => CETopics.new n none
  | .ceSubscription => CESubscription.new n
  | .ceSubscriptionMgr => CESubscriptionMgr.new n

/-- A fresh object with the parameters its user has set: service URL and request parameters. The
structure that the constructor of `CETopics` does not set holds what it holds. -/
def fresh : {c : RequestClass} → Object c → Object c
  | .ceEvent, (o : CEEvent) =>
    { CEEvent.new o.base.integers with
      base := (AbsRequest.new o.base.integers).setServiceURL o.base.serviceURL
      topic := o.topic }
  | .ceInfo, (o : CEInfo) =>
    { CEInfo.new o.base.integers with
      base := (AbsRequest.new o.base.integers).setServiceURL o.base.serviceURL }
  | .ceTopics, (o : CETopics) =>
    { CETopics.new o.base.integers o.topicArray with
      base := (AbsRequest.new o.base.integers).setServiceURL o.base.serviceURL }
  | .ceSubscription, (o : CESubscription) =>
    { CESubscription.new o.base.integers with
      base := (AbsRequest.new o.base.integers).setServiceURL o.base.serviceURL
      topic := o.topic
      policy := o.policy
      consumerURL := o.consumerURL
      duration := o.duration }
  | .ceSubscriptionMgr, (o : CESubscriptionMgr) =>
    { CESubscriptionMgr.new o.base.integers with
      base := (AbsRequest.new o.base.integers).setServiceURL o.base.serviceURL }

@[simp] theorem base_fresh {c : RequestClass} (o : Object c) :
    o.fresh.base = (AbsRequest.new o.base.integers).setServiceURL o.base.serviceURL := by
  cases c <;> rfl

end Object

/-- A remote operation with its arguments and the exchange it takes part in. -/
inductive Operation : RequestClass → Type where
  | getTopicEvents (eventMex : List (List String))
      (x : Exchange (Option (List (Option Event)))) : Operation .ceEvent
  | getInfo (x : Exchange (Option Info)) : Operation .ceInfo
  | getTopics (x : Exchange (Option (List (Option Topic)))) : Operation .ceTopics
  | subscribe (x : Exchange (Option SubscriptionRef)) : Operation .ceSubscription
  | unsubscribe (subID : String) (x : Exchange Unit) : Operation .ceSubscription
  | pause (subID : String) (x : Exchange Unit) : Operation .ceSubscription
  | resume (subID : String) (x : Exchange Unit) : Operation .ceSubscription
  | list (endpoint : String) (target : List Subscription)
      (x : Exchange (Option (List (Option SubscriptionData)))) : Operation .ceSubscriptionMgr
  | update (endpoint subid newConsumerURL : String) (topic : Topic) (policy : Policy) (t : Int)
      (x : Exchange (Option SubscriptionRef)) : Operation .ceSubscriptionMgr

namespace Operation

variable {c : RequestClass}

/-- gSOAP's state after the call. -/
def soap : Operation c → Soap
  | .getTopicEvents _ x => x.soap
  | .getInfo x => x.soap
  | .getTopics x => x.soap
  | .subscribe x => x.soap
  | .unsubscribe _ x => x.soap
  | .pause _ x => x.soap
  | .resume _ x => x.soap
  | .list _ _ x => x.soap
  | .update _ _ _ _ _ _ x => x.soap

/-- The clock. -/
def now : Operation c → Int
  | .getTopicEvents _ x => x.now
  | .getInfo x => x.now
  | .getTopics x => x.now
  | .subscribe x => x.now
  | .unsubscribe _ x => x.now
  | .pause _ x => x.now
  | .resume _ x => x.now
  | .list _ _ x => x.now
  | .update _ _ _ _ _ _ x => x.now

/-- The operation's `throw(...)` specification. -/
def spec : Operation c → List ExceptionClass
  | .getTopicEvents _ _ => CEEvent.getTopicEventsSpec
  | .getInfo _ => CEInfo.getInfoSpec
  | .getTopics _ => CETopics.getTopicsSpec
  | .subscribe _ => CESubscription.subscribeSpec
  | .unsubscribe _ _ => CESubscription.subscriptionIDSpec
  | .pause _ _ => CESubscription.subscriptionIDSpec
  | .resume _ _ => CESubscription.subscriptionIDSpec
  | .list _ _ _ => CESubscriptionMgr.listSpec
  | .update _ _ _ _ _ _ _ => CESubscriptionMgr.updateSpec

/-- The classes `throwCEException` may raise and the operation's specification leaves out. -/
def unlisted : Operation c → List FaultClass
  | .getTopicEvents _ _ => [.subscription, .subscriptionNotFound]
  | .getInfo _ => [.subscription, .subscriptionNotFound]
  | .getTopics _ =>
    [.topicNotSupported, .dialectNotSupported, .subscription, .subscriptionNotFound]
  | .subscribe _ => [.subscriptionNotFound]
  | .unsubscribe _ _ => [.topicNotSupported, .dialectNotSupported]
  | .pause _ _ => [.topicNotSupported, .dialectNotSupported]
  | .resume _ _ => [.topicNotSupported, .dialectNotSupported]
  | .list _ _ _ => [.topicNotSupported, .dialectNotSupported, .subscriptionNotFound]
  | .update _ _ _ _ _ _ _ => []

/-- The member the operation tests for the empty string before it makes its call. -/
def tested : {c : RequestClass} → Operation c → Object c → Option String
  | _, .getTopicEvents _ _, o => some o.base.serviceURL
  | _, .getInfo _, _ => none
  | _, .getTopics _, _ => none
  | _, .subscribe _, o => some o.consumerURL
  | _, .unsubscribe _ _, o => some o.base.serviceURL
  | _, .pause _ _, o => some o.base.serviceURL
  | _, .resume _ _, o => some o.base.serviceURL
  | _, .list _ _ _, _ => none
  | _, .update _ _ _ _ _ _ _, _ => none

/-- The operation gets past that test and makes the call. -/
def Reaches (op : Operation c) (o : Object c) : Prop := op.tested o ≠ some ""

instance (op : Operation c) (o : Object c) : Decidable (op.Reaches o) :=
  inferInstanceAs (Decidable (_ ≠ _))

/-- The operation makes its call and gSOAP reports an error. -/
def Fails (op : Operation c) (o : Object c) : Prop := op.Reaches o ∧ op.soap.error ≠ SOAP_OK

instance (op : Operation c) (o : Object c) : Decidable (op.Fails o) :=
  inferInstanceAs (Decidable (_ ∧ _))

/-- The values the operations return, forgotten. -/
def dropValue {σ α : Type} (k : Call σ α) : Call σ Unit where
  outcome := k.outcome.map fun _ => ()
  obj := k.obj
  sent := k.sent

/-- Running the operation. -/
def exec (rt : SoapRuntime) : {c : RequestClass} → Operation c → Object c → Call (Object c) Unit
  | _, .getTopicEvents eventMex x, (o : CEEvent) => dropValue (o.getTopicEvents rt eventMex x)
  | _, .getInfo x, (o : CEInfo) => o.getInfo rt x
  | _, .getTopics x, (o : CETopics) => o.getTopics rt x
  | _, .subscribe x, (o : CESubscription) => o.subscribe rt x
  | _, .unsubscribe subID x, (o : CESubscription) => o.unsubscribe rt subID x
  | _, .pause subID x, (o : CESubscription) => o.pause rt subID x
  | _, .resume subID x, (o : CESubscription) => o.resume rt subID x
  | _, .list endpoint target x, (o : CESubscriptionMgr) => (o.list rt endpoint target x).1
  | _, .update endpoint subid newConsumerURL topic policy t x, (o : CESubscriptionMgr) =>
    dropValue (o.update rt endpoint subid newConsumerURL topic policy t x)

/-- The object when `setError` starts: gSOAP's state is the one the call left. -/
def received (op : Operation c) (o : Object c) : AbsRequest := { o.base with soap := op.soap }

/-- What every operation does with a call that failed. -/
theorem exec_of_fails (rt : SoapRuntime) {op : Operation c} {o : Object c} (h : op.Fails o) :
    (op.exec rt o).outcome = throws op.spec ((op.received o).fail rt op.now).1 ∧
    (op.exec rt o).obj.base = ((op.received o).fail (α := Unit) rt op.now).2 := by
  obtain ⟨hr, he⟩ := h
  simp only [Reaches, ne_eq] at hr
  cases op with
  | getTopicEvents eventMex x =>
    have hr : ¬(CEEvent.base o).serviceURL = "" := fun h => hr (congrArg some h)
    simp only [soap] at he
    simp only [exec, dropValue, CEEvent.getTopicEvents, if_neg hr, if_pos he]
    exact ⟨by rw [throws, Outcome.map_throwing, AbsRequest.map_fail]; rfl,
      AbsRequest.fail_snd rt _ _⟩
  | getInfo x =>
    simp only [soap] at he
    simp only [exec, CEInfo.getInfo, if_pos he]
    exact ⟨rfl, rfl⟩
  | getTopics x =>
    simp only [soap] at he
    simp only [exec, CETopics.getTopics, if_neg he]
    exact ⟨rfl, rfl⟩
  | subscribe x =>
    have hr : ¬CESubscription.consumerURL o = "" := fun h => hr (congrArg some h)
    simp only [soap] at he
    simp only [exec, CESubscription.subscribe, if_neg hr, if_neg he]
    exact ⟨rfl, rfl⟩
  | unsubscribe subID x | pause subID x | resume subID x =>
    have hr : ¬(CESubscription.base o).serviceURL = "" := fun h => hr (congrArg some h)
    simp only [soap] at he
    simp only [exec, CESubscription.unsubscribe, CESubscription.pause, CESubscription.resume,
      CESubscription.onSubscription, if_neg hr, if_pos he]
    exact ⟨rfl, rfl⟩
  | list endpoint target x =>
    simp only [soap] at he
    simp only [exec, CESubscriptionMgr.list, if_neg he]
    exact ⟨rfl, rfl⟩
  | update endpoint subid newConsumerURL topic policy t x =>
    simp only [soap] at he
    simp only [exec, dropValue, CESubscriptionMgr.update, if_neg he]
    exact ⟨by rw [throws, Outcome.map_throwing, AbsRequest.map_fail]; rfl,
      AbsRequest.fail_snd rt _ _⟩

/-- A call that was made and did not fail met no error. -/
theorem error_of_not_fails {op : Operation c} {o : Object c} (h : ¬op.Fails o)
    (hr : op.Reaches o) : op.soap.error = SOAP_OK := not_not.mp fun he => h ⟨hr, he⟩

/-- An operation that does not fail in its call changes nothing there but gSOAP's state. -/
theorem exec_of_not_fails (rt : SoapRuntime) {op : Operation c} {o : Object c}
    (h : ¬op.Fails o) : ∃ s, (op.exec rt o).obj.base = { o.base with soap := s } := by
  cases op with
  | getTopicEvents eventMex x =>
    simp only [exec, dropValue, CEEvent.getTopicEvents]
    split
    · exact ⟨_, rfl⟩
    · next hu =>
      have he : ¬x.soap.error ≠ SOAP_OK :=
        not_not.mpr (error_of_not_fails h fun ht => hu (Option.some.inj ht))
      rw [if_neg he]
      split <;> exact ⟨_, rfl⟩
  | getInfo x =>
    have he : ¬x.soap.error ≠ SOAP_OK :=
      not_not.mpr (error_of_not_fails h (Option.some_ne_none _).symm)
    simp only [exec, CEInfo.getInfo, if_neg he]
    exact ⟨_, rfl⟩
  | getTopics x =>
    have he : x.soap.error = SOAP_OK :=
      error_of_not_fails h (Option.some_ne_none _).symm
    simp only [exec, CETopics.getTopics, if_pos he]
    split <;> exact ⟨_, rfl⟩
  | subscribe x =>
    simp only [exec, CESubscription.subscribe]
    split
    · exact ⟨_, rfl⟩
    · next hu =>
      have he : x.soap.error = SOAP_OK :=
        error_of_not_fails h fun ht => hu (Option.some.inj ht)
      rw [if_pos he]
      split <;> exact ⟨_, rfl⟩
  | unsubscribe subID x | pause subID x | resume subID x =>
    simp only [exec, CESubscription.unsubscribe, CESubscription.pause, CESubscription.resume,
      CESubscription.onSubscription]
    split
    · exact ⟨_, rfl⟩
    · next hu =>
      have he : ¬x.soap.error ≠ SOAP_OK :=
        not_not.mpr (error_of_not_fails h fun ht => hu (Option.some.inj ht))
      rw [if_neg he]
      exact ⟨_, rfl⟩
  | list endpoint target x =>
    have he : x.soap.error = SOAP_OK :=
      error_of_not_fails h (Option.some_ne_none _).symm
    simp only [exec, CESubscriptionMgr.list, if_pos he]
    split <;> exact ⟨_, rfl⟩
  | update endpoint subid newConsumerURL topic policy t x =>
    have he : x.soap.error = SOAP_OK :=
      error_of_not_fails h (Option.some_ne_none _).symm
    simp only [exec, dropValue, CESubscriptionMgr.update, if_pos he]
    exact ⟨_, rfl⟩

/-- Every operation ends as its specification allows. -/
theorem outcome_eq_throws (rt : SoapRuntime) (op : Operation c) (o : Object c) :
    ∃ r, (op.exec rt o).outcome = throws op.spec r := by
  cases op with
  | getTopicEvents eventMex x =>
    simp only [exec, dropValue, CEEvent.getTopicEvents]
    split
    · exact ⟨.raised (.abs .general _), rfl⟩
    · split
      · exact ⟨_, Outcome.map_throwing _ _⟩
      · split
        · exact ⟨.raised (.abs .general _), rfl⟩
        · exact ⟨.returned (), rfl⟩
  | getInfo x =>
    simp only [exec, CEInfo.getInfo]
    split
    · exact ⟨_, rfl⟩
    · exact ⟨.returned (), rfl⟩
  | getTopics x =>
    simp only [exec, CETopics.getTopics]
    split
    · split
      · exact ⟨.returned (), rfl⟩
      · exact ⟨.raised (.abs .general _), rfl⟩
    · exact ⟨_, rfl⟩
  | subscribe x =>
    simp only [exec, CESubscription.subscribe]
    split
    · exact ⟨.raised (.abs .general _), rfl⟩
    · split
      · split
        · exact ⟨.returned (), rfl⟩
        · exact ⟨.raised (.abs .general _), rfl⟩
      · exact ⟨_, rfl⟩
  | unsubscribe subID x | pause subID x | resume subID x =>
    simp only [exec, CESubscription.unsubscribe, CESubscription.pause, CESubscription.resume,
      CESubscription.onSubscription]
    split
    · exact ⟨.raised (.abs .general _), rfl⟩
    · split
      · exact ⟨_, rfl⟩
      · exact ⟨.returned (), rfl⟩
  | list endpoint target x =>
    simp only [exec, CESubscriptionMgr.list]
    split
    · split
      · exact ⟨_, rfl⟩
      · exact ⟨.raised (.abs .general _), rfl⟩
    · exact ⟨_, rfl⟩
  | update endpoint subid newConsumerURL topic policy t x =>
    simp only [exec, dropValue, CESubscriptionMgr.update]
    split <;> exact ⟨_, Outcome.map_throwing _ _⟩

/-- No specification lists an exception of the standard library. -/
theorem std_not_mem_spec (op : Operation c) (s : StdClass) : .std s ∉ op.spec := by
  have hspec : ∀ specs ∈ [CEEvent.getTopicEventsSpec, CEInfo.getInfoSpec, CETopics.getTopicsSpec,
      CESubscription.subscribeSpec, CESubscription.subscriptionIDSpec, CESubscriptionMgr.listSpec,
      CESubscriptionMgr.updateSpec], .std s ∉ specs := by
    cases s <;> decide
  cases op <;> exact hspec _ (by simp [spec])

theorem outcome_ne_std (rt : SoapRuntime) (op : Operation c) (o : Object c) (s : StdClass) :
    (op.exec rt o).outcome ≠ .raised (.std s) := by
  intro h
  obtain ⟨r, hr⟩ := outcome_eq_throws rt op o
  rw [hr] at h
  exact op.std_not_mem_spec s (Outcome.throwing_eq_raised_iff.mp h).2

/-- No operation changes the parameters its user has set. -/
theorem exec_frame (rt : SoapRuntime) (op : Operation c) (o : Object c) :
    (op.exec rt o).obj.base.integers = o.base.integers ∧
    (op.exec rt o).obj.base.serviceURL = o.base.serviceURL := by
  by_cases h : op.Fails o
  · rw [(exec_of_fails rt h).2]
    rcases AbsRequest.fail_cases rt op.now (op.received o) with ⟨-, hf⟩ | ⟨r', hr', hf⟩
    · rw [hf Unit]
      exact ⟨rfl, rfl⟩
    · rw [hf Unit]
      obtain ⟨hi, hu, -⟩ := AbsRequest.setError_frame hr'
      exact ⟨hi, hu⟩
  · obtain ⟨s, hs⟩ := exec_of_not_fails rt h
    rw [hs]
    exact ⟨rfl, rfl⟩

theorem exec_consumerURL (rt : SoapRuntime) (op : Operation c) (o : Object c) :
    (op.exec rt o).obj.consumerURL = o.consumerURL := by
  cases op with
  | subscribe x =>
    simp only [exec, CESubscription.subscribe]
    split
    · rfl
    · split
      · split <;> rfl
      · rfl
  | unsubscribe subID x | pause subID x | resume subID x =>
    simp only [exec, CESubscription.unsubscribe, CESubscription.pause, CESubscription.resume,
      CESubscription.onSubscription]
    split
    · rfl
    · split <;> rfl
  | _ => rfl

/-- Whether an operation makes its call is settled by the parameters. -/
theorem tested_exec (rt : SoapRuntime) (op p : Operation c) (o : Object c) :
    p.tested (op.exec rt o).obj = p.tested o := by
  obtain ⟨-, hu⟩ := exec_frame rt op o
  have hc := exec_consumerURL rt op o
  cases p <;> simp only [tested] <;> first | rfl | rw [hu] | rw [hc]

theorem fails_exec (rt : SoapRuntime) (op p : Operation c) (o : Object c) :
    p.Fails (op.exec rt o).obj ↔ p.Fails o := by
  unfold Fails Reaches
  rw [tested_exec]

end Operation

end CEMonitor
