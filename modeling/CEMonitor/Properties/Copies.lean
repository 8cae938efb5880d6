import CEMonitor.Requests

/-!
# From what is published to what is subscribed

A client reads the actions and topics that a service publishes, puts an action into a policy
and subscribes with policy and topic. On the way each value is copied three times. The copies
of an action set its jar path to the empty string and those of a topic its visibility to null;
all the rest arrives.
-/

namespace CEMonitor

open Infra

/-! ## The way of a value -/

/-- The object from which a topic is taken. -/
inductive TopicSource where
  | ceInfo (o : CEInfo)
  | ceTopics (o : CETopics)

namespace TopicSource

/-- The topics of the response that the object holds. -/
def received : TopicSource → List (Option Topic)
  | .ceInfo o => (o.info.map Info.topic).getD []
  | .ceTopics o => o.topicArray.getD []

/-- `CEInfo::getTopics` or `CETopics::getTopicArray`, into an empty vector. -/
def topics : TopicSource → Result (List Topic)
  | .ceInfo o => o.getTopics []
  | .ceTopics o => o.getTopicArray []

theorem topics_eq (s : TopicSource) : s.topics = CEInfo.copyTopics s.received := by
  have hid : ∀ r : Result (List Topic), r.map (fun ts => [] ++ ts) = r := by
    intro r
    cases r <;> rfl
  cases s with
  | ceInfo o =>
    rw [topics, received, CEInfo.getTopics]
    cases o.info with
    | none => rfl
    | some info => exact hid _
  | ceTopics o =>
    rw [topics, received, CETopics.getTopicArray]
    cases o.topicArray with
    | none => rfl
    | some topics => exact hid _

end TopicSource

/--
The `i`-th action and the `j`-th topic are obtained, the action is added to the policy, policy
and topic are passed through `setSubscribeParam`, and `subscribe` is called. The result is the
messages that are sent.
-/
def resubscribe (rt : SoapRuntime) (published : CEInfo) (i : Nat) (source : TopicSource) (j : Nat)
    (policy : Policy) (consumer : String) (duration : Int) (o : CESubscription)
    (x : Exchange (Option SubscriptionRef)) : Result (List SoapCall) :=
  (published.getActions []).bind fun actions => source.topics.bind fun topics =>
    (Outcome.deref actions[i]?).bind fun action => (Outcome.deref topics[j]?).bind fun topic =>
      (policy.addAction action).bind fun policy =>
        (o.setSubscribeParam consumer topic policy duration).map fun o => (o.subscribe rt x).sent

/-! ## What arrives -/

/-- The copy of a topic lacks its visibility and nothing else. -/
theorem Topic.copy_eq_self (t : Topic) : t.copy = { t with visibility := none } := by
  rw [← t.copy_dialect]
  rfl

@[simp] theorem Topic.copy_copy (t : Topic) : t.copy.copy = t.copy := by
  rw [Topic.copy_eq_self t.copy]
  rfl

/-- The copy of an action with its three texts lacks its jar path and nothing else. -/
theorem Action.copied_eq_self {a : Action} (hname : a.name ≠ none) (htype : a.type ≠ none)
    (hid : a.id ≠ none) : a.copied = { a with jarPath := some "" } := by
  obtain ⟨name, hname⟩ := Option.ne_none_iff_exists'.mp hname
  obtain ⟨type, htype⟩ := Option.ne_none_iff_exists'.mp htype
  obtain ⟨id, hid⟩ := Option.ne_none_iff_exists'.mp hid
  simp only [Action.copied, hname, htype, hid, Option.getD_some]

theorem Policy.addAction_of_intact {a : Action} (p : Policy) (h : a.Intact) :
    p.addAction a = .returned { p with action := p.action ++ [some a.copied] } := by
  rw [Policy.addAction, Action.copy_of_intact h, Outcome.map_returned]

theorem Policy.intact_addAction {a : Action} {p : Policy} (hp : p.Intact) (ha : a.Intact) :
    Policy.Intact { p with action := p.action ++ [some a] } := by
  intro q hq
  rcases List.mem_append.mp hq with hq | hq
  · exact hp q hq
  · rw [List.mem_singleton] at hq
    exact ⟨a, hq, ha⟩

section

variable {published : CEInfo} {info : Info} {source : TopicSource} {i j : Nat} {a : Action}
  {t : Topic}

theorem getActions_getElem? (hinfo : published.info = some info)
    (hactions : ∀ p ∈ info.action, ∃ b, p = some b ∧ b.Intact)
    (ha : info.action[i]? = some (some a)) :
    ∃ actions, published.getActions [] = .returned actions ∧ actions[i]? = some a.copied := by
  obtain ⟨actions, hall⟩ := CEInfo.copyActions_returns_iff.mpr hactions
  obtain ⟨c, hc, hcopy⟩ := Outcome.getElem?_of_traverse hall ha
  obtain ⟨b, hb, hintact⟩ := hactions _ (List.mem_of_getElem? ha)
  cases hb
  rw [Action.copy_of_intact hintact, Outcome.returned.injEq] at hcopy
  refine ⟨actions, ?_, by rw [hc, hcopy]⟩
  rw [CEInfo.getActions, hinfo]
  simp only [hall, Outcome.map_returned, List.nil_append]

theorem topics_getElem? (htopics : none ∉ source.received)
    (ht : source.received[j]? = some (some t)) :
    ∃ topics, source.topics = .returned topics ∧ topics[j]? = some t.copy := by
  obtain ⟨topics, hall⟩ := CEInfo.copyTopics_returns_iff.mpr htopics
  obtain ⟨c, hc, hcopy⟩ := Outcome.getElem?_of_traverse hall ht
  rw [Outcome.returned.injEq] at hcopy
  exact ⟨topics, by rw [TopicSource.topics_eq, hall], by rw [hc, hcopy]⟩

/-- The whole way: the request holds the copies, the action behind those of the policy. -/
theorem resubscribe_returned (rt : SoapRuntime) {policy : Policy} {consumer : String}
    (duration : Int) (o : CESubscription) (x : Exchange (Option SubscriptionRef))
    (hinfo : published.info = some info)
    (hactions : ∀ p ∈ info.action, ∃ b, p = some b ∧ b.Intact)
    (htopics : none ∉ source.received) (hpolicy : policy.Intact)
    (ha : info.action[i]? = some (some a)) (ht : source.received[j]? = some (some t))
    (hconsumer : consumer ≠ "") :
    ∃ sub, resubscribe rt published i source j policy consumer duration o x
        = .returned [.subscribe o.base.serviceURL sub] ∧
      sub.topic = some t.copy ∧
      sub.policy = some
        { policy with
          action := (policy.action.map fun q => q.map Action.copied) ++ [some a.copied] } := by
  obtain ⟨actions, hgetActions, haction⟩ := getActions_getElem? hinfo hactions ha
  obtain ⟨topics, hgetTopics, htopic⟩ := topics_getElem? htopics ht
  obtain ⟨b, hb, hintact⟩ := hactions _ (List.mem_of_getElem? ha)
  cases hb
  -- `getActions` made one copy of the action; `addAction` and `setSubscribeParam` make two more
  have hadd := Policy.addAction_of_intact policy (Action.intact_copied hintact)
  have hset : o.setSubscribeParam consumer t.copy
      { policy with action := policy.action ++ [some a.copied] } duration
      = .returned { o with
          consumerURL := consumer
          topic := some t.copy
          policy := some
            { policy with
              action := (policy.action.map fun q => q.map Action.copied) ++ [some a.copied] }
          duration := duration } := by
    have hcopy := Policy.copy_of_intact
      (Policy.intact_addAction hpolicy (Action.intact_copied hintact))
    rw [CESubscription.setSubscribeParam, hcopy, Outcome.map_returned, Topic.copy_copy,
      List.map_append]
    rfl
  obtain ⟨sub, ⟨hsent, htopic', -⟩, hpolicy'⟩ := CESubscription.sent_subscribe rt
    { o with
      consumerURL := consumer
      topic := some t.copy
      policy := some
        { policy with
          action := (policy.action.map fun q => q.map Action.copied) ++ [some a.copied] }
      duration := duration } hconsumer x
  refine ⟨sub, ?_, htopic', hpolicy'⟩
  rw [resubscribe, hgetActions, Outcome.bind_returned, hgetTopics, Outcome.bind_returned, haction,
    Outcome.deref_some, Outcome.bind_returned, htopic, Outcome.deref_some, Outcome.bind_returned,
    hadd, Outcome.bind_returned, Action.copied_copied, hset, Outcome.map_returned, hsent]

/--
**What was published comes back, but for the jar path of the action and the visibility of the
topic.**

No pointer that is followed on the way is null, and the action has its three texts.
-/
theorem resubscribe_eq_iff (rt : SoapRuntime) (published : CEInfo) (info : Info)
    (source : TopicSource) (i j : Nat) (a : Action) (t : Topic) (policy : Policy)
    (consumer : String) (duration : Int) (o : CESubscription)
    (x : Exchange (Option SubscriptionRef))
    (hinfo : published.info = some info)
    (hactions : ∀ p ∈ info.action, ∃ b, p = some b ∧ b.Intact)
    (htopics : none ∉ source.received) (hpolicy : policy.Intact)
    (ha : info.action[i]? = some (some a)) (ht : source.received[j]? = some (some t))
    (hname : a.name ≠ none) (htype : a.type ≠ none) (hid : a.id ≠ none)
    (hconsumer : consumer ≠ "") :
    ∃ sub policy' a' t', resubscribe rt published i source j policy consumer duration o x
        = .returned [.subscribe o.base.serviceURL sub] ∧
      sub.policy = some policy' ∧ policy'.action.getLast? = some (some a') ∧
      sub.topic = some t' ∧
      (a' = a ↔ a.jarPath = some "") ∧ (t' = t ↔ t.visibility = none) := by
  obtain ⟨sub, hsent, htopic, hpolicy'⟩ := resubscribe_returned rt duration o x hinfo hactions
    htopics hpolicy ha ht hconsumer
  refine ⟨sub, _, a.copied, t.copy, hsent, hpolicy', List.getLast?_concat, htopic, ?_, ?_⟩
  · rw [Action.copied_eq_self hname htype hid]
    constructor
    · intro h
      rw [← h]
    · intro h
      rw [← h]
  · rw [Topic.copy_eq_self]
    constructor
    · intro h
      rw [← h]
    · intro h
      rw [← h]

end

/-- An action with every pointer set. -/
def jobAction (jarPath : String) : Action where
  name := some "SendJobStatus"
  type := some "sensor"
  id := some "1"
  jarPath := some jarPath
  doActionWhenQueryIs := true
  parameter := [some { name := "host", value := "ce" }]
  property := []

/-- A topic with one dialect. -/
def jobTopic (visibility : Option String) : Topic where
  name := "ICE_STATUS"
  visibility := visibility
  dialect := [some { name := "CLASSAD", queryLanguage := ["ClassAd"] }]

/-- An object that holds a GetInfoResponse with one action and one topic. -/
def publishing (a : Action) (t : Topic) : CEInfo where
  base := AbsRequest.new .sample
  info := some
    { serviceVersion := "1.0"
      description := some "CE"
      topic := [some t]
      action := [some a]
      property := [] }

/-- A jar path and a visibility are published and do not come back. -/
theorem resubscribe_jarPath_visibility_lost :
    ∃ sub policy a t, resubscribe (.plain "SOAP-ENV:Client" "")
        (publishing (jobAction "/opt/job.jar") (jobTopic (some "public"))) 0
        (.ceInfo (publishing (jobAction "/opt/job.jar") (jobTopic (some "public")))) 0
        (Policy.new 30) "https://ui:9000" 3600 (CESubscription.new .sample) ⟨0, Soap.new, none⟩
        = .returned [.subscribe "" sub] ∧
      sub.policy = some policy ∧ policy.action.getLast? = some (some a) ∧ sub.topic = some t ∧
      a ≠ jobAction "/opt/job.jar" ∧ t ≠ jobTopic (some "public") :=
  ⟨_, _, _, _, rfl, rfl, rfl, rfl, by decide, by decide⟩

/-- With neither of them, action and topic come back as they were published. -/
theorem resubscribe_plain_same :
    ∃ sub policy a t, resubscribe (.plain "SOAP-ENV:Client" "")
        (publishing (jobAction "") (jobTopic none)) 0
        (.ceInfo (publishing (jobAction "") (jobTopic none))) 0
        (Policy.new 30) "https://ui:9000" 3600 (CESubscription.new .sample) ⟨0, Soap.new, none⟩
        = .returned [.subscribe "" sub] ∧
      sub.policy = some policy ∧ policy.action.getLast? = some (some a) ∧ sub.topic = some t ∧
      a = jobAction "" ∧ t = jobTopic none := by
  obtain ⟨sub, policy, a, t, hsent, hpolicy, haction, htopic, ha, ht⟩ :=
    resubscribe_eq_iff (.plain "SOAP-ENV:Client" "") (publishing (jobAction "") (jobTopic none)) _
      (.ceInfo (publishing (jobAction "") (jobTopic none))) 0 0 (jobAction "") (jobTopic none)
      (Policy.new 30) "https://ui:9000" 3600 (CESubscription.new .sample) ⟨0, Soap.new, none⟩
      rfl (fun p hp => ⟨jobAction "", List.mem_singleton.mp hp, by decide⟩) (by decide)
      (fun q hq => absurd hq List.not_mem_nil) rfl rfl (Option.some_ne_none _)
      (Option.some_ne_none _) (Option.some_ne_none _) (by decide)
  exact ⟨sub, policy, a, t, hsent, hpolicy, haction, htopic, ha.mpr rfl, ht.mpr rfl⟩

end CEMonitor
