import CEMonitor.Requests

/-!
# What a response may lack

A response that gSOAP has accepted can still hold null pointers, in a member or in a vector.
Five operations follow such pointers, and each tests some of them and not others. The exact
condition under which each of them comes to an end is `Reading.Intact`. For the list of
subscriptions there is a second question, what the caller's vector holds when an entry makes
the call fail.
-/

namespace CEMonitor

open Infra

/-! ## The list of subscriptions -/

namespace CESubscriptionMgr

/-- The entry is there and lacks one of the three members that `list` tests. -/
def lacks : Option SubscriptionData → Bool
  | some s => s.id.isNone || s.expirationTime.isNone || s.topic.isNone
  | none => false

/-- The entries before the first one that lacks a member. -/
def testedEntries (l : List (Option SubscriptionData)) : List (Option SubscriptionData) :=
  l.takeWhile fun p => !lacks p

/-- A Subscription shows an entry of the response. -/
structure Lists (endpoint : String) (s : SubscriptionData) (sub : Subscription) : Prop where
  id : s.id = some sub.subscriptionID
  expirationTime : s.expirationTime = some sub.expirationTime
  policy : ∃ policy, s.policy = some policy ∧ sub.rate = policy.rate
  consumerURL : sub.consumerURL = s.monitorConsumerURL
  topic : ∃ topic, s.topic = some topic ∧ sub.topicName = topic.name
  endpoint : sub.endpoint = endpoint

/-- The exception of an entry that lacks a member. -/
def lackingMember : Exception :=
  .abs .general "id or ExpirationTime or Topic are NULL pointer"

variable (endpoint : String) (target : List Subscription) {l : List (Option SubscriptionData)}
  {s : SubscriptionData}

theorem listLoop_of_lacks (h : lacks (some s) = true) :
    listLoop endpoint (some s :: l) target = (.raised lackingMember, target) := by
  cases hid : s.id with
  | none => simp only [listLoop, hid, lackingMember]
  | some id =>
    cases ht : s.expirationTime with
    | none => simp only [listLoop, hid, ht, lackingMember]
    | some t =>
      cases htopic : s.topic with
      | none => simp only [listLoop, hid, ht, htopic, lackingMember]
      | some topic => simp [lacks, hid, ht, htopic] at h

theorem exists_of_not_lacks (h : lacks (some s) = false) :
    ∃ id t topic, s.id = some id ∧ s.expirationTime = some t ∧ s.topic = some topic := by
  simp only [lacks, Bool.or_eq_false_iff, Option.isNone_eq_false_iff,
    Option.isSome_iff_exists] at h
  obtain ⟨⟨⟨id, hid⟩, ⟨t, ht⟩⟩, ⟨topic, htopic⟩⟩ := h
  exact ⟨id, t, topic, hid, ht, htopic⟩

/-- An entry with all its members adds its Subscription. -/
theorem listLoop_of_policy (h : lacks (some s) = false) {policy : Policy}
    (hp : s.policy = some policy) : ∃ sub, Lists endpoint s sub ∧
      listLoop endpoint (some s :: l) target = listLoop endpoint l (target ++ [sub]) := by
  obtain ⟨id, t, topic, hid, ht, htopic⟩ := exists_of_not_lacks h
  refine ⟨⟨id, t, policy.rate, s.monitorConsumerURL, topic.name, endpoint⟩,
    ⟨hid, ht, ⟨policy, hp, rfl⟩, rfl, ⟨topic, htopic, rfl⟩, rfl⟩, ?_⟩
  simp only [listLoop, hid, ht, htopic, hp]

theorem listLoop_of_policy_none (h : lacks (some s) = false) (hp : s.policy = none) :
    listLoop endpoint (some s :: l) target = (.undefined, target) := by
  obtain ⟨id, t, topic, hid, ht, htopic⟩ := exists_of_not_lacks h
  simp only [listLoop, hid, ht, htopic, hp]

/-- Every entry that `list` gets to is there, with its policy. -/
def Readable (l : List (Option SubscriptionData)) : Prop :=
  ∀ p ∈ testedEntries l, ∃ s, p = some s ∧ s.policy ≠ none

/-- The loop adds the entries that it gets past, and raises when it meets one that lacks a
member. -/
theorem listLoop_of_readable (h : Readable l) :
    ∃ subs, List.Forall₂ (fun p sub => ∃ s, p = some s ∧ Lists endpoint s sub)
        (testedEntries l) subs ∧
      listLoop endpoint l target =
        (if l.any lacks then .raised lackingMember else .returned (), target ++ subs) := by
  induction l generalizing target with
  | nil => exact ⟨[], .nil, by rw [List.append_nil]; rfl⟩
  | cons p l ih =>
    unfold Readable testedEntries at h
    rw [testedEntries, List.any_cons]
    cases hlacks : lacks p with
    | true =>
      -- the loop ends here
      rw [List.takeWhile_cons_of_neg (by simp [hlacks])]
      cases p with
      | none => cases hlacks
      | some s => exact ⟨[], .nil, by rw [listLoop_of_lacks _ _ hlacks, List.append_nil]; rfl⟩
    | false =>
      rw [List.takeWhile_cons_of_pos (by simp [hlacks])] at h ⊢
      obtain ⟨⟨s, rfl, hs⟩, hrest⟩ := List.forall_mem_cons.mp h
      obtain ⟨policy, hp⟩ := Option.ne_none_iff_exists'.mp hs
      obtain ⟨sub, hsub, hstep⟩ := listLoop_of_policy endpoint target hlacks hp
      obtain ⟨subs, hsubs, hloop⟩ := ih (target ++ [sub]) hrest
      refine ⟨sub :: subs, .cons ⟨s, rfl, hsub⟩ hsubs, ?_⟩
      rw [hstep, hloop, Bool.false_or, List.append_assoc]
      rfl

/-- Otherwise it follows a null pointer. -/
theorem listLoop_of_not_readable (h : ¬Readable l) :
    (listLoop endpoint l target).1 = .undefined := by
  induction l generalizing target with
  | nil => exact absurd (fun p hp => absurd hp List.not_mem_nil) h
  | cons p l ih =>
    unfold Readable testedEntries at h
    cases hlacks : lacks p with
    | true =>
      rw [List.takeWhile_cons_of_neg (by simp [hlacks])] at h
      exact absurd (fun p hp => absurd hp List.not_mem_nil) h
    | false =>
      rw [List.takeWhile_cons_of_pos (by simp [hlacks]), List.forall_mem_cons] at h
      cases p with
      | none => rfl
      | some s =>
        cases hp : s.policy with
        | none => rw [listLoop_of_policy_none _ _ hlacks hp]
        | some policy =>
          obtain ⟨sub, -, hstep⟩ := listLoop_of_policy endpoint target hlacks hp
          rw [hstep]
          refine ih _ fun hrest => h ⟨⟨s, rfl, ?_⟩, hrest⟩
          rw [hp]
          exact Option.some_ne_none policy

theorem list_of_some {x : Exchange (Option (List (Option SubscriptionData)))} (rt : SoapRuntime)
    (o : CESubscriptionMgr) (h : x.soap.error = SOAP_OK) (hr : x.resp.getD none = some l) :
    (o.list rt endpoint target x).1.outcome = throws listSpec (listLoop endpoint l target).1 ∧
    (o.list rt endpoint target x).2 = (listLoop endpoint l target).2 := by
  simp only [list, if_pos h, hr, and_self]

/--
**What `list` has appended when it ends.**

Every entry is there, with its policy. One Subscription is appended for each entry, in order,
up to the first entry that lacks a member; such an entry makes the call fail, and what was
appended before it stays.
-/
theorem list_appends (rt : SoapRuntime) (endpoint : String) (target : List Subscription)
    (x : Exchange (Option (List (Option SubscriptionData)))) (o : CESubscriptionMgr)
    (l : List (Option SubscriptionData)) (h : x.soap.error = SOAP_OK) (hr : x.resp = some (some l))
    (hl : ∀ p ∈ l, ∃ s, p = some s ∧ s.policy ≠ none) :
    ∃ subs, (o.list rt endpoint target x).2 = target ++ subs ∧
      List.Forall₂ (fun p sub => ∃ s, p = some s ∧ Lists endpoint s sub) (testedEntries l) subs ∧
      if l.any lacks then (o.list rt endpoint target x).1.outcome = .raised lackingMember
      else testedEntries l = l ∧ (o.list rt endpoint target x).1.outcome = .returned () := by
  have hreadable : Readable l := by
    intro p hp
    exact hl p (List.takeWhile_subset _ hp)
  obtain ⟨houtcome, htarget⟩ :=
    list_of_some endpoint target rt o h (show x.resp.getD none = some l by rw [hr]; rfl)
  obtain ⟨subs, hsubs, hloop⟩ := listLoop_of_readable endpoint target hreadable
  rw [hloop] at houtcome htarget
  refine ⟨subs, htarget, hsubs, ?_⟩
  by_cases hany : l.any lacks = true
  · rw [if_pos hany, houtcome, if_pos hany]
    exact Outcome.throwing_raised_of_mem (by decide)
  · rw [if_neg hany, houtcome, if_neg hany]
    refine ⟨?_, rfl⟩
    rw [testedEntries, List.takeWhile_eq_self_iff]
    intro p hp
    simp only [List.any_eq_true, not_exists, not_and] at hany
    simp [hany p hp]

/-- An entry of a subscription list. -/
def entry (id : Option String) : SubscriptionData where
  id := id
  monitorConsumerURL := "https://ui:9000"
  expirationTime := some 1767225600
  topic := some (Topic.new "CE_MONITOR")
  policy := some (Policy.new 30)
  name := none
  type := none
  jarPath := none

/-- The exchange that brings a list of subscriptions. -/
def listExchange (l : List (Option SubscriptionData)) :
    Exchange (Option (List (Option SubscriptionData))) where
  now := 0
  soap := Soap.new
  resp := some (some l)

/-- A good entry before a bad one: the call fails, and the good entry has been appended. -/
theorem list_secondWithoutId_changes_target :
    let l := [some (entry (some "1")), some (entry none)]
    let k := (new .sample).list (.plain "SOAP-ENV:Client" "") "https://ce:8443" [] (listExchange l)
    (∀ p ∈ l, ∃ s, p = some s ∧ s.policy ≠ none) ∧ k.1.outcome = .raised lackingMember ∧
      ¬(k.1.outcome = .returned () ∨ k.2 = []) := by
  refine ⟨?_, by decide, by decide⟩
  intro p hp
  simp only [List.mem_cons, List.not_mem_nil, or_false] at hp
  rcases hp with rfl | rfl <;> exact ⟨_, rfl, Option.some_ne_none _⟩

/-- What was appended is the one Subscription of the good entry. -/
theorem list_secondWithoutId_appends_one :
    ∃ subs, ((new .sample).list (.plain "SOAP-ENV:Client" "") "https://ce:8443" []
        (listExchange [some (entry (some "1")), some (entry none)])).2 = [] ++ subs ∧
      subs.length = 1 := by
  obtain ⟨subs, htarget, hlists, -⟩ :=
    list_appends (.plain "SOAP-ENV:Client" "") "https://ce:8443" []
      (listExchange [some (entry (some "1")), some (entry none)]) (new .sample) _ rfl rfl (by
        intro p hp
        simp only [List.mem_cons, List.not_mem_nil, or_false] at hp
        rcases hp with rfl | rfl <;> exact ⟨_, rfl, Option.some_ne_none _⟩)
  exact ⟨subs, htarget, hlists.length_eq.symm⟩

end CESubscriptionMgr

/-! ## All five operations -/

/--
An operation that follows the pointers of a response: its arguments, the exchange that brought
the response and the object. The last three read what an earlier call has left in the object.
-/
inductive Reading where
  | list (endpoint : String) (target : List Subscription)
      (x : Exchange (Option (List (Option SubscriptionData)))) (o : CESubscriptionMgr)
  | update (endpoint subid newConsumerURL : String) (topic : Topic) (policy : Policy) (t : Int)
      (x : Exchange (Option SubscriptionRef)) (o : CESubscriptionMgr)
  | getTopicArray (tvec : List Topic) (x : Exchange (Option (List (Option Topic)))) (o : CETopics)
  | getTopics (tvec : List Topic) (x : Exchange (Option Info)) (o : CEInfo)
  | getActions (avec : List Action) (x : Exchange (Option Info)) (o : CEInfo)

namespace Reading

/-- gSOAP's state after the call. -/
def soap : Reading → Soap
  | .list _ _ x _ => x.soap
  | .update _ _ _ _ _ _ x _ => x.soap
  | .getTopicArray _ x _ => x.soap
  | .getTopics _ x _ => x.soap
  | .getActions _ x _ => x.soap

/-- The operation's `throw(...)` specification. -/
def spec : Reading → List ExceptionClass
  | .list _ _ _ _ => CESubscriptionMgr.listSpec
  | .update _ _ _ _ _ _ _ _ => CESubscriptionMgr.updateSpec
  | .getTopicArray _ _ _ => []
  | .getTopics _ _ _ => []
  | .getActions _ _ _ => []

/-- How the operation ends. -/
def outcome (rt : SoapRuntime) : Reading → Result Unit
  | .list endpoint target x o => (o.list rt endpoint target x).1.outcome
  | .update endpoint subid newConsumerURL topic policy t x o =>
    (o.update rt endpoint subid newConsumerURL topic policy t x).outcome.map fun _ => ()
  | .getTopicArray tvec x o => ((o.getTopics rt x).obj.getTopicArray tvec).map fun _ => ()
  | .getTopics tvec x o => ((o.getInfo rt x).obj.getTopics tvec).map fun _ => ()
  | .getActions avec x o => ((o.getInfo rt x).obj.getActions avec).map fun _ => ()

/-- The operation returns, or raises an exception that its specification lists. -/
def EndsWell (rt : SoapRuntime) (u : Reading) : Prop :=
  u.outcome rt = .returned () ∨ ∃ e, u.outcome rt = .raised e ∧ e.cls ∈ u.spec

/-- No pointer that the operation follows is null. What is read is the response of the call,
or what an earlier call left in the structure if this one did not touch it. -/
def Intact : Reading → Prop
  | .list _ _ x _ => ∀ l, x.resp.getD none = some l → CESubscriptionMgr.Readable l
  | .update _ _ _ _ _ _ x _ => x.resp.getD none ≠ none
  | .getTopicArray _ x o => ∀ topics, x.resp.getD o.topicArray = some topics → none ∉ topics
  | .getTopics _ x o => ∀ info, x.resp.getD o.info = some info → none ∉ info.topic
  | .getActions _ x o => ∀ info, x.resp.getD o.info = some info →
      ∀ p ∈ info.action, ∃ a, p = some a ∧ a.Intact

/-- A loop that raises nothing ends well when it gets to its end. -/
theorem endsWell_of_spec_nil {rt : SoapRuntime} {u : Reading} {α : Type} {r : Result α}
    (hspec : u.spec = []) (hr : u.outcome rt = r.map fun _ => ()) :
    u.EndsWell rt ↔ ∃ a, r = .returned a := by
  rw [EndsWell, hspec, hr]
  constructor
  · rintro (h | ⟨e, -, he⟩)
    · obtain ⟨a, ha, -⟩ := Outcome.map_eq_returned_iff.mp h
      exact ⟨a, ha⟩
    · cases he
  · rintro ⟨a, rfl⟩
    exact Or.inl rfl

/-- The list itself and three members of each entry are tested. -/
theorem endsWell_list_iff {rt : SoapRuntime} {endpoint : String} {target : List Subscription}
    {x : Exchange (Option (List (Option SubscriptionData)))} {o : CESubscriptionMgr}
    (h : x.soap.error = SOAP_OK) :
    EndsWell rt (.list endpoint target x o) ↔ Intact (.list endpoint target x o) := by
  rw [EndsWell, outcome, spec, Intact]
  cases hr : x.resp.getD none with
  | none =>
    refine iff_of_true (Or.inr ?_) fun l hl => by cases hl
    simp only [CESubscriptionMgr.list, if_pos h, hr]
    exact ⟨_, rfl, by decide⟩
  | some l =>
    obtain ⟨houtcome, -⟩ := CESubscriptionMgr.list_of_some endpoint target rt o h hr
    rw [houtcome]
    simp only [Option.some.injEq, forall_eq']
    by_cases hl : CESubscriptionMgr.Readable l
    · obtain ⟨subs, -, hloop⟩ := CESubscriptionMgr.listLoop_of_readable endpoint target hl
      refine iff_of_true ?_ hl
      rw [hloop]
      split
      · exact Or.inr ⟨_, rfl, by decide⟩
      · exact Or.inl rfl
    · refine iff_of_false ?_ hl
      rw [CESubscriptionMgr.listLoop_of_not_readable endpoint target hl]
      rintro (hu | ⟨e, hu, -⟩) <;> cases hu

/-- The reference is not. -/
theorem endsWell_update_iff {rt : SoapRuntime} {endpoint subid newConsumerURL : String}
    {topic : Topic} {policy : Policy} {t : Int} {x : Exchange (Option SubscriptionRef)}
    {o : CESubscriptionMgr} (h : x.soap.error = SOAP_OK) :
    EndsWell rt (.update endpoint subid newConsumerURL topic policy t x o) ↔
      Intact (.update endpoint subid newConsumerURL topic policy t x o) := by
  rw [EndsWell, outcome, Intact]
  simp only [CESubscriptionMgr.update, if_pos h]
  cases hr : x.resp.getD none with
  | none =>
    refine iff_of_false ?_ fun hn => hn rfl
    rintro (hu | ⟨e, hu, -⟩) <;> cases hu
  | some ref => exact iff_of_true (Or.inl rfl) (Option.some_ne_none ref)

/--
**A response is consumed safely exactly when no pointer on the way is null.**

`list` tests three members of an entry, but neither the entry nor its policy; `update` does not
test the reference it returns; the three loops test no entry, and `getActions` copies the
parameters and properties of each action through their pointers.
-/
theorem endsWell_iff_intact (rt : SoapRuntime) (u : Reading) (h : u.soap.error = SOAP_OK) :
    u.EndsWell rt ↔ u.Intact := by
  cases u with
  | list endpoint target x o => exact endsWell_list_iff h
  | update endpoint subid newConsumerURL topic policy t x o => exact endsWell_update_iff h
  | getTopicArray tvec x o =>
    rw [endsWell_of_spec_nil rfl rfl, Intact, CETopics.getTopicArray, CETopics.topicArray_getTopics]
    cases x.resp.getD o.topicArray with
    | none => exact iff_of_true ⟨tvec, rfl⟩ fun topics htopics => by cases htopics
    | some topics =>
      simp only [Option.some.injEq, forall_eq', Outcome.map_returns_iff,
        CEInfo.copyTopics_returns_iff]
  | getTopics tvec x o =>
    rw [endsWell_of_spec_nil rfl rfl, Intact, CEInfo.getTopics, CEInfo.info_getInfo]
    cases x.resp.getD o.info with
    | none => exact iff_of_true ⟨tvec, rfl⟩ fun info hinfo => by cases hinfo
    | some info =>
      simp only [Option.some.injEq, forall_eq', Outcome.map_returns_iff,
        CEInfo.copyTopics_returns_iff]
  | getActions avec x o =>
    rw [endsWell_of_spec_nil rfl rfl, Intact, CEInfo.getActions, CEInfo.info_getInfo]
    cases x.resp.getD o.info with
    | none => exact iff_of_true ⟨avec, rfl⟩ fun info hinfo => by cases hinfo
    | some info =>
      simp only [Option.some.injEq, forall_eq', Outcome.map_returns_iff,
        CEInfo.copyActions_returns_iff]

/-- An UpdateResponse without its reference. -/
def updateWithoutRef : Reading :=
  .update "https://ce:8443" "1" "https://ui:9000" (Topic.new "CE_MONITOR") (Policy.new 30) 0
    ⟨0, Soap.new, some none⟩ (CESubscriptionMgr.new .sample)

/-- `update` reads the identifier through it. -/
theorem updateWithoutRef_undefined :
    updateWithoutRef.soap.error = SOAP_OK ∧
    ¬updateWithoutRef.EndsWell (.plain "SOAP-ENV:Client" "") := by
  refine ⟨by decide, ?_⟩
  rintro (h | ⟨e, h, -⟩) <;> cases h

/-- A list with a null entry behind one that lacks its identifier. -/
def listNullBehindBad : Reading :=
  .list "https://ce:8443" []
    (CESubscriptionMgr.listExchange [some (CESubscriptionMgr.entry none), none])
    (CESubscriptionMgr.new .sample)

/-- The null entry is not reached. -/
theorem listNullBehindBad_endsWell :
    listNullBehindBad.EndsWell (.plain "SOAP-ENV:Client" "") := by
  refine (endsWell_iff_intact _ listNullBehindBad rfl).mpr ?_
  intro l hl p hp
  cases hl
  cases hp

end Reading

end CEMonitor
