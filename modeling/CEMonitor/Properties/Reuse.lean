import CEMonitor.Infra.Run
import CEMonitor.Properties.Failures

/-!
# Using an object again

What an object records of a call must not outlive the next one. `CETopics` keeps a count and a
response structure, and a failed call resets the first and leaves the second; `CESubscription`
keeps an ID, and two of the four ways out of `subscribe` do not reset it. Over runs, what is
left behind is the last thing that was written, so the exact conditions can be read off the
calls.
-/

namespace CEMonitor

open Infra

/-! ## `CETopics` -/

namespace CETopics

/-- One call of a run. -/
def step (rt : SoapRuntime) (x : Exchange (Option (List (Option Topic)))) (o : CETopics) :
    Option CETopics :=
  (o.getTopics rt x).goesOn

/-- The three ways a call of `getTopics` can go. -/
theorem getTopics_cases (rt : SoapRuntime) (x : Exchange (Option (List (Option Topic))))
    (o : CETopics) :
    (x.soap.error = SOAP_OK ∧ ∃ topics, x.resp.getD o.topicArray = some topics ∧
      (o.getTopics rt x).outcome = .returned () ∧
      (o.getTopics rt x).obj.sizeTopic = (topics.length : Int).bmod (2 ^ 32)) ∨
    (x.soap.error = SOAP_OK ∧ x.resp.getD o.topicArray = none ∧
      (∀ a, (o.getTopics rt x).outcome ≠ .returned a) ∧ (o.getTopics rt x).obj.sizeTopic = 0) ∨
    (x.soap.error ≠ SOAP_OK ∧ (∀ a, (o.getTopics rt x).outcome ≠ .returned a) ∧
      (o.getTopics rt x).obj.sizeTopic = 0) := by
  by_cases h : x.soap.error = SOAP_OK
  · cases hr : x.resp.getD o.topicArray with
    | some topics =>
      refine Or.inl ⟨h, topics, rfl, ?_⟩
      simp only [getTopics, if_pos h, hr, and_self]
    | none =>
      refine Or.inr (Or.inl ⟨h, rfl, ?_⟩)
      simp only [getTopics, if_pos h, hr]
      refine ⟨fun a ha => ?_, trivial⟩
      cases ha
  · refine Or.inr (Or.inr ⟨h, ?_⟩)
    simp only [getTopics, if_neg h]
    refine ⟨fun a ha => ?_, trivial⟩
    exact AbsRequest.fail_ne_returned rt x.now _ a (Outcome.throwing_eq_returned_iff.mp ha)

/-- The response structure holds what gSOAP last left there. -/
theorem topicArray_run {rt : SoapRuntime} {xs : List (Exchange (Option (List (Option Topic))))}
    {o₀ o : CETopics} (h : run (step rt) xs o₀ = some o) :
    o.topicArray = (lastWrite Exchange.resp xs).getD o₀.topicArray := by
  refine run_lastWrite (fun _ => True) CETopics.topicArray (fun _ _ _ _ _ => trivial) ?_ trivial h
  intro x o o' _ hstep
  rw [Call.obj_of_goesOn hstep, topicArray_getTopics]

/-- What the accessors have to show after a call that left `received` in the structure. -/
structure ShowsTopics (k : Call CETopics Unit) (received : Option (List (Option Topic)))
    (tvec : List Topic) : Prop where
  returned : k.outcome = .returned () → ∃ topics ts, received = some topics ∧
    k.obj.getTopicArray tvec = .returned (tvec ++ ts) ∧
    List.Forall₂ (fun p t => ∃ a : Topic, p = some a ∧ t = a.copy) topics ts ∧
    k.obj.getNumberOfTopics = ts.length
  raised : ∀ e, k.outcome = .raised e →
    k.obj.getTopicArray tvec = .returned tvec ∧ k.obj.getNumberOfTopics = 0

/-- No topics are left behind by a failed call, and after a successful one there are no more than
an `int` can count, and none that is null. -/
def Tidy (x : Exchange (Option (List (Option Topic)))) (left : Option (List (Option Topic))) :
    Prop :=
  if x.soap.error = SOAP_OK then none ∉ left.getD [] ∧ (left.getD []).length < 2 ^ 31
  else left.getD [] = []

section

variable {rt : SoapRuntime} {x : Exchange (Option (List (Option Topic)))} {o : CETopics}
  (tvec : List Topic)

/-- After a call that raised, nothing is shown when nothing is left. -/
theorem showsTopics_iff_of_raised {e : Exception} (hout : (o.getTopics rt x).outcome = .raised e)
    (hsize : (o.getTopics rt x).obj.sizeTopic = 0) :
    ShowsTopics (o.getTopics rt x) (x.resp.getD o.topicArray) tvec ↔
      (x.resp.getD o.topicArray).getD [] = [] := by
  have harray := topicArray_getTopics rt x o
  have hnotReturned : (o.getTopics rt x).outcome ≠ .returned () := by
    intro hret
    rw [hout] at hret
    cases hret
  cases hr : x.resp.getD o.topicArray with
  | none =>
    have hget := getTopicArray_of_none tvec (harray.trans hr)
    exact iff_of_true ⟨fun h => absurd h hnotReturned, fun _ _ => ⟨hget, hsize⟩⟩ rfl
  | some topics =>
    have hget := getTopicArray_eq_returned_iff tvec (harray.trans hr) tvec
    simp only [Option.getD_some]
    constructor
    · rintro ⟨-, hraised⟩
      obtain ⟨ts, hsame, hcopies⟩ := hget.mp (hraised e hout).1
      rw [List.self_eq_append_right] at hsame
      rw [hsame, List.forall₂_nil_right_iff] at hcopies
      exact hcopies
    · intro hempty
      have hnothing := hget.mpr ⟨[], (List.append_nil tvec).symm, hempty ▸ .nil⟩
      exact ⟨fun h => absurd h hnotReturned, fun _ _ => ⟨hnothing, hsize⟩⟩

/-- After a call that returned, the topics must be there, and the count is theirs when an `int`
can hold it. -/
theorem showsTopics_iff_of_returned {topics : List (Option Topic)}
    (hr : x.resp.getD o.topicArray = some topics)
    (hout : (o.getTopics rt x).outcome = .returned ())
    (hsize : (o.getTopics rt x).obj.sizeTopic = (topics.length : Int).bmod (2 ^ 32)) :
    ShowsTopics (o.getTopics rt x) (some topics) tvec ↔
      none ∉ topics ∧ topics.length < 2 ^ 31 := by
  have harray := (topicArray_getTopics rt x o).trans hr
  rw [← Text.bmod_eq_self_iff, ← hsize]
  constructor
  · rintro ⟨hreturned, -⟩
    obtain ⟨topics', ts, ht, hget, hcopies, hnumber⟩ := hreturned hout
    cases ht
    refine ⟨(getTopicArray_returns_iff tvec harray).mp ⟨_, hget⟩, ?_⟩
    rw [show (o.getTopics rt x).obj.sizeTopic = _ from hnumber, hcopies.length_eq]
  · rintro ⟨hnull, hnumber⟩
    obtain ⟨tvec', hget⟩ := (getTopicArray_returns_iff tvec harray).mpr hnull
    obtain ⟨ts, rfl, hcopies⟩ := (getTopicArray_eq_returned_iff tvec harray _).mp hget
    refine ⟨fun _ => ⟨topics, ts, rfl, hget, hcopies, ?_⟩, fun e he => ?_⟩
    · rw [← hcopies.length_eq]
      exact hnumber
    · rw [hout] at he
      cases he

/-- One call, with the structure it leaves. -/
theorem showsTopics_iff_tidy {o' : CETopics} (hgoes : (o.getTopics rt x).goesOn = some o') :
    ShowsTopics (o.getTopics rt x) (x.resp.getD o.topicArray) tvec ↔
      Tidy x (x.resp.getD o.topicArray) := by
  have hends := Call.outcome_of_goesOn hgoes
  unfold Tidy
  rcases getTopics_cases rt x o with ⟨hok, topics, hr, hout, hsize⟩ | ⟨hok, hr, hout, hsize⟩ |
    ⟨herr, hout, hsize⟩
  · rw [if_pos hok, hr]
    exact showsTopics_iff_of_returned tvec hr hout hsize
  · -- a response without an array
    rcases hends with ⟨a, ha⟩ | ⟨e, he⟩
    · exact absurd ha (hout a)
    · have hshows := (showsTopics_iff_of_raised tvec he hsize).mpr (by rw [hr]; rfl)
      rw [if_pos hok]
      refine iff_of_true hshows ?_
      rw [hr]
      exact ⟨List.not_mem_nil, Nat.two_pow_pos 31⟩
  · -- no response: the structure is what it was
    rcases hends with ⟨a, ha⟩ | ⟨e, he⟩
    · exact absurd ha (hout a)
    · rw [if_neg herr]
      exact showsTopics_iff_of_raised tvec he hsize

end

/--
**After each call the accessors show what it brought, exactly when nothing is left behind.**

What is left is what a call last wrote to the response structure, and before the first write what
the memory held: of a call that failed it must be no topics, and of one that succeeded none that is
null and no more than an `int` can count.
-/
theorem getTopicArray_shows_iff (rt : SoapRuntime) (base : AbsRequest)
    (topicResp : Option (List (Option Topic)))
    (xs : List (Exchange (Option (List (Option Topic))))) (o : CETopics)
    (x : Exchange (Option (List (Option Topic)))) (o' : CETopics) (tvec : List Topic)
    (hrun : run (step rt) xs { CETopics.new base.integers topicResp with base := base } = some o)
    (hgoes : (o.getTopics rt x).goesOn = some o') :
    ShowsTopics (o.getTopics rt x) ((lastWrite Exchange.resp (xs ++ [x])).getD topicResp) tvec ↔
      Tidy x ((lastWrite Exchange.resp (xs ++ [x])).getD topicResp) := by
  have hleft : (lastWrite Exchange.resp (xs ++ [x])).getD topicResp
      = x.resp.getD o.topicArray := by
    rw [topicArray_run hrun, lastWrite_concat]
    cases x.resp <;> rfl
  rw [hleft]
  exact showsTopics_iff_tidy tvec hgoes

/-- A call that brings one topic. -/
def oneTopic : Exchange (Option (List (Option Topic))) where
  now := 0
  soap := Soap.new
  resp := some (some [some (Topic.new "CE_MONITOR")])

/-- A call that does not reach the service. -/
def noService : Exchange (Option (List (Option Topic))) where
  now := 0
  soap := refusedConnection
  resp := none

/-- After a failed call the topic of the call before it is still handed out, and counted as
none. -/
theorem oneTopic_noService_stale :
    ∃ o o', run (step (.plain "SOAP-ENV:Client" "")) [oneTopic] (CETopics.new .sample none) = some o ∧
      (o.getTopics (.plain "SOAP-ENV:Client" "") noService).goesOn = some o' ∧
      o'.getTopicArray [] = .returned [Topic.new "CE_MONITOR"] ∧ o'.getNumberOfTopics = 0 ∧
      ¬ShowsTopics (o.getTopics (.plain "SOAP-ENV:Client" "") noService)
        ((lastWrite Exchange.resp ([oneTopic] ++ [noService])).getD none) [] := by
  refine ⟨_, _, rfl, rfl, rfl, rfl, ?_⟩
  rintro ⟨-, hraised⟩
  have hstale := (hraised _ rfl).1
  cases hstale

/-- A failed call before it does no harm to a successful one, whatever the memory held. -/
theorem noService_oneTopic_shows :
    ∃ o, run (step (.plain "SOAP-ENV:Client" "")) [noService] (CETopics.new .sample (some [none]))
        = some o ∧
      ShowsTopics (o.getTopics (.plain "SOAP-ENV:Client" "") oneTopic)
        ((lastWrite Exchange.resp ([noService] ++ [oneTopic])).getD (some [none])) [] := by
  have htidy : Tidy oneTopic
      ((lastWrite Exchange.resp ([noService] ++ [oneTopic])).getD (some [none])) := by
    rw [Tidy, if_pos (show oneTopic.soap.error = SOAP_OK from rfl)]
    refine ⟨?_, show 1 < 2 ^ 31 by decide⟩
    show none ∉ [some (Topic.new "CE_MONITOR")]
    decide
  exact ⟨_, rfl, (getTopicArray_shows_iff (.plain "SOAP-ENV:Client" "") (AbsRequest.new .sample)
    (some [none]) [noService] _ oneTopic _ [] rfl rfl).mpr htidy⟩

end CETopics

/-! ## `CESubscription` -/

/-- A call of a run. -/
inductive SubscriptionCall where
  | setSubscribeParam (consumer : String) (topic : Topic) (policy : Policy) (duration : Int)
  | subscribe (x : Exchange (Option SubscriptionRef))

namespace CESubscription

/-- One call of a run. Copying a null action ends the program, as `std::unexpected` does. -/
def step (rt : SoapRuntime) : SubscriptionCall → CESubscription → Option CESubscription
  | .setSubscribeParam consumer topic policy duration, o =>
    match o.setSubscribeParam consumer topic policy duration with
    | .returned o => some o
    | _ => none
  | .subscribe x, o => (o.subscribe rt x).goesOn

/-- The reference in the response structure after the call; untouched, it is the one allocated
before the call. -/
def reference (x : Exchange (Option SubscriptionRef)) : Option SubscriptionRef :=
  x.resp.getD (some { subscriptionID := "", expirationTime := some 0 })

/-- The ID that a `subscribe` stores: of an answer that of its reference, of a failed call the
empty one. The two local exits store none. -/
def storesID (o : CESubscription) (x : Exchange (Option SubscriptionRef)) : Option String :=
  if o.consumerURL = "" then none
  else if x.soap.error = SOAP_OK then (reference x).map SubscriptionRef.subscriptionID
  else some ""

/-- The four ways out of `subscribe`. -/
theorem subscribe_cases (rt : SoapRuntime) (x : Exchange (Option SubscriptionRef))
    (o : CESubscription) :
    (o.subscribe rt x).obj.subscriptionID = (storesID o x).getD o.subscriptionID ∧
    ((∃ ref, reference x = some ref ∧ storesID o x = some ref.subscriptionID ∧
        (o.subscribe rt x).outcome = .returned ()) ∨
      (storesID o x = none ∧ ∃ e, (o.subscribe rt x).outcome = .raised e) ∨
      (storesID o x = some "" ∧ (o.subscribe rt x).outcome ≠ .returned ())) := by
  by_cases hurl : o.consumerURL = ""
  · have hstores : storesID o x = none := if_pos hurl
    rw [hstores, subscribe, if_pos hurl]
    exact ⟨rfl, Or.inr (Or.inl ⟨rfl, _, rfl⟩)⟩
  · by_cases herr : x.soap.error = SOAP_OK
    · have hstores : storesID o x = (reference x).map SubscriptionRef.subscriptionID := by
        rw [storesID, if_neg hurl, if_pos herr]
      rw [hstores, subscribe, if_neg hurl]
      simp only [if_pos herr, reference]
      cases x.resp.getD (some { subscriptionID := "", expirationTime := some 0 }) with
      | some ref => exact ⟨rfl, Or.inl ⟨ref, rfl, rfl, rfl⟩⟩
      | none => exact ⟨rfl, Or.inr (Or.inl ⟨rfl, _, rfl⟩)⟩
    · have hstores : storesID o x = some "" := by rw [storesID, if_neg hurl, if_neg herr]
      rw [hstores, subscribe, if_neg hurl]
      simp only [if_neg herr]
      refine ⟨rfl, Or.inr (Or.inr ⟨trivial, fun h => ?_⟩)⟩
      exact AbsRequest.fail_ne_returned rt x.now _ () (Outcome.throwing_eq_returned_iff.mp h)

/-- What a call of a run writes to the stored ID, in the state it meets. -/
def writesID : CESubscription × SubscriptionCall → Option String
  | (_, .setSubscribeParam _ _ _ _) => none
  | (o, .subscribe x) => storesID o x

theorem subscriptionID_run {rt : SoapRuntime} {calls : List SubscriptionCall}
    {o₀ o : CESubscription} (h : run (step rt) calls o₀ = some o) :
    o.subscriptionID = (lastWrite writesID (trace (step rt) calls o₀)).getD o₀.subscriptionID := by
  refine run_lastWrite_trace (fun _ => True) CESubscription.subscriptionID
    (fun _ _ _ _ _ => trivial) ?_ trivial h
  intro call o o' _ hstep
  cases call with
  | setSubscribeParam consumer topic policy duration =>
    simp only [step, setSubscribeParam] at hstep
    cases hcopy : policy.copy with
    | returned policy' =>
      rw [hcopy] at hstep
      cases hstep
      rfl
    | raised e =>
      rw [hcopy] at hstep
      cases hstep
    | unexpected =>
      rw [hcopy] at hstep
      cases hstep
    | undefined =>
      rw [hcopy] at hstep
      cases hstep
  | subscribe x =>
    rw [Call.obj_of_goesOn hstep]
    exact (subscribe_cases rt x o).1

/-- What `getSubscriptionID` has to report after a call. -/
structure ReportsID (x : Exchange (Option SubscriptionRef)) (k : Call CESubscription Unit) :
    Prop where
  returned : k.outcome = .returned () →
    ∃ ref, reference x = some ref ∧ k.obj.getSubscriptionID = ref.subscriptionID
  raised : ∀ e, k.outcome = .raised e → k.obj.getSubscriptionID = ""

/-- The call takes neither of the two local exits: the consumer URL is set, and a successful
call brings its reference. -/
def Answered (o : CESubscription) (x : Exchange (Option SubscriptionRef)) : Prop :=
  o.consumerURL ≠ "" ∧ (x.soap.error = SOAP_OK → reference x ≠ none)

theorem storesID_ne_none_iff {o : CESubscription} {x : Exchange (Option SubscriptionRef)} :
    storesID o x ≠ none ↔ Answered o x := by
  unfold storesID Answered
  by_cases hurl : o.consumerURL = ""
  · simp [hurl]
  · by_cases herr : x.soap.error = SOAP_OK <;> simp [hurl, herr]

/--
**The reported ID is that of the last call, exactly when no older one is left for a local exit.**

An answered call writes the ID, whatever it was. A call that leaves by itself, for want of a
consumer URL or of the reference in the response, reports what the last answered call wrote.
-/
theorem reportsID_iff (rt : SoapRuntime) (base : AbsRequest) (calls : List SubscriptionCall)
    (o : CESubscription) (x : Exchange (Option SubscriptionRef))
    (hrun : run (step rt) calls { CESubscription.new base.integers with base := base } = some o) :
    ReportsID x (o.subscribe rt x) ↔
      Answered o x ∨ (lastWrite writesID (trace (step rt) calls
        { CESubscription.new base.integers with base := base })).getD "" = "" := by
  have hID := subscriptionID_run hrun
  have hnew : CESubscription.subscriptionID
      { CESubscription.new base.integers with base := base } = "" := rfl
  rw [hnew] at hID
  rw [← hID, ← storesID_ne_none_iff]
  obtain ⟨hobj, hcases⟩ := subscribe_cases rt x o
  rcases hcases with ⟨ref, href, hstores, hout⟩ | ⟨hstores, e, hout⟩ | ⟨hstores, hout⟩
  · rw [hstores, Option.getD_some] at hobj
    refine iff_of_true ⟨fun _ => ⟨ref, href, hobj⟩, fun e he => ?_⟩ (Or.inl ?_)
    · rw [hout] at he
      cases he
    · rw [hstores]
      exact Option.some_ne_none _
  · -- a local exit: the ID is the old one
    rw [hstores, Option.getD_none] at hobj
    constructor
    · rintro ⟨-, hraised⟩
      exact Or.inr (hobj.symm.trans (hraised e hout))
    · rintro (h | h)
      · exact absurd hstores h
      · refine ⟨fun hret => ?_, fun _ _ => hobj.trans h⟩
        rw [hout] at hret
        cases hret
  · rw [hstores, Option.getD_some] at hobj
    refine iff_of_true ⟨fun hret => absurd hret hout, fun _ _ => hobj⟩ (Or.inl ?_)
    rw [hstores]
    exact Option.some_ne_none _

/-- A call of `setSubscribeParam` with a new topic and a new policy. -/
def param (consumer : String) : SubscriptionCall :=
  .setSubscribeParam consumer (Topic.new "CE_MONITOR") (Policy.new 30) 3600

/-- A successful exchange, with or without its reference. -/
def answer (ref : Option SubscriptionRef) : Exchange (Option SubscriptionRef) where
  now := 0
  soap := Soap.new
  resp := some ref

/-- Subscribed once, then again with an answer that has no reference: the call fails, and the
first ID is still reported. -/
theorem answerWithoutRef_stale :
    ∃ o, run (step (.plain "SOAP-ENV:Client" ""))
        [param "https://ui:9000", .subscribe (answer (some ⟨"1", some 0⟩))]
        (CESubscription.new .sample) = some o ∧
      (∃ e, (o.subscribe (.plain "SOAP-ENV:Client" "") (answer none)).outcome = .raised e) ∧
      (o.subscribe (.plain "SOAP-ENV:Client" "") (answer none)).obj.getSubscriptionID = "1" ∧
      ¬ReportsID (answer none) (o.subscribe (.plain "SOAP-ENV:Client" "") (answer none)) := by
  refine ⟨_, rfl, ⟨_, rfl⟩, rfl, ?_⟩
  rintro ⟨-, hraised⟩
  have hempty : "1" = "" := hraised _ rfl
  exact absurd hempty (by decide)

/-- A second subscription that succeeds reports its own ID. -/
theorem secondAnswer_reported :
    ∃ o, run (step (.plain "SOAP-ENV:Client" ""))
        [param "https://ui:9000", .subscribe (answer (some ⟨"1", some 0⟩))]
        (CESubscription.new .sample) = some o ∧
      ReportsID (answer (some ⟨"2", some 0⟩))
        (o.subscribe (.plain "SOAP-ENV:Client" "") (answer (some ⟨"2", some 0⟩))) := by
  refine ⟨_, rfl, (reportsID_iff (.plain "SOAP-ENV:Client" "") (AbsRequest.new .sample)
    [param "https://ui:9000", .subscribe (answer (some ⟨"1", some 0⟩))] _
    (answer (some ⟨"2", some 0⟩)) rfl).mpr (Or.inl ⟨?_, fun _ => ?_⟩)⟩
  · show "https://ui:9000" ≠ ""
    decide
  · exact Option.some_ne_none _

end CESubscription

end CEMonitor
