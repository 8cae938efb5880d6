import CEMonitor.Properties.Dialects
import CEMonitor.Properties.Options
import CEMonitor.Properties.Responses

/-!
# One message for each command line

A program sends at most one message. `Command.Accepts` are the command lines for which it sends
one, `Command.message` is that message, and `Command.Answered` says when the answer lets the
program end with success.
-/

namespace CEMonitor

open Infra CliUtils

/-! ## The operations that return -/

section Operations

variable (rt : SoapRuntime)

theorem CEEvent.getTopicEvents_returns_iff {o : CEEvent} (hu : o.base.serviceURL ≠ "")
    (eventMex : List (List String)) (x : Exchange (Option (List (Option Event)))) :
    (o.getTopicEvents rt eventMex x).sent = [.getTopicEvent o.base.serviceURL o.topic] ∧
    ((∃ a, (o.getTopicEvents rt eventMex x).outcome = .returned a) ↔
      x.soap.error = SOAP_OK ∧ ∃ events, x.resp.getD o.eventArray = some events) := by
  unfold getTopicEvents
  rw [if_neg hu]
  simp only
  by_cases herr : x.soap.error = SOAP_OK
  · rw [if_neg (not_not.mpr herr)]
    cases hr : x.resp.getD o.eventArray with
    | none => exact ⟨rfl, iff_of_false nofun (by simp)⟩
    | some events => exact ⟨rfl, iff_of_true ⟨_, rfl⟩ ⟨herr, events, rfl⟩⟩
  · rw [if_pos herr]
    refine ⟨rfl, iff_of_false ?_ fun h => herr h.1⟩
    rintro ⟨a, ha⟩
    exact AbsRequest.fail_ne_returned rt x.now _ a (Outcome.throwing_eq_returned_iff.mp ha)

theorem CEInfo.getInfo_returns_iff (o : CEInfo) (x : Exchange (Option Info)) :
    (o.getInfo rt x).sent = [.getInfo o.base.serviceURL] ∧
    ((∃ a, (o.getInfo rt x).outcome = .returned a) ↔ x.soap.error = SOAP_OK) := by
  unfold getInfo
  by_cases herr : x.soap.error = SOAP_OK
  · simp only [if_neg (not_not.mpr herr)]
    exact ⟨trivial, iff_of_true ⟨(), trivial⟩ herr⟩
  · simp only [if_pos herr]
    refine ⟨trivial, iff_of_false ?_ herr⟩
    rintro ⟨a, ha⟩
    exact AbsRequest.fail_ne_returned rt x.now _ a (Outcome.throwing_eq_returned_iff.mp ha)

theorem CETopics.getTopics_returns_iff (o : CETopics)
    (x : Exchange (Option (List (Option Topic)))) :
    (o.getTopics rt x).sent = [.getTopics o.base.serviceURL] ∧
    ((∃ a, (o.getTopics rt x).outcome = .returned a) ↔
      x.soap.error = SOAP_OK ∧ ∃ topics, x.resp.getD o.topicArray = some topics) := by
  unfold getTopics
  by_cases herr : x.soap.error = SOAP_OK
  · simp only [if_pos herr]
    cases hr : x.resp.getD o.topicArray with
    | none => exact ⟨rfl, iff_of_false nofun (by simp)⟩
    | some topics => exact ⟨rfl, iff_of_true ⟨_, rfl⟩ ⟨herr, topics, rfl⟩⟩
  · simp only [if_neg herr]
    refine ⟨trivial, iff_of_false ?_ fun h => herr h.1⟩
    rintro ⟨a, ha⟩
    exact AbsRequest.fail_ne_returned rt x.now _ a (Outcome.throwing_eq_returned_iff.mp ha)

theorem CESubscription.sent_subscribe_eq (o : CESubscription) (hc : o.consumerURL ≠ "")
    (x : Exchange (Option SubscriptionRef)) :
    (o.subscribe rt x).sent =
      [.subscribe o.base.serviceURL
        { id := none
          monitorConsumerURL := Text.cStr o.consumerURL
          expirationTime := some (x.now + o.duration)
          topic := o.topic
          policy := o.policy
          name := none
          type := none
          jarPath := none }] := by
  unfold subscribe
  rw [if_neg hc]
  simp only
  split
  · split <;> rfl
  · rfl

/-- The response starts with a reference, so only a null pointer that was received fails. -/
theorem CESubscription.subscribe_returns_iff {o : CESubscription} (hc : o.consumerURL ≠ "")
    (x : Exchange (Option SubscriptionRef)) :
    (∃ a, (o.subscribe rt x).outcome = .returned a) ↔
      x.soap.error = SOAP_OK ∧ x.resp ≠ some none := by
  unfold subscribe
  rw [if_neg hc]
  by_cases herr : x.soap.error = SOAP_OK
  · simp only [if_pos herr]
    cases hr : x.resp with
    | none => exact iff_of_true ⟨_, rfl⟩ ⟨herr, nofun⟩
    | some r =>
      cases r with
      | none => exact iff_of_false nofun fun h => h.2 rfl
      | some ref => exact iff_of_true ⟨_, rfl⟩ ⟨herr, nofun⟩
  · simp only [if_neg herr]
    refine iff_of_false ?_ fun h => herr h.1
    rintro ⟨a, ha⟩
    exact AbsRequest.fail_ne_returned rt x.now _ a (Outcome.throwing_eq_returned_iff.mp ha)

theorem CESubscription.onSubscription_returns_iff {o : CESubscription}
    (hu : o.base.serviceURL ≠ "") (msg : String → SubscriptionRef → SoapCall) (subID : String)
    (x : Exchange Unit) :
    (o.onSubscription rt msg subID x).sent
      = [msg o.base.serviceURL { subscriptionID := subID, expirationTime := some 0 }] ∧
    ((∃ a, (o.onSubscription rt msg subID x).outcome = .returned a) ↔ x.soap.error = SOAP_OK) := by
  unfold onSubscription
  rw [if_neg hu]
  by_cases herr : x.soap.error = SOAP_OK
  · simp only [if_neg (not_not.mpr herr)]
    exact ⟨trivial, iff_of_true ⟨(), trivial⟩ herr⟩
  · simp only [if_pos herr]
    refine ⟨trivial, iff_of_false ?_ herr⟩
    rintro ⟨a, ha⟩
    exact AbsRequest.fail_ne_returned rt x.now _ a (Outcome.throwing_eq_returned_iff.mp ha)

theorem CESubscriptionMgr.sent_update_eq (endpoint subid newConsumerURL : String) (topic : Topic)
    (policy : Policy) (t : Int) (x : Exchange (Option SubscriptionRef)) (o : CESubscriptionMgr) :
    (o.update rt endpoint subid newConsumerURL topic policy t x).sent =
      [.update endpoint
        { id := some subid
          monitorConsumerURL := newConsumerURL
          expirationTime := some t
          topic := some topic
          policy := some policy
          name := none
          type := none
          jarPath := none }] := by
  unfold update
  simp only
  split <;> rfl

theorem CESubscriptionMgr.update_returns_iff (o : CESubscriptionMgr)
    (endpoint subid newConsumerURL : String) (topic : Topic) (policy : Policy) (t : Int)
    (x : Exchange (Option SubscriptionRef)) :
    (∃ a, (o.update rt endpoint subid newConsumerURL topic policy t x).outcome = .returned a) ↔
      x.soap.error = SOAP_OK ∧ ∃ ref, x.resp = some (some ref) := by
  unfold update
  by_cases herr : x.soap.error = SOAP_OK
  · simp only [if_pos herr]
    cases hr : x.resp with
    | none => exact iff_of_false nofun (by simp)
    | some r =>
      cases r with
      | none => exact iff_of_false nofun (by simp)
      | some ref => exact iff_of_true ⟨_, rfl⟩ ⟨herr, ref, rfl⟩
  · simp only [if_neg herr]
    refine iff_of_false ?_ fun h => herr h.1
    rintro ⟨a, ha⟩
    exact AbsRequest.fail_ne_returned rt x.now _ a (Outcome.throwing_eq_returned_iff.mp ha)

/-- The loop comes to its end when every entry has all that it reads. -/
theorem CESubscriptionMgr.listLoop_returns_iff (endpoint : String)
    (l : List (Option SubscriptionData)) (target : List Subscription) :
    (listLoop endpoint l target).1 = .returned () ↔
      ∀ p ∈ l, ∃ s : SubscriptionData, p = some s ∧ s.id ≠ none ∧ s.expirationTime ≠ none ∧
        s.topic ≠ none ∧ s.policy ≠ none := by
  induction l generalizing target with
  | nil => simp [listLoop]
  | cons p l ih =>
    rw [List.forall_mem_cons]
    cases p with
    | none =>
      rw [listLoop]
      simp
    | some s =>
      simp only [Option.some.injEq, exists_eq_left']
      cases hlacks : lacks (some s) with
      | true =>
        rw [listLoop_of_lacks _ _ hlacks]
        refine iff_of_false (by simp) ?_
        rintro ⟨⟨hid, ht, htopic, -⟩, -⟩
        simp only [lacks, Bool.or_eq_true, Option.isNone_iff_eq_none] at hlacks
        rcases hlacks with (h | h) | h
        · exact hid h
        · exact ht h
        · exact htopic h
      | false =>
        obtain ⟨id, t, topic, hid, ht, htopic⟩ := exists_of_not_lacks hlacks
        cases hp : s.policy with
        | none =>
          rw [listLoop_of_policy_none _ _ hlacks hp]
          simp
        | some policy =>
          obtain ⟨sub, -, hstep⟩ := listLoop_of_policy endpoint target hlacks hp
          rw [hstep, ih]
          simp [hid, ht, htopic]

theorem CESubscriptionMgr.list_returns_iff (o : CESubscriptionMgr) (endpoint : String)
    (target : List Subscription) (x : Exchange (Option (List (Option SubscriptionData)))) :
    (∃ a, (o.list rt endpoint target x).1.outcome = .returned a) ↔
      x.soap.error = SOAP_OK ∧ ∃ l, x.resp = some (some l) ∧
        ∀ p ∈ l, ∃ s : SubscriptionData, p = some s ∧ s.id ≠ none ∧ s.expirationTime ≠ none ∧
          s.topic ≠ none ∧ s.policy ≠ none := by
  unfold list
  by_cases herr : x.soap.error = SOAP_OK
  · simp only [herr, if_true, true_and]
    cases hr : x.resp with
    | none => simp [throws, Outcome.throwing_eq_returned_iff]
    | some r =>
      cases r with
      | none => simp [throws, Outcome.throwing_eq_returned_iff]
      | some l =>
        simp only [Option.getD_some, Option.some.injEq, exists_eq_left', throws,
          Outcome.throwing_eq_returned_iff]
        rw [← listLoop_returns_iff endpoint l target]
        constructor
        · rintro ⟨⟨⟩, h⟩
          exact h
        · exact fun h => ⟨(), h⟩
  · simp only [herr, if_false, false_and, iff_false]
    rintro ⟨a, ha⟩
    exact AbsRequest.fail_ne_returned rt x.now _ a (Outcome.throwing_eq_returned_iff.mp ha)

end Operations

/-! ## The command lines that are acted on -/

namespace Command

open Commands

theorem letters_known (c : Command) : ∀ l ∈ c.letters, l ∈ knownLetters := by
  have hall : c.letters.all (fun l => decide (l ∈ knownLetters)) = true := by
    cases c <;> decide
  intro l hl
  exact of_decide_eq_true (List.all_eq_true.mp hall l hl)

/-- What makes a program send its message. -/
structure Accepts (c : Command) (w : World c.Response) (cl : CommandLine) (url : String) :
    Prop where
  options : ∀ p ∈ cl.options, p.1 ∈ c.letters
  operand : cl.operand = some url
  given : ∀ v ∈ c.mandatory (cl.meant w.env), v ≠ ""
  authenticated : w.authenticate (cl.meant w.env) = .returned ()
  url : checkCEMonURL url = "" → c ∈ ignoresRejection

theorem parse_of_options {c : Command} {env : Environment} {cl : CommandLine}
    (h : ∀ p ∈ cl.options, p.1 ∈ c.letters) : parse c.letters env cl = some (cl.meant env) := by
  obtain ⟨o, ho⟩ := (parse_returns_iff c.letters_known).mpr h
  rw [ho, meant_of_parse ho]

/-- The message that the options ask for. -/
def message (o : Options) (serviceURL : String) (now : Int) : Command → SoapCall
  | .getevent =>
    .getTopicEvent serviceURL <| some
      { name := o.topic
        visibility := none
        dialect :=
          if o.dialects = "" then [] else [some { name := o.dialects, queryLanguage := [] }] }
  | .getinfo => .getInfo serviceURL
  | .gettopics => .getTopics serviceURL
  | .subscribe =>
    .subscribe serviceURL
      { id := none
        monitorConsumerURL := Text.cStr o.consumerURL
        expirationTime := some (now + o.duration)
        topic := some { name := o.topic, visibility := none, dialect := dialectsOf o.dialects }
        policy := some
          { query := none
            action := [some (Action.new "SendNotification" "" true),
              some (Action.new "DoNotSendNotification" "" false)]
            rate := o.rate }
        name := none
        type := none
        jarPath := none }
  | .subupdate =>
    .update serviceURL
      { id := some o.subscriptionID
        monitorConsumerURL := o.consumerURL
        expirationTime := some (now + o.duration)
        topic := some { name := o.topic, visibility := none, dialect := [none] }
        policy := some { query := none, action := [], rate := o.rate }
        name := none
        type := none
        jarPath := none }
  | .unsubscribe =>
    .unsubscribe serviceURL { subscriptionID := o.subscriptionID, expirationTime := some 0 }
  | .pause =>
    .pauseSubscription serviceURL { subscriptionID := o.subscriptionID, expirationTime := some 0 }
  | .resume =>
    .resumeSubscription serviceURL { subscriptionID := o.subscriptionID, expirationTime := some 0 }
  | .subinfo => .getSubscription serviceURL

/-- The answers that a program gets to its end with. -/
def Answered : (c : Command) → World c.Response → Prop
  | .getevent, w => w.call.soap.error = SOAP_OK ∧ ∃ events, w.call.resp = some (some events)
  | .getinfo, w => w.call.soap.error = SOAP_OK ∧ ∀ info, w.call.resp = some (some info) →
      (∀ p ∈ info.topic, ∃ t : Topic, p = some t ∧ none ∉ t.dialect) ∧
      ∀ p ∈ info.action, ∃ a : Action, p = some a ∧ a.Intact
  | .gettopics, w => w.call.soap.error = SOAP_OK ∧
      ∃ topics, w.call.resp.getD w.topicResp = some topics ∧
        ∀ p ∈ topics, ∃ t : Topic, p = some t ∧ none ∉ t.dialect
  | .subscribe, w => w.call.soap.error = SOAP_OK ∧ w.call.resp ≠ some none
  | .subupdate, w => w.call.soap.error = SOAP_OK ∧ ∃ ref, w.call.resp = some (some ref)
  | .unsubscribe, w => w.call.soap.error = SOAP_OK
  | .pause, w => w.call.soap.error = SOAP_OK
  | .resume, w => w.call.soap.error = SOAP_OK
  | .subinfo, w => w.call.soap.error = SOAP_OK ∧ ∃ l, w.call.resp = some (some l) ∧
      ∀ p ∈ l, ∃ s : SubscriptionData, p = some s ∧ s.id ≠ none ∧ s.expirationTime ≠ none ∧
        s.topic ≠ none ∧ s.policy ≠ none

/-! ### Without a message -/

/-- `unsubscribe`, `pause` and `resume` with a command line that is not in order. -/
theorem onSubscription_of_not_valid
    (operation : CESubscription → String → Exchange Unit → Call CESubscription Unit)
    {w : World Unit} {cl : CommandLine}
    (h : parse subscriptionIDLetters w.env cl = none ∨ cl.operand = none ∨
      ∃ opts, parse subscriptionIDLetters w.env cl = some opts ∧ "" ∈ [opts.subscriptionID]) :
    onSubscription operation w cl = refused := by
  unfold onSubscription
  cases hp : parse subscriptionIDLetters w.env cl with
  | none => rfl
  | some opts =>
    cases hurl : cl.operand with
    | none => rfl
    | some url =>
      rw [hp, hurl] at h
      rcases h with h | h | ⟨opts', h, hid⟩
      · cases h
      · cases h
      · cases h
        simp only [if_pos (List.mem_singleton.mp hid).symm]

/-- A command line that is not in order. -/
theorem exec_of_not_valid (rt : SoapRuntime) {c : Command} {w : World c.Response}
    {cl : CommandLine}
    (h : parse c.letters w.env cl = none ∨ cl.operand = none ∨
      ∃ opts, parse c.letters w.env cl = some opts ∧ "" ∈ c.mandatory opts) :
    c.exec rt w cl = refused := by
  cases c with
  | getevent =>
    show Commands.getevent rt w cl = refused
    unfold Commands.getevent
    simp only [letters, mandatory, List.mem_cons, List.not_mem_nil, or_false] at h
    cases hp : parse geteventLetters w.env cl with
    | none => rfl
    | some opts =>
      cases hurl : cl.operand with
      | none => rfl
      | some url =>
        rw [hp, hurl] at h
        rcases h with h | h | ⟨opts', h, ht⟩
        · cases h
        · cases h
        · cases h
          simp only [if_pos ht.symm]
  | getinfo =>
    show Commands.getinfo rt w cl = refused
    unfold Commands.getinfo
    simp only [letters, mandatory, List.not_mem_nil, and_false, exists_false, or_false] at h
    rcases h with h | h
    · rw [h]
    · rw [h]
      cases parse getinfoLetters w.env cl <;> rfl
  | gettopics =>
    show Commands.gettopics rt w cl = refused
    unfold Commands.gettopics
    simp only [letters, mandatory, List.not_mem_nil, and_false, exists_false, or_false] at h
    rcases h with h | h
    · rw [h]
    · rw [h]
      cases parse gettopicsLetters w.env cl <;> rfl
  | subscribe =>
    show Commands.subscribe rt w cl = refused
    unfold Commands.subscribe
    simp only [letters, mandatory, List.mem_cons, List.not_mem_nil, or_false] at h
    cases hp : parse subscribeLetters w.env cl with
    | none => rfl
    | some opts =>
      cases hurl : cl.operand with
      | none => rfl
      | some url =>
        rw [hp, hurl] at h
        rcases h with h | h | ⟨opts', h, hc | ht⟩
        · cases h
        · cases h
        · cases h
          simp only [if_pos hc.symm]
        · cases h
          simp only [if_pos ht.symm, ite_self]
  | subupdate =>
    show Commands.subupdate rt w cl = refused
    unfold Commands.subupdate
    simp only [letters, mandatory, List.mem_cons, List.not_mem_nil, or_false] at h
    cases hp : parse subupdateLetters w.env cl with
    | none => rfl
    | some opts =>
      cases hurl : cl.operand with
      | none => rfl
      | some url =>
        rw [hp, hurl] at h
        rcases h with h | h | ⟨opts', h, hc | ht⟩
        · cases h
        · cases h
        · cases h
          simp only [if_pos hc.symm]
        · cases h
          simp only [if_pos ht.symm, ite_self]
  | unsubscribe =>
    show Commands.unsubscribe rt w cl = refused
    exact onSubscription_of_not_valid _ h
  | pause =>
    show Commands.pause rt w cl = refused
    exact onSubscription_of_not_valid _ h
  | resume =>
    show Commands.resume rt w cl = refused
    exact onSubscription_of_not_valid _ h
  | subinfo =>
    show Commands.subinfo rt w cl = refused
    unfold Commands.subinfo
    simp only [letters, mandatory, List.not_mem_nil, and_false, exists_false, or_false] at h
    rcases h with h | h
    · simp only [h]
    · cases hp : parse subinfoLetters w.env cl with
      | none => rfl
      | some opts => simp only [h]

/-- No message and no success. -/
theorem construct_not_authenticated {ρ : Type} {w : World ρ} {o : Options} (k : Process)
    (h : w.authenticate o ≠ .returned ()) :
    (w.construct o k).sent = [] ∧ (w.construct o k).ending ≠ .exit 0 := by
  refine ⟨sent_construct k h, ?_⟩
  unfold World.construct
  split
  · next ha => exact absurd ha h
  · decide
  · nofun
  · nofun

/-- A command line that a program does not act on. -/
theorem exec_of_not_accepts (rt : SoapRuntime) {c : Command} {w : World c.Response}
    {cl : CommandLine} (h : ∀ url, ¬c.Accepts w cl url) :
    (c.exec rt w cl).sent = [] ∧ (c.exec rt w cl).ending ≠ .exit 0 := by
  have hrefused : refused.sent = [] ∧ refused.ending ≠ .exit 0 := ⟨rfl, by decide⟩
  by_cases hoptions : ∀ p ∈ cl.options, p.1 ∈ c.letters
  · have hp : parse c.letters w.env cl = some (cl.meant w.env) := parse_of_options hoptions
    cases hurl : cl.operand with
    | none =>
      rw [exec_of_not_valid rt (Or.inr (Or.inl hurl))]
      exact hrefused
    | some url =>
      -- the tests in their order: the mandatory options, the credentials, the URL
      by_cases hgiven : "" ∈ c.mandatory (cl.meant w.env)
      · rw [exec_of_not_valid rt (Or.inr (Or.inr ⟨_, hp, hgiven⟩))]
        exact hrefused
      · have hv : ValidApartFromURL c w cl (cl.meant w.env) :=
          ⟨hp, fun v hv hempty => hgiven (hempty ▸ hv)⟩
        by_cases ha : w.authenticate (cl.meant w.env) = .returned ()
        · -- the URL is rejected, and not ignored
          have hrej : checkCEMonURL url = "" ∧ c ∉ ignoresRejection := by
            by_contra hno
            refine h url ⟨hoptions, hurl, hv.given, ha, fun hempty => ?_⟩
            by_contra hc
            exact hno ⟨hempty, hc⟩
          obtain ⟨hsent, status, hstatus, hending⟩ :=
            (refuses_iff_of_authenticated rt hv ha hurl hrej.1).mpr hrej.2
          refine ⟨hsent, fun hexit => hstatus ?_⟩
          rw [hending] at hexit
          exact Ending.exit.inj hexit
        · obtain ⟨k, hk⟩ := exec_eq_construct rt hv hurl
          rw [hk]
          exact construct_not_authenticated k ha
  · have hp : parse c.letters w.env cl = none := by
      rw [Option.eq_none_iff_forall_ne_some]
      intro o ho
      exact hoptions ((parse_returns_iff c.letters_known).mp ⟨o, ho⟩)
    rw [exec_of_not_valid rt (Or.inl hp)]
    exact hrefused

/-! ### Printing the answer -/

theorem printAll_returns_iff {α : Type} {print : α → Result String} {as : List α} :
    (∃ u, printAll print as = .returned u) ↔ ∀ a ∈ as, ∃ out, print a = .returned out := by
  induction as with
  | nil => simp [printAll]
  | cons a as ih =>
    simp only [printAll, Outcome.bind_eq_returned_iff, List.forall_mem_cons, ← ih]
    constructor
    · rintro ⟨u, out, hout, hrest⟩
      exact ⟨⟨out, hout⟩, u, hrest⟩
    · rintro ⟨⟨out, hout⟩, u, hrest⟩
      exact ⟨u, out, hout, hrest⟩

/-- The topics of an answer are copied and printed. -/
theorem copyTopics_printed_iff {ps : List (Option Topic)} :
    (∃ ts, CEInfo.copyTopics ps = .returned ts ∧ ∃ u, printAll Topic.print ts = .returned u) ↔
      ∀ p ∈ ps, ∃ t : Topic, p = some t ∧ none ∉ t.dialect := by
  simp only [printAll_returns_iff, CEInfo.copyTopics, Outcome.traverse_returns_forall_iff,
    Topic.print_returns_iff]
  refine forall₂_congr fun p _ => ?_
  constructor
  · rintro ⟨t, c, hp, hcopy, hnull⟩
    cases hcopy
    rw [Topic.copy_dialect] at hnull
    exact ⟨t, hp, hnull⟩
  · rintro ⟨t, hp, hnull⟩
    refine ⟨t, t.copy, hp, rfl, ?_⟩
    rw [Topic.copy_dialect]
    exact hnull

/-- A copy has a name and a type, and so can be printed. -/
theorem print_copied {a : Action} (h : a.Intact) : ∃ out, a.copied.print = .returned out := by
  rw [Action.print]
  simp only [Action.copied, Outcome.deref_some, Outcome.bind_returned, copyAll_of_not_mem h.1,
    copyAll_of_not_mem h.2]
  exact ⟨_, rfl⟩

/-- The actions of an answer are copied and printed. -/
theorem copyActions_printed_iff {ps : List (Option Action)} :
    (∃ as, CEInfo.copyActions ps = .returned as ∧ ∃ u, printAll Action.print as = .returned u) ↔
      ∀ p ∈ ps, ∃ a : Action, p = some a ∧ a.Intact := by
  simp only [printAll_returns_iff, CEInfo.copyActions, Outcome.traverse_returns_forall_iff]
  refine forall₂_congr fun p _ => ?_
  constructor
  · rintro ⟨a, c, hp, hcopy, -⟩
    exact ⟨a, hp, Action.copy_returns_iff.mp ⟨c, hcopy⟩⟩
  · rintro ⟨a, hp, hintact⟩
    exact ⟨a, a.copied, hp, Action.copy_of_intact hintact, print_copied hintact⟩

/-- What `getinfo` does with the answer. -/
theorem getinfo_printed_iff {o : CEInfo} :
    (∃ u, ((o.getTopics []).bind fun T => (o.getActions []).bind fun A =>
        (printAll Topic.print T).bind fun _ => printAll Action.print A) = .returned u) ↔
      ∀ info, o.info = some info →
        (∀ p ∈ info.topic, ∃ t : Topic, p = some t ∧ none ∉ t.dialect) ∧
        ∀ p ∈ info.action, ∃ a : Action, p = some a ∧ a.Intact := by
  unfold CEInfo.getTopics CEInfo.getActions
  cases o.info with
  | none => exact iff_of_true ⟨(), rfl⟩ nofun
  | some info =>
    simp only [Option.some.injEq, forall_eq', List.nil_append]
    rw [← copyTopics_printed_iff, ← copyActions_printed_iff]
    simp only [Outcome.bind_eq_returned_iff, Outcome.map_eq_returned_iff]
    constructor
    · rintro ⟨u, T, ⟨_, hT, rfl⟩, A, ⟨_, hA, rfl⟩, v, hprintT, hprintA⟩
      exact ⟨⟨_, hT, v, hprintT⟩, _, hA, u, hprintA⟩
    · rintro ⟨⟨T, hT, v, hprintT⟩, A, hA, u, hprintA⟩
      exact ⟨u, T, ⟨T, hT, rfl⟩, A, ⟨A, hA, rfl⟩, v, hprintT, hprintA⟩

/-- What `gettopics` does with it. -/
theorem gettopics_printed_iff {o : CETopics} {topics : List (Option Topic)}
    (h : o.topicArray = some topics) :
    (∃ u, ((o.getTopicArray []).bind fun T => printAll Topic.print T) = .returned u) ↔
      ∀ p ∈ topics, ∃ t : Topic, p = some t ∧ none ∉ t.dialect := by
  unfold CETopics.getTopicArray
  rw [h, ← copyTopics_printed_iff]
  simp only [Outcome.bind_eq_returned_iff, Outcome.map_eq_returned_iff, List.nil_append]
  constructor
  · rintro ⟨u, T, ⟨_, hT, rfl⟩, hprint⟩
    exact ⟨_, hT, u, hprint⟩
  · rintro ⟨T, hT, u, hprint⟩
    exact ⟨u, T, ⟨T, hT, rfl⟩, hprint⟩

/-! ### With a message -/

theorem after_eq_exit_zero_iff {α : Type} {e : Result α} {k : α → Ending} :
    Ending.after e k = .exit 0 ↔ ∃ a, e = .returned a ∧ k a = .exit 0 := by
  unfold Ending.after
  split <;> simp

/-- The end of a program that has nothing left to do. -/
theorem after_exit_zero_iff {α : Type} {e : Result α} :
    (Ending.after e fun _ => .exit 0) = .exit 0 ↔ ∃ a, e = .returned a := by
  rw [after_eq_exit_zero_iff]
  simp

/-- What a program does with a command line that it acts on. -/
def Sends (c : Command) (w : World c.Response) (p : Process) (m : SoapCall) : Prop :=
  p.sent = [m] ∧ (p.ending = .exit 0 ↔ c.Answered w)

/-- The topic of a Subscribe request. -/
theorem copy_addDialects (name dialects : String) :
    (addDialects (Text.split ',' dialects) (Topic.new name)).copy
      = { name := name, visibility := none, dialect := dialectsOf dialects } := by
  have hname := name_addDialects (Text.split ',' dialects) (Topic.new name)
  have hdialect : (addDialects (Text.split ',' dialects) (Topic.new name)).copy.dialect
      = dialectsOf dialects := by
    rw [Topic.copy_dialect, dialect_addDialects]
    rfl
  show Topic.mk _ _ _ = Topic.mk _ _ _
  rw [Topic.mk.injEq]
  exact ⟨hname, rfl, hdialect⟩

section

variable (rt : SoapRuntime) {cl : CommandLine} {opts : Options} {url : String}

theorem sends_getevent {w : World (Option (List (Option Event)))}
    (hp : parse geteventLetters w.env cl = some opts) (hurl : cl.operand = some url)
    (ht : opts.topic ≠ "") (ha : w.authenticate opts = .returned ())
    (haccepted : checkCEMonURL url ≠ "") :
    Sends .getevent w (Commands.getevent rt w cl)
      (message opts (checkCEMonURL url) w.call.now .getevent) := by
  unfold Commands.getevent
  rw [hp, hurl]
  simp only [if_neg ht, construct_of_authenticated ha, if_neg haccepted]
  generalize checkCEMonURL url = serviceURL at haccepted
  have hcall := fun (o : CEEvent) (hu : o.base.serviceURL ≠ "") =>
    CEEvent.getTopicEvents_returns_iff rt hu [] w.call
  refine ⟨(hcall _ haccepted).1.trans ?_,
    after_exit_zero_iff.trans ((hcall _ haccepted).2.trans (and_congr_right' ?_))⟩
  · by_cases hd : opts.dialects = ""
    · simp only [message, hd, ne_eq, not_true, if_false, if_true]
      rfl
    · simp only [message, hd, ne_eq, not_false_iff, if_true, if_false]
      rfl
  · cases w.call.resp with
    | none => exact iff_of_false nofun nofun
    | some r =>
      exact ⟨fun ⟨events, h⟩ => ⟨events, congrArg some h⟩,
        fun ⟨events, h⟩ => ⟨events, Option.some.inj h⟩⟩

theorem sends_getinfo {w : World (Option Info)}
    (hp : parse getinfoLetters w.env cl = some opts) (hurl : cl.operand = some url)
    (ha : w.authenticate opts = .returned ()) (haccepted : checkCEMonURL url ≠ "") :
    Sends .getinfo w (Commands.getinfo rt w cl)
      (message opts (checkCEMonURL url) w.call.now .getinfo) := by
  unfold Commands.getinfo
  rw [hp, hurl]
  simp only [construct_of_authenticated ha, if_neg haccepted]
  generalize checkCEMonURL url = serviceURL
  have hcall := fun (o : CEInfo) => CEInfo.getInfo_returns_iff rt o w.call
  refine ⟨(hcall _).1, after_eq_exit_zero_iff.trans ?_⟩
  simp only [after_exit_zero_iff, getinfo_printed_iff, CEInfo.info_getInfo]
  rw [exists_and_right, (hcall _).2]
  refine and_congr_right' ?_
  cases w.call.resp with
  | none =>
    -- the object's own structure is empty
    refine iff_of_true (fun info hinfo => ?_) nofun
    cases hinfo
    exact ⟨nofun, nofun⟩
  | some r => exact forall_congr' fun info => imp_congr_left ⟨congrArg some, Option.some.inj⟩

theorem sends_gettopics {w : World (Option (List (Option Topic)))}
    (hp : parse gettopicsLetters w.env cl = some opts) (hurl : cl.operand = some url)
    (ha : w.authenticate opts = .returned ()) (haccepted : checkCEMonURL url ≠ "") :
    Sends .gettopics w (Commands.gettopics rt w cl)
      (message opts (checkCEMonURL url) w.call.now .gettopics) := by
  unfold Commands.gettopics
  rw [hp, hurl]
  simp only [construct_of_authenticated ha, if_neg haccepted]
  generalize checkCEMonURL url = serviceURL
  have hcall := fun (o : CETopics) => CETopics.getTopics_returns_iff rt o w.call
  refine ⟨(hcall _).1, after_eq_exit_zero_iff.trans ?_⟩
  simp only [after_exit_zero_iff]
  rw [exists_and_right, (hcall _).2, and_assoc]
  refine and_congr_right' ?_
  constructor
  · rintro ⟨⟨topics, h⟩, hprint⟩
    refine ⟨topics, h, (gettopics_printed_iff ?_).mp hprint⟩
    rw [CETopics.topicArray_getTopics]
    exact h
  · rintro ⟨topics, h, hall⟩
    refine ⟨⟨topics, h⟩, (gettopics_printed_iff ?_).mpr hall⟩
    rw [CETopics.topicArray_getTopics]
    exact h

theorem sends_subscribe {w : World (Option SubscriptionRef)}
    (hp : parse subscribeLetters w.env cl = some opts) (hurl : cl.operand = some url)
    (hc : opts.consumerURL ≠ "") (ht : opts.topic ≠ "")
    (ha : w.authenticate opts = .returned ()) :
    Sends .subscribe w (Commands.subscribe rt w cl)
      (message opts (checkCEMonURL url) w.call.now .subscribe) := by
  unfold Commands.subscribe
  rw [hp, hurl]
  simp only [if_neg hc, if_neg ht, construct_of_authenticated ha,
    subscribePolicy_bind_setSubscribeParam]
  generalize checkCEMonURL url = serviceURL
  have hreturns := fun (o : CESubscription) (ho : o.consumerURL ≠ "") =>
    CESubscription.subscribe_returns_iff rt ho w.call
  refine ⟨(CESubscription.sent_subscribe_eq rt _ hc w.call).trans ?_,
    after_exit_zero_iff.trans (hreturns _ hc)⟩
  rw [copy_addDialects]
  rfl

theorem sends_subupdate {w : World (Option SubscriptionRef)}
    (hp : parse subupdateLetters w.env cl = some opts) (hurl : cl.operand = some url)
    (hc : opts.consumerURL ≠ "") (ht : opts.topic ≠ "")
    (ha : w.authenticate opts = .returned ()) :
    Sends .subupdate w (Commands.subupdate rt w cl)
      (message opts (checkCEMonURL url) w.call.now .subupdate) := by
  unfold Commands.subupdate
  rw [hp, hurl]
  simp only [if_neg hc, if_neg ht, construct_of_authenticated ha]
  generalize checkCEMonURL url = serviceURL
  have hreturns := fun (o : CESubscriptionMgr) =>
    CESubscriptionMgr.update_returns_iff rt o serviceURL opts.subscriptionID opts.consumerURL
      ((Topic.new opts.topic).addDialect none) (Policy.new opts.rate)
      (w.call.now + opts.duration) w.call
  exact ⟨CESubscriptionMgr.sent_update_eq rt _ _ _ _ _ _ w.call _,
    after_exit_zero_iff.trans (hreturns _)⟩

theorem sends_onSubscription {msg : String → SubscriptionRef → SoapCall} {w : World Unit}
    (hp : parse subscriptionIDLetters w.env cl = some opts) (hurl : cl.operand = some url)
    (hid : opts.subscriptionID ≠ "") (ha : w.authenticate opts = .returned ())
    (haccepted : checkCEMonURL url ≠ "") :
    (onSubscription (fun ceS subID x => ceS.onSubscription rt msg subID x) w cl).sent
      = [msg (checkCEMonURL url)
          { subscriptionID := opts.subscriptionID, expirationTime := some 0 }] ∧
    ((onSubscription (fun ceS subID x => ceS.onSubscription rt msg subID x) w cl).ending = .exit 0
      ↔ w.call.soap.error = SOAP_OK) := by
  unfold onSubscription
  rw [hp, hurl]
  simp only [if_neg hid, construct_of_authenticated ha]
  generalize checkCEMonURL url = serviceURL at haccepted
  have hcall := fun (o : CESubscription) (hu : o.base.serviceURL ≠ "") =>
    CESubscription.onSubscription_returns_iff rt hu msg opts.subscriptionID w.call
  exact ⟨(hcall _ haccepted).1, after_exit_zero_iff.trans (hcall _ haccepted).2⟩

theorem sends_subinfo {w : World (Option (List (Option SubscriptionData)))}
    (hp : parse subinfoLetters w.env cl = some opts) (hurl : cl.operand = some url)
    (ha : w.authenticate opts = .returned ()) :
    Sends .subinfo w (Commands.subinfo rt w cl)
      (message opts (checkCEMonURL url) w.call.now .subinfo) := by
  unfold Commands.subinfo
  rw [hp, hurl]
  simp only [construct_of_authenticated ha]
  generalize checkCEMonURL url = serviceURL
  have hcall := fun (o : CESubscriptionMgr) =>
    CESubscriptionMgr.list_returns_iff rt o serviceURL [] w.call
  exact ⟨CESubscriptionMgr.sent_list rt serviceURL [] w.call _,
    after_exit_zero_iff.trans (hcall _)⟩

end

/-- A command line that a program acts on. -/
theorem sends_of_accepts (rt : SoapRuntime) {c : Command} {w : World c.Response}
    {cl : CommandLine} {url : String} (h : c.Accepts w cl url) :
    c.Sends w (c.exec rt w cl)
      (c.message (cl.meant w.env) (checkCEMonURL url) w.call.now) := by
  obtain ⟨hoptions, hurl, hgiven, ha, hrej⟩ := h
  have hp : parse c.letters w.env cl = some (cl.meant w.env) := parse_of_options hoptions
  have haccepted : c ∉ ignoresRejection → checkCEMonURL url ≠ "" := fun hc hu => hc (hrej hu)
  cases c with
  | getevent =>
    have ht : (cl.meant w.env).topic ≠ "" := hgiven _ (by simp [mandatory])
    exact sends_getevent rt hp hurl ht ha (haccepted (by decide))
  | getinfo => exact sends_getinfo rt hp hurl ha (haccepted (by decide))
  | gettopics => exact sends_gettopics rt hp hurl ha (haccepted (by decide))
  | subscribe =>
    have hc : (cl.meant w.env).consumerURL ≠ "" := hgiven _ (by simp [mandatory])
    have ht : (cl.meant w.env).topic ≠ "" := hgiven _ (by simp [mandatory])
    exact sends_subscribe rt hp hurl hc ht ha
  | subupdate =>
    have hc : (cl.meant w.env).consumerURL ≠ "" := hgiven _ (by simp [mandatory])
    have ht : (cl.meant w.env).topic ≠ "" := hgiven _ (by simp [mandatory])
    exact sends_subupdate rt hp hurl hc ht ha
  | unsubscribe =>
    have hid : (cl.meant w.env).subscriptionID ≠ "" := hgiven _ (by simp [mandatory])
    exact sends_onSubscription rt hp hurl hid ha (haccepted (by decide))
  | pause =>
    have hid : (cl.meant w.env).subscriptionID ≠ "" := hgiven _ (by simp [mandatory])
    exact sends_onSubscription rt hp hurl hid ha (haccepted (by decide))
  | resume =>
    have hid : (cl.meant w.env).subscriptionID ≠ "" := hgiven _ (by simp [mandatory])
    exact sends_onSubscription rt hp hurl hid ha (haccepted (by decide))
  | subinfo => exact sends_subinfo rt hp hurl ha

/--
**A program ends with success exactly when its message was sent and answered.**

What an answer needs depends on what the program reads of it: `getinfo` and `gettopics` copy and
print the topics, `subinfo` goes through the subscriptions.
-/
theorem exec_exit_zero_iff (rt : SoapRuntime) (c : Command) (w : World c.Response)
    (cl : CommandLine) :
    (c.exec rt w cl).ending = .exit 0 ↔ (∃ url, c.Accepts w cl url) ∧ c.Answered w := by
  constructor
  · intro hexit
    by_cases h : ∃ url, c.Accepts w cl url
    · obtain ⟨url, hurl⟩ := h
      exact ⟨⟨url, hurl⟩, (sends_of_accepts rt hurl).2.mp hexit⟩
    · exact absurd hexit (exec_of_not_accepts rt (not_exists.mp h)).2
  · rintro ⟨⟨url, hurl⟩, hanswered⟩
    exact (sends_of_accepts rt hurl).2.mpr hanswered

end Command

end CEMonitor
