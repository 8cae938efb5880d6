import CEMonitor.Uses
import CEMonitor.Properties.Failures
import CEMonitor.Properties.Responses

/-!
# When a program on a request object gets through

Three things can end it: an operation that fails with a fault it cannot report, a response with a
null pointer in a place that is not tested, and an accessor that follows a pointer to what `cleanup`
has freed. The first two are conditions on the operation, the third is one on the history: the
response must be newer than the last `cleanup`.
-/

namespace CEMonitor

open Infra

/-! ## Operations -/

theorem Call.goesOn_iff {σ α : Type} {k : Call σ α} :
    (∃ s, k.goesOn = some s) ↔ (∃ a, k.outcome = .returned a) ∨ ∃ e, k.outcome = .raised e := by
  unfold Call.goesOn
  cases k.outcome <;> simp

namespace Operation

variable {rt : SoapRuntime} {c : RequestClass} {op : Operation c} {o : Object c}

/-- No null pointer is where the operation itself follows one. -/
def Intact : {c : RequestClass} → Operation c → Prop
  | _, .list _ _ x => ∀ l, x.resp.getD none = some l → CESubscriptionMgr.Readable l
  | _, .update _ _ _ _ _ _ x => x.resp.getD none ≠ none
  | _, _ => True

/-- The operation fails with an exception that it lists, or reads an intact response. -/
def Tolerable (op : Operation c) (o : Object c) : Prop :=
  (op.Fails o →
    ¬TextMissing op.soap ∧ ∀ cl, Selects o.base.integers op.soap cl → cl ∉ op.unlisted) ∧
  (¬op.Fails o → op.Intact)

/-- Otherwise only the two operations of `CESubscriptionMgr` follow pointers untested. -/
theorem goesOn_of_not_fails (h : ¬op.Fails o) :
    (∃ o', (op.exec rt o).goesOn = some o') ↔ op.Intact := by
  rw [Call.goesOn_iff]
  -- what an operation throws of its own is in every throw list
  have hgeneral : ∀ message, throws op.spec (.raised (.abs .general message) : Result Unit)
      = .raised (.abs .general message) :=
    fun message => Outcome.throwing_raised_of_mem (abs_mem_spec op).2
  cases op with
  | getTopicEvents eventMex x =>
    refine iff_of_true ?_ trivial
    by_cases hurl : (CEEvent.base o).serviceURL = ""
    · simp only [exec, dropValue, CEEvent.getTopicEvents, if_pos hurl]
      exact Or.inr ⟨_, rfl⟩
    · have he : x.soap.error = SOAP_OK := error_of_not_fails h fun ht => hurl (Option.some.inj ht)
      simp only [exec, dropValue, CEEvent.getTopicEvents, if_neg hurl, he, ne_eq, not_true,
        if_false]
      cases x.resp.getD (CEEvent.eventArray o) with
      | none => exact Or.inr ⟨_, rfl⟩
      | some events => exact Or.inl ⟨_, rfl⟩
  | getInfo x =>
    have he : x.soap.error = SOAP_OK := error_of_not_fails h (Option.some_ne_none _).symm
    simp only [exec, CEInfo.getInfo, he, ne_eq, not_true, if_false]
    exact iff_of_true (Or.inl ⟨(), trivial⟩) trivial
  | getTopics x =>
    have he : x.soap.error = SOAP_OK := error_of_not_fails h (Option.some_ne_none _).symm
    refine iff_of_true ?_ trivial
    simp only [exec, CETopics.getTopics, if_pos he]
    cases x.resp.getD (CETopics.topicArray o) with
    | none => exact Or.inr ⟨_, hgeneral _⟩
    | some topics => exact Or.inl ⟨_, rfl⟩
  | subscribe x =>
    refine iff_of_true ?_ trivial
    by_cases hurl : CESubscription.consumerURL o = ""
    · simp only [exec, CESubscription.subscribe, if_pos hurl]
      exact Or.inr ⟨_, hgeneral _⟩
    · have he : x.soap.error = SOAP_OK := error_of_not_fails h fun ht => hurl (Option.some.inj ht)
      simp only [exec, CESubscription.subscribe, if_neg hurl, if_pos he]
      cases x.resp.getD (some { subscriptionID := "", expirationTime := some 0 }) with
      | none => exact Or.inr ⟨_, hgeneral _⟩
      | some ref => exact Or.inl ⟨_, rfl⟩
  | unsubscribe subID x | pause subID x | resume subID x =>
    refine iff_of_true ?_ trivial
    by_cases hurl : (CESubscription.base o).serviceURL = ""
    · simp only [exec, CESubscription.unsubscribe, CESubscription.pause, CESubscription.resume,
        CESubscription.onSubscription, if_pos hurl]
      exact Or.inr ⟨_, hgeneral _⟩
    · have he : x.soap.error = SOAP_OK := error_of_not_fails h fun ht => hurl (Option.some.inj ht)
      simp only [exec, CESubscription.unsubscribe, CESubscription.pause, CESubscription.resume,
        CESubscription.onSubscription, if_neg hurl, he, ne_eq, not_true, if_false]
      exact Or.inl ⟨(), trivial⟩
  | list endpoint target x =>
    have he : x.soap.error = SOAP_OK := error_of_not_fails h (Option.some_ne_none _).symm
    have hends : Reading.EndsWell rt (.list endpoint target x o) ↔ _ :=
      Reading.endsWell_list_iff he
    refine Iff.trans ?_ hends
    constructor
    · rintro (⟨⟨⟩, hret⟩ | ⟨e, hraised⟩)
      · exact Or.inl hret
      · refine Or.inr ⟨e, hraised, ?_⟩
        obtain ⟨r, hr⟩ := outcome_eq_throws rt (.list endpoint target x) o
        rw [hr] at hraised
        exact (Outcome.throwing_eq_raised_iff.mp hraised).2
    · rintro (hret | ⟨e, hraised, -⟩)
      · exact Or.inl ⟨(), hret⟩
      · exact Or.inr ⟨e, hraised⟩
  | update endpoint subid newConsumerURL topic policy t x =>
    have he : x.soap.error = SOAP_OK := error_of_not_fails h (Option.some_ne_none _).symm
    simp only [exec, dropValue, CESubscriptionMgr.update, if_pos he, Intact]
    cases x.resp.getD none with
    | none => simp
    | some ref => exact iff_of_true (Or.inl ⟨_, rfl⟩) (Option.some_ne_none ref)

/-- Nothing but a null pointer in a response makes an operation undefined. -/
theorem outcome_ne_undefined (rt : SoapRuntime) (op : Operation c) (o : Object c)
    (h : op.Fails o ∨ op.Intact) : (op.exec rt o).outcome ≠ .undefined := by
  by_cases hfails : op.Fails o
  · rcases outcome_of_fails rt hfails with ⟨-, hout⟩ | ⟨-, r', -, -, hout⟩
    · simp [hout]
    · obtain ⟨e, he⟩ := AbsRequest.throwException_eq_raised op.now r'
      rw [hout, he]
      by_cases hmem : e.cls ∈ op.spec
      · simp [throws, Outcome.throwing_raised_of_mem hmem]
      · simp [throws, Outcome.throwing_raised_of_not_mem hmem]
  · have hgoes : ∃ o', (op.exec rt o).goesOn = some o' :=
      (goesOn_of_not_fails hfails).mpr (h.resolve_left hfails)
    rcases Call.goesOn_iff.mp hgoes with ⟨a, ha⟩ | ⟨e, he⟩
    · simp [ha]
    · simp [he]

end Operation

namespace Object

variable {c : RequestClass} (url : String) (o : Object c)

end Object

/-! ## Accessors -/

namespace Accessor

variable {c : RequestClass} {a : Accessor c} {o : Object c}

/-- No null pointer is where the accessor follows one untested. -/
def Readable : {c : RequestClass} → Accessor c → Kept c → Prop
  | _, .getTopics _, (info : Info) => none ∉ info.topic
  | _, .getActions _, (info : Info) => ∀ p ∈ info.action, ∃ a, p = some a ∧ a.Intact
  | _, .getTopicArray _, (topics : List (Option Topic)) => none ∉ topics
  | _, _, _ => True

end Accessor

namespace Use

variable {c : RequestClass}

/-- The service URL that a use sets. -/
def url? : Use c → Option String
  | .setServiceURL url => some url
  | _ => none

/-- The response that a use brings, which may be a null pointer. -/
def response? : Use c → Option (Option (Kept c))
  | .call op _ => op.response?
  | _ => none

/-- `cleanup` frees, a response makes new. -/
def frees? : Use c → Option Bool
  | .cleanup => some true
  | .call op _ => op.response?.map fun _ => false
  | _ => none

/-- The service URL after some uses. -/
def address (o₀ : Object c) (past : List (Use c)) : String :=
  (lastWrite url? past).getD o₀.base.serviceURL

/-- The pointer after some uses, by what it leads or led to. -/
def pointer (o₀ : Object c) (past : List (Use c)) : Option (Kept c) :=
  (lastWrite response? past).getD o₀.kept

/-- There was a response, and a `cleanup` since the last one. -/
def Freed (past : List (Use c)) : Prop :=
  lastWrite response? past ≠ none ∧ lastWrite frees? past = some true

/-- What lets a program go on that has used the object so before. -/
def Survivable (o₀ : Object c) (past : List (Use c)) : Use c → Prop
  | .setServiceURL _ => True
  | .call op _ => op.Tolerable (o₀.setServiceURL (address o₀ past))
  | .cleanup => True
  | .read a => ∀ r, pointer o₀ past = some r → (a.follows = true → ¬Freed past) ∧ a.Readable r

end Use

/-- What the next use depends on. -/
structure Standing (c : RequestClass) where
  serviceURL : String
  kept : Option (Kept c)
  data : Data

namespace Standing

variable {c : RequestClass}

/-- The same after one more use. -/
def after (t : Standing c) : Use c → Standing c
  | .setServiceURL url => { t with serviceURL := url }
  | .call op _ =>
    { t with
      kept := op.response?.getD t.kept
      data := (op.response?.map fun _ => Data.received).getD t.data }
  | .cleanup => { t with data := if t.data = .own then .own else .freed }
  | .read _ => t

/-- The standing of an object that was used so. -/
def past (o₀ : Object c) (us : List (Use c)) : Standing c where
  serviceURL := Use.address o₀ us
  kept := Use.pointer o₀ us
  data := ((lastWrite Use.response? us).map fun _ =>
    bif (lastWrite Use.frees? us).getD false then Data.freed else .received).getD .own

end Standing

end CEMonitor
