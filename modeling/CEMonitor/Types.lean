import CEMonitor.Exceptions
import CEMonitor.Infra.Traverse
import Mathlib.Algebra.Order.Ring.Int

/-!
# Topics, policies and the other message types

The gSOAP classes (`monitortypes__Topic` and so on) with the client's wrapper classes on top
of them (`Topic`, `DialectW`, `ActionW`, `Policy`, ...). A wrapper adds no data, so one
structure stands for both. A pointer member is an `Option`, a vector of pointers a
`List (Option _)`; copying through a null pointer is undefined.
-/

namespace CEMonitor

open Infra

/-! ## Topics -/

/-- `monitortypes__Dialect`. -/
structure Dialect where
  name : String
  queryLanguage : List String
  deriving DecidableEq, Repr

/-- `monitortypes__Topic`. -/
structure Topic where
  name : String
  visibility : Option String
  dialect : List (Option Dialect)
  deriving DecidableEq, Repr

namespace Dialect

/-- `DialectW::DialectW(const string&)`. -/
def new (name : String) : Dialect where
  name := name
  queryLanguage := []

/-- `DialectW::DialectW(const DialectW&)`. -/
def copy (d : Dialect) : Dialect where
  name := d.name
  queryLanguage := d.queryLanguage

/-- `DialectW::setDialectName`. -/
def setDialectName (newName : String) (d : Dialect) : Dialect := { d with name := newName }

/-- `DialectW::addQueryLanguage`. -/
def addQueryLanguage (newQl : String) (d : Dialect) : Dialect :=
  { d with queryLanguage := d.queryLanguage ++ [newQl] }

@[simp] theorem copy_eq (d : Dialect) : d.copy = d := rfl

end Dialect

namespace Topic

/-- `Topic::Topic(const string&)`. -/
def new (name : String) : Topic where
  name := name
  visibility := none
  dialect := []

/-- `Topic::Topic(const Topic&)`: a null dialect is copied as null. -/
def copy (t : Topic) : Topic where
  name := t.name
  visibility := none
  dialect := t.dialect.map fun d => d.map Dialect.copy

/-- `Topic::addDialect`. -/
def addDialect (d : Option Dialect) (t : Topic) : Topic :=
  { t with dialect := t.dialect ++ [d.map Dialect.copy] }

/-- `Topic::print`, the text it writes. -/
def print (t : Topic) : Result String :=
  t.dialect.foldl
    (fun out d => out.bind fun out => (Outcome.deref d).bind fun d =>
      .returned (out ++ "   Dialect [" ++ d.name ++ "]\n"
        ++ String.join (d.queryLanguage.map fun q => "      queryLanguage [" ++ q ++ "]\n")))
    (.returned ("Topic [" ++ t.name ++ "]\n"))

/-- `Topic::getNumOfDialects`, which returns a `size_t` as an `int`. -/
def getNumOfDialects (t : Topic) : Int := (t.dialect.length : Int).bmod (2 ^ 32)

/-- One round of the destructor. The `dynamic_cast` of a null pointer is null, and the result is
tested. -/
def deleteDialect (deleted : List Dialect) : Option Dialect → Result (List Dialect)
  | some d => .returned (deleted ++ [d])
  | none => .returned deleted

/-- `Topic::~Topic`, the dialects it deletes. -/
def destroy (t : Topic) : Result (List Dialect) :=
  t.dialect.foldl (fun deleted d => deleted.bind fun deleted => deleteDialect deleted d)
    (.returned [])

@[simp] theorem copy_name (t : Topic) : t.copy.name = t.name := rfl

@[simp] theorem copy_dialect (t : Topic) : t.copy.dialect = t.dialect := by
  have hid : (fun d : Option Dialect => d.map Dialect.copy) = id := by
    funext d
    cases d <;> rfl
  rw [copy, hid, List.map_id]

@[simp] theorem addDialect_name (d : Option Dialect) (t : Topic) :
    (t.addDialect d).name = t.name := rfl

@[simp] theorem addDialect_dialect (d : Option Dialect) (t : Topic) :
    (t.addDialect d).dialect = t.dialect ++ [d] := by
  cases d <;> rfl

/-- The names of the dialects that are not null, in order. -/
def dialectNames (t : Topic) : List String := t.dialect.filterMap fun d => d.map Dialect.name

end Topic

/-! ## Actions -/

/-- `monitortypes__Parameter`. -/
structure Parameter where
  name : String
  value : String
  deriving DecidableEq, Repr

/-- `monitortypes__Property`. -/
structure Property where
  name : String
  value : String
  deriving DecidableEq, Repr

/-- `monitortypes__Action`. -/
structure Action where
  name : Option String
  type : Option String
  id : Option String
  jarPath : Option String
  doActionWhenQueryIs : Bool
  parameter : List (Option Parameter)
  property : List (Option Property)
  deriving DecidableEq, Repr

/-- Copying a vector of pointers entry by entry: `new T(**it)` for every entry. -/
def copyAll {α : Type} (ps : List (Option α)) : Result (List (Option α)) :=
  Outcome.traverse (fun a => (Outcome.returned a).map some) ps

section CopyAll

variable {α : Type} {ps : List (Option α)}

/-- Without null pointers the copy holds the same entries. -/
theorem copyAll_of_not_mem (h : none ∉ ps) : copyAll ps = .returned ps := by
  have hentry : ∀ p ∈ ps, ∃ a, p = some a ∧ (.returned a : Result α) = .returned (id a) := by
    intro p hp
    cases p with
    | none => exact absurd hp h
    | some a => exact ⟨a, rfl, rfl⟩
  have hid : (ps.map fun p => p.map id) = ps := by
    simp only [Option.map_id_fun, id_eq, List.map_id']
  rw [copyAll, Outcome.traverse_some_of_forall hentry, hid]

theorem copyAll_returns_iff : (∃ as, copyAll ps = .returned as) ↔ none ∉ ps :=
  Outcome.traverse_returns_iff_not_mem fun a => ⟨some a, rfl⟩

end CopyAll

namespace Action

/-- `ActionW::ActionW(const string&, const string&, const bool)`. -/
def new (name type : String) (doActionWhenQueryIs : Bool) : Action where
  name := some name
  type := some type
  id := some ""
  jarPath := some ""
  doActionWhenQueryIs := doActionWhenQueryIs
  parameter := []
  property := []

/-- `ActionW::init`, the copy constructor. -/
def copy (a : Action) : Result Action :=
  (copyAll a.parameter).bind fun parameter =>
    (copyAll a.property).bind fun property =>
      .returned
        { name := some (a.name.getD "")
          type := some (a.type.getD "")
          id := some (a.id.getD "")
          jarPath := some ""
          doActionWhenQueryIs := a.doActionWhenQueryIs
          parameter := parameter
          property := property }

/-- No pointer that the copy constructor follows is null. -/
def Intact (a : Action) : Prop := none ∉ a.parameter ∧ none ∉ a.property

instance (a : Action) : Decidable a.Intact := inferInstanceAs (Decidable (_ ∧ _))

/-- What a copy holds: no null texts, and an empty jar path. -/
def copied (a : Action) : Action :=
  { a with
    name := some (a.name.getD "")
    type := some (a.type.getD "")
    id := some (a.id.getD "")
    jarPath := some "" }

theorem copy_of_intact {a : Action} (h : a.Intact) : a.copy = .returned a.copied := by
  rw [copy, copyAll_of_not_mem h.1, Outcome.bind_returned, copyAll_of_not_mem h.2,
    Outcome.bind_returned]
  rfl

theorem copy_returns_iff {a : Action} : (∃ b, a.copy = .returned b) ↔ a.Intact := by
  constructor
  · rintro ⟨b, hb⟩
    obtain ⟨parameter, hparameter, hb⟩ := Outcome.bind_eq_returned_iff.mp hb
    obtain ⟨property, hproperty, -⟩ := Outcome.bind_eq_returned_iff.mp hb
    exact ⟨copyAll_returns_iff.mp ⟨_, hparameter⟩, copyAll_returns_iff.mp ⟨_, hproperty⟩⟩
  · intro h
    exact ⟨_, copy_of_intact h⟩

/-- The copy of an action has no null pointers left to stumble over. -/
theorem intact_copied {a : Action} (h : a.Intact) : a.copied.Intact := h

@[simp] theorem copied_copied (a : Action) : a.copied.copied = a.copied := rfl

/-- `ActionW::addParameter`. -/
def addParameter (p : Parameter) (a : Action) : Action :=
  { a with parameter := a.parameter ++ [some p] }

/-- `ActionW::print`, the text it writes. -/
def print (a : Action) : Result String :=
  (Outcome.deref a.name).bind fun name => (Outcome.deref a.type).bind fun type =>
    (copyAll a.parameter).bind fun parameter => (copyAll a.property).bind fun property =>
      .returned ("Action [" ++ name ++ ":" ++ type
        ++ (match a.id with | some id => ":" ++ id | none => "") ++ "]\n"
        ++ String.join (parameter.map fun
          | some p => "   Parameter [" ++ p.name ++ "]=[" ++ p.value ++ "]\n"
          | none => "")
        ++ String.join (property.map fun
          | some p => "   Property [" ++ p.name ++ "]=[" ++ p.value ++ "]\n"
          | none => ""))

end Action

/-! ## Policies -/

/-- `monitortypes__Query`. -/
structure Query where
  expression : String
  queryLanguage : String
  deriving DecidableEq, Repr

/-- `monitortypes__Policy`. -/
structure Policy where
  query : Option Query
  action : List (Option Action)
  rate : Int
  deriving DecidableEq, Repr

namespace Policy

/-- `Policy::Policy(const int&)`. -/
def new (rate : Int) : Policy where
  query := none
  action := []
  rate := rate

/-- The loop of the copy constructor over the actions. -/
def copyActions (ps : List (Option Action)) : Result (List (Option Action)) :=
  Outcome.traverse (fun a => a.copy.map some) ps

/-- `Policy::Policy(const Policy&)`. -/
def copy (p : Policy) : Result Policy :=
  (copyActions p.action).map fun action => { query := p.query, action := action, rate := p.rate }

/-- `Policy::addAction`. -/
def addAction (a : Action) (p : Policy) : Result Policy :=
  a.copy.map fun a => { p with action := p.action ++ [some a] }

/-- `Policy::setQuery`. -/
def setQuery (q : Option Query) (p : Policy) : Policy := { p with query := q }

/-- `Policy::addAction_Query`. -/
def addAction_Query (a : Action) (q : Option Query) (p : Policy) : Result Policy :=
  (p.addAction a).map fun p => p.setQuery q

/-- No pointer that the copy constructor follows is null. -/
def Intact (p : Policy) : Prop := ∀ q ∈ p.action, ∃ a, q = some a ∧ a.Intact

theorem copy_of_intact {p : Policy} (h : p.Intact) :
    p.copy = .returned { p with action := p.action.map fun q => q.map Action.copied } := by
  have hcopied : ∀ q ∈ p.action, ∃ a, q = some a ∧ a.copy = .returned a.copied := by
    intro q hq
    obtain ⟨a, ha, hintact⟩ := h q hq
    exact ⟨a, ha, Action.copy_of_intact hintact⟩
  rw [copy, copyActions, Outcome.traverse_some_of_forall hcopied, Outcome.map_returned]

theorem intact_of_addAction {a : Action} {p q : Policy} (h : p.addAction a = .returned q) :
    a.Intact ∧ q = { p with action := p.action ++ [some a.copied] } := by
  obtain ⟨b, hb, rfl⟩ := Outcome.map_eq_returned_iff.mp h
  have hintact : a.Intact := Action.copy_returns_iff.mp ⟨b, hb⟩
  rw [Action.copy_of_intact hintact] at hb
  cases hb
  exact ⟨hintact, rfl⟩

theorem intact_of_copy {p q : Policy} (h : p.copy = .returned q) : p.Intact := by
  obtain ⟨action, haction, -⟩ := Outcome.map_eq_returned_iff.mp h
  intro a ha
  obtain ⟨b, c, hb, hc⟩ := Outcome.traverse_returns_iff.mp ⟨_, haction⟩ a ha
  obtain ⟨d, hd, -⟩ := Outcome.map_eq_returned_iff.mp hc
  exact ⟨b, hb, Action.copy_returns_iff.mp ⟨d, hd⟩⟩

end Policy

/-! ## Events and subscriptions -/

/-- `monitortypes__Event`. -/
structure Event where
  id : Int
  timestamp : Int
  producer : String
  message : List String
  deriving DecidableEq, Repr

/-- `monitortypes__Notification`. -/
structure Notification where
  topic : Option Topic
  event : List (Option Event)
  deriving DecidableEq, Repr

/-- `monitortypes__SubscriptionRef`. -/
structure SubscriptionRef where
  subscriptionID : String
  expirationTime : Option Int
  deriving DecidableEq, Repr

/-- `monitortypes__Subscription`. -/
structure SubscriptionData where
  id : Option String
  monitorConsumerURL : String
  expirationTime : Option Int
  topic : Option Topic
  policy : Option Policy
  name : Option String
  type : Option String
  jarPath : Option String
  deriving DecidableEq, Repr

/-- The client's own `Subscription`, one per entry of a subscription list. -/
structure Subscription where
  subscriptionID : String
  expirationTime : Int
  rate : Int
  consumerURL : String
  topicName : String
  endpoint : String
  deriving DecidableEq, Repr

/-- `monitortypes__Info`. -/
structure Info where
  serviceVersion : String
  description : Option String
  topic : List (Option Topic)
  action : List (Option Action)
  property : List (Option Property)
  deriving DecidableEq, Repr

end CEMonitor
