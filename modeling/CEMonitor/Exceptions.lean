import CEMonitor.Infra.Outcome

/-!
# The client's exceptions

Two families leave the client: the `CEException`s, one class per fault the service can send,
and the `AbsException`s, raised by the client itself. No class of one family derives from
another class of it, so a `throw(...)` specification allows exactly the classes it lists.
-/

namespace CEMonitor

open Infra

/-- The classes derived from `CEException`. -/
inductive FaultClass where
  | generic
  | topicNotSupported
  | dialectNotSupported
  | subscription
  | authentication
  | authorization
  | subscriptionNotFound
  deriving DecidableEq, Repr

/-- The classes derived from `AbsException`. -/
inductive AbsClass where
  | serviceNotFound
  | general
  | authenticationInit
  deriving DecidableEq, Repr

/-- The standard library's exceptions that the code can run into. -/
inductive StdClass where
  | logicError
  | outOfRange
  deriving DecidableEq, Repr

/-- What a specification lists. -/
inductive ExceptionClass where
  | ce (c : FaultClass)
  | abs (c : AbsClass)
  | std (c : StdClass)
  deriving DecidableEq, Repr

/-- The data of a `CEException`. -/
structure CEException where
  methodName : String
  timestamp : Int
  errorCode : String
  description : String
  faultCause : String
  deriving DecidableEq, Repr

inductive Exception where
  | ce (c : FaultClass) (fault : CEException)
  | abs (c : AbsClass) (cause : String)
  | std (c : StdClass)
  deriving DecidableEq, Repr

def Exception.cls : Exception → ExceptionClass
  | .ce c _ => .ce c
  | .abs c _ => .abs c
  | .std c => .std c

@[simp] theorem Exception.cls_ce (c : FaultClass) (f : CEException) :
    (Exception.ce c f).cls = .ce c := rfl

@[simp] theorem Exception.cls_abs (c : AbsClass) (cause : String) :
    (Exception.abs c cause).cls = .abs c := rfl

@[simp] theorem Exception.cls_std (c : StdClass) : (Exception.std c).cls = .std c := rfl

/-- The outcome of a call of this program. -/
abbrev Result (α : Type) := Outcome Exception α

/-- The body of a function declared `throw(spec)`. -/
abbrev throws {α : Type} (spec : List ExceptionClass) (body : Result α) : Result α :=
  body.throwing Exception.cls spec

/-- `std::string(p)` for a `const char*`: from a null pointer it raises `std::logic_error`. -/
def stringOf : Option String → Result String
  | some s => .returned s
  | none => .raised (.std .logicError)

@[simp] theorem stringOf_some (s : String) : stringOf (some s) = .returned s := rfl

@[simp] theorem stringOf_none : stringOf none = .raised (.std .logicError) := rfl

/-- `vector::at`. -/
def at? (l : List String) (j : Int) : Result String :=
  if 0 ≤ j then
    match l[j.toNat]? with
    | some m => .returned m
    | none => .raised (.std .outOfRange)
  else .raised (.std .outOfRange)

theorem at?_of_lt {l : List String} {i : Nat} (h : i < l.length) :
    at? l (i : Int) = .returned l[i] := by
  rw [at?, if_pos (by omega), Int.toNat_natCast, List.getElem?_eq_getElem h]

theorem at?_eq_returned_iff {l : List String} {j : Int} {m : String} :
    at? l j = .returned m ↔ 0 ≤ j ∧ l[j.toNat]? = some m := by
  unfold at?
  by_cases hj : 0 ≤ j
  · rw [if_pos hj]
    cases l[j.toNat]? <;> simp [hj]
  · simp [hj]

end CEMonitor
