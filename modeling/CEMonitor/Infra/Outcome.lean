import Mathlib.Data.List.Basic

/-!
# Outcomes of a call that may throw

A C++ call ends in one of four ways: it returns, it lets an exception out, it lets out an
exception that its `throw(...)` specification does not list (`std::unexpected`, hence abort),
or it runs into undefined behaviour (a null dereference, a read out of bounds).
The exception type `ε` and the classes `κ` a specification lists are parameters.
-/

namespace Infra

/-- How a call ends. -/
inductive Outcome (ε α : Type) where
  | returned (a : α)
  | raised (e : ε)
  | unexpected
  | undefined
  deriving DecidableEq, Repr

namespace Outcome

variable {ε κ α β γ : Type}

/-- Sequencing: only a call that returned is continued. -/
def bind (o : Outcome ε α) (f : α → Outcome ε β) : Outcome ε β :=
  match o with
  | .returned a => f a
  | .raised e => .raised e
  | .unexpected => .unexpected
  | .undefined => .undefined

def map (f : α → β) (o : Outcome ε α) : Outcome ε β := o.bind fun a => .returned (f a)

@[simp] theorem bind_returned (a : α) (f : α → Outcome ε β) : (returned a).bind f = f a := rfl

@[simp] theorem bind_raised (e : ε) (f : α → Outcome ε β) : (raised e).bind f = .raised e := rfl

@[simp] theorem bind_unexpected (f : α → Outcome ε β) :
    (unexpected : Outcome ε α).bind f = .unexpected := rfl

@[simp] theorem bind_undefined (f : α → Outcome ε β) :
    (undefined : Outcome ε α).bind f = .undefined := rfl

@[simp] theorem map_returned (f : α → β) (a : α) :
    (returned a : Outcome ε α).map f = .returned (f a) := rfl

@[simp] theorem map_raised (f : α → β) (e : ε) :
    (raised e : Outcome ε α).map f = .raised e := rfl

@[simp] theorem map_unexpected (f : α → β) :
    (unexpected : Outcome ε α).map f = .unexpected := rfl

@[simp] theorem map_undefined (f : α → β) :
    (undefined : Outcome ε α).map f = .undefined := rfl

theorem map_unit (o : Outcome ε Unit) : o.map (fun _ => ()) = o := by
  cases o <;> rfl

/-- A pointer that the program is about to dereference. -/
def deref : Option α → Outcome ε α
  | some a => .returned a
  | none => .undefined

@[simp] theorem deref_some (a : α) : (deref (some a) : Outcome ε α) = .returned a := rfl

@[simp] theorem deref_none : (deref none : Outcome ε α) = .undefined := rfl

/-! ## Calls that return -/

theorem bind_eq_returned_iff {o : Outcome ε α} {f : α → Outcome ε β} {b : β} :
    o.bind f = .returned b ↔ ∃ a, o = .returned a ∧ f a = .returned b := by
  cases o <;> simp

theorem map_eq_returned_iff {o : Outcome ε α} {f : α → β} {b : β} :
    o.map f = .returned b ↔ ∃ a, o = .returned a ∧ f a = b := by
  cases o <;> simp

theorem map_returns_iff {o : Outcome ε α} {f : α → β} :
    (∃ b, o.map f = .returned b) ↔ ∃ a, o = .returned a := by
  cases o <;> simp

theorem deref_eq_returned_iff {p : Option α} {a : α} :
    (deref p : Outcome ε α) = .returned a ↔ p = some a := by
  cases p <;> simp

/-! ## Exception specifications -/

/-- A function body under the specification `throw(spec)`. -/
def throwing [DecidableEq κ] (cls : ε → κ) (spec : List κ) (o : Outcome ε α) : Outcome ε α :=
  match o with
  | .raised e => if cls e ∈ spec then .raised e else .unexpected
  | o => o

variable [DecidableEq κ] {cls : ε → κ} {spec : List κ}

@[simp] theorem throwing_returned (a : α) :
    throwing cls spec (returned a) = .returned a := rfl

@[simp] theorem throwing_unexpected :
    throwing cls spec (unexpected : Outcome ε α) = .unexpected := rfl

@[simp] theorem throwing_undefined :
    throwing cls spec (undefined : Outcome ε α) = .undefined := rfl

theorem throwing_raised_of_mem {e : ε} (h : cls e ∈ spec) :
    throwing cls spec (raised e : Outcome ε α) = .raised e := if_pos h

theorem throwing_raised_of_not_mem {e : ε} (h : cls e ∉ spec) :
    throwing cls spec (raised e : Outcome ε α) = .unexpected := if_neg h

/-- Only listed exceptions leave a function with a specification. -/
theorem throwing_eq_raised_iff {o : Outcome ε α} {e : ε} :
    throwing cls spec o = .raised e ↔ o = .raised e ∧ cls e ∈ spec := by
  cases o with
  | raised e' =>
    by_cases h : cls e' ∈ spec
    · rw [throwing_raised_of_mem h]
      constructor
      · intro he
        cases he
        exact ⟨rfl, h⟩
      · exact fun he => he.1
    · rw [throwing_raised_of_not_mem h]
      constructor
      · intro he
        cases he
      · rintro ⟨he, hm⟩
        cases he
        exact absurd hm h
  | returned _ => simp
  | unexpected => simp
  | undefined => simp

/-- A specification changes nothing about a call that returns. -/
theorem throwing_eq_returned_iff {o : Outcome ε α} {a : α} :
    throwing cls spec o = .returned a ↔ o = .returned a := by
  cases o with
  | raised e => by_cases h : cls e ∈ spec <;> simp [throwing, h]
  | returned _ => rfl
  | unexpected => rfl
  | undefined => rfl

theorem map_throwing (f : α → β) (o : Outcome ε α) :
    (throwing cls spec o).map f = throwing cls spec (o.map f) := by
  cases o with
  | raised e => by_cases h : cls e ∈ spec <;> simp [throwing, h]
  | returned _ => rfl
  | unexpected => rfl
  | undefined => rfl

end Outcome

end Infra
