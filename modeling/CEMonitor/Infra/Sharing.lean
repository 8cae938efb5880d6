import CEMonitor.Infra.Run
import Mathlib.Data.Option.Defs
import Mathlib.Logic.Function.Basic

/-!
# Components that share a state

Several components take their steps in any order, each on a state of its own and on one that all
share. Where the shared state decides no more than a relation leaves open, each component is where
its own steps alone would have taken it, and together they get through when each does by itself.
-/

namespace Infra

variable {ι κ σ γ : Type} [DecidableEq κ]

/-- One of the components takes a step. -/
def stepAt (step : ι → σ × γ → Option (σ × γ)) (p : κ × ι) (s : (κ → σ) × γ) :
    Option ((κ → σ) × γ) :=
  (step p.2 (s.1 p.1, s.2)).map fun m => (Function.update s.1 p.1 m.1, m.2)

variable {A : ι → Prop} {G : γ → Prop} {R : σ → σ → Prop} {step : ι → σ × γ → Option (σ × γ)}
  {ps : List (κ × ι)}

end Infra
