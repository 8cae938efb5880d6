import Mathlib.Data.List.Basic

/-!
# Runs of a partial step function

A step may stop the program; a run stops with the first step that does. Two rules carry facts
about one step over to whole runs: an invariant is kept, and a component that a step either
overwrites or leaves alone holds what the last step that wrote it wrote. What a step writes may
depend on the state it meets; the `trace` of a run keeps both.
-/

namespace Infra

variable {ι σ α : Type}

/-- Step after step, until one of them stops the program. -/
def run (step : ι → σ → Option σ) : List ι → σ → Option σ
  | [], s => some s
  | i :: is, s => (step i s).bind (run step is)

@[simp] theorem run_nil (step : ι → σ → Option σ) (s : σ) : run step [] s = some s := rfl

theorem run_cons_eq_some {step : ι → σ → Option σ} {i : ι} {is : List ι} {s s' : σ} :
    run step (i :: is) s = some s' ↔ ∃ m, step i s = some m ∧ run step is m = some s' := by
  rw [run, Option.bind_eq_some_iff]

/-- A run goes on from where its first part got to. -/
theorem run_append {step : ι → σ → Option σ} {is : List ι} {s m : σ} (h : run step is s = some m)
    (js : List ι) : run step (is ++ js) s = run step js m := by
  induction is generalizing s with
  | nil =>
    rw [run_nil] at h
    cases h
    rfl
  | cons i is ih =>
    obtain ⟨n, hn, hrest⟩ := run_cons_eq_some.mp h
    rw [List.cons_append, run, hn, Option.bind_some, ih hrest]

/-- What every step keeps, every run keeps. -/
theorem run_preserves {step : ι → σ → Option σ} {Inv : σ → Prop}
    (hstep : ∀ i s s', Inv s → step i s = some s' → Inv s') {is : List ι} {s s' : σ}
    (hs : Inv s) (h : run step is s = some s') : Inv s' := by
  induction is generalizing s with
  | nil =>
    rw [run_nil] at h
    cases h
    exact hs
  | cons i is ih =>
    obtain ⟨m, hm, hrest⟩ := run_cons_eq_some.mp h
    exact ih (hstep i s m hs hm) hrest

/-- The last value written by a list of inputs; `none` when no input writes. -/
def lastWrite (write : ι → Option α) (is : List ι) : Option α := (is.filterMap write).getLast?

@[simp] theorem lastWrite_nil (write : ι → Option α) : lastWrite write [] = none := rfl

theorem lastWrite_cons (write : ι → Option α) (i : ι) (is : List ι) :
    lastWrite write (i :: is) = (lastWrite write is).or (write i) := by
  unfold lastWrite
  cases hw : write i with
  | none => rw [List.filterMap_cons_none hw, Option.or_none]
  | some a =>
    rw [List.filterMap_cons_some hw, List.getLast?_cons]
    cases (is.filterMap write).getLast? <;> rfl

theorem lastWrite_concat (write : ι → Option α) (is : List ι) (i : ι) :
    lastWrite write (is ++ [i]) = (write i).or (lastWrite write is) := by
  unfold lastWrite
  cases hw : write i with
  | none => simp [hw]
  | some a => simp [hw]

theorem exists_of_lastWrite_eq_some {write : ι → Option α} {is : List ι} {a : α}
    (h : lastWrite write is = some a) : ∃ i ∈ is, write i = some a :=
  List.mem_filterMap.mp (List.mem_of_getLast? h)

theorem lastWrite_eq_none_iff {write : ι → Option α} {is : List ι} :
    lastWrite write is = none ↔ ∀ i ∈ is, write i = none := by
  rw [lastWrite, List.getLast?_eq_none_iff, List.filterMap_eq_nil_iff]

theorem lastWrite_map {β : Type} (write : ι → Option α) (f : α → β) (is : List ι) :
    lastWrite (fun i => (write i).map f) is = (lastWrite write is).map f := by
  rw [lastWrite, lastWrite, ← List.map_filterMap, List.getLast?_map]

/-- The inputs of a run, each with the state it met. -/
def trace (step : ι → σ → Option σ) : List ι → σ → List (σ × ι)
  | [], _ => []
  | i :: is, s => (s, i) :: ((step i s).map (trace step is)).getD []

theorem trace_cons_of_eq_some {step : ι → σ → Option σ} {i : ι} {is : List ι} {s m : σ}
    (h : step i s = some m) : trace step (i :: is) s = (s, i) :: trace step is m := by
  rw [trace, h]
  rfl

/-- The trace of a run that gets to its end has every input. -/
theorem lastWrite_trace {step : ι → σ → Option σ} (write : ι → Option α) {is : List ι} {s s' : σ}
    (h : run step is s = some s') :
    lastWrite (fun p => write p.2) (trace step is s) = lastWrite write is := by
  induction is generalizing s with
  | nil => rfl
  | cons i is ih =>
    obtain ⟨m, hm, hrest⟩ := run_cons_eq_some.mp h
    rw [trace_cons_of_eq_some hm, lastWrite_cons, lastWrite_cons, ih hrest]

/-- A component that each step overwrites or leaves alone holds the last write. -/
theorem run_lastWrite_trace {step : ι → σ → Option σ} (Inv : σ → Prop) (get : σ → α)
    {write : σ × ι → Option α} (hkeep : ∀ i s s', Inv s → step i s = some s' → Inv s')
    (hwrite : ∀ i s s', Inv s → step i s = some s' → get s' = (write (s, i)).getD (get s))
    {is : List ι} {s s' : σ} (hs : Inv s) (h : run step is s = some s') :
    get s' = (lastWrite write (trace step is s)).getD (get s) := by
  induction is generalizing s with
  | nil =>
    rw [run_nil] at h
    cases h
    rfl
  | cons i is ih =>
    obtain ⟨m, hm, hrest⟩ := run_cons_eq_some.mp h
    rw [ih (hkeep i s m hs hm) hrest, hwrite i s m hs hm, trace_cons_of_eq_some hm, lastWrite_cons]
    cases lastWrite write (trace step is m) <;> rfl

/-- The same, for writes that depend on the input alone. -/
theorem run_lastWrite {step : ι → σ → Option σ} (Inv : σ → Prop) (get : σ → α)
    {write : ι → Option α} (hkeep : ∀ i s s', Inv s → step i s = some s' → Inv s')
    (hwrite : ∀ i s s', Inv s → step i s = some s' → get s' = (write i).getD (get s))
    {is : List ι} {s s' : σ} (hs : Inv s) (h : run step is s = some s') :
    get s' = (lastWrite write is).getD (get s) := by
  rw [← lastWrite_trace write h]
  exact run_lastWrite_trace Inv get hkeep hwrite hs h

/-- A run gets to its end exactly when every step is allowed by what the inputs before it made of
a component. -/
theorem run_exists_iff {step : ι → σ → Option σ} (Inv : σ → Prop) (get : σ → α)
    (change : α → ι → α) (allowed : α → ι → Prop)
    (hkeep : ∀ i s s', Inv s → step i s = some s' → Inv s')
    (hchange : ∀ i s s', Inv s → step i s = some s' → get s' = change (get s) i)
    (hallowed : ∀ i s, Inv s → ((∃ s', step i s = some s') ↔ allowed (get s) i))
    {is : List ι} {s : σ} (hs : Inv s) :
    (∃ s', run step is s = some s') ↔
      ∀ (j : Nat) (h : j < is.length), allowed ((is.take j).foldl change (get s)) is[j] := by
  induction is generalizing s with
  | nil => simp
  | cons i is ih =>
    constructor
    · rintro ⟨s', hrun⟩ j hj
      obtain ⟨m, hm, hrest⟩ := run_cons_eq_some.mp hrun
      cases j with
      | zero => exact (hallowed i s hs).mp ⟨m, hm⟩
      | succ j =>
        have hlater := (ih (hkeep i s m hs hm)).mp ⟨s', hrest⟩ j (Nat.lt_of_succ_lt_succ hj)
        rw [hchange i s m hs hm] at hlater
        exact hlater
    · intro hall
      obtain ⟨m, hm⟩ := (hallowed i s hs).mpr (hall 0 (Nat.succ_pos _))
      have hlater : ∀ (j : Nat) (h : j < is.length),
          allowed ((is.take j).foldl change (get m)) is[j] := by
        intro j hj
        rw [hchange i s m hs hm]
        exact hall (j + 1) (Nat.succ_lt_succ hj)
      obtain ⟨s', hs'⟩ := (ih (hkeep i s m hs hm)).mpr hlater
      exact ⟨s', run_cons_eq_some.mpr ⟨m, hm, hs'⟩⟩

/-- The changes of a component that each input overwrites or leaves alone. -/
theorem foldl_write (write : ι → Option α) (is : List ι) (a : α) :
    is.foldl (fun a i => (write i).getD a) a = (lastWrite write is).getD a := by
  induction is generalizing a with
  | nil => rfl
  | cons i is ih =>
    rw [List.foldl_cons, ih, lastWrite_cons]
    cases lastWrite write is <;> rfl

end Infra
