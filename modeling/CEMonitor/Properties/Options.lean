import CEMonitor.Commands
import CEMonitor.Infra.Run

/-!
# What the options of a command line come to

The loop over the options stores each argument in its variable, over what an earlier option stored
there: of the same option the last one counts, and the default where there is none.
-/

namespace CEMonitor.Commands

open Infra CliUtils

/-- The options of a program, one after the other. -/
theorem parse_eq_run (letters : List Char) (env : Environment) (cl : CommandLine) :
    parse letters env cl
      = run (fun p o => o.set letters p.1 p.2) cl.options (Options.default env) := by
  unfold parse
  generalize Options.default env = o
  induction cl.options generalizing o with
  | nil => rfl
  | cons p options ih =>
    rw [List.foldlM_cons, run]
    exact bind_congr fun o => ih o

/-- The argument of an option `c`. -/
def argumentOf (c : Char) (p : Char × String) : Option String :=
  if p.1 = c then some p.2 else none

/-- The argument of the last option `c`. -/
def CommandLine.last (cl : CommandLine) (c : Char) : Option String :=
  lastWrite (argumentOf c) cl.options

/-- Each variable has the value of the last option that is stored in it. -/
def CommandLine.meant (env : Environment) (cl : CommandLine) : Options where
  certfile := (cl.last 'C').getD (getCertificateFile env)
  key := (cl.last 'k').getD (getKeyFile env)
  consumerURL := (cl.last 'U').getD ""
  topic := (cl.last 'T').getD ""
  dialects := (cl.last 'D').getD ""
  rate := ((cl.last 'r').map Text.atoi).getD 20
  duration := ((cl.last 'd').map Text.atoi).getD 600
  subscriptionID := (cl.last 'i').getD ""

/-- The letters that are options of some program. -/
def knownLetters : List Char := ['C', 'k', 'U', 'T', 'D', 'r', 'd', 'i']

/-- An option changes the variable it is stored in. -/
theorem set_eq_some {letters : List Char} {p : Char × String} {o o' : Options}
    (h : o.set letters p.1 p.2 = some o') :
    o' =
      { certfile := (argumentOf 'C' p).getD o.certfile
        key := (argumentOf 'k' p).getD o.key
        consumerURL := (argumentOf 'U' p).getD o.consumerURL
        topic := (argumentOf 'T' p).getD o.topic
        dialects := (argumentOf 'D' p).getD o.dialects
        rate := ((argumentOf 'r' p).map Text.atoi).getD o.rate
        duration := ((argumentOf 'd' p).map Text.atoi).getD o.duration
        subscriptionID := (argumentOf 'i' p).getD o.subscriptionID } := by
  obtain ⟨c, optarg⟩ := p
  unfold Options.set at h
  simp only at h
  split at h
  · split at h <;> cases h <;> rfl
  · cases h

theorem set_returns_iff {letters : List Char} (hknown : ∀ c ∈ letters, c ∈ knownLetters)
    {p : Char × String} {o : Options} :
    (∃ o', o.set letters p.1 p.2 = some o') ↔ p.1 ∈ letters := by
  unfold Options.set
  by_cases hp : p.1 ∈ letters
  · have hletter := hknown _ hp
    simp only [knownLetters, List.mem_cons, List.not_mem_nil, or_false] at hletter
    rw [if_pos hp]
    refine iff_of_true ?_ hp
    rcases hletter with h | h | h | h | h | h | h | h <;> rw [h] <;> exact ⟨_, rfl⟩
  · rw [if_neg hp]
    simp [hp]

/-- A variable that option `c` is stored in, through `f`, after the loop. -/
theorem variable_of_parse {α : Type} {letters : List Char} {env : Environment} {cl : CommandLine}
    {o : Options} (c : Char) (f : String → α) (get : Options → α)
    (hset : ∀ p o o', Options.set letters p.1 p.2 o = some o' →
      get o' = ((argumentOf c p).map f).getD (get o))
    (h : parse letters env cl = some o) :
    get o = ((cl.last c).map f).getD (get (Options.default env)) := by
  rw [parse_eq_run] at h
  rw [CommandLine.last, ← lastWrite_map]
  exact run_lastWrite (fun _ => True) get (fun _ _ _ _ _ => trivial)
    (fun p o o' _ hstep => hset p o o' hstep) trivial h

theorem meant_of_parse {letters : List Char} {env : Environment} {cl : CommandLine} {o : Options}
    (h : parse letters env cl = some o) : o = cl.meant env := by
  have hcertfile := variable_of_parse 'C' id Options.certfile
    (fun p o o' hstep => by rw [set_eq_some hstep, Option.map_id, id]) h
  have hkey := variable_of_parse 'k' id Options.key
    (fun p o o' hstep => by rw [set_eq_some hstep, Option.map_id, id]) h
  have hconsumerURL := variable_of_parse 'U' id Options.consumerURL
    (fun p o o' hstep => by rw [set_eq_some hstep, Option.map_id, id]) h
  have htopic := variable_of_parse 'T' id Options.topic
    (fun p o o' hstep => by rw [set_eq_some hstep, Option.map_id, id]) h
  have hdialects := variable_of_parse 'D' id Options.dialects
    (fun p o o' hstep => by rw [set_eq_some hstep, Option.map_id, id]) h
  have hrate := variable_of_parse 'r' Text.atoi Options.rate
    (fun p o o' hstep => by rw [set_eq_some hstep]) h
  have hduration := variable_of_parse 'd' Text.atoi Options.duration
    (fun p o o' hstep => by rw [set_eq_some hstep]) h
  have hsubscriptionID := variable_of_parse 'i' id Options.subscriptionID
    (fun p o o' hstep => by rw [set_eq_some hstep, Option.map_id, id]) h
  rw [Option.map_id] at hcertfile hkey hconsumerURL htopic hdialects hsubscriptionID
  cases o
  simp only at *
  rw [hcertfile, hkey, hconsumerURL, htopic, hdialects, hrate, hduration, hsubscriptionID]
  rfl

/-- The loop gets to its end when every option is one of the program's. -/
theorem parse_returns_iff {letters : List Char} (hknown : ∀ c ∈ letters, c ∈ knownLetters)
    {env : Environment} {cl : CommandLine} :
    (∃ o, parse letters env cl = some o) ↔ ∀ p ∈ cl.options, p.1 ∈ letters := by
  rw [parse_eq_run]
  generalize Options.default env = o
  induction cl.options generalizing o with
  | nil => simp
  | cons p options ih =>
    rw [List.forall_mem_cons, ← set_returns_iff hknown (o := o)]
    constructor
    · rintro ⟨o', h⟩
      obtain ⟨m, hm, hrest⟩ := run_cons_eq_some.mp h
      exact ⟨⟨m, hm⟩, (ih m).mp ⟨o', hrest⟩⟩
    · rintro ⟨⟨m, hm⟩, hrest⟩
      obtain ⟨o', h⟩ := (ih m).mpr hrest
      exact ⟨o', run_cons_eq_some.mpr ⟨m, hm, h⟩⟩

end CEMonitor.Commands
