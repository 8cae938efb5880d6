import CEMonitor.Properties.Commands

/-!
# The dialects of a topic

A null pointer is a legal entry of a topic's dialect vector, and the command lines put one
there. It is followed here through what can be done with a topic; only `print` stumbles over it.
The dialects that `--dialects` names are the pieces of a text between commas.
-/

namespace CEMonitor

open Infra

/-! ## Null dialects -/

/-- A step on the way to a topic: a dialect is added, or the topic is copied. -/
inductive TopicStep where
  | addDialect (d : Option Dialect)
  | copy

namespace TopicStep

def exec : TopicStep → Topic → Topic
  | .addDialect d, t => t.addDialect d
  | .copy, t => t.copy

def added? : TopicStep → Option (Option Dialect)
  | .addDialect d => some d
  | .copy => none

end TopicStep

/-- The topic that is built from a name in the given steps. -/
def built (name : String) (steps : List TopicStep) : Topic :=
  steps.foldl (fun t step => step.exec t) (Topic.new name)

/-- The dialects that were added, in order. -/
def added (steps : List TopicStep) : List (Option Dialect) := steps.filterMap TopicStep.added?

namespace Topic

theorem exec_step (step : TopicStep) (t : Topic) :
    (step.exec t).name = t.name ∧ (step.exec t).dialect = t.dialect ++ added [step] := by
  cases step with
  | addDialect d => exact ⟨rfl, addDialect_dialect d t⟩
  | copy => exact ⟨rfl, by rw [TopicStep.exec, copy_dialect]; exact (List.append_nil _).symm⟩

theorem foldl_exec (steps : List TopicStep) (t : Topic) :
    (steps.foldl (fun t step => step.exec t) t).name = t.name ∧
    (steps.foldl (fun t step => step.exec t) t).dialect = t.dialect ++ added steps := by
  induction steps generalizing t with
  | nil => exact ⟨rfl, (List.append_nil _).symm⟩
  | cons step steps ih =>
    obtain ⟨hname, hdialect⟩ := exec_step step t
    obtain ⟨hname', hdialect'⟩ := ih (step.exec t)
    refine ⟨hname'.trans hname, ?_⟩
    rw [List.foldl_cons, hdialect', hdialect, List.append_assoc, added, added, added,
      ← List.filterMap_append, List.singleton_append]

theorem built_name (name : String) (steps : List TopicStep) : (built name steps).name = name :=
  (foldl_exec steps (Topic.new name)).1

theorem built_dialect (name : String) (steps : List TopicStep) :
    (built name steps).dialect = added steps :=
  (foldl_exec steps (Topic.new name)).2

/-- The destructor tests every dialect. -/
theorem destroy_eq (t : Topic) : t.destroy = .returned (t.dialect.filterMap id) := by
  suffices hall : ∀ (ds : List (Option Dialect)) (deleted : List Dialect),
      ds.foldl (fun deleted d => deleted.bind fun deleted => deleteDialect deleted d)
        (.returned deleted : Result (List Dialect)) = .returned (deleted ++ ds.filterMap id) from
    hall t.dialect []
  intro ds
  induction ds with
  | nil =>
    intro deleted
    rw [List.foldl_nil, List.filterMap_nil, List.append_nil]
  | cons d ds ih =>
    intro deleted
    cases d with
    | none => exact ih deleted
    | some d => exact (ih (deleted ++ [d])).trans (by rw [List.append_assoc]; rfl)

/-- `print` does not. -/
theorem print_returns_iff (t : Topic) : (∃ out, t.print = .returned out) ↔ none ∉ t.dialect := by
  rw [print, Outcome.foldl_deref_returns_iff fun _ _ => ⟨_, rfl⟩]
  exact and_iff_right ⟨_, rfl⟩

/--
**A topic and its copies have the dialects that were added, and can be printed exactly when
none of them is null.**

The steps may copy the topic at any point, and copy the copy; everything but `print` takes null
dialects as they are.
-/
theorem print_built_iff (name : String) (steps : List TopicStep) :
    (built name steps).name = name ∧ (built name steps).dialect = added steps ∧
    (built name steps).copy.name = name ∧ (built name steps).copy.dialect = added steps ∧
    (built name steps).getNumOfDialects = ((added steps).length : Int).bmod (2 ^ 32) ∧
    (built name steps).destroy = .returned ((added steps).filterMap id) ∧
    ((∃ out, (built name steps).print = .returned out) ↔ none ∉ added steps) := by
  refine ⟨built_name name steps, built_dialect name steps, ?_, ?_, ?_, ?_, ?_⟩
  · rw [copy_name, built_name]
  · rw [copy_dialect, built_dialect]
  · exact congrArg (fun ds : List (Option Dialect) => (ds.length : Int).bmod (2 ^ 32))
      (built_dialect name steps)
  · rw [destroy_eq, built_dialect]
  · rw [print_returns_iff, built_dialect]

/-- The topic of `subupdate`, with its null dialect, cannot be printed, and neither can a copy
of its copy. -/
theorem print_nullDialect_undefined :
    (built "CE_MONITOR" [.addDialect none]).print = .undefined ∧
    (built "CE_MONITOR" [.addDialect none, .copy, .copy]).print = .undefined := ⟨rfl, rfl⟩

end Topic

/-! ## Names between commas -/

namespace Commands

/-- The pieces of a text between commas, without the empty ones. -/
def pieces (s : String) : List String := (Text.split ',' s).filter (· ≠ "")

/-- The dialects that a text names. -/
def dialectsOf (s : String) : List (Option Dialect) :=
  (pieces s).map fun it => some { name := it, queryLanguage := [] }

theorem pieces_append (s t : String) : pieces (s ++ "," ++ t) = pieces s ++ pieces t := by
  have hsplit : Text.split ',' (s ++ "," ++ t) = Text.split ',' s ++ Text.split ',' t :=
    Text.split_append ',' s t
  rw [pieces, hsplit, List.filter_append]
  rfl

theorem pieces_empty : pieces "" = [] := by decide

theorem pieces_intercalate {names : List String} (h : ∀ n ∈ names, n ≠ "" ∧ ',' ∉ n.toList) :
    pieces (",".intercalate names) = names := by
  by_cases hne : names = []
  · rw [hne, String.intercalate_nil, pieces_empty]
  · have hsplit : Text.split ',' (",".intercalate names) = names :=
      Text.split_intercalate (fun n hn => (h n hn).2) hne
    rw [pieces, hsplit, List.filter_eq_self]
    intro n hn
    simpa using (h n hn).1

/-- Commas at the ends, or one after the other, name nothing. -/
theorem pieces_comma (s t : String) :
    pieces ("," ++ s) = pieces s ∧ pieces (s ++ ",") = pieces s ∧
      pieces (s ++ ",," ++ t) = pieces (s ++ "," ++ t) := by
  refine ⟨?_, ?_, ?_⟩
  · have hleading := pieces_append "" s
    rwa [pieces_empty, List.nil_append, String.empty_append] at hleading
  · have htrailing := pieces_append s ""
    rwa [pieces_empty, List.append_nil, String.append_empty] at htrailing
  · have hdoubled : s ++ ",," ++ t = s ++ "," ++ "" ++ "," ++ t := by
      rw [String.append_empty, @String.append_assoc s "," ","]
      rfl
    rw [hdoubled, pieces_append, pieces_append, pieces_empty, List.append_nil, pieces_append]

end Commands

end CEMonitor
