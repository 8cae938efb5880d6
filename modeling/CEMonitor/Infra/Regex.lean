import Mathlib.Data.List.Basic

/-!
# Regular expressions with captures

The expressions, the relation that says what they match, and the backtracking matcher that
tries the alternatives in order. `mem_hits` says that the matcher finds the matches of the
relation and no others. A match also depends on whether it starts at the beginning of the text,
which `bol` asks for.
-/

namespace Infra

variable {α : Type}

/-- A regular expression: `^`, the empty one, a class, sequence, choice, `*` and a group. -/
inductive Regex (α : Type) where
  | bol
  | eps
  | cls (p : α → Bool)
  | seq (r s : Regex α)
  | alt (r s : Regex α)
  | star (r : Regex α)
  | group (n : Nat) (r : Regex α)

namespace Regex

/-! ## What an expression matches -/

/--
`Matches r b u c`: the expression matches `u`, with the captures `c` in the order in which the
groups are entered; `b` says that `u` stands at the beginning of the text. An iteration of `*`
that matches nothing is not counted.
-/
inductive Matches : Regex α → Bool → List α → List (Nat × List α) → Prop where
  | bol : Matches .bol true [] []
  | eps {b : Bool} : Matches .eps b [] []
  | cls {p : α → Bool} {b : Bool} {a : α} (h : p a = true) : Matches (.cls p) b [a] []
  | seq {r s : Regex α} {b : Bool} {u v : List α} {c d : List (Nat × List α)}
      (hr : Matches r b u c) (hs : Matches s (b && u.isEmpty) v d) :
      Matches (.seq r s) b (u ++ v) (c ++ d)
  | altLeft {r s : Regex α} {b : Bool} {u : List α} {c : List (Nat × List α)}
      (h : Matches r b u c) : Matches (.alt r s) b u c
  | altRight {r s : Regex α} {b : Bool} {u : List α} {c : List (Nat × List α)}
      (h : Matches s b u c) : Matches (.alt r s) b u c
  | starNil {r : Regex α} {b : Bool} : Matches (.star r) b [] []
  | starCons {r : Regex α} {b : Bool} {u v : List α} {c d : List (Nat × List α)} (hne : u ≠ [])
      (hr : Matches r b u c) (hs : Matches (.star r) false v d) :
      Matches (.star r) b (u ++ v) (c ++ d)
  | group {n : Nat} {r : Regex α} {b : Bool} {u : List α} {c : List (Nat × List α)}
      (h : Matches r b u c) : Matches (.group n r) b u ((n, u) :: c)

/-- A text, letter by letter. -/
def lit [DecidableEq α] : List α → Regex α
  | [] => .eps
  | a :: l => .seq (.cls fun x => decide (x = a)) (lit l)

/-- `r?`. -/
def opt (r : Regex α) : Regex α := .alt r .eps

/-- `r+`. -/
def plus (r : Regex α) : Regex α := .seq r (.star r)

section Matches

variable {r s : Regex α} {p : α → Bool} {b : Bool} {u : List α} {c : List (Nat × List α)}

theorem matches_bol : Matches .bol b u c ↔ b = true ∧ u = [] ∧ c = [] := by
  constructor
  · rintro ⟨⟩
    exact ⟨rfl, rfl, rfl⟩
  · rintro ⟨rfl, rfl, rfl⟩
    exact .bol

theorem matches_eps : Matches .eps b u c ↔ u = [] ∧ c = [] := by
  constructor
  · rintro ⟨⟩
    exact ⟨rfl, rfl⟩
  · rintro ⟨rfl, rfl⟩
    exact .eps

theorem matches_cls : Matches (.cls p) b u c ↔ ∃ a, p a = true ∧ u = [a] ∧ c = [] := by
  constructor
  · rintro ⟨⟩
    exact ⟨_, ‹_›, rfl, rfl⟩
  · rintro ⟨a, h, rfl, rfl⟩
    exact .cls h

theorem matches_seq : Matches (.seq r s) b u c ↔
    ∃ u₁ u₂ c₁ c₂, u = u₁ ++ u₂ ∧ c = c₁ ++ c₂ ∧ Matches r b u₁ c₁ ∧
      Matches s (b && u₁.isEmpty) u₂ c₂ := by
  constructor
  · rintro ⟨⟩
    exact ⟨_, _, _, _, rfl, rfl, ‹_›, ‹_›⟩
  · rintro ⟨u₁, u₂, c₁, c₂, rfl, rfl, hr, hs⟩
    exact .seq hr hs

theorem matches_alt : Matches (.alt r s) b u c ↔ Matches r b u c ∨ Matches s b u c := by
  constructor
  · intro h
    cases h with
    | altLeft h => exact Or.inl h
    | altRight h => exact Or.inr h
  · rintro (h | h)
    · exact .altLeft h
    · exact .altRight h

theorem matches_star : Matches (.star r) b u c ↔ (u = [] ∧ c = []) ∨
    ∃ u₁ u₂ c₁ c₂, u₁ ≠ [] ∧ u = u₁ ++ u₂ ∧ c = c₁ ++ c₂ ∧ Matches r b u₁ c₁ ∧
      Matches (.star r) false u₂ c₂ := by
  constructor
  · intro h
    cases h with
    | starNil => exact Or.inl ⟨rfl, rfl⟩
    | starCons hne hr hs => exact Or.inr ⟨_, _, _, _, hne, rfl, rfl, hr, hs⟩
  · rintro (⟨rfl, rfl⟩ | ⟨u₁, u₂, c₁, c₂, hne, rfl, rfl, hr, hs⟩)
    · exact .starNil
    · exact .starCons hne hr hs

/-- At the end of the input `*` has nothing left to iterate over. -/
theorem matches_star_nil : Matches (.star r) b [] c ↔ c = [] := by
  rw [matches_star]
  constructor
  · rintro (⟨-, rfl⟩ | ⟨u₁, u₂, c₁, c₂, hne, hu, -⟩)
    · rfl
    · exact absurd (List.append_eq_nil_iff.mp hu.symm).1 hne
  · rintro rfl
    exact Or.inl ⟨rfl, rfl⟩

theorem matches_group {n : Nat} :
    Matches (.group n r) b u c ↔ ∃ d, c = (n, u) :: d ∧ Matches r b u d := by
  constructor
  · rintro ⟨⟩
    exact ⟨_, rfl, ‹_›⟩
  · rintro ⟨d, rfl, h⟩
    exact .group h

theorem matches_opt : Matches (opt r) b u c ↔ Matches r b u c ∨ u = [] ∧ c = [] := by
  rw [opt, matches_alt, matches_eps]

theorem matches_lit [DecidableEq α] {l : List α} : Matches (lit l) b u c ↔ u = l ∧ c = [] := by
  induction l generalizing b u c with
  | nil => exact matches_eps
  | cons a l ih =>
    rw [lit, matches_seq]
    constructor
    · rintro ⟨u₁, u₂, c₁, c₂, rfl, rfl, h₁, h₂⟩
      obtain ⟨x, hx, rfl, rfl⟩ := matches_cls.mp h₁
      obtain ⟨rfl, rfl⟩ := ih.mp h₂
      rw [of_decide_eq_true hx]
      exact ⟨rfl, rfl⟩
    · rintro ⟨rfl, rfl⟩
      exact ⟨[a], l, [], [], rfl, rfl, .cls (decide_eq_true rfl), ih.mpr ⟨rfl, rfl⟩⟩

theorem matches_star_cls :
    Matches (.star (.cls p)) b u c ↔ (∀ a ∈ u, p a = true) ∧ c = [] := by
  induction u generalizing b c with
  | nil => simp [matches_star_nil]
  | cons a u ih =>
    rw [matches_star]
    constructor
    · rintro (⟨hu, -⟩ | ⟨u₁, u₂, c₁, c₂, -, hu, rfl, hr, hs⟩)
      · cases hu
      · obtain ⟨x, hx, rfl, rfl⟩ := matches_cls.mp hr
        cases hu
        obtain ⟨hall, rfl⟩ := ih.mp hs
        exact ⟨by simpa [hx] using hall, rfl⟩
    · rintro ⟨hall, rfl⟩
      have ha : p a = true := hall a (List.mem_cons_self ..)
      have hu : ∀ x ∈ u, p x = true := fun x hx => hall x (List.mem_cons_of_mem a hx)
      exact Or.inr ⟨[a], u, [], [], by simp, rfl, rfl, .cls ha, ih.mpr ⟨hu, rfl⟩⟩

theorem matches_plus_cls :
    Matches (plus (.cls p)) b u c ↔ u ≠ [] ∧ (∀ a ∈ u, p a = true) ∧ c = [] := by
  rw [plus, matches_seq]
  constructor
  · rintro ⟨u₁, u₂, c₁, c₂, rfl, rfl, h₁, h₂⟩
    obtain ⟨a, ha, rfl, rfl⟩ := matches_cls.mp h₁
    obtain ⟨hall, rfl⟩ := matches_star_cls.mp h₂
    exact ⟨by simp, by simpa [ha] using hall, rfl⟩
  · rintro ⟨hne, hall, rfl⟩
    obtain ⟨a, v, rfl⟩ := List.exists_cons_of_ne_nil hne
    have ha : p a = true := hall a (List.mem_cons_self ..)
    have hv : ∀ x ∈ v, p x = true := fun x hx => hall x (List.mem_cons_of_mem a hx)
    exact ⟨[a], v, [], [], rfl, rfl, .cls ha, matches_star_cls.mpr ⟨hv, rfl⟩⟩

end Matches

/-! ## The matcher -/

/-- One way to match a beginning of the input. -/
structure Hit (α : Type) where
  consumed : List α
  rest : List α
  captures : List (Nat × List α)

/-- A hit followed by a hit on its rest. -/
def Hit.append (h k : Hit α) : Hit α where
  consumed := h.consumed ++ k.consumed
  rest := k.rest
  captures := h.captures ++ k.captures

/-- The hits of `r*` from those of `r`, at most `n` iterations, the longest tried first. -/
def starHits (hits : Bool → List α → List (Hit α)) : Nat → Bool → List α → List (Hit α)
  | 0, _, s => [⟨[], s, []⟩]
  | n + 1, b, s =>
    ((hits b s).filter fun h => !h.consumed.isEmpty).flatMap
        (fun h => (starHits hits n false h.rest).map h.append)
      ++ [⟨[], s, []⟩]

/-- The hits on an input, in the order in which backtracking finds them. -/
def hits : Regex α → Bool → List α → List (Hit α)
  | .bol, b, s => if b then [⟨[], s, []⟩] else []
  | .eps, _, s => [⟨[], s, []⟩]
  | .cls _, _, [] => []
  | .cls p, _, a :: s => if p a then [⟨[a], s, []⟩] else []
  | .seq r t, b, s =>
    (r.hits b s).flatMap fun h => (t.hits (b && h.consumed.isEmpty) h.rest).map h.append
  | .alt r t, b, s => r.hits b s ++ t.hits b s
  | .star r, b, s => starHits r.hits s.length b s
  | .group n r, b, s =>
    (r.hits b s).map fun h => { h with captures := (n, h.consumed) :: h.captures }

/-- The two halves of an `append`, when the second is a hit on the rest of the first. -/
theorem mem_map_append {h k : Hit α} {l : List (Hit α)} :
    k ∈ l.map h.append ↔ ∃ j ∈ l, k = h.append j := by
  rw [List.mem_map]
  exact ⟨fun ⟨j, hj, he⟩ => ⟨j, hj, he.symm⟩, fun ⟨j, hj, he⟩ => ⟨j, hj, he.symm⟩⟩

section Correctness

variable {r : Regex α}

/-- With enough fuel the iterations of `*` are found, given that those of its body are. -/
theorem mem_starHits
    (ih : ∀ (b : Bool) (s : List α) (h : Hit α),
      h ∈ r.hits b s ↔ h.consumed ++ h.rest = s ∧ Matches r b h.consumed h.captures)
    {n : Nat} {b : Bool} {s : List α} {h : Hit α} (hn : s.length ≤ n) :
    h ∈ starHits r.hits n b s ↔
      h.consumed ++ h.rest = s ∧ Matches (.star r) b h.consumed h.captures := by
  obtain ⟨u, t, c⟩ := h
  -- an iteration that counts consumes something, so each step leaves a shorter rest
  induction n generalizing b s u t c with
  | zero =>
    obtain rfl : s = [] := List.length_eq_zero_iff.mp (Nat.le_zero.mp hn)
    simp only [starHits, List.mem_singleton, Hit.mk.injEq, List.append_eq_nil_iff]
    constructor
    · rintro ⟨rfl, rfl, rfl⟩
      exact ⟨⟨rfl, rfl⟩, .starNil⟩
    · rintro ⟨⟨rfl, rfl⟩, hm⟩
      exact ⟨rfl, rfl, matches_star_nil.mp hm⟩
  | succ n ihn =>
    simp only [starHits, List.mem_append, List.mem_flatMap, List.mem_filter, mem_map_append,
      List.mem_singleton]
    constructor
    · rintro (⟨⟨u₁, t₁, c₁⟩, ⟨hmem, hne⟩, ⟨u₂, t₂, c₂⟩, hrest, he⟩ | he)
      · cases he
        obtain ⟨hs, hr⟩ := (ih b s _).mp hmem
        simp only [Bool.not_eq_true', List.isEmpty_eq_false_iff] at hne hs hr
        have hpos : 0 < u₁.length := List.length_pos_iff.mpr hne
        have hlen : t₁.length ≤ n := by
          rw [← hs, List.length_append] at hn
          omega
        obtain ⟨ht, hstar⟩ := (ihn hlen u₂ t₂ c₂).mp hrest
        refine ⟨?_, .starCons hne hr hstar⟩
        show (u₁ ++ u₂) ++ t₂ = s
        rw [List.append_assoc, ht, hs]
      · cases he
        exact ⟨rfl, .starNil⟩
    · rintro ⟨hs, hm⟩
      rcases matches_star.mp hm with ⟨hu, hc⟩ | ⟨u₁, u₂, c₁, c₂, hne, hu, hc, hr, hstar⟩
      · -- no iteration: the hit that is tried last
        cases hu
        cases hc
        exact Or.inr (by rw [← hs]; rfl)
      · cases hu
        cases hc
        have hs : u₁ ++ (u₂ ++ t) = s := by rw [← List.append_assoc]; exact hs
        have hpos : 0 < u₁.length := List.length_pos_iff.mpr hne
        have hlen : (u₂ ++ t).length ≤ n := by
          rw [← hs, List.length_append] at hn
          omega
        exact Or.inl ⟨⟨u₁, u₂ ++ t, c₁⟩, ⟨(ih b s _).mpr ⟨hs, hr⟩, by simpa using hne⟩,
          ⟨u₂, t, c₂⟩, (ihn hlen u₂ t c₂).mpr ⟨rfl, hstar⟩, rfl⟩

/-- The matcher finds what the expression matches, and nothing else. -/
theorem mem_hits (r : Regex α) (b : Bool) (s : List α) (h : Hit α) :
    h ∈ r.hits b s ↔ h.consumed ++ h.rest = s ∧ Matches r b h.consumed h.captures := by
  induction r generalizing b s h with
  | bol =>
    rw [matches_bol, hits]
    cases b with
    | true =>
      simp only [if_true, List.mem_singleton, true_and]
      constructor
      · rintro rfl
        exact ⟨rfl, rfl, rfl⟩
      · rintro ⟨rfl, hu, hc⟩
        obtain ⟨u, t, c⟩ := h
        cases hu
        cases hc
        rfl
    | false => simp
  | eps =>
    rw [matches_eps, hits, List.mem_singleton]
    constructor
    · rintro rfl
      exact ⟨rfl, rfl, rfl⟩
    · rintro ⟨rfl, hu, hc⟩
      obtain ⟨u, t, c⟩ := h
      cases hu
      cases hc
      rfl
  | cls p =>
    rw [matches_cls]
    obtain ⟨u, t, c⟩ := h
    cases s with
    | nil =>
      simp only [hits, List.not_mem_nil, List.append_eq_nil_iff, false_iff, not_and]
      rintro ⟨rfl, -⟩ ⟨a, -, hu, -⟩
      cases hu
    | cons a s =>
      simp only [hits]
      by_cases ha : p a = true
      · rw [if_pos ha, List.mem_singleton]
        constructor
        · rintro ⟨⟩
          exact ⟨rfl, a, ha, rfl, rfl⟩
        · rintro ⟨hs, x, -, rfl, rfl⟩
          cases hs
          rfl
      · rw [if_neg ha]
        simp only [List.not_mem_nil, false_iff, not_and]
        rintro hs ⟨x, hx, rfl, -⟩
        cases hs
        exact ha hx
  | seq r t ihr iht =>
    rw [matches_seq]
    simp only [hits, List.mem_flatMap, mem_map_append]
    constructor
    · rintro ⟨⟨u₁, t₁, c₁⟩, h₁, ⟨u₂, t₂, c₂⟩, h₂, rfl⟩
      obtain ⟨hs₁, hm₁⟩ := (ihr b s _).mp h₁
      obtain ⟨hs₂, hm₂⟩ := (iht _ t₁ _).mp h₂
      refine ⟨?_, u₁, u₂, c₁, c₂, rfl, rfl, hm₁, hm₂⟩
      show (u₁ ++ u₂) ++ t₂ = s
      rw [List.append_assoc, hs₂, hs₁]
    · obtain ⟨u, t₂, c⟩ := h
      rintro ⟨hs, u₁, u₂, c₁, c₂, hu, hc, hm₁, hm₂⟩
      cases hu
      cases hc
      have hs : u₁ ++ (u₂ ++ t₂) = s := by rw [← List.append_assoc]; exact hs
      exact ⟨⟨u₁, u₂ ++ t₂, c₁⟩, (ihr b s _).mpr ⟨hs, hm₁⟩, ⟨u₂, t₂, c₂⟩,
        (iht _ _ _).mpr ⟨rfl, hm₂⟩, rfl⟩
  | alt r t ihr iht =>
    rw [matches_alt, hits, List.mem_append, ihr, iht]
    exact and_or_left.symm
  -- each iteration leaves a shorter rest, so the length of the text bounds their number
  | star r ih => exact mem_starHits ih (Nat.le_refl _)
  | group n r ih =>
    rw [matches_group]
    simp only [hits, List.mem_map]
    obtain ⟨u, t, c⟩ := h
    constructor
    · rintro ⟨k, hk, he⟩
      obtain ⟨hs, hm⟩ := (ih b s k).mp hk
      cases he
      exact ⟨hs, _, rfl, hm⟩
    · rintro ⟨hs, d, hc, hm⟩
      have hc : c = (n, u) :: d := hc
      exact ⟨⟨u, t, d⟩, (ih b s _).mpr ⟨hs, hm⟩, by rw [hc]⟩

end Correctness

/-! ## Matching a whole text -/

/-- The captures of the first hit that leaves nothing over. -/
def fullMatch (r : Regex α) (s : List α) : Option (List (Nat × List α)) :=
  ((r.hits true s).find? fun h => h.rest.isEmpty).map Hit.captures

/-- What group `n` matched last; empty when it took no part. -/
def capture (c : List (Nat × List α)) (n : Nat) : List α :=
  ((c.filter fun g => g.1 = n).getLast?.map Prod.snd).getD []

variable {r : Regex α} {s : List α} {c : List (Nat × List α)}

theorem matches_of_fullMatch (h : fullMatch r s = some c) : Matches r true s c := by
  obtain ⟨k, hk, rfl⟩ := Option.map_eq_some_iff.mp h
  have hempty := List.find?_some hk
  obtain ⟨hs, hm⟩ := (mem_hits r true s k).mp (List.mem_of_find?_eq_some hk)
  rw [List.isEmpty_iff.mp hempty, List.append_nil] at hs
  rw [← hs]
  exact hm

theorem fullMatch_eq_none_iff : fullMatch r s = none ↔ ∀ c, ¬Matches r true s c := by
  rw [fullMatch, Option.map_eq_none_iff, List.find?_eq_none]
  constructor
  · intro h c hm
    have hmem : (⟨s, [], c⟩ : Hit α) ∈ r.hits true s :=
      (mem_hits r true s _).mpr ⟨List.append_nil s, hm⟩
    exact h _ hmem rfl
  · intro h k hk hempty
    obtain ⟨hs, hm⟩ := (mem_hits r true s k).mp hk
    rw [List.isEmpty_iff.mp hempty, List.append_nil] at hs
    exact h _ (hs ▸ hm)

/-- A text with a single match is matched that way. -/
theorem fullMatch_eq_some (hm : Matches r true s c)
    (hunique : ∀ d, Matches r true s d → d = c) : fullMatch r s = some c := by
  cases h : fullMatch r s with
  | none => exact absurd hm (fullMatch_eq_none_iff.mp h c)
  | some d => rw [hunique d (matches_of_fullMatch h)]

end Regex

end Infra
