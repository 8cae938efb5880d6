import CEMonitor.Infra.Outcome
import Mathlib.Data.List.Forall2

/-!
# Traversing a vector of pointers

The loop that C++ code writes to copy a `vector<T*>`: every entry is dereferenced and handed to
a function, and the results are collected in order. It gets to its end exactly when no entry is
null and the function returns for each of them.
-/

namespace Infra.Outcome

variable {ε α β : Type}

/-- Entry by entry, in order; the first entry that does not return ends the loop. -/
def traverse (f : α → Outcome ε β) : List (Option α) → Outcome ε (List β)
  | [] => .returned []
  | p :: ps => (deref p).bind fun a => (f a).bind fun b => (traverse f ps).map fun bs => b :: bs

variable {f : α → Outcome ε β} {ps : List (Option α)} {bs : List β}

@[simp] theorem traverse_nil : traverse f [] = .returned [] := rfl

theorem traverse_cons_eq_returned_iff {p : Option α} :
    traverse f (p :: ps) = .returned bs ↔
      ∃ a b cs, p = some a ∧ f a = .returned b ∧ traverse f ps = .returned cs ∧ bs = b :: cs := by
  rw [traverse]
  simp only [bind_eq_returned_iff, map_eq_returned_iff, deref_eq_returned_iff]
  constructor
  · rintro ⟨a, hp, b, hb, cs, hcs, rfl⟩
    exact ⟨a, b, cs, hp, hb, hcs, rfl⟩
  · rintro ⟨a, b, cs, hp, hb, hcs, rfl⟩
    exact ⟨a, hp, b, hb, cs, hcs, rfl⟩

/-- The result lists the results of the entries. -/
theorem traverse_eq_returned_iff :
    traverse f ps = .returned bs ↔
      List.Forall₂ (fun p b => ∃ a, p = some a ∧ f a = .returned b) ps bs := by
  induction ps generalizing bs with
  | nil =>
    rw [List.forall₂_nil_left_iff, traverse_nil, Outcome.returned.injEq]
    exact eq_comm
  | cons p ps ih =>
    rw [traverse_cons_eq_returned_iff, List.forall₂_cons_left_iff]
    constructor
    · rintro ⟨a, b, cs, hp, hb, hcs, rfl⟩
      exact ⟨b, cs, ⟨a, hp, hb⟩, ih.mp hcs, rfl⟩
    · rintro ⟨b, cs, ⟨a, hp, hb⟩, hcs, rfl⟩
      exact ⟨a, b, cs, hp, hb, ih.mpr hcs, rfl⟩

/-- The loop gets to its end when every entry is there and is dealt with. -/
theorem traverse_returns_iff :
    (∃ bs, traverse f ps = .returned bs) ↔ ∀ p ∈ ps, ∃ a b, p = some a ∧ f a = .returned b := by
  induction ps with
  | nil => simp
  | cons p ps ih =>
    simp only [traverse_cons_eq_returned_iff, List.forall_mem_cons, ← ih]
    constructor
    · rintro ⟨bs, a, b, cs, hp, hb, hcs, -⟩
      exact ⟨⟨a, b, hp, hb⟩, cs, hcs⟩
    · rintro ⟨⟨a, b, hp, hb⟩, cs, hcs⟩
      exact ⟨b :: cs, a, b, cs, hp, hb, hcs, rfl⟩

/-- It gets there with results that all have a property when every entry is dealt with so. -/
theorem traverse_returns_forall_iff {Q : β → Prop} :
    (∃ bs, traverse f ps = .returned bs ∧ ∀ b ∈ bs, Q b) ↔
      ∀ p ∈ ps, ∃ a b, p = some a ∧ f a = .returned b ∧ Q b := by
  induction ps with
  | nil => simp
  | cons p ps ih =>
    simp only [traverse_cons_eq_returned_iff, List.forall_mem_cons, ← ih]
    constructor
    · rintro ⟨bs, ⟨a, b, cs, hp, hb, hcs, rfl⟩, hQ⟩
      obtain ⟨hQb, hQcs⟩ := List.forall_mem_cons.mp hQ
      exact ⟨⟨a, b, hp, hb, hQb⟩, cs, hcs, hQcs⟩
    · rintro ⟨⟨a, b, hp, hb, hQb⟩, cs, hcs, hQcs⟩
      exact ⟨b :: cs, ⟨a, b, cs, hp, hb, hcs, rfl⟩, List.forall_mem_cons.mpr ⟨hQb, hQcs⟩⟩

/-- With a function that always returns, only a null entry stops the loop. -/
theorem traverse_returns_iff_not_mem (hf : ∀ a, ∃ b, f a = .returned b) :
    (∃ bs, traverse f ps = .returned bs) ↔ none ∉ ps := by
  rw [traverse_returns_iff]
  constructor
  · intro h hm
    obtain ⟨a, b, ha, -⟩ := h none hm
    cases ha
  · intro h p hp
    cases p with
    | none => exact absurd hp h
    | some a =>
      obtain ⟨b, hb⟩ := hf a
      exact ⟨a, b, rfl, hb⟩

/-- The result has the result of each entry at the place of the entry. -/
theorem getElem?_of_traverse {i : Nat} {a : α} (h : traverse f ps = .returned bs)
    (ha : ps[i]? = some (some a)) : ∃ b, bs[i]? = some b ∧ f a = .returned b := by
  induction ps generalizing bs i with
  | nil => cases ha
  | cons p ps ih =>
    obtain ⟨a', b, cs, hp, hb, hcs, rfl⟩ := traverse_cons_eq_returned_iff.mp h
    cases i with
    | zero =>
      rw [List.getElem?_cons_zero, hp, Option.some.injEq, Option.some.injEq] at ha
      exact ⟨b, rfl, by rw [← ha, hb]⟩
    | succ i =>
      rw [List.getElem?_cons_succ] at ha ⊢
      exact ih hcs ha

/-- A loop that carries a value along the vector stops at a null entry as well. -/
theorem foldl_deref_returns_iff {g : β → α → Outcome ε β} {acc : Outcome ε β}
    (hg : ∀ b a, ∃ c, g b a = .returned c) :
    (∃ b, ps.foldl (fun acc p => acc.bind fun b => (deref p).bind (g b)) acc = .returned b) ↔
      (∃ b, acc = .returned b) ∧ none ∉ ps := by
  induction ps generalizing acc with
  | nil => simp
  | cons p ps ih =>
    rw [List.foldl_cons, ih]
    constructor
    · rintro ⟨⟨c, hc⟩, hrest⟩
      obtain ⟨b, hb, hp⟩ := bind_eq_returned_iff.mp hc
      obtain ⟨a, ha, -⟩ := bind_eq_returned_iff.mp hp
      refine ⟨⟨b, hb⟩, List.not_mem_cons_of_ne_of_not_mem ?_ hrest⟩
      rw [deref_eq_returned_iff.mp ha]
      exact (Option.some_ne_none a).symm
    · rintro ⟨⟨b, rfl⟩, hnull⟩
      obtain ⟨hp, hrest⟩ := List.ne_and_not_mem_of_not_mem_cons hnull
      obtain ⟨a, rfl⟩ := Option.ne_none_iff_exists'.mp (Ne.symm hp)
      obtain ⟨c, hc⟩ := hg b a
      exact ⟨⟨c, by rw [bind_returned, deref_some, bind_returned, hc]⟩, hrest⟩

/-- A loop that copies pointers into pointers. -/
theorem traverse_some_of_forall {g : α → β}
    (h : ∀ p ∈ ps, ∃ a, p = some a ∧ f a = .returned (g a)) :
    traverse (fun a => (f a).map some) ps = .returned (ps.map fun p => p.map g) := by
  induction ps with
  | nil => rfl
  | cons p ps ih =>
    obtain ⟨⟨a, rfl, ha⟩, hrest⟩ := List.forall_mem_cons.mp h
    rw [traverse, ih hrest, deref_some, bind_returned, ha, map_returned, bind_returned,
      map_returned]
    rfl

end Infra.Outcome
