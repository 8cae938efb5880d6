import CEMonitor.Infra.Outcome
import Mathlib.Algebra.Order.Ring.Int
import Mathlib.Data.Finset.Card
import Mathlib.Logic.Function.Basic

/-!
# Objects in memory, and what may be said of a part of it

Programs that make objects with `new`, follow pointers to them and free them with `delete`. Following
or freeing a pointer to no object is undefined. An assertion speaks of a part of the memory, and a
separating conjunction of two parts that share no object. Since an assertion describes its part
exactly, the number of its objects can often be read off it.
-/

namespace Infra

/-! ## Memory -/

/-- A part of the memory: the objects that are there, by address. -/
abbrev Cells (α : Type) := Nat → Option α

/-- The memory of a process. Addresses are handed out in order and never again. -/
structure Memory (α : Type) where
  cells : Cells α
  next : Nat
  fresh : ∀ p, next ≤ p → cells p = none

/-- A program on the memory. -/
def Prog (ε α β : Type) := Memory α → Outcome ε (β × Memory α)

namespace Memory

variable {α : Type}

def empty : Memory α where
  cells := fun _ => none
  next := 0
  fresh := fun _ _ => rfl

theorem lt_next {m : Memory α} {p : Nat} {a : α} (h : m.cells p = some a) : p < m.next := by
  by_contra hp
  rw [m.fresh p (Nat.le_of_not_lt hp)] at h
  cases h

/-- The memory with one more object. -/
def add (a : α) (m : Memory α) : Memory α where
  cells := Function.update m.cells m.next (some a)
  next := m.next + 1
  fresh := by
    intro p hp
    rw [Function.update_of_ne (by omega)]
    exact m.fresh p (by omega)

/-- The memory with the content of one address changed. -/
def put (p : Nat) (content : Option α) (m : Memory α) (h : p < m.next) : Memory α where
  cells := Function.update m.cells p content
  next := m.next
  fresh := by
    intro q hq
    rw [Function.update_of_ne (by omega)]
    exact m.fresh q hq

end Memory

namespace Prog

variable {ε α β γ δ : Type}

instance : Monad (Prog ε α) where
  pure b := fun m => .returned (b, m)
  bind c f := fun m => (c m).bind fun (b, m) => f b m

theorem bind_apply (c : Prog ε α β) (f : β → Prog ε α γ) (m : Memory α) :
    (c >>= f) m = (c m).bind fun (b, m) => f b m := rfl

theorem bind_assoc (c : Prog ε α β) (f : β → Prog ε α γ) (g : γ → Prog ε α δ) :
    c >>= f >>= g = c >>= fun b => f b >>= g := by
  funext m
  simp only [bind_apply]
  cases c m <;> rfl

/-- The end of a program that has gone wrong. -/
def undefined : Prog ε α β := fun _ => .undefined

/-- A step that has nothing to do with the memory. -/
def lift (o : Outcome ε β) : Prog ε α β := fun m => o.map fun b => (b, m)

/-- `new T(a)`. -/
def new (a : α) : Prog ε α Nat := fun m => .returned (m.next, m.add a)

/-- `*p`. -/
def load (p : Nat) : Prog ε α α := fun m =>
  match m.cells p with
  | some a => .returned (a, m)
  | none => .undefined

/-- `*p`, for an object of the class that `cast` recognises. -/
def loadAs (cast : α → Option β) (p : Nat) : Prog ε α β := do
  let a ← load p
  match cast a with
  | some b => pure b
  | none => fun _ => .undefined

/-- `*p = a`. -/
def store (p : Nat) (a : α) : Prog ε α Unit := fun m =>
  if h : p < m.next ∧ (m.cells p).isSome then .returned ((), m.put p (some a) h.1)
  else .undefined

/-- Giving the memory of an object back. -/
def free (p : Nat) : Prog ε α Unit := fun m =>
  if h : p < m.next ∧ (m.cells p).isSome then .returned ((), m.put p none h.1)
  else .undefined

/-- A pointer that the program is about to follow. -/
def address : Option Nat → Prog ε α Nat
  | some p => pure p
  | none => undefined

/-- A loop over a vector that collects what its rounds return. -/
def each (f : β → Prog ε α γ) : List β → Prog ε α (List γ)
  | [] => pure []
  | b :: bs => do
    let c ← f b
    let cs ← each f bs
    pure (c :: cs)

/-- A loop over a vector. -/
def forEach (f : β → Prog ε α Unit) : List β → Prog ε α Unit
  | [] => pure ()
  | b :: bs => do
    f b
    forEach f bs

/-- `if (p) ...`: nothing is done with a null pointer. -/
def unlessNull (f : Nat → Prog ε α Unit) : Option Nat → Prog ε α Unit
  | some p => f p
  | none => pure ()

/-- What becomes of a pointer: null stays null. -/
def mapUnlessNull (f : Nat → Prog ε α β) : Option Nat → Prog ε α (Option β)
  | some p => do
    let b ← f p
    pure (some b)
  | none => pure none

end Prog

/-! ## Parts of the memory -/

namespace Cells

variable {α : Type}

/-- No object is in both parts. -/
def Apart (h₁ h₂ : Cells α) : Prop := ∀ p, h₁ p = none ∨ h₂ p = none

/-- Both parts together. -/
def union (h₁ h₂ : Cells α) : Cells α := fun p => (h₁ p).or (h₂ p)

variable {h₁ h₂ h₃ : Cells α} {p : Nat} {a : α}

theorem Apart.symm (h : Apart h₁ h₂) : Apart h₂ h₁ := fun p => (h p).symm

theorem Apart.right_eq_none (h : Apart h₁ h₂) (ha : h₁ p = some a) : h₂ p = none := by
  rcases h p with hnone | hnone
  · rw [ha] at hnone
    cases hnone
  · exact hnone

theorem union_comm (h : Apart h₁ h₂) : union h₁ h₂ = union h₂ h₁ := by
  funext p
  rcases h p with hnone | hnone
  · simp only [union, hnone, Option.none_or, Option.or_none]
  · simp only [union, hnone, Option.none_or, Option.or_none]

theorem union_assoc (h₁ h₂ h₃ : Cells α) :
    union (union h₁ h₂) h₃ = union h₁ (union h₂ h₃) := by
  funext p
  exact Option.or_assoc

theorem apart_union_left : Apart (union h₁ h₂) h₃ ↔ Apart h₁ h₃ ∧ Apart h₂ h₃ := by
  constructor
  · intro h
    constructor
    · intro p
      rcases h p with hnone | hnone
      · exact Or.inl (Option.or_eq_none_iff.mp hnone).1
      · exact Or.inr hnone
    · intro p
      rcases h p with hnone | hnone
      · exact Or.inl (Option.or_eq_none_iff.mp hnone).2
      · exact Or.inr hnone
  · rintro ⟨h₁₃, h₂₃⟩ p
    rcases h₁₃ p with hnone₁ | hnone₃
    · rcases h₂₃ p with hnone₂ | hnone₃
      · exact Or.inl (Option.or_eq_none_iff.mpr ⟨hnone₁, hnone₂⟩)
      · exact Or.inr hnone₃
    · exact Or.inr hnone₃

theorem apart_union_right : Apart h₁ (union h₂ h₃) ↔ Apart h₁ h₂ ∧ Apart h₁ h₃ := by
  constructor
  · intro h
    obtain ⟨h₂₁, h₃₁⟩ := apart_union_left.mp h.symm
    exact ⟨h₂₁.symm, h₃₁.symm⟩
  · rintro ⟨h₁₂, h₁₃⟩
    exact (apart_union_left.mpr ⟨h₁₂.symm, h₁₃.symm⟩).symm

end Cells

/-! ## Assertions -/

/-- What is said of a part of the memory. -/
def Assertion (α : Type) := Cells α → Prop

namespace Assertion

variable {α β : Type}

/-- The part is empty. -/
def emp : Assertion α := fun h => ∀ p, h p = none

/-- The part is one object. -/
def pointsTo (p : Nat) (a : α) : Assertion α := fun h => h p = some a ∧ ∀ q, q ≠ p → h q = none

/-- The part consists of two that share nothing. -/
def sep (P Q : Assertion α) : Assertion α := fun h =>
  ∃ h₁ h₂, Cells.Apart h₁ h₂ ∧ h = Cells.union h₁ h₂ ∧ P h₁ ∧ Q h₂

/-- A fact, which needs no memory. -/
def fact (φ : Prop) : Assertion α := fun h => φ ∧ emp h

/-- The assertion holds for some value. -/
def ofSome (P : β → Assertion α) : Assertion α := fun h => ∃ b, P b h

variable {P P' Q Q' R : Assertion α} {h : Cells α} {φ : Prop}

@[ext] theorem ext (hiff : ∀ h, P h ↔ Q h) : P = Q := funext fun h => propext (hiff h)

theorem sep_comm (P Q : Assertion α) : sep P Q = sep Q P := by
  have hswap : ∀ {P Q : Assertion α} {h}, sep P Q h → sep Q P h := by
    rintro P Q h ⟨h₁, h₂, hapart, rfl, hP, hQ⟩
    exact ⟨h₂, h₁, hapart.symm, Cells.union_comm hapart, hQ, hP⟩
  exact ext fun h => ⟨hswap, hswap⟩

theorem sep_assoc (P Q R : Assertion α) : sep (sep P Q) R = sep P (sep Q R) := by
  refine ext fun h => ⟨?_, ?_⟩
  · rintro ⟨_, h₃, hapart, rfl, ⟨h₁, h₂, hapart', rfl, hP, hQ⟩, hR⟩
    obtain ⟨h₁₃, h₂₃⟩ := Cells.apart_union_left.mp hapart
    exact ⟨h₁, Cells.union h₂ h₃, Cells.apart_union_right.mpr ⟨hapart', h₁₃⟩,
      Cells.union_assoc h₁ h₂ h₃, hP, h₂, h₃, h₂₃, rfl, hQ, hR⟩
  · rintro ⟨h₁, _, hapart, rfl, hP, h₂, h₃, hapart', rfl, hQ, hR⟩
    obtain ⟨h₁₂, h₁₃⟩ := Cells.apart_union_right.mp hapart
    exact ⟨Cells.union h₁ h₂, h₃, Cells.apart_union_left.mpr ⟨h₁₃, hapart'⟩,
      (Cells.union_assoc h₁ h₂ h₃).symm, ⟨h₁, h₂, h₁₂, rfl, hP, hQ⟩, hR⟩

@[simp] theorem emp_sep (P : Assertion α) : sep emp P = P := by
  refine ext fun h => ⟨?_, ?_⟩
  · rintro ⟨h₁, h₂, -, rfl, hemp, hP⟩
    have hunion : Cells.union h₁ h₂ = h₂ := by
      funext p
      simp only [Cells.union, hemp p, Option.none_or]
    rw [hunion]
    exact hP
  · intro hP
    exact ⟨fun _ => none, h, fun _ => Or.inl rfl, funext fun _ => Option.none_or.symm,
      fun _ => rfl, hP⟩

@[simp] theorem sep_emp (P : Assertion α) : sep P emp = P := by rw [sep_comm, emp_sep]

instance : Std.Associative (sep (α := α)) := ⟨sep_assoc⟩

instance : Std.Commutative (sep (α := α)) := ⟨sep_comm⟩

instance : Std.LawfulCommIdentity (sep (α := α)) emp where
  right_id := sep_emp

theorem sep_left_comm (P Q R : Assertion α) : sep P (sep Q R) = sep Q (sep P R) := by
  rw [← sep_assoc, sep_comm P Q, sep_assoc]

theorem sep_mono (hP : ∀ h, P h → P' h) (hQ : ∀ h, Q h → Q' h) (h : Cells α)
    (hsep : sep P Q h) : sep P' Q' h := by
  obtain ⟨h₁, h₂, hapart, heq, hP₁, hQ₂⟩ := hsep
  exact ⟨h₁, h₂, hapart, heq, hP h₁ hP₁, hQ h₂ hQ₂⟩

theorem same (hPQ : P = Q) (h : Cells α) (hP : P h) : Q h := by rwa [← hPQ]

theorem fact_sep_iff : sep (fact φ) P h ↔ φ ∧ P h := by
  constructor
  · rintro ⟨h₁, h₂, hapart, heq, ⟨hφ, hemp⟩, hP⟩
    refine ⟨hφ, ?_⟩
    have hsep : sep emp P h := ⟨h₁, h₂, hapart, heq, hemp, hP⟩
    rw [emp_sep] at hsep
    exact hsep
  · rintro ⟨hφ, hP⟩
    have hsep : sep emp P h := by rwa [emp_sep]
    exact sep_mono (fun h hemp => ⟨hφ, hemp⟩) (fun _ hP => hP) h hsep

theorem ofSome_sep_iff {P : β → Assertion α} :
    sep (ofSome P) Q h ↔ ∃ b, sep (P b) Q h := by
  constructor
  · rintro ⟨h₁, h₂, hapart, heq, ⟨b, hP⟩, hQ⟩
    exact ⟨b, h₁, h₂, hapart, heq, hP, hQ⟩
  · rintro ⟨b, h₁, h₂, hapart, heq, hP, hQ⟩
    exact ⟨h₁, h₂, hapart, heq, ⟨b, hP⟩, hQ⟩

@[simp] theorem false_sep (P : Assertion α) : sep (fact False) P = fact False :=
  ext fun _ => fact_sep_iff.trans (iff_of_false And.left And.left)

@[simp] theorem sep_false (P : Assertion α) : sep P (fact False) = fact False := by
  rw [sep_comm, false_sep]

/-- An object in one part is in the whole, and not in the rest. -/
theorem pointsTo_sep {p : Nat} {a : α} (hsep : sep (pointsTo p a) Q h) :
    h p = some a ∧ Q (Function.update h p none) := by
  obtain ⟨h₁, h₂, hapart, rfl, ⟨hp, hother⟩, hQ⟩ := hsep
  have hnone : h₂ p = none := hapart.right_eq_none hp
  refine ⟨by simp only [Cells.union, hp, Option.some_or], ?_⟩
  have hrest : Function.update (Cells.union h₁ h₂) p none = h₂ := by
    funext q
    by_cases hq : q = p
    · rw [hq, Function.update_self, hnone]
    · rw [Function.update_of_ne hq, Cells.union, hother q hq, Option.none_or]
  rw [hrest]
  exact hQ

/-- An object put into a place where there is none. -/
theorem pointsTo_sep_update {p : Nat} (a : α) (hQ : Q (Function.update h p none)) :
    sep (pointsTo p a) Q (Function.update h p (some a)) := by
  refine ⟨fun q => if q = p then some a else none, Function.update h p none, ?_, ?_, ⟨?_, ?_⟩, hQ⟩
  · intro q
    by_cases hq : q = p
    · exact Or.inr (by rw [hq, Function.update_self])
    · exact Or.inl (if_neg hq)
  · funext q
    by_cases hq : q = p
    · rw [hq, Function.update_self, Cells.union, if_pos rfl, Option.some_or]
    · rw [Function.update_of_ne hq, Cells.union, if_neg hq, Option.none_or,
        Function.update_of_ne hq]
  · exact if_pos rfl
  · exact fun q hq => if_neg hq

/-! ### Finding a part -/

/-- `P` consists of `P'` and `F`. Instances take an assertion apart until they find `P'`. -/
class Frame (P' P : Assertion α) (F : outParam (Assertion α)) : Prop where
  eq : P = sep P' F

instance (priority := low) (P : Assertion α) : Frame P P emp := ⟨(sep_emp P).symm⟩

instance (priority := high) (P Q : Assertion α) : Frame P (sep P Q) Q := ⟨rfl⟩

instance (priority := high) (P Q : Assertion α) : Frame Q (sep P Q) P := ⟨sep_comm P Q⟩

instance (F : Assertion α) [hP : Frame P' P F] (Q : Assertion α) : Frame P' (sep P Q) (sep F Q) :=
  ⟨by rw [hP.eq, sep_assoc]⟩

instance (F : Assertion α) [hQ : Frame Q' Q F] (P : Assertion α) : Frame Q' (sep P Q) (sep P F) :=
  ⟨by rw [hQ.eq, sep_left_comm]⟩

instance (priority := low) (F₁ F : Assertion α) [hP : Frame P' P F₁] [hQ : Frame Q' F₁ F] :
    Frame (sep P' Q') P F := ⟨by rw [hP.eq, hQ.eq, sep_assoc]⟩

/-- `P` consists of the object at `p` and `F`. -/
class At (p : Nat) (P : Assertion α) (a : outParam α) (F : outParam (Assertion α)) : Prop where
  eq : P = sep (pointsTo p a) F

instance (p : Nat) (a : α) : At p (pointsTo p a) a emp := ⟨(sep_emp _).symm⟩

instance (priority := high) (p : Nat) (a : α) (Q : Assertion α) :
    At p (sep (pointsTo p a) Q) a Q := ⟨rfl⟩

instance (p : Nat) (a : α) (F : Assertion α) [hP : At p P a F] (Q : Assertion α) :
    At p (sep P Q) a (sep F Q) := ⟨by rw [hP.eq, sep_assoc]⟩

instance (p : Nat) (a : α) (F : Assertion α) [hQ : At p Q a F] (P : Assertion α) :
    At p (sep P Q) a (sep P F) := ⟨by rw [hQ.eq, sep_left_comm]⟩

/-! ### Pointers and vectors -/

variable {γ δ : Type}

/-- What a pointer points at, for a value that it stands for: null stands for no value. -/
def owned (R : β → γ → Assertion α) : Option β → Option γ → Assertion α
  | none, none => emp
  | some b, some v => R b v
  | none, some _ => fact False
  | some _, none => fact False

@[simp] theorem owned_none (R : β → γ → Assertion α) : owned R none none = emp := rfl

@[simp] theorem owned_some (R : β → γ → Assertion α) (b : β) (v : γ) :
    owned R (some b) (some v) = R b v := rfl

/-- What the entries of a vector own, for the values that they stand for. -/
def ownedAll (R : β → γ → Assertion α) : List β → List γ → Assertion α
  | [], [] => emp
  | b :: bs, v :: vs => sep (R b v) (ownedAll R bs vs)
  | [], _ :: _ => fact False
  | _ :: _, [] => fact False

theorem ownedAll_append (R : β → γ → Assertion α) (bs : List β) (vs : List γ) (b : β) (v : γ) :
    ownedAll R (bs ++ [b]) (vs ++ [v]) = sep (ownedAll R bs vs) (R b v) := by
  induction bs generalizing vs with
  | nil =>
    cases vs with
    | nil => simp [ownedAll]
    | cons v' vs => cases vs <;> simp [ownedAll]
  | cons b' bs ih =>
    cases vs with
    | nil => cases bs <;> simp [ownedAll]
    | cons v' vs =>
      rw [List.cons_append, List.cons_append, ownedAll, ownedAll, ih, sep_assoc]

/-- One entry of a vector and the others. An entry that has no value any more owns nothing. -/
theorem ownedAll_eq_sep {R : β → Option γ → Assertion α} (hnone : ∀ b, R b none = emp)
    {bs : List β} {vs : List (Option γ)} {i : Nat} {b : β} {v : Option γ} (hb : bs[i]? = some b)
    (hv : vs[i]? = some v) :
    ownedAll R bs vs = sep (R b v) (ownedAll R bs (vs.set i none)) := by
  induction bs generalizing vs i with
  | nil => cases hb
  | cons b' bs ih =>
    cases vs with
    | nil => cases hv
    | cons v' vs =>
      cases i with
      | zero =>
        cases hb
        cases hv
        rw [List.set_cons_zero, ownedAll, ownedAll, hnone, emp_sep]
      | succ i =>
        rw [List.set_cons_succ, ownedAll, ownedAll, ih hb hv]
        ac_rfl

/-- The entry with another value. -/
theorem ownedAll_set {R : β → Option γ → Assertion α} (hnone : ∀ b, R b none = emp)
    {bs : List β} {vs : List (Option γ)} {i : Nat} {b : β} (v : Option γ) (hb : bs[i]? = some b)
    (hi : i < vs.length) :
    ownedAll R bs (vs.set i v) = sep (R b v) (ownedAll R bs (vs.set i none)) := by
  rw [ownedAll_eq_sep hnone hb (List.getElem?_set_self hi), List.set_set]

/-- One entry of a vector, and what there is besides whatever the entry stands for. -/
theorem ownedAll_cases {R : β → γ → Assertion α} {bs : List β} {vs : List γ} {i : Nat} {v : γ}
    (hv : vs[i]? = some v) :
    ownedAll R bs vs = fact False ∨
      ∃ b G, bs[i]? = some b ∧ ∀ v', ownedAll R bs (vs.set i v') = sep (R b v') G := by
  induction bs generalizing vs i with
  | nil =>
    cases vs with
    | nil => cases hv
    | cons v' vs => exact Or.inl rfl
  | cons b bs ih =>
    cases vs with
    | nil => cases hv
    | cons v₀ vs =>
      cases i with
      | zero => exact Or.inr ⟨b, ownedAll R bs vs, rfl, fun _ => rfl⟩
      | succ i =>
        rw [List.getElem?_cons_succ] at hv
        rcases ih hv with hfalse | ⟨b', G, hb', hset⟩
        · exact Or.inl (by rw [ownedAll, hfalse, sep_false])
        · refine Or.inr ⟨b', sep (R b v₀) G, hb', fun v' => ?_⟩
          rw [List.set_cons_succ, ownedAll, hset, sep_left_comm]

theorem ownedAll_mono {R R' : β → γ → Assertion α} (hR : ∀ b v h, R b v h → R' b v h)
    {bs : List β} {vs : List γ} (h : Cells α) (howned : ownedAll R bs vs h) :
    ownedAll R' bs vs h := by
  induction bs generalizing vs h with
  | nil =>
    cases vs with
    | nil => exact howned
    | cons v vs => exact howned
  | cons b bs ih =>
    cases vs with
    | nil => exact howned
    | cons v vs => exact sep_mono (hR b v) ih h howned

/-- A vector whose entries say of their values nothing but a fact needs no memory. -/
theorem eq_of_ownedAll_fact {bs vs : List γ}
    (howned : ownedAll (fun b v => fact (b = v)) bs vs h) : bs = vs ∧ emp h := by
  induction bs generalizing vs with
  | nil =>
    cases vs with
    | nil => exact ⟨rfl, howned⟩
    | cons v vs => exact howned.1.elim
  | cons b bs ih =>
    cases vs with
    | nil => exact howned.1.elim
    | cons v vs =>
      obtain ⟨hb, hrest⟩ := fact_sep_iff.mp howned
      obtain ⟨hbs, hemp⟩ := ih hrest
      exact ⟨by rw [hb, hbs], hemp⟩

/-! ### How many objects there are -/

/-- A part that `P` describes has `n` objects. -/
def Counts (n : Nat) (P : Assertion α) : Prop :=
  ∀ h, P h → ∃ S : Finset Nat, (∀ p, p ∈ S ↔ h p ≠ none) ∧ S.card = n

namespace Counts

variable {n k : Nat}

theorem emp : Counts 0 (emp : Assertion α) := by
  intro h hemp
  refine ⟨∅, fun p => ?_, rfl⟩
  simp [hemp p]

theorem pointsTo (p : Nat) (a : α) : Counts 1 (pointsTo p a) := by
  rintro h ⟨hp, hother⟩
  refine ⟨{p}, fun q => ?_, Finset.card_singleton p⟩
  by_cases hq : q = p
  · simp [hq, hp]
  · simp [hq, hother q hq]

/-- No object is counted twice. -/
theorem sep (hP : Counts n P) (hQ : Counts k Q) : Counts (n + k) (sep P Q) := by
  rintro h ⟨h₁, h₂, hapart, rfl, hP₁, hQ₂⟩
  obtain ⟨S, hS, rfl⟩ := hP h₁ hP₁
  obtain ⟨T, hT, rfl⟩ := hQ h₂ hQ₂
  have hdisjoint : Disjoint S T := by
    rw [Finset.disjoint_left]
    intro p hpS hpT
    rcases hapart p with hnone | hnone
    · exact (hS p).mp hpS hnone
    · exact (hT p).mp hpT hnone
  refine ⟨S ∪ T, fun p => ?_, Finset.card_union_of_disjoint hdisjoint⟩
  rw [Finset.mem_union, hS, hT, Cells.union, ne_eq, ne_eq, ne_eq, Option.or_eq_none_iff,
    not_and_or]

theorem ofSome {P : β → Assertion α} (hP : ∀ b, Counts n (P b)) : Counts n (ofSome P) := by
  rintro h ⟨b, hb⟩
  exact hP b h hb

theorem fact (φ : Prop) : Counts 0 (fact φ : Assertion α) := by
  rintro h ⟨-, hemp⟩
  exact emp h hemp

theorem of_false (n : Nat) : Counts n (Assertion.fact False : Assertion α) := by
  rintro h ⟨hfalse, -⟩
  exact hfalse.elim

theorem owned {R : β → γ → Assertion α} {f : γ → Nat} (hR : ∀ b v, Counts (f v) (R b v))
    (b : Option β) (v : Option γ) : Counts (v.elim 0 f) (owned R b v) := by
  cases b with
  | none =>
    cases v with
    | none => exact emp
    | some v => exact of_false _
  | some b =>
    cases v with
    | none => exact of_false _
    | some v => exact hR b v

theorem ownedAll {R : β → γ → Assertion α} {f : γ → Nat} (hR : ∀ b v, Counts (f v) (R b v))
    (bs : List β) (vs : List γ) : Counts (vs.map f).sum (ownedAll R bs vs) := by
  induction bs generalizing vs with
  | nil =>
    cases vs with
    | nil => exact emp
    | cons v vs => exact of_false _
  | cons b bs ih =>
    cases vs with
    | nil => exact of_false _
    | cons v vs => exact sep (hR b v) (ih vs)

end Counts

end Assertion

end Infra
