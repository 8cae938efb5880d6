import CEMonitor.Infra.Memory

/-!
# Who owns which object

A triple says what a program does with the part of the memory it is given, whatever the rest holds. A
program that is given exactly what an object is made of, and has nothing left, frees the object; one
that is given it and gives it back only looks at it. The rules find the part that a step needs by
themselves: what the step does not name is its frame.
-/

namespace Infra

/-! ## Triples -/

open Assertion

/-- From a part of the memory that `P` describes the program returns, without touching the rest,
and leaves a part that `Q` describes. -/
def Triple {ε α β : Type} (P : Assertion α) (c : Prog ε α β) (Q : β → Assertion α) : Prop :=
  ∀ (F : Assertion α) (m : Memory α), sep P F m.cells →
    ∃ b m', c m = .returned (b, m') ∧ sep (Q b) F m'.cells

namespace Triple

variable {ε α β γ δ : Type} {P P' F : Assertion α} {Q Q' : β → Assertion α} {R : γ → Assertion α}
  {c : Prog ε α β} {f : β → Prog ε α γ}

theorem pure (b : β) (h : ∀ x, P x → Q b x) : Triple P (Pure.pure b : Prog ε α β) Q :=
  fun _ m hP => ⟨b, m, rfl, sep_mono h (fun _ hF => hF) _ hP⟩

theorem bind (hc : Triple P c Q) (hf : ∀ b, Triple (Q b) (f b) R) : Triple P (c >>= f) R := by
  intro F m hP
  obtain ⟨b, m₁, hrun, hQ⟩ := hc F m hP
  obtain ⟨d, m₂, hrun', hR⟩ := hf b F m₁ hQ
  refine ⟨d, m₂, ?_, hR⟩
  rw [Prog.bind_apply, hrun]
  exact hrun'

/-- What the program is not given stays as it is. -/
theorem frame (F : Assertion α) (hc : Triple P c Q) :
    Triple (sep P F) c (fun b => sep (Q b) F) := by
  intro G m hP
  rw [sep_assoc] at hP
  obtain ⟨b, m', hrun, hQ⟩ := hc (sep F G) m hP
  rw [← sep_assoc] at hQ
  exact ⟨b, m', hrun, hQ⟩

theorem consequence (hP : ∀ h, P' h → P h) (hQ : ∀ b h, Q b h → Q' b h) (hc : Triple P c Q) :
    Triple P' c Q' := by
  intro F m hP'
  obtain ⟨b, m', hrun, hQb⟩ := hc F m (sep_mono hP (fun _ hF => hF) _ hP')
  exact ⟨b, m', hrun, sep_mono (hQ b) (fun _ hF => hF) _ hQb⟩

theorem of_fact {φ : Prop} (h : φ → Triple P c Q) : Triple (sep (fact φ) P) c Q := by
  intro F m hP
  rw [sep_assoc] at hP
  obtain ⟨hφ, hrest⟩ := fact_sep_iff.mp hP
  exact h hφ F m hrest

theorem of_some {P : δ → Assertion α} (h : ∀ d, Triple (sep (P d) F) c Q) :
    Triple (sep (ofSome P) F) c Q := by
  intro G m hP
  rw [sep_assoc] at hP
  obtain ⟨d, hd⟩ := ofSome_sep_iff.mp hP
  rw [← sep_assoc] at hd
  exact h d G m hd

theorem ofSome {P : δ → Assertion α} (h : ∀ d, Triple (P d) c Q) :
    Triple (Assertion.ofSome P) c Q := by
  intro F m hP
  obtain ⟨d, hd⟩ := ofSome_sep_iff.mp hP
  exact h d F m hd

/-- Following a pointer in a vector. -/
theorem of_ownedAll (S : Nat → δ → Assertion α) (ps : List (Option Nat)) {vs : List (Option δ)}
    {i : Nat} {v : δ} [hP : Frame (ownedAll (owned S) ps vs) P F] (hv : vs[i]? = some (some v))
    (h : ∀ p G, ps[i]? = some (some p) →
      (∀ v', ownedAll (owned S) ps (vs.set i (some v')) = sep (S p v') G) →
      Triple (sep (S p v) (sep G F)) c Q) :
    Triple P c Q := by
  rw [hP.eq]
  have hcases := @ownedAll_cases _ _ _ (owned S) ps _ _ _ hv
  rcases hcases with hfalse | ⟨b, G, hb, hset⟩
  · rw [hfalse]
    exact of_fact fun hfalse => hfalse.elim
  · obtain ⟨hi, hvi⟩ := List.getElem?_eq_some_iff.mp hv
    have hself : ownedAll (owned S) ps vs = sep (owned S b (some v)) G := by
      rw [← hset, ← hvi, List.set_getElem_self]
    rw [hself]
    cases b with
    | none =>
      rw [sep_assoc]
      exact of_fact fun hfalse => hfalse.elim
    | some p =>
      rw [sep_assoc]
      exact h p G hb fun v' => hset (some v')

/-- A step of a program, with the part that it is given. -/
theorem step [hP : Frame P' P F] (hc : Triple P' c Q)
    (hf : ∀ b, Triple (sep (Q b) F) (f b) R) : Triple P (c >>= f) R := by
  rw [hP.eq]
  exact bind (frame F hc) hf

/-- A step that uses up the part that it is given. -/
theorem discard {c : Prog ε α Unit} {f : Unit → Prog ε α γ} [Frame P' P F]
    (hc : Triple P' c fun _ => emp) (hf : Triple F (f ()) R) : Triple P (c >>= f) R := by
  refine step hc fun _ => ?_
  rw [emp_sep]
  exact hf

/-- The last step of a program. -/
theorem last [hP : Frame P' P F] (hc : Triple P' c Q) (hQ : ∀ b h, sep (Q b) F h → Q' b h) :
    Triple P c Q' := by
  rw [hP.eq]
  exact consequence (fun _ hPF => hPF) hQ (frame F hc)

theorem of_false : Triple (fact False) c Q := by
  rw [← false_sep emp]
  exact of_fact fun h => h.elim

/-! ### Objects -/

variable {p : Nat} {a : α}

theorem new (a : α) : Triple emp (Prog.new a : Prog ε α Nat) (fun p => pointsTo p a) := by
  intro F m hF
  rw [emp_sep] at hF
  refine ⟨m.next, m.add a, rfl, pointsTo_sep_update a ?_⟩
  rw [Function.update_eq_self_iff.mpr (m.fresh m.next (Nat.le_refl _)).symm]
  exact hF

theorem store (b : α) : Triple (pointsTo p a) (Prog.store p b : Prog ε α Unit)
    (fun _ => pointsTo p b) := by
  intro F m hp
  obtain ⟨hcell, hrest⟩ := pointsTo_sep hp
  have hlive : p < m.next ∧ (m.cells p).isSome := ⟨Memory.lt_next hcell, by rw [hcell]; rfl⟩
  refine ⟨(), m.put p (some b) hlive.1, ?_, pointsTo_sep_update b hrest⟩
  rw [Prog.store, dif_pos hlive]

theorem store_step {f : Unit → Prog ε α γ} {b : α} [hP : At p P a F]
    (hf : Triple (sep (pointsTo p b) F) (f ()) R) : Triple P (Prog.store p b >>= f) R := by
  obtain rfl := hP.eq
  exact bind (frame F (store b)) fun _ => hf

/-- A change at the end of a program. -/
theorem store_last {R : Unit → Assertion α} (b : α) [hP : At p P a F]
    (hR : ∀ h, sep (pointsTo p b) F h → R () h) : Triple P (Prog.store p b : Prog ε α Unit) R := by
  obtain rfl := hP.eq
  exact consequence (fun _ hPF => hPF) (fun _ => hR) (frame F (store b))

theorem free : Triple (pointsTo p a) (Prog.free p : Prog ε α Unit) (fun _ => emp) := by
  intro F m hp
  obtain ⟨hcell, hrest⟩ := pointsTo_sep hp
  have hlive : p < m.next ∧ (m.cells p).isSome := ⟨Memory.lt_next hcell, by rw [hcell]; rfl⟩
  refine ⟨(), m.put p none hlive.1, ?_, ?_⟩
  · rw [Prog.free, dif_pos hlive]
  · rw [emp_sep]
    exact hrest

/-! ### Loops -/

variable {S : β → δ → Assertion α} {bs : List β} {vs : List δ}

/-- The rule for a loop that uses up what the entries own. -/
theorem forEach {f : β → Prog ε α Unit}
    (hf : ∀ b v, v ∈ vs → Triple (S b v) (f b) (fun _ => emp)) :
    Triple (ownedAll S bs vs) (Prog.forEach f bs) (fun _ => emp) := by
  induction bs generalizing vs with
  | nil =>
    cases vs with
    | nil => exact pure () fun _ hemp => hemp
    | cons v vs => exact of_false
  | cons b bs ih =>
    cases vs with
    | nil => exact of_false
    | cons v vs =>
      have hfirst := hf b v List.mem_cons_self
      have hrest := ih fun b v hv => hf b v (List.mem_cons_of_mem _ hv)
      rw [Prog.forEach, ownedAll]
      exact discard hfirst hrest

/-! ### Pointers that may be null -/

variable {S : Nat → δ → Assertion α} {q : Option Nat} {v : Option δ}

theorem unlessNull {f : Nat → Prog ε α Unit}
    (hf : ∀ p d, v = some d → Triple (S p d) (f p) (fun _ => emp)) :
    Triple (owned S q v) (Prog.unlessNull f q) (fun _ => emp) := by
  cases q with
  | none =>
    cases v with
    | none => exact pure () fun _ hemp => hemp
    | some d => exact of_false
  | some p =>
    cases v with
    | none => exact of_false
    | some d => exact hf p d rfl

end Triple

/-! ## Programs that read and copy -/

/-- The program leaves what it was given as it was, and makes something new. -/
def Makes {ε α β : Type} (P : Assertion α) (c : Prog ε α β) (Q : β → Assertion α) : Prop :=
  Triple P c fun b => sep P (Q b)

/-- The program leaves what it was given as it was, and returns `v`. -/
def Reads {ε α β : Type} (P : Assertion α) (c : Prog ε α β) (v : β) : Prop :=
  Makes P c fun b => fact (b = v)

namespace Makes

variable {ε α β γ δ ζ : Type} {P P' F : Assertion α} {Q : β → Assertion α} {R : γ → Assertion α}
  {c : Prog ε α β} {f : β → Prog ε α γ}

/-- Going on with what was made. -/
theorem step [hP : Frame P' P F] (hc : Makes P' c Q)
    (hf : ∀ b, Triple (sep (Q b) P) (f b) R) : Triple P (c >>= f) R := by
  refine Triple.step hc fun b => ?_
  rw [sep_comm P' (Q b), sep_assoc, ← hP.eq]
  exact hf b

theorem frame (F : Assertion α) (hc : Makes P c Q) : Makes (sep P F) c Q :=
  Triple.consequence (fun _ hP => hP) (fun _ => same (by ac_rfl)) (Triple.frame F hc)

/-- What is made out of nothing. -/
theorem of_emp (hc : Triple emp c Q) : Makes P c Q := by
  have hframe := Triple.frame P hc
  rw [emp_sep] at hframe
  exact Triple.consequence (fun _ hP => hP) (fun b => same (sep_comm _ _)) hframe

theorem new (a : α) : Makes P (Prog.new a : Prog ε α Nat) (fun p => pointsTo p a) :=
  of_emp (Triple.new a)

theorem new_step {a : α} {f : Nat → Prog ε α γ}
    (hf : ∀ p, Triple (sep (pointsTo p a) P) (f p) R) : Triple P (Prog.new a >>= f) R := by
  refine Triple.bind (new a) fun p => ?_
  rw [sep_comm]
  exact hf p

/-- `new` at the end of a program. -/
theorem new_last {a : α} {R : Nat → Assertion α} (hR : ∀ p h, sep P (pointsTo p a) h → R p h) :
    Triple P (Prog.new a : Prog ε α Nat) R :=
  Triple.consequence (fun _ hP => hP) hR (new a)

/-- The rule for a loop that makes something of every entry of a vector. -/
theorem each {S : γ → δ → Assertion α} {T : β → ζ → Assertion α} {f : γ → Prog ε α β} {g : δ → ζ}
    {bs : List γ} {vs : List δ}
    (hf : ∀ b v, v ∈ vs → Makes (S b v) (f b) (fun c => T c (g v))) :
    Makes (ownedAll S bs vs) (Prog.each f bs) (fun cs => ownedAll T cs (vs.map g)) := by
  induction bs generalizing vs with
  | nil =>
    cases vs with
    | nil =>
      refine Triple.pure [] fun h hemp => ?_
      simpa [ownedAll] using hemp
    | cons v vs => exact Triple.of_false
  | cons b bs ih =>
    cases vs with
    | nil => exact Triple.of_false
    | cons v vs =>
      have hfirst := hf b v List.mem_cons_self
      have hrest := ih fun b v hv => hf b v (List.mem_cons_of_mem _ hv)
      rw [ownedAll]
      refine step hfirst fun c => step hrest fun cs => ?_
      refine Triple.pure (c :: cs) (same ?_)
      simp only [List.map_cons, ownedAll]
      ac_rfl

/-- The same for a pointer that may be null. -/
theorem mapUnlessNull {S : Nat → δ → Assertion α} {T : β → ζ → Assertion α} {f : Nat → Prog ε α β}
    {g : δ → ζ} {q : Option Nat} {v : Option δ}
    (hf : ∀ p d, v = some d → Makes (S p d) (f p) (fun c => T c (g d))) :
    Makes (owned S q v) (Prog.mapUnlessNull f q) (fun c => owned T c (v.map g)) := by
  cases q with
  | none =>
    cases v with
    | none =>
      refine Triple.pure none fun h hemp => ?_
      simpa [owned] using hemp
    | some d => exact Triple.of_false
  | some p =>
    cases v with
    | none => exact Triple.of_false
    | some d => exact Triple.bind (hf p d rfl) fun c => Triple.pure (some c) fun _ hP => hP

end Makes

namespace Reads

variable {ε α β γ δ : Type} {P P' F : Assertion α} {R : γ → Assertion α} {c : Prog ε α β}
  {f : β → Prog ε α γ} {v : β}

/-- Following a pointer that is not null. -/
theorem address_step {p : Nat} {f : Nat → Prog ε α γ} (hf : Triple P (f p) R) :
    Triple P (Prog.address (some p) >>= f) R := hf

theorem pure (v : β) : Reads P (Pure.pure v : Prog ε α β) v := by
  refine Triple.pure v fun h hP => ?_
  rw [sep_comm]
  exact fact_sep_iff.mpr ⟨rfl, hP⟩

/-- Going on with what was read. -/
theorem step [Frame P' P F] (hc : Reads P' c v) (hf : Triple P (f v) R) :
    Triple P (c >>= f) R := by
  refine Makes.step hc fun b => Triple.of_fact fun hb => ?_
  rw [hb]
  exact hf

theorem bind {w : γ} [Frame P' P F] (hc : Reads P' c v) (hf : Reads P (f v) w) :
    Reads P (c >>= f) w := step hc hf

theorem ofSome {P : δ → Assertion α} (hc : ∀ d, Reads (P d) c v) :
    Reads (Assertion.ofSome P) c v :=
  Triple.ofSome fun d => Triple.consequence (fun _ hP => hP)
    (fun _ h hv => sep_mono (fun _ hP => ⟨d, hP⟩) (fun _ hfact => hfact) h hv) (hc d)

theorem load {p : Nat} {a : α} : Reads (pointsTo p a) (Prog.load p : Prog ε α α) a := by
  intro F m hp
  have hcell : m.cells p = some a := (pointsTo_sep hp).1
  have hread : sep (sep (pointsTo p a) (fact (a = a))) F m.cells := by
    rw [sep_comm (pointsTo p a), sep_assoc]
    exact fact_sep_iff.mpr ⟨rfl, hp⟩
  refine ⟨a, m, ?_, hread⟩
  rw [Prog.load, hcell]

theorem loadAs {cast : α → Option β} {p : Nat} {a : α} {b : β} (hcast : cast a = some b) :
    Reads (pointsTo p a) (Prog.loadAs cast p : Prog ε α β) b := by
  have hcell : Reads (pointsTo p a) (Prog.load p : Prog ε α α) a := load
  refine bind hcell ?_
  rw [hcast]
  exact pure b

/-- Following a pointer to an object that is there. -/
theorem loadAs_step {cast : α → Option β} {p : Nat} {a : α} {v : β} [hP : At p P a F]
    (hcast : cast a = some v) (hf : Triple P (f v) R) :
    Triple P (Prog.loadAs cast p >>= f) R := by
  obtain rfl := hP.eq
  exact step (loadAs hcast) hf

/-- Following a pointer just to see what is there. -/
theorem load_of {f : α → Prog ε α γ} {p : Nat} {φ : α → Prop}
    (hP : ∀ h, P h → ∃ a, h p = some a ∧ φ a) (hf : ∀ a, φ a → Triple P (f a) R) :
    Triple P (Prog.load p >>= f) R := by
  intro F m hsep
  have hparts := hsep
  obtain ⟨h₁, h₂, -, heq, hP₁, -⟩ := hparts
  obtain ⟨a, ha, hφ⟩ := hP h₁ hP₁
  have hcell : m.cells p = some a := by rw [heq, Cells.union, ha, Option.some_or]
  obtain ⟨c, m', hrun, hR⟩ := hf a hφ F m hsep
  refine ⟨c, m', ?_, hR⟩
  rw [Prog.bind_apply, Prog.load, hcell]
  exact hrun

theorem lift {o : Outcome ε β} (ho : o = .returned v) :
    Reads P (Prog.lift o : Prog ε α β) v := by
  rw [ho]
  exact pure v

/-- The rule for a loop that only looks at what the entries of a vector own. -/
theorem forEach {S : γ → δ → Assertion α} {f : γ → Prog ε α Unit} {bs : List γ} {vs : List δ}
    (hf : ∀ b v, v ∈ vs → Reads (S b v) (f b) ()) :
    Reads (ownedAll S bs vs) (Prog.forEach f bs) () := by
  induction bs generalizing vs with
  | nil => exact pure ()
  | cons b bs ih =>
    cases vs with
    | nil => exact Triple.of_false
    | cons v vs =>
      have hfirst := hf b v List.mem_cons_self
      have hrest := ih fun b v hv => hf b v (List.mem_cons_of_mem _ hv)
      rw [Prog.forEach, ownedAll]
      refine bind hfirst ?_
      rw [sep_comm]
      exact Makes.frame (S b v) hrest

/-- The rule for a loop that reads what the entries of a vector own. -/
theorem each {S : γ → δ → Assertion α} {f : γ → Prog ε α δ} {bs : List γ} {vs : List δ}
    (hf : ∀ b v, v ∈ vs → Reads (S b v) (f b) v) :
    Reads (ownedAll S bs vs) (Prog.each f bs) vs := by
  refine Triple.consequence (fun _ hP => hP) ?_
    (Makes.each (T := fun c v => fact (c = v)) (g := id) hf)
  refine fun cs h hcs => sep_mono (fun _ howned => howned) (fun _ hfacts => ?_) h hcs
  obtain ⟨hcs, hemp⟩ := eq_of_ownedAll_fact hfacts
  rw [List.map_id] at hcs
  exact ⟨hcs, hemp⟩

theorem mapUnlessNull {S : Nat → δ → Assertion α} {f : Nat → Prog ε α δ} {q : Option Nat}
    {v : Option δ} (hf : ∀ p d, v = some d → Reads (S p d) (f p) d) :
    Reads (owned S q v) (Prog.mapUnlessNull f q) v := by
  cases q with
  | none =>
    cases v with
    | none => exact pure none
    | some d => exact Triple.of_false
  | some p =>
    cases v with
    | none => exact Triple.of_false
    | some d =>
      rw [owned]
      exact bind (hf p d rfl) (pure (some d))

end Reads

end Infra
