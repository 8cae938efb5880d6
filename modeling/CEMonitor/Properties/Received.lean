import CEMonitor.Properties.Mains

/-!
# What `gettopics` and `getinfo` leave in memory

The two programs copy what they received and print the copies. `gettopics` deletes them; `getinfo`
deletes its topics and leaves its copies of the actions.
-/

namespace CEMonitor.Client

open Infra Infra.Assertion Objects CliUtils Commands

/-- The vector has one object for every value. -/
def isVector {γ : Type} (S : Nat → γ → Assertion Cell) (qs : List Nat) (vs : List (Option γ)) :
    Assertion Cell :=
  ownedAll (fun q v => owned S (some q) v) qs vs

/-- The response is in memory. -/
def isReceived (r : Received) (topics : List (Option Topic)) (actions : List (Option Action)) :
    Assertion Cell :=
  sep (ownedAll (owned isTopic) r.topic topics) (ownedAll (owned isAction) r.action actions)

section

variable {γ : Type} {S : Nat → γ → Assertion Cell} {vs : List (Option γ)}

/-- The caller's vector gets a copy of every entry. -/
theorem copyReceived_spec {copy : Nat → Code Nat} {g : γ → γ} {ps : List (Option Nat)}
    (hnull : none ∉ vs)
    (hcopy : ∀ p v, some v ∈ vs → Makes (S p v) (copy p) (fun q => S q (g v))) :
    Makes (ownedAll (owned S) ps vs) (copyReceived copy ps)
      (fun qs => isVector S qs (vs.map fun v => v.map g)) := by
  refine Makes.each fun p v hv => ?_
  cases v with
  | none => exact absurd hv hnull
  | some v =>
    cases p with
    | none => exact Triple.of_false
    | some p => exact Reads.address_step (hcopy p v hv)

theorem printVector_spec {read : Nat → Code γ} {print : γ → Result String} {qs : List Nat}
    (hread : ∀ q v, Reads (S q v) (read q) v)
    (hprint : ∀ v, some v ∈ vs → ∃ out, print v = .returned out) :
    Reads (isVector S qs vs) (Prog.forEach (printObject read print) qs) () := by
  refine Reads.forEach fun q v hv => ?_
  cases v with
  | none => exact Triple.of_false
  | some v =>
    obtain ⟨out, hout⟩ := hprint v hv
    have hprinted : Reads (S q v) (Prog.lift (print v) : Code String) out := Reads.lift hout
    rw [owned_some]
    exact Reads.bind (hread q v) <| Reads.bind hprinted (Reads.pure ())

theorem deleteVector_spec {delete : Nat → Code Unit} {qs : List Nat}
    (hdelete : ∀ q v, Triple (S q v) (delete q) (fun _ => emp)) :
    Triple (isVector S qs vs) (Prog.forEach delete qs) (fun _ => emp) := by
  refine Triple.forEach fun q v _ => ?_
  cases v with
  | none => exact Triple.of_false
  | some v => exact hdelete q v

end

theorem freeReceived_spec (r : Received) (topics : List (Option Topic))
    (actions : List (Option Action)) :
    Triple (isReceived r topics actions) (freeReceived r) (fun _ => emp) := by
  have htopics : Triple (ownedAll (owned isTopic) r.topic topics)
      (Prog.forEach (Prog.unlessNull deleteTopic) r.topic) (fun _ => emp) :=
    Triple.forEach fun _ _ _ => Triple.unlessNull fun _ t _ => deleteTopic_spec t
  have hactions : Triple (ownedAll (owned isAction) r.action actions)
      (Prog.forEach (Prog.unlessNull deleteAction) r.action) (fun _ => emp) :=
    Triple.forEach fun _ _ _ => Triple.unlessNull fun _ a _ => deleteAction_spec a
  rw [isReceived]
  exact Triple.discard htopics hactions

/-- Every topic can be copied, and its copy printed. -/
def Printable (topics : List (Option Topic)) : Prop :=
  ∀ p ∈ topics, ∃ t : Topic, p = some t ∧ none ∉ t.dialect

section

variable {topics : List (Option Topic)} {actions : List (Option Action)}

theorem copyTopics_spec (ps : List (Option Nat)) (h : Printable topics) :
    Makes (ownedAll (owned isTopic) ps topics) (copyReceived copyTopic ps)
      (fun T => isVector isTopic T (topics.map fun t => t.map Topic.copy)) := by
  refine copyReceived_spec (fun hnull => ?_) fun p t _ => copyTopic_spec t
  obtain ⟨t, ht, -⟩ := h none hnull
  cases ht

theorem printTopics_spec (T : List Nat) (h : Printable topics) :
    Reads (isVector isTopic T (topics.map fun t => t.map Topic.copy))
      (Prog.forEach (printObject readTopic Topic.print) T) () := by
  refine printVector_spec (fun q t => readTopic_spec t) fun t ht => ?_
  obtain ⟨p, hp, hcopy⟩ := List.mem_map.mp ht
  obtain ⟨t', rfl, hnull⟩ := h p hp
  cases hcopy
  rw [← Topic.copy_dialect] at hnull
  exact (Topic.print_returns_iff _).mpr hnull

theorem deleteTopics_spec (topics : List (Option Topic)) (T : List Nat) :
    Triple (isVector isTopic T (topics.map fun t => t.map Topic.copy))
      (Prog.forEach deleteTopic T) (fun _ => emp) :=
  deleteVector_spec fun _ t => deleteTopic_spec t

theorem gettopicsReturn_spec (r : Received) (h : Printable topics) :
    Triple (isReceived r topics actions) (gettopicsReturn r) (fun _ => emp) := by
  have hfree := freeReceived_spec r topics actions
  rw [isReceived] at hfree ⊢
  refine Makes.step (copyTopics_spec r.topic h) fun T => ?_
  refine Reads.step (printTopics_spec T h) ?_
  exact Triple.discard (deleteTopics_spec topics T) hfree

/-- The actions are copied and printed as well, and the copies stay. -/
theorem getinfoReturn_spec (r : Received) (h : Printable topics)
    (hactions : ∀ p ∈ actions, ∃ a : Action, p = some a ∧ a.Intact) :
    Triple (isReceived r topics actions) (getinfoReturn r)
      (fun _ =>
        ofSome fun A => isVector isAction A (actions.map fun a => a.map Action.copied)) := by
  have hfree := freeReceived_spec r topics actions
  have hcopy : Makes (ownedAll (owned isAction) r.action actions)
      (copyReceived copyAction r.action)
      (fun A => isVector isAction A (actions.map fun a => a.map Action.copied)) := by
    refine copyReceived_spec (fun hnull => ?_) fun p a ha => ?_
    · obtain ⟨a, ha, -⟩ := hactions none hnull
      cases ha
    · obtain ⟨a', ha', hintact⟩ := hactions (some a) ha
      cases ha'
      exact copyAction_spec hintact
  have hprint : ∀ A, Reads (isVector isAction A (actions.map fun a => a.map Action.copied))
      (Prog.forEach (printObject readAction Action.print) A) () := by
    refine fun A => printVector_spec (fun q a => readAction_spec a) fun a ha => ?_
    obtain ⟨p, hp, hcopied⟩ := List.mem_map.mp ha
    obtain ⟨a', rfl, hintact⟩ := hactions p hp
    cases hcopied
    exact Command.print_copied hintact
  rw [isReceived] at hfree ⊢
  refine Makes.step (copyTopics_spec r.topic h) fun T => Makes.step hcopy fun A => ?_
  refine Reads.step (printTopics_spec T h) <| Reads.step (hprint A) ?_
  refine Triple.discard (deleteTopics_spec topics T) ?_
  refine Triple.last hfree fun _ h hA => ⟨A, ?_⟩
  rw [emp_sep] at hA
  exact hA

end

/-- What is left of a memory that held no more than the program was given. -/
theorem leaves_of_triple {β : Type} {P : Assertion Cell} {c : Code β} {Q : β → Assertion Cell}
    {n : Nat} (hc : Triple P c Q) (hn : ∀ b, Counts n (Q b)) {mem : Memory Cell}
    (hmem : P mem.cells) :
    ∃ b mem', c mem = .returned (b, mem') ∧ Q b mem'.cells ∧ Leaves n mem' := by
  rw [← sep_emp P] at hmem
  obtain ⟨b, mem', hrun, hQ⟩ := hc emp mem hmem
  rw [sep_emp] at hQ
  exact ⟨b, mem', hrun, hQ, hn b mem'.cells hQ⟩

/--
**`gettopics` deletes every topic that it copied, and the response goes with the object.**

The memory is empty then, and no null pointer was followed.
-/
theorem gettopics_leaves (rt : SoapRuntime) (w : World (Option (List (Option Topic))))
    (cl : CommandLine) (url : String) (h : Command.gettopics.Accepts w cl url)
    (hexit : (Commands.gettopics rt w cl).ending = .exit 0) (topics : List (Option Topic))
    (hresp : w.call.resp = some (some topics)) (r : Received) (mem : Memory Cell)
    (hmem : isReceived r topics [] mem.cells) :
    ∃ mem', gettopicsReturn r mem = .returned ((), mem') ∧ Leaves 0 mem' := by
  obtain ⟨-, topics', hresp', hprintable⟩ := (Command.sends_of_accepts rt h).2.mp hexit
  have hsame : some topics = some topics' :=
    (congrArg (fun received => Option.getD received w.topicResp) hresp).symm.trans hresp'
  obtain rfl := Option.some.inj hsame
  obtain ⟨⟨⟩, mem', hrun, -, hleaves⟩ :=
    leaves_of_triple (gettopicsReturn_spec r hprintable) (fun _ => Counts.emp) hmem
  exact ⟨mem', hrun, hleaves⟩

/-- A service with a topic. -/
def oneTopic : World (Option (List (Option Topic))) :=
  goodWorld (some (some [some (Topic.new "CE_MONITOR")]))

def endpointLine : CommandLine where
  options := []
  operand := some "ce"

theorem accepts_gettopics : Command.gettopics.Accepts oneTopic endpointLine "ce" where
  options := by decide
  operand := rfl
  given := by decide
  authenticated := rfl
  url := fun hu => absurd hu (by decide)

/-- The topic and its copy are gone. -/
theorem gettopics_leaves_nothing : ∃ r mem,
    isReceived r [some (Topic.new "CE_MONITOR")] [] mem.cells ∧
    ∃ mem', gettopicsReturn r mem = .returned ((), mem') ∧ Leaves 0 mem' := by
  obtain ⟨p, mem, -, hp⟩ := newTopic_spec "CE_MONITOR" emp Memory.empty
    ((emp_sep emp).symm ▸ fun _ => rfl)
  rw [sep_emp] at hp
  have hmem : isReceived { topic := [some p], action := [] } [some (Topic.new "CE_MONITOR")] []
      mem.cells := by
    rw [isReceived, ownedAll, ownedAll, ownedAll, sep_emp, sep_emp, owned_some]
    exact hp
  exact ⟨_, mem, hmem, gettopics_leaves (.plain "" "") oneTopic endpointLine "ce" accepts_gettopics
    rfl _ rfl _ mem hmem⟩

/-- The objects that the copies of some actions are made of. -/
def copiedObjects (actions : List (Option Action)) : Nat :=
  (actions.map fun a => a.elim 0 fun a => actionObjects a.copied).sum

theorem counts_copies (A : List Nat) (actions : List (Option Action)) :
    Counts (copiedObjects actions)
      (isVector isAction A (actions.map fun a => a.map Action.copied)) := by
  have hcounts : Counts (((actions.map fun a => a.map Action.copied).map
      fun a => a.elim 0 actionObjects).sum)
        (isVector isAction A (actions.map fun a => a.map Action.copied)) :=
    Counts.ownedAll (fun q a => Counts.owned counts_isAction (some q) a) _ _
  have hsame : (fun a : Option Action => a.elim 0 actionObjects) ∘
      (fun a : Option Action => a.map Action.copied)
      = fun a : Option Action => a.elim 0 fun a => actionObjects a.copied := by
    funext a
    cases a <;> rfl
  rw [List.map_map, hsame] at hcounts
  exact hcounts

/--
**`getinfo` never deletes the actions that it copied.**

Its copies of the topics and the response are gone, and what is left are the copies of the actions,
each with its strings, parameters and properties, and nothing else.
-/
theorem getinfo_leaves (rt : SoapRuntime) (w : World (Option Info)) (cl : CommandLine)
    (url : String) (h : Command.getinfo.Accepts w cl url)
    (hexit : (Commands.getinfo rt w cl).ending = .exit 0) (r : Received) (mem : Memory Cell)
    (hmem : isReceived r ((w.call.resp.join.map Info.topic).getD [])
      ((w.call.resp.join.map Info.action).getD []) mem.cells) :
    ∃ A mem', getinfoReturn r mem = .returned ((), mem') ∧
      isVector isAction A (((w.call.resp.join.map Info.action).getD []).map
        fun a => a.map Action.copied) mem'.cells ∧
      Leaves (copiedObjects ((w.call.resp.join.map Info.action).getD [])) mem' := by
  obtain ⟨-, hanswer⟩ := (Command.sends_of_accepts rt h).2.mp hexit
  have hreadable : Printable ((w.call.resp.join.map Info.topic).getD []) ∧
      ∀ p ∈ (w.call.resp.join.map Info.action).getD [], ∃ a : Action, p = some a ∧ a.Intact := by
    cases hinfo : w.call.resp.join with
    | none => exact ⟨fun p hp => absurd hp List.not_mem_nil, fun p hp => absurd hp List.not_mem_nil⟩
    | some info => exact hanswer info (Option.join_eq_some_iff.mp hinfo)
  obtain ⟨⟨⟩, mem', hrun, ⟨A, hA⟩, hleaves⟩ := leaves_of_triple
    (getinfoReturn_spec r hreadable.1 hreadable.2)
    (fun _ => Counts.ofSome fun A => counts_copies A _) hmem
  exact ⟨A, mem', hrun, hA, hleaves⟩

/-- A service with an action. -/
def oneAction : World (Option Info) :=
  goodWorld (some (some
    { serviceVersion := "1.0"
      description := none
      topic := []
      action := [some (Action.new "SendNotification" "" true)]
      property := [] }))

theorem accepts_getinfo : Command.getinfo.Accepts oneAction endpointLine "ce" where
  options := by decide
  operand := rfl
  given := by decide
  authenticated := rfl
  url := fun hu => absurd hu (by decide)

/-- The copy and its four strings stay behind. -/
theorem getinfo_leaves_action : ∃ r mem,
    isReceived r [] [some (Action.new "SendNotification" "" true)] mem.cells ∧
    ∃ A mem', getinfoReturn r mem = .returned ((), mem') ∧
      isVector isAction A [some (Action.new "SendNotification" "" true)] mem'.cells ∧
      Leaves 5 mem' := by
  obtain ⟨p, mem, -, hp⟩ := newAction_spec "SendNotification" "" true emp Memory.empty
    ((emp_sep emp).symm ▸ fun _ => rfl)
  rw [sep_emp] at hp
  have hmem : isReceived { topic := [], action := [some p] } []
      [some (Action.new "SendNotification" "" true)] mem.cells := by
    rw [isReceived, ownedAll, emp_sep, ownedAll, ownedAll, sep_emp, owned_some]
    exact hp
  exact ⟨_, mem, hmem, getinfo_leaves (.plain "" "") oneAction endpointLine "ce" accepts_getinfo
    rfl _ mem hmem⟩

end CEMonitor.Client
