import CEMonitor.Mains
import CEMonitor.Properties.Messages
import CEMonitor.Properties.Ownership
import CEMonitor.Properties.Uses

/-!
# What three command lines leave in memory

On values, `subscribe`, `subupdate` and `getevent` are settled by their message and its answer. Here
the same programs run on objects. They end as they do on values, and where that is with a status the
memory is what their variables are made of: at the return nothing, but for the dialect that
`getevent` never deletes.
-/

namespace CEMonitor.Client

open Infra Infra.Assertion Objects CliUtils Commands

/-- The number of objects in memory. -/
def Leaves (n : Nat) (mem : Memory Cell) : Prop :=
  ∃ live : Finset Nat, (∀ p, p ∈ live ↔ mem.cells p ≠ none) ∧ live.card = n

/-- How many objects the variables are made of. -/
def objects (vals : List (Option Value)) : Nat := (vals.map fun v => v.elim 0 Value.objects).sum

/--
On objects a program ends as `p` does, its run on values. `call` goes up to what the `catch` clauses
do as well, `ret` is the rest. The memory is then what the variables `kept` are made of, each with
objects of its own, and behind a caught exception what `left` are.
-/
structure Ends (rt : SoapRuntime) (p : Process) (call ret : List Statement)
    (kept left : List (Option Value)) : Prop where
  ways : p.ending = .exit 0 ∨ p.ending = .exit 1 ∨ p.ending = .terminated ∨ p.ending = .undefined
  exit_zero : p.ending = .exit 0 → ∃ m mem,
    execAll rt (call ++ ret) Machine.start Memory.empty = .returned (m, mem) ∧
      m.replies = [(.returned (), p.sent)] ∧ holds m.vars kept mem.cells ∧
      Leaves (objects kept) mem
  exit_one : p.ending = .exit 1 → ∃ e m mem,
    execAll rt call Machine.start Memory.empty = .returned (m, mem) ∧
      m.replies = [(.raised e, p.sent)] ∧ holds m.vars left mem.cells ∧
      Leaves (objects left) mem
  terminated : p.ending = .terminated →
    execAll rt (call ++ ret) Machine.start Memory.empty = .unexpected
  undefined : p.ending = .undefined →
    execAll rt (call ++ ret) Machine.start Memory.empty = .undefined

/-! ## Endings -/

section

variable {α : Type} {outcome : Result α}

/-- A program that has nothing left to do behind its call. -/
theorem after_ways (outcome : Result α) :
    (Ending.after outcome fun _ => .exit 0) = .exit 0 ∨
      (Ending.after outcome fun _ => .exit 0) = .exit 1 ∨
      (Ending.after outcome fun _ => .exit 0) = .terminated ∨
      (Ending.after outcome fun _ => .exit 0) = .undefined := by
  cases outcome with
  | returned a => exact Or.inl rfl
  | raised e =>
    cases e with
    | ce c fault => exact Or.inr (Or.inl rfl)
    | abs c cause => exact Or.inr (Or.inl rfl)
    | std c => exact Or.inr (Or.inr (Or.inl rfl))
  | unexpected => exact Or.inr (Or.inr (Or.inl rfl))
  | undefined => exact Or.inr (Or.inr (Or.inr rfl))

/-- A caught exception. -/
theorem raised_of_after (h : (Ending.after outcome fun _ => .exit 0) = .exit 1) :
    ∃ e, outcome = .raised e := by
  cases outcome with
  | returned a => cases h
  | raised e => exact ⟨e, rfl⟩
  | unexpected => cases h
  | undefined => cases h

theorem unexpected_of_after (h : (Ending.after outcome fun _ => .exit 0) = .terminated)
    (hstd : ∀ e, outcome.map (fun _ => ()) ≠ .raised (.std e)) : outcome = .unexpected := by
  cases outcome with
  | returned a => cases h
  | raised e =>
    cases e with
    | ce c fault => cases h
    | abs c cause => cases h
    | std c => exact absurd rfl (hstd c)
  | unexpected => rfl
  | undefined => cases h

theorem after_undefined_iff :
    (Ending.after outcome fun _ => .exit 0) = .undefined ↔ outcome = .undefined := by
  cases outcome with
  | raised e => cases e <;> simp [Ending.after]
  | _ => simp [Ending.after]

variable {rt : SoapRuntime} {cs made rest ret : List Statement} {c : Statement} {s : State}
  {i : Nat} {v : Value} {kept left : List (Option Value)} {replies : List Reply}

/-- The memory at the end of a program. -/
theorem execAll_leaves
    (h : run (step rt) cs State.start = some { vars := left, replies := replies }) :
    ∃ m mem, execAll rt cs Machine.start Memory.empty = .returned (m, mem) ∧
      m.replies = replies ∧ holds m.vars left mem.cells ∧ Leaves (objects left) mem := by
  obtain ⟨m, mem, hrun, hreplies, hholds⟩ := execAll_start rt h
  exact ⟨m, mem, hrun, hreplies, hholds,
    Counts.ownedAll (counts_isVar m.vars) m.vars left mem.cells hholds⟩

/-- After a call that lets the program go on. -/
theorem called_of_goesOn {r : Reply} (h : r.1 = .returned () ∨ ∃ e, r.1 = .raised e) :
    s.called i v r.1 r.2
      = some { vars := s.vars.set i (some v), replies := s.replies ++ [r] } := by
  obtain ⟨outcome, sent⟩ := r
  rcases h with h | ⟨e, h⟩
  · cases h
    rfl
  · cases h
    rfl

/-- A remote call behind which the program goes on. -/
theorem run_remote {r : Reply} (hmade : run (step rt) made State.start = some s)
    (hreplies : s.replies = []) (hremote : remote rt c s = some (i, v, r))
    (hgoes : r.1 = .returned () ∨ ∃ e, r.1 = .raised e)
    (hrest : ∀ replies, run (step rt) rest { vars := s.vars.set i (some v), replies := replies } =
      some { vars := left, replies := replies }) :
    run (step rt) (made ++ c :: rest) State.start = some { vars := left, replies := [r] } := by
  have hcall : step rt c s = some { vars := s.vars.set i (some v), replies := [r] } := by
    rw [step_eq_called hremote, called_of_goesOn hgoes, hreplies]
    rfl
  rw [run_append hmade]
  exact run_cons_eq_some.mpr ⟨_, hcall, hrest _⟩

/-- A program ends with its remote call, or goes on behind it. -/
theorem Ends.of_runs {p : Process} (hending : p.ending = .after outcome fun _ => .exit 0)
    (hstd : ∀ e, outcome.map (fun _ => ()) ≠ .raised (.std e))
    (hmade : run (step rt) made State.start = some s) (hreplies : s.replies = [])
    (hremote : remote rt c s = some (i, v, outcome.map (fun _ => ()), p.sent))
    (hrest : ∀ replies, run (step rt) rest { vars := s.vars.set i (some v), replies := replies } =
      some { vars := left, replies := replies })
    (hret : ∀ replies, run (step rt) ret { vars := left, replies := replies } =
      some { vars := kept, replies := replies }) :
    Ends rt p (made ++ c :: rest) ret kept left := by
  -- where the call neither returns nor throws, nothing behind it is executed
  have hstops := execAll_stops hmade hremote (rest ++ ret)
  rw [← List.cons_append, ← List.append_assoc] at hstops
  refine ⟨?_, fun h => ?_, fun h => ?_, fun h => ?_, fun h => ?_⟩
  · rw [hending]
    exact after_ways outcome
  · rw [hending] at h
    obtain ⟨a, rfl⟩ := Command.after_exit_zero_iff.mp h
    have hcall := run_remote hmade hreplies hremote (.inl rfl) hrest
    exact execAll_leaves ((run_append hcall ret).trans (hret _))
  -- the catch block makes the same deletions, but `exit` destroys no local of `main`
  · rw [hending] at h
    obtain ⟨e, rfl⟩ := raised_of_after h
    exact ⟨e, execAll_leaves (run_remote hmade hreplies hremote (.inr ⟨e, rfl⟩) hrest)⟩
  · rw [hending] at h
    exact hstops.1 (by rw [unexpected_of_after h hstd]; rfl)
  · rw [hending] at h
    exact hstops.2 (by rw [after_undefined_iff.mp h]; rfl)

end

/-! ## Two variables, and others behind some that are gone -/

/-- The first two variables, `k` that were deleted, and the rest. -/
def behind (v w : Option Value) (k : Nat) (vals : List (Option Value)) (replies : List Reply) :
    State where
  vars := v :: w :: (List.replicate k none ++ vals)
  replies := replies

section

variable {v w : Option Value} {k : Nat} {vals : List (Option Value)} {replies : List Reply}

theorem var_behind (j : Nat) : (behind v w k vals replies).var (k + 2 + j) = vals[j]?.join := by
  have hindex : (List.replicate k none ++ vals)[k + j]? = vals[j]? := by
    rw [List.getElem?_append_right (by simp), List.length_replicate, Nat.add_sub_cancel_left]
  rw [State.var, behind, Nat.add_right_comm]
  simp only [List.getElem?_cons_succ, hindex]

theorem get_behind {α : Type} (cast : Value → Option α) (j : Nat) :
    (behind v w k vals replies).get cast (k + 2 + j) = vals[j]?.join.bind cast := by
  rw [State.get, var_behind]

theorem set_behind (j : Nat) (x : Option Value) :
    (behind v w k vals replies).vars.set (k + 2 + j) x
      = (behind v w k (vals.set j x) replies).vars := by
  have hset : (List.replicate k none ++ vals).set (k + j) x
      = List.replicate k none ++ vals.set j x := by
    rw [List.set_append_right _ _ (by simp), List.length_replicate, Nat.add_sub_cancel_left]
  rw [behind, behind, Nat.add_right_comm]
  simp only [List.set_cons_succ, hset]

theorem assign_behind (j : Nat) (x : Value) :
    (behind v w k vals replies).assign (k + 2 + j) x
      = behind v w k (vals.set j (some x)) replies := by
  rw [State.assign, set_behind]
  rfl

theorem drop_behind (j : Nat) :
    (behind v w k vals replies).drop (k + 2 + j) = behind v w k (vals.set j none) replies := by
  rw [State.drop, set_behind]
  rfl

theorem declare_behind (x : Value) :
    (behind v w k vals replies).declare x = behind v w k (vals ++ [some x]) replies := by
  rw [State.declare, behind, behind, List.cons_append, List.cons_append, List.append_assoc]

/-- One more that was deleted. -/
theorem behind_cons_none :
    behind v w k (none :: vals) replies = behind v w (k + 1) vals replies := by
  rw [behind, behind, List.replicate_succ', List.append_assoc]
  rfl

end

/-! ## Statements -/

section

variable (rt : SoapRuntime) {s : State} {i : Nat}

theorem step_delete {v : Value} (h : s.var i = some v) :
    step rt (.delete i) s = some (s.drop i) := by
  simp only [step, h]
  rfl

theorem step_addDialect {d : Option Nat} {t : Topic} {e : Option Dialect}
    (ht : s.get Value.topic? i = some t) (he : s.arg Value.dialect? d = some e) :
    step rt (.addDialect i d) s = some (s.assign i (.topic (t.addDialect e))) := by
  simp only [step, ht, he]
  rfl

theorem step_addAction {a : Nat} {p q : Policy} {b : Action}
    (hp : s.get Value.policy? i = some p) (hb : s.get Value.action? a = some b)
    (hq : p.addAction b = .returned q) :
    step rt (.addAction i a) s = some (s.assign i (.policy q)) := by
  simp only [step, hp, hb, Option.bind_eq_bind, Option.bind_some, hq]
  rfl

theorem step_setSubscribeParam {consumer : String} {topic policy : Nat} {duration : Int}
    {o o' : CESubscription} {t : Topic} {p : Policy} (ho : s.get Value.subscription? i = some o)
    (ht : s.get Value.topic? topic = some t) (hp : s.get Value.policy? policy = some p)
    (hset : o.setSubscribeParam consumer t p duration = .returned o') :
    step rt (.setSubscribeParam i consumer topic policy duration) s
      = some (s.assign i (.subscription o')) := by
  simp only [step, ho, ht, hp, Option.bind_eq_bind, Option.bind_some, hset]
  rfl

end

/-! ## `glite-ce-monitor-subscribe` -/

section

variable (rt : SoapRuntime)

/-- A dialect is made, copied into the topic `T` and deleted. `next` is its variable. -/
def addCopied (T next : Nat) (d : Dialect) : List Statement :=
  .newDialect d.name :: d.queryLanguage.map (.addQueryLanguage next) ++
    [.addDialect T (some next), .delete next]

section

variable {v w : Option Value} {k : Nat} {vals : List (Option Value)} {replies : List Reply}

theorem run_addQueryLanguages (qls : List String) (d : Dialect) :
    run (step rt) (qls.map (.addQueryLanguage (k + 2 + vals.length)))
        (behind v w k (vals ++ [some (.dialect d)]) replies) =
      some (behind v w k
        (vals ++ [some (.dialect { d with queryLanguage := d.queryLanguage ++ qls })])
        replies) := by
  induction qls generalizing d with
  | nil => rw [List.append_nil, List.map_nil, run_nil]
  | cons ql qls ih =>
    have hstep : step rt (.addQueryLanguage (k + 2 + vals.length) ql)
        (behind v w k (vals ++ [some (.dialect d)]) replies) =
          some (behind v w k (vals ++ [some (.dialect (d.addQueryLanguage ql))]) replies) := by
      have hget : (behind v w k (vals ++ [some (.dialect d)]) replies).get Value.dialect?
          (k + 2 + vals.length) = some d := by
        rw [get_behind, List.getElem?_concat_length]
        rfl
      simp only [step, hget, Option.bind_eq_bind, Option.bind_some, assign_behind,
        List.set_append_right _ _ (Nat.le_refl _), Nat.sub_self, List.set_cons_zero]
      rfl
    rw [List.map_cons, run, hstep, Option.bind_some, ih, Dialect.addQueryLanguage]
    simp only [List.append_assoc, List.singleton_append]

theorem run_addCopied (d : Dialect) (t : Topic) :
    run (step rt) (addCopied 1 (k + 2 + vals.length) d)
        (behind v (some (.topic t)) k vals replies) =
      some (behind v (some (.topic (t.addDialect (some d)))) k (vals ++ [none]) replies) := by
  have hnew : step rt (.newDialect d.name) (behind v (some (.topic t)) k vals replies) =
      some (behind v (some (.topic t)) k (vals ++ [some (.dialect (Dialect.new d.name))])
        replies) :=
    congrArg some (declare_behind _)
  have hlast : ∀ w, (behind v w k (vals ++ [some (.dialect d)]) replies).var
      (k + 2 + vals.length) = some (.dialect d) := by
    intro w
    rw [var_behind, List.getElem?_concat_length]
    rfl
  have harg : (behind v (some (.topic t)) k (vals ++ [some (.dialect d)]) replies).arg
      Value.dialect? (some (k + 2 + vals.length)) = some (some d) := by
    rw [State.arg, State.get, hlast]
    rfl
  have hdrop : ∀ w, (behind v w k (vals ++ [some (.dialect d)]) replies).drop
      (k + 2 + vals.length) = behind v w k (vals ++ [none]) replies := by
    intro w
    rw [drop_behind, List.set_append_right _ _ (Nat.le_refl _), Nat.sub_self, List.set_cons_zero]
  rw [addCopied, List.cons_append, run, hnew, Option.bind_some,
    run_append (run_addQueryLanguages rt d.queryLanguage (Dialect.new d.name))]
  refine run_cons_eq_some.mpr ⟨_, step_addDialect rt rfl harg, ?_⟩
  exact run_cons_eq_some.mpr ⟨_, step_delete rt (hlast _), congrArg some (hdrop _)⟩

/-- The loop over the pieces. -/
theorem run_addPieces (its : List String) (k : Nat) (t : Topic) :
    run (step rt) (addPieces 1 (k + 2) its) (behind v (some (.topic t)) k [] replies) =
      some (behind v (some (.topic (addDialects its t))) (k + (its.filter (· ≠ "")).length) []
        replies) := by
  induction its generalizing k t with
  | nil => rfl
  | cons it its ih =>
    by_cases hit : it ≠ ""
    -- the dialect is deleted, and its variable is one more in front of the next piece's
    · have hpiece : run (step rt) (addCopied 1 (k + 2) (Dialect.new it))
          (behind v (some (.topic t)) k [] replies) =
            some (behind v (some (.topic (t.addDialect (some (Dialect.new it))))) (k + 1) []
              replies) :=
        (run_addCopied rt (Dialect.new it) t).trans (congrArg some behind_cons_none)
      have hprogram : addPieces 1 (k + 2) (it :: its)
          = addCopied 1 (k + 2) (Dialect.new it) ++ addPieces 1 (k + 1 + 2) its := by
        rw [addPieces, if_pos hit]
        rfl
      have hadd : addDialects (it :: its) t
          = addDialects its (t.addDialect (some (Dialect.new it))) := by
        simp only [addDialects, List.foldl_cons, if_pos hit]
      rw [hprogram, run_append hpiece, ih, hadd, List.filter_cons_of_pos (by simpa using hit),
        List.length_cons, Nat.add_assoc, Nat.add_comm 1]
    · have hadd : addDialects (it :: its) t = addDialects its t := by
        simp only [addDialects, List.foldl_cons, if_neg hit]
      rw [addPieces, if_neg hit, ih, hadd, List.filter_cons_of_neg (by simpa using hit)]

end

/-- The actions that a policy is made with. -/
def sendNotification : Action := Action.new "SendNotification" "" true

def doNotSendNotification : Action := Action.new "DoNotSendNotification" "" false

/-- The variables `P`, `A1` and `A2`. -/
def policyVals (rate : Int) (action : List (Option Action)) : List (Option Value) :=
  [some (.policy { query := none, action := action, rate := rate }),
    some (.action sendNotification), some (.action doNotSendNotification)]

/-- The policy is made from its two actions. -/
theorem run_policy {v w : Option Value} (k : Nat) (rate : Int) (replies : List Reply) :
    run (step rt)
        [.newPolicy rate, .newAction "SendNotification" "" true,
          .newAction "DoNotSendNotification" "" false, .addAction (k + 2) (k + 2 + 1),
          .addAction (k + 2) (k + 2 + 2)] (behind v w k [] replies) =
      some (behind v w k
        (policyVals rate [some sendNotification, some doNotSendNotification]) replies) := by
  -- `addAction` changes `P` and neither of the actions
  have hpolicy : ∀ action, (behind v w k (policyVals rate action) replies).get Value.policy? (k + 2)
      = some { query := none, action := action, rate := rate } :=
    fun _ => get_behind Value.policy? 0
  have hactions : ∀ action,
      (behind v w k (policyVals rate action) replies).get Value.action? (k + 2 + 1)
          = some sendNotification ∧
        (behind v w k (policyVals rate action) replies).get Value.action? (k + 2 + 2)
          = some doNotSendNotification :=
    fun _ => ⟨get_behind Value.action? 1, get_behind Value.action? 2⟩
  have hassign : ∀ action action', (behind v w k (policyVals rate action) replies).assign (k + 2)
      (.policy { query := none, action := action', rate := rate })
        = behind v w k (policyVals rate action') replies := fun _ _ => assign_behind 0 _
  have hnew : run (step rt) [.newPolicy rate, .newAction "SendNotification" "" true,
      .newAction "DoNotSendNotification" "" false] (behind v w k [] replies)
        = some (behind v w k (policyVals rate []) replies) := by
    simp only [run, step, Option.bind_some, declare_behind]
    rfl
  refine (run_append hnew _).trans ?_
  refine run_cons_eq_some.mpr ⟨_, step_addAction rt (hpolicy _) (hactions _).1 rfl, ?_⟩
  rw [hassign]
  refine run_cons_eq_some.mpr ⟨_, step_addAction rt (hpolicy _) (hactions _).2 rfl, ?_⟩
  rw [hassign]
  rfl

/-- The local topic when it is copied into the request. -/
def subscribeTopic (o : Options) : Topic :=
  addDialects (Text.split ',' o.dialects) (Topic.new o.topic)

/-- The request object when `subscribe` is called. -/
def subscribeObject (n : FaultIntegers) (o : Options) (serviceURL : String) : CESubscription where
  base := (AbsRequest.new n).setServiceURL serviceURL
  subscriptionID := ""
  topic := some (subscribeTopic o).copy
  policy := some
    { query := none
      action := [some sendNotification, some doNotSendNotification]
      rate := o.rate }
  consumerURL := o.consumerURL
  duration := o.duration

theorem subscribe_of_accepts {w : World (Option SubscriptionRef)} {cl : CommandLine} {url : String}
    (h : Command.subscribe.Accepts w cl url) :
    Commands.subscribe rt w cl =
      { sent := ((subscribeObject w.integers (cl.meant w.env) (checkCEMonURL url)).subscribe rt
          w.call).sent
        ending := .after ((subscribeObject w.integers (cl.meant w.env)
          (checkCEMonURL url)).subscribe rt w.call).outcome fun _ => .exit 0 } := by
  have hp : parse subscribeLetters w.env cl = some (cl.meant w.env) :=
    Command.parse_of_options h.options
  have hc : (cl.meant w.env).consumerURL ≠ "" := h.given _ (by simp [Command.mandatory])
  have ht : (cl.meant w.env).topic ≠ "" := h.given _ (by simp [Command.mandatory])
  have ha : w.authenticate (cl.meant w.env) = .returned () := h.authenticated
  unfold Commands.subscribe
  rw [hp, h.operand]
  simp only [if_neg hc, if_neg ht, construct_of_authenticated ha,
    subscribePolicy_bind_setSubscribeParam]
  generalize checkCEMonURL url = serviceURL
  rfl

/-- The variables when the remote call is over. -/
def subscribed (v w : Option Value) (o : Options) (replies : List Reply) : State :=
  behind v w ((Text.split ',' o.dialects).filter (· ≠ "")).length
    (policyVals o.rate [some sendNotification, some doNotSendNotification]) replies

/-- The program up to `setSubscribeParam`. -/
theorem run_subscribeMade (n : FaultIntegers) (o : Options) (serviceURL : String) :
    run (step rt) (subscribeMade n o serviceURL) State.start =
      some (subscribed (some (.subscription (subscribeObject n o serviceURL)))
        (some (.topic (subscribeTopic o))) o []) := by
  have hstart : run (step rt) [.newSubscription n, .setServiceURL 0 serviceURL, .newTopic o.topic]
      State.start = some (behind
        (some (.subscription
          { CESubscription.new n with base := (AbsRequest.new n).setServiceURL serviceURL }))
        (some (.topic (Topic.new o.topic))) 0 [] []) := rfl
  -- the program, cut where one lemma ends and the next begins
  have hprogram : subscribeMade n o serviceURL =
      [.newSubscription n, .setServiceURL 0 serviceURL, .newTopic o.topic] ++
        (addPieces 1 (0 + 2) (Text.split ',' o.dialects) ++
          ([.newPolicy o.rate, .newAction "SendNotification" "" true,
            .newAction "DoNotSendNotification" "" false,
            .addAction (policyVar o) (policyVar o + 1),
            .addAction (policyVar o) (policyVar o + 2)] ++
            [.setSubscribeParam 0 o.consumerURL 1 (policyVar o) o.duration])) := by
    rw [subscribeMade, List.append_assoc]
    rfl
  have hset : run (step rt) [.setSubscribeParam 0 o.consumerURL 1 (policyVar o) o.duration]
      (behind (some (.subscription
          { CESubscription.new n with base := (AbsRequest.new n).setServiceURL serviceURL }))
        (some (.topic (subscribeTopic o))) ((Text.split ',' o.dialects).filter (· ≠ "")).length
        (policyVals o.rate [some sendNotification, some doNotSendNotification]) []) =
      some (subscribed (some (.subscription (subscribeObject n o serviceURL)))
        (some (.topic (subscribeTopic o))) o []) :=
    run_cons_eq_some.mpr
      ⟨_, step_setSubscribeParam rt rfl rfl (get_behind Value.policy? 0) rfl, rfl⟩
  rw [hprogram, run_append hstart, run_append (run_addPieces rt _ _ _), Nat.zero_add, policyVar,
    run_append (run_policy rt _ _ _)]
  exact hset

/-- The end of the scope. -/
theorem run_subscribeReturn (o : Options) (t : Topic) (replies : List Reply) :
    run (step rt) (subscribeReturn o) (subscribed none (some (.topic t)) o replies) =
      some { vars := List.replicate (policyVar o + 3) none, replies := replies } := by
  unfold subscribeReturn subscribed policyVar
  generalize ((Text.split ',' o.dialects).filter (· ≠ "")).length = k
  have hgone : behind none none k [none, none, none] replies =
      { vars := List.replicate (k + 2 + 3) none, replies := replies } := by
    have hlast : List.replicate k (none : Option Value) ++ [none, none, none]
        = List.replicate (k + 3) none := by
      show List.replicate k none ++ List.replicate 3 none = _
      exact List.replicate_append_replicate
    rw [behind, hlast]
    rfl
  refine run_cons_eq_some.mpr ⟨_, step_delete rt (var_behind 2), ?_⟩
  rw [drop_behind]
  refine run_cons_eq_some.mpr ⟨_, step_delete rt (var_behind 1), ?_⟩
  rw [drop_behind]
  refine run_cons_eq_some.mpr ⟨_, step_delete rt (var_behind 0), ?_⟩
  rw [drop_behind (j := 0), ← hgone]
  exact run_cons_eq_some.mpr ⟨_, step_delete rt rfl, rfl⟩

/-- What is left of `subscribe`: the topic with its dialects and the null pointer, the policy and
the two actions. -/
def subscribeLocals (o : Options) : List (Option Value) :=
  (subscribed none (some (.topic ((subscribeTopic o).addDialect none))) o []).vars

/-- The topic has its dialects, and a null pointer. -/
theorem topicObjects_subscribeTopic (o : Options) :
    topicObjects ((subscribeTopic o).addDialect none) = 1 + (pieces o.dialects).length := by
  have hheld : ((dialectsOf o.dialects).map held).sum = (pieces o.dialects).length := by
    rw [dialectsOf, List.map_map]
    show ((pieces o.dialects).map fun _ => 1).sum = _
    rw [List.map_const', List.sum_replicate_nat, Nat.mul_one]
  rw [topicObjects, Topic.addDialect_dialect, subscribeTopic, dialect_addDialects, List.map_append,
    List.sum_append, List.map_append, List.sum_append]
  exact congrArg (1 + ·) ((Nat.add_zero _).trans ((Nat.zero_add _).trans hheld))

theorem objects_gone (k : Nat) : objects (List.replicate k none) = 0 := by
  rw [objects, List.map_replicate, List.sum_replicate_nat]
  exact Nat.mul_zero k

theorem objects_subscribeLocals (o : Options) :
    objects (subscribeLocals o) = (pieces o.dialects).length + 22 := by
  have hpolicy : objects (policyVals o.rate [some sendNotification, some doNotSendNotification])
      = 21 := rfl
  have hgone := objects_gone ((Text.split ',' o.dialects).filter (· ≠ "")).length
  unfold objects at hpolicy hgone
  rw [subscribeLocals, subscribed, behind, objects, List.map_cons, List.sum_cons, List.map_cons,
    List.sum_cons, List.map_append, List.sum_append, hgone, hpolicy]
  show 0 + (topicObjects ((subscribeTopic o).addDialect none) + (0 + 21)) = _
  rw [topicObjects_subscribeTopic]
  omega

end

/--
**`subscribe` leaves nothing in memory, and behind a caught exception its local variables.**

They are the topic with its dialects, the policy and the two actions. The request object, and the
copies that it was given, are gone on both ways. No pointer is followed that should not be.
-/
theorem subscribe_leaves (rt : SoapRuntime) (w : World (Option SubscriptionRef))
    (cl : CommandLine) (url : String) (h : Command.subscribe.Accepts w cl url) :
    Ends rt (Commands.subscribe rt w cl)
      (subscribeCall w.integers (cl.meant w.env) (checkCEMonURL url) w.call)
      (subscribeReturn (cl.meant w.env))
      (List.replicate (policyVar (cl.meant w.env) + 3) none) (subscribeLocals (cl.meant w.env)) ∧
    (Commands.subscribe rt w cl).ending ≠ .undefined ∧
    objects (List.replicate (policyVar (cl.meant w.env) + 3) none) = 0 ∧
    objects (subscribeLocals (cl.meant w.env))
      = (pieces (cl.meant w.env).dialects).length + 22 := by
  rw [subscribe_of_accepts rt h]
  generalize cl.meant w.env = o
  generalize checkCEMonURL url = serviceURL
  refine ⟨?_, fun hundefined => ?_, objects_gone _, objects_subscribeLocals o⟩
  · -- the null dialect comes when the request already has its own copy of the topic
    have hmade : run (step rt) (subscribeMade w.integers o serviceURL ++ [.addDialect 1 none])
        State.start = some
          (subscribed (some (.subscription (subscribeObject w.integers o serviceURL)))
            (some (.topic ((subscribeTopic o).addDialect none))) o []) :=
      (run_append (run_subscribeMade rt w.integers o serviceURL) _).trans
        (run_cons_eq_some.mpr ⟨_, step_addDialect rt rfl rfl, rfl⟩)
    have hprogram : subscribeCall w.integers o serviceURL w.call =
        (subscribeMade w.integers o serviceURL ++ [.addDialect 1 none]) ++
          .subscribe 0 w.call :: [.delete 0] := by
      rw [subscribeCall, List.append_assoc]
      rfl
    rw [hprogram]
    refine Ends.of_runs rfl (fun e => ?_) hmade rfl (i := 0)
      (v := .subscription ((subscribeObject w.integers o serviceURL).subscribe rt w.call).obj)
      ?_ (fun replies => ?_) (fun replies => run_subscribeReturn rt o _ replies)
    · rw [Outcome.map_unit]
      exact Operation.outcome_ne_std rt (.subscribe w.call)
        (subscribeObject w.integers o serviceURL) e
    · rw [Outcome.map_unit]
      rfl
    · exact run_cons_eq_some.mpr ⟨_, step_delete rt rfl, rfl⟩
  · exact Operation.outcome_ne_undefined rt (.subscribe w.call)
      (subscribeObject w.integers o serviceURL) (.inr trivial) (after_undefined_iff.mp hundefined)

/-- A user of `subscribe` and `subupdate`, with a dialect. -/
def acceptedWorld : World (Option SubscriptionRef) :=
  goodWorld (some (some { subscriptionID := "1", expirationTime := some 0 }))

theorem accepts_subscribe :
    Command.subscribe.Accepts acceptedWorld (dialectsLine "CLASSAD") "ce" where
  options := by decide
  operand := rfl
  given := by decide
  authenticated := rfl
  url := fun _ => by decide

/-- Between the two stands one dialect. -/
theorem subscribe_leaves_nothing : ∃ m mem,
    execAll (.plain "" "") (subscribeCall .sample ((dialectsLine "CLASSAD").meant acceptedWorld.env)
          (checkCEMonURL "ce") acceptedWorld.call ++
        subscribeReturn ((dialectsLine "CLASSAD").meant acceptedWorld.env)) Machine.start
      Memory.empty = .returned (m, mem) ∧
    m.replies = [(.returned (),
      (Commands.subscribe (.plain "" "") acceptedWorld (dialectsLine "CLASSAD")).sent)] ∧
    Leaves 0 mem := by
  obtain ⟨hends, -, hobjects, -⟩ := subscribe_leaves (.plain "" "") acceptedWorld
    (dialectsLine "CLASSAD") "ce" accepts_subscribe
  obtain ⟨m, mem, hrun, hreplies, -, hleaves⟩ := hends.exit_zero rfl
  rw [hobjects] at hleaves
  exact ⟨m, mem, hrun, hreplies, hleaves⟩

/-! ### The dialects of the request -/

section

variable (rt : SoapRuntime)

/-- One dialect after the other, or a null pointer, is added to the topic `T`. `next` is the next
variable. -/
def addAll (T : Nat) : Nat → List (Option Dialect) → List Statement
  | _, [] => []
  | next, none :: ds => .addDialect T none :: addAll T next ds
  | next, some d :: ds => addCopied T next d ++ addAll T (next + 1) ds

/-- Only the topic is changed. -/
theorem run_addAll {v : Option Value} {k : Nat} {replies : List Reply} (ds : List (Option Dialect))
    (vals : List (Option Value)) (t : Topic) : ∃ t' vals',
      run (step rt) (addAll 1 (k + 2 + vals.length) ds)
          (behind v (some (.topic t)) k vals replies) =
        some (behind v (some (.topic t')) k vals' replies) := by
  induction ds generalizing vals t with
  | nil => exact ⟨t, vals, rfl⟩
  | cons d ds ih =>
    cases d with
    | none =>
      obtain ⟨t', vals', hrest⟩ := ih vals (t.addDialect none)
      refine ⟨t', vals', ?_⟩
      exact run_cons_eq_some.mpr ⟨_, step_addDialect rt rfl rfl, hrest⟩
    | some d =>
      obtain ⟨t', vals', hrest⟩ := ih (vals ++ [none]) (t.addDialect (some d))
      rw [List.length_append, ← Nat.add_assoc] at hrest
      exact ⟨t', vals', (run_append (run_addCopied rt d t) _).trans hrest⟩

/-- A program that sent a request was given a command line that it acts on. -/
theorem accepts_of_sent {w : World (Option SubscriptionRef)} {cl : CommandLine} {call : SoapCall}
    (hsent : call ∈ (Commands.subscribe rt w cl).sent) :
    ∃ url, Command.subscribe.Accepts w cl url := by
  by_contra hnone
  -- a command line that is not acted on sends nothing
  have hempty : (Commands.subscribe rt w cl).sent = [] :=
    (Command.exec_of_not_accepts rt (c := .subscribe) (not_exists.mp hnone)).1
  rw [hempty] at hsent
  cases hsent

/-- What is added to the local topic behind `setSubscribeParam` does not show. -/
theorem subscribe_after_addAll (n : FaultIntegers) (o : Options) (serviceURL : String)
    (x : Exchange (Option SubscriptionRef)) (later : List (Option Dialect)) :
    ∃ m mem p outcome mem',
      execAll rt (subscribeMade n o serviceURL ++ addAll 1 (policyVar o + 3) later) Machine.start
          Memory.empty = .returned (m, mem) ∧
        m.vars[0]? = some p ∧
        Objects.subscribe rt x p mem =
          .returned ((outcome, ((subscribeObject n o serviceURL).subscribe rt x).sent), mem') := by
  have hadded : ∃ t' vals', run (step rt) (addAll 1 (policyVar o + 3) later)
      (subscribed (some (.subscription (subscribeObject n o serviceURL)))
        (some (.topic (subscribeTopic o))) o []) =
      some (behind (some (.subscription (subscribeObject n o serviceURL))) (some (.topic t'))
        ((Text.split ',' o.dialects).filter (· ≠ "")).length vals' []) :=
    run_addAll rt later (policyVals o.rate [some sendNotification, some doNotSendNotification])
      (subscribeTopic o)
  obtain ⟨t', vals', hadded⟩ := hadded
  have hrun := (run_append (run_subscribeMade rt n o serviceURL) _).trans hadded
  obtain ⟨m, mem, mem', hcs, hcall⟩ := execAll_remote hrun (c := .subscribe 0 x) rfl
  refine ⟨m, mem, ?_⟩
  rw [execRemote, Prog.bind_apply] at hcall
  cases hp : m.vars[0]? with
  | none =>
    rw [hp] at hcall
    cases hcall
  | some p =>
    rw [hp] at hcall
    exact ⟨p, _, mem', hcs, rfl, hcall⟩

end

/--
**The Subscribe request has the dialects that `--dialects` names, whatever is added to the
local topic afterwards.**

They are the non-empty pieces between the commas, in order: of a list joined with commas its
members, and further commas anywhere change nothing. What is added afterwards is copied and
destroyed, or null.
-/
theorem subscribe_dialects (rt : SoapRuntime) (w : World (Option SubscriptionRef))
    (cl : CommandLine) (opts : Options) (endpoint : String) (sub : SubscriptionData)
    (hp : parse subscribeLetters w.env cl = some opts)
    (hsent : SoapCall.subscribe endpoint sub ∈ (Commands.subscribe rt w cl).sent) :
    ∃ t, sub.topic = some t ∧ t.dialect = dialectsOf opts.dialects ∧
      (∀ later : List (Option Dialect), ∃ m mem p outcome mem',
        execAll rt (subscribeMade w.integers opts endpoint ++ addAll 1 (policyVar opts + 3) later)
            Machine.start Memory.empty = .returned (m, mem) ∧
          m.vars[0]? = some p ∧
          Objects.subscribe rt w.call p mem =
            .returned ((outcome, [SoapCall.subscribe endpoint sub]), mem')) ∧
      (∀ names : List String, (∀ n ∈ names, n ≠ "" ∧ ',' ∉ n.toList) →
        opts.dialects = ",".intercalate names →
          t.dialect = names.map fun n => some { name := n, queryLanguage := [] }) ∧
      (∀ a b, (opts.dialects = "," ++ a → t.dialect = dialectsOf a) ∧
        (opts.dialects = a ++ "," → t.dialect = dialectsOf a) ∧
        (opts.dialects = a ++ ",," ++ b → t.dialect = dialectsOf (a ++ "," ++ b))) := by
  obtain ⟨url, haccepts⟩ := accepts_of_sent rt hsent
  have hconsumer : (cl.meant w.env).consumerURL ≠ "" :=
    haccepts.given _ (by simp [Command.mandatory])
  rw [subscribe_of_accepts rt haccepts] at hsent
  rw [← meant_of_parse hp] at hconsumer hsent
  generalize checkCEMonURL url = serviceURL at hsent
  have hdialect : (subscribeTopic opts).copy.dialect = dialectsOf opts.dialects := by
    rw [Topic.copy_dialect, subscribeTopic, dialect_addDialects]
    rfl
  have hcall := CESubscription.sent_subscribe_eq rt (subscribeObject w.integers opts serviceURL)
    hconsumer w.call
  rw [hcall, List.mem_singleton, SoapCall.subscribe.injEq] at hsent
  obtain ⟨rfl, rfl⟩ := hsent
  refine ⟨(subscribeTopic opts).copy, rfl, hdialect, fun later => ?_, ?_, ?_⟩
  · have hlater := subscribe_after_addAll rt w.integers opts endpoint w.call later
    rw [hcall] at hlater
    exact hlater
  · intro names hnames hjoined
    rw [hdialect, dialectsOf, hjoined, pieces_intercalate hnames]
  · intro a b
    obtain ⟨hleading, htrailing, hdoubled⟩ := pieces_comma a b
    refine ⟨fun h => ?_, fun h => ?_, fun h => ?_⟩
    · rw [hdialect, h, dialectsOf, hleading, dialectsOf]
    · rw [hdialect, h, dialectsOf, htrailing, dialectsOf]
    · rw [hdialect, h, dialectsOf, hdoubled, dialectsOf]

/-- Two dialects between more commas than they need. -/
theorem subscribe_twoDialects :
    ∃ endpoint sub t, SoapCall.subscribe endpoint sub
        ∈ (Commands.subscribe (.plain "SOAP-ENV:Client" "Client fault") (goodWorld none)
          (dialectsLine ",CLASSAD,,OLD_CLASSAD,")).sent ∧
      sub.topic = some t ∧ t.dialect = dialectsOf ",CLASSAD,,OLD_CLASSAD," := by
  obtain ⟨t, htopic, hdialect, -⟩ := subscribe_dialects (.plain "SOAP-ENV:Client" "Client fault")
    (goodWorld none) (dialectsLine ",CLASSAD,,OLD_CLASSAD,") _ _ _ rfl (List.mem_singleton_self _)
  exact ⟨_, _, t, List.mem_singleton_self _, htopic, hdialect⟩

/-! ## `glite-ce-monitor-subupdate` -/

/-- The remote call of `subupdate`. -/
def subupdateReply (rt : SoapRuntime) (n : FaultIntegers) (o : Options) (serviceURL : String)
    (x : Exchange (Option SubscriptionRef)) : Call CESubscriptionMgr String :=
  (CESubscriptionMgr.new n).update rt serviceURL o.subscriptionID o.consumerURL
    ((Topic.new o.topic).addDialect none) (Policy.new o.rate) (x.now + o.duration) x

theorem subupdate_of_accepts (rt : SoapRuntime) {w : World (Option SubscriptionRef)}
    {cl : CommandLine} {url : String} (h : Command.subupdate.Accepts w cl url) :
    Commands.subupdate rt w cl =
      { sent := (subupdateReply rt w.integers (cl.meant w.env) (checkCEMonURL url) w.call).sent
        ending := .after (subupdateReply rt w.integers (cl.meant w.env) (checkCEMonURL url)
          w.call).outcome fun _ => .exit 0 } := by
  have hp : parse subupdateLetters w.env cl = some (cl.meant w.env) :=
    Command.parse_of_options h.options
  have hc : (cl.meant w.env).consumerURL ≠ "" := h.given _ (by simp [Command.mandatory])
  have ht : (cl.meant w.env).topic ≠ "" := h.given _ (by simp [Command.mandatory])
  have ha : w.authenticate (cl.meant w.env) = .returned () := h.authenticated
  unfold Commands.subupdate
  rw [hp, h.operand]
  simp only [if_neg hc, if_neg ht, construct_of_authenticated ha]
  generalize checkCEMonURL url = serviceURL
  rfl

/-- What is left of `subupdate`: the topic with its null pointer, and the policy. -/
def subupdateLocals (o : Options) : List (Option Value) :=
  [none, some (.topic ((Topic.new o.topic).addDialect none)), some (.policy (Policy.new o.rate))]

theorem subupdateReply_undefined_iff (rt : SoapRuntime) (n : FaultIntegers) (o : Options)
    (serviceURL : String) (x : Exchange (Option SubscriptionRef)) :
    (subupdateReply rt n o serviceURL x).outcome = .undefined ↔
      x.soap.error = SOAP_OK ∧ x.resp.getD none = none := by
  by_cases herr : x.soap.error = SOAP_OK
  · rw [subupdateReply, CESubscriptionMgr.update, if_pos herr]
    cases x.resp.getD none with
    | none => simp [herr]
    | some ref => simp
  · refine iff_of_false (fun h => ?_) fun h => herr h.1
    have hfails : Operation.Fails (.update serviceURL o.subscriptionID o.consumerURL
        ((Topic.new o.topic).addDialect none) (Policy.new o.rate) (x.now + o.duration) x)
        (CESubscriptionMgr.new n) := ⟨(Option.some_ne_none _).symm, herr⟩
    have hundefined : ((Operation.update serviceURL o.subscriptionID o.consumerURL
        ((Topic.new o.topic).addDialect none) (Policy.new o.rate) (x.now + o.duration) x).exec rt
        (CESubscriptionMgr.new n)).outcome = .undefined := congrArg (Outcome.map fun _ => ()) h
    exact Operation.outcome_ne_undefined rt _ _ (.inl hfails) hundefined

/--
**`subupdate` leaves nothing in memory, and behind a caught exception its topic and its policy.**

`update` borrows them; neither the request object nor a copy stays behind. It follows a null pointer
exactly when a call without an error brings no reference.
-/
theorem subupdate_leaves (rt : SoapRuntime) (w : World (Option SubscriptionRef))
    (cl : CommandLine) (url : String) (h : Command.subupdate.Accepts w cl url) :
    Ends rt (Commands.subupdate rt w cl)
      (subupdateCall w.integers (cl.meant w.env) (checkCEMonURL url) w.call) subupdateReturn
      [none, none, none] (subupdateLocals (cl.meant w.env)) ∧
    ((Commands.subupdate rt w cl).ending = .undefined ↔
      w.call.soap.error = SOAP_OK ∧ w.call.resp.getD none = none) ∧
    objects [none, none, none] = 0 ∧ objects (subupdateLocals (cl.meant w.env)) = 2 := by
  rw [subupdate_of_accepts rt h]
  generalize cl.meant w.env = o
  generalize checkCEMonURL url = serviceURL
  refine ⟨?_, ?_, rfl, rfl⟩
  · have hmade : run (step rt) (subupdateMade w.integers o) State.start = some
        { vars := [some (.manager (CESubscriptionMgr.new w.integers)),
            some (.topic ((Topic.new o.topic).addDialect none)), some (.policy (Policy.new o.rate))]
          replies := [] } := rfl
    refine Ends.of_runs rfl (fun e => ?_) hmade rfl rfl (fun replies => ?_) (fun replies => rfl)
    · exact Operation.outcome_ne_std rt (.update serviceURL o.subscriptionID o.consumerURL
        ((Topic.new o.topic).addDialect none) (Policy.new o.rate) (w.call.now + o.duration) w.call)
        (CESubscriptionMgr.new w.integers) e
    · exact run_cons_eq_some.mpr ⟨_, step_delete rt rfl, rfl⟩
  · exact after_undefined_iff.trans
      (subupdateReply_undefined_iff rt w.integers o serviceURL w.call)

theorem accepts_subupdate :
    Command.subupdate.Accepts acceptedWorld (dialectsLine "CLASSAD") "ce" where
  options := by decide
  operand := rfl
  given := by decide
  authenticated := rfl
  url := fun _ => by decide

theorem subupdate_leaves_nothing : ∃ m mem,
    execAll (.plain "" "") (subupdateCall .sample ((dialectsLine "CLASSAD").meant acceptedWorld.env)
        (checkCEMonURL "ce") acceptedWorld.call ++ subupdateReturn) Machine.start Memory.empty
      = .returned (m, mem) ∧
    m.replies = [(.returned (),
      (Commands.subupdate (.plain "" "") acceptedWorld (dialectsLine "CLASSAD")).sent)] ∧
    Leaves 0 mem := by
  obtain ⟨m, mem, hrun, hreplies, -, hleaves⟩ := (subupdate_leaves (.plain "" "") acceptedWorld
    (dialectsLine "CLASSAD") "ce" accepts_subupdate).1.exit_zero rfl
  exact ⟨m, mem, hrun, hreplies, hleaves⟩

/-! ## `glite-ce-monitor-getevent` -/

/-- The topic of the request. -/
def eventTopic (o : Options) : Topic :=
  if o.dialects ≠ "" then (Topic.new o.topic).addDialect (some (Dialect.new o.dialects))
  else Topic.new o.topic

/-- The request object when `getTopicEvents` is called. -/
def geteventObject (n : FaultIntegers) (o : Options) (serviceURL : String) : CEEvent :=
  { CEEvent.new n with
    base := (AbsRequest.new n).setServiceURL serviceURL
    topic := some (eventTopic o) }

/-- The remote call of `getevent`. -/
def geteventReply (rt : SoapRuntime) (n : FaultIntegers) (o : Options) (serviceURL : String)
    (x : Exchange (Option (List (Option Event)))) : Call CEEvent (List (List String)) :=
  (geteventObject n o serviceURL).getTopicEvents rt [] x

theorem getevent_of_accepts (rt : SoapRuntime) {w : World (Option (List (Option Event)))}
    {cl : CommandLine} {url : String} (h : Command.getevent.Accepts w cl url) :
    Commands.getevent rt w cl =
      { sent := (geteventReply rt w.integers (cl.meant w.env) (checkCEMonURL url) w.call).sent
        ending := .after (geteventReply rt w.integers (cl.meant w.env) (checkCEMonURL url)
          w.call).outcome fun _ => .exit 0 } := by
  have hp : parse geteventLetters w.env cl = some (cl.meant w.env) :=
    Command.parse_of_options h.options
  have ht : (cl.meant w.env).topic ≠ "" := h.given _ (by simp [Command.mandatory])
  have ha : w.authenticate (cl.meant w.env) = .returned () := h.authenticated
  have hu : checkCEMonURL url ≠ "" := fun hu => absurd (h.url hu) (by decide)
  unfold Commands.getevent
  rw [hp, h.operand]
  simp only [if_neg ht, construct_of_authenticated ha, if_neg hu]
  generalize checkCEMonURL url = serviceURL
  rfl

/-- The dialect `dial`, if there is one. -/
def dialVals (o : Options) : List (Option Value) :=
  if o.dialects ≠ "" then [some (.dialect (Dialect.new o.dialects))] else []

theorem run_newDial (rt : SoapRuntime) (o : Options) :
    run (step rt) (.newTopic o.topic :: newDial o) State.start =
      some { vars := some (.topic (eventTopic o)) :: dialVals o, replies := [] } := by
  unfold newDial eventTopic dialVals
  by_cases hd : o.dialects ≠ ""
  · rw [if_pos hd, if_pos hd, if_pos hd]
    rfl
  · rw [if_neg hd, if_neg hd, if_neg hd]
    rfl

/-- The request object before the call. -/
def requested (n : FaultIntegers) (serviceURL : String) : Value :=
  .event (some 0) { CEEvent.new n with base := (AbsRequest.new n).setServiceURL serviceURL }

/-- The program up to the call. -/
theorem run_geteventMade (rt : SoapRuntime) (n : FaultIntegers) (o : Options)
    (serviceURL : String) :
    run (step rt) (geteventMade n o serviceURL) State.start = some
      { vars := some (.topic (eventTopic o)) :: (dialVals o ++ [some (requested n serviceURL)])
        replies := [] } := by
  rw [geteventMade, run_append (run_newDial rt o)]
  unfold eventVar dialVals
  by_cases hd : o.dialects ≠ ""
  · rw [if_pos hd, if_pos hd]
    rfl
  · rw [if_neg hd, if_neg hd]
    rfl

/-- The variables after the call: the topic, perhaps the dialect, and the request object. -/
def geteventLocals (o : Options) (e : CEEvent) : List (Option Value) :=
  some (.topic (eventTopic o)) :: (dialVals o ++ [some (.event (some 0) e)])

theorem remote_getTopicEvents (rt : SoapRuntime) (n : FaultIntegers) (o : Options)
    (serviceURL : String) (x : Exchange (Option (List (Option Event)))) :
    remote rt (.getTopicEvents (eventVar o) [] x)
        { vars := some (.topic (eventTopic o)) :: (dialVals o ++ [some (requested n serviceURL)])
          replies := [] } =
      some (eventVar o, .event (some 0) (geteventReply rt n o serviceURL x).obj,
        (geteventReply rt n o serviceURL x).outcome.map fun _ => (),
        (geteventReply rt n o serviceURL x).sent) := by
  unfold eventVar dialVals
  by_cases hd : o.dialects ≠ ""
  · rw [if_pos hd, if_pos hd]
    rfl
  · rw [if_neg hd, if_neg hd]
    rfl

/-- Only the request object is another. -/
theorem set_eventVar (o : Options) (n : FaultIntegers) (serviceURL : String) (e : CEEvent) :
    (some (.topic (eventTopic o)) :: (dialVals o ++ [some (requested n serviceURL)])).set
      (eventVar o) (some (.event (some 0) e)) = geteventLocals o e := by
  unfold geteventLocals eventVar dialVals
  by_cases hd : o.dialects ≠ ""
  · rw [if_pos hd, if_pos hd]
    rfl
  · rw [if_neg hd, if_neg hd]
    rfl

/-- `delete(ceE)` and the end of the scope of `topic`. -/
theorem run_geteventReturn (rt : SoapRuntime) (o : Options) (e : CEEvent)
    (replies : List Reply) :
    run (step rt) (geteventReturn o) { vars := geteventLocals o e, replies := replies } =
      some { vars := none :: (dialVals o ++ [none]), replies := replies } := by
  unfold geteventReturn geteventLocals eventVar dialVals
  by_cases hd : o.dialects ≠ ""
  · rw [if_pos hd, if_pos hd]
    rfl
  · rw [if_neg hd, if_neg hd]
    rfl

theorem objects_getevent (o : Options) (e : CEEvent) :
    objects (none :: (dialVals o ++ [none])) = (if o.dialects ≠ "" then 1 else 0) ∧
    objects (geteventLocals o e) = if o.dialects ≠ "" then 4 else 2 := by
  unfold geteventLocals eventTopic dialVals
  by_cases hd : o.dialects ≠ ""
  · rw [if_pos hd, if_pos hd, if_pos hd, if_pos hd]
    exact ⟨rfl, rfl⟩
  · rw [if_neg hd, if_neg hd, if_neg hd, if_neg hd]
    exact ⟨rfl, rfl⟩

/--
**`getevent` leaves one object in memory when it was given a dialect, and none otherwise.**

That object is the dialect, which the topic has a copy of. Behind a caught exception the request
object and the topic are left as well. No pointer is followed that should not be.
-/
theorem getevent_leaves (rt : SoapRuntime) (w : World (Option (List (Option Event))))
    (cl : CommandLine) (url : String) (h : Command.getevent.Accepts w cl url) :
    Ends rt (Commands.getevent rt w cl)
      (geteventCall w.integers (cl.meant w.env) (checkCEMonURL url) w.call)
      (geteventReturn (cl.meant w.env)) (none :: (dialVals (cl.meant w.env) ++ [none]))
      (geteventLocals (cl.meant w.env)
        (geteventReply rt w.integers (cl.meant w.env) (checkCEMonURL url) w.call).obj) ∧
    (Commands.getevent rt w cl).ending ≠ .undefined ∧
    objects (none :: (dialVals (cl.meant w.env) ++ [none])) =
      (if (cl.meant w.env).dialects ≠ "" then 1 else 0) ∧
    objects (geteventLocals (cl.meant w.env)
        (geteventReply rt w.integers (cl.meant w.env) (checkCEMonURL url) w.call).obj) =
      if (cl.meant w.env).dialects ≠ "" then 4 else 2 := by
  rw [getevent_of_accepts rt h]
  generalize cl.meant w.env = o
  generalize checkCEMonURL url = serviceURL
  refine ⟨?_, fun hundefined => ?_, objects_getevent o _⟩
  · refine Ends.of_runs rfl (fun e => ?_) (run_geteventMade rt w.integers o serviceURL) rfl
      (remote_getTopicEvents rt w.integers o serviceURL w.call) (fun replies => ?_)
      (fun replies => run_geteventReturn rt o _ replies)
    · exact Operation.outcome_ne_std rt (.getTopicEvents [] w.call)
        (geteventObject w.integers o serviceURL) e
    · rw [run_nil, set_eventVar]
  · have hout : (geteventReply rt w.integers o serviceURL w.call).outcome = .undefined :=
      after_undefined_iff.mp hundefined
    exact Operation.outcome_ne_undefined rt (.getTopicEvents [] w.call)
      (geteventObject w.integers o serviceURL) (.inr trivial)
      (congrArg (Outcome.map fun _ => ()) hout)

/-- A service without events. -/
def noEvents : World (Option (List (Option Event))) := goodWorld (some (some []))

def geteventLine : CommandLine where
  options := [('T', "CE_MONITOR"), ('D', "CLASSAD")]
  operand := some "ce"

theorem accepts_getevent : Command.getevent.Accepts noEvents geteventLine "ce" where
  options := by decide
  operand := rfl
  given := by decide
  authenticated := rfl
  url := fun hu => absurd hu (by decide)

/-- The dialect stays behind. -/
theorem getevent_leaves_dialect : ∃ m mem,
    execAll (.plain "" "") (geteventCall .sample (geteventLine.meant noEvents.env)
          (checkCEMonURL "ce") noEvents.call ++ geteventReturn (geteventLine.meant noEvents.env))
        Machine.start Memory.empty = .returned (m, mem) ∧
      m.replies = [(.returned (),
        (Commands.getevent (.plain "" "") noEvents geteventLine).sent)] ∧
      Leaves 1 mem := by
  obtain ⟨m, mem, hrun, hreplies, -, hleaves⟩ :=
    (getevent_leaves (.plain "" "") noEvents geteventLine "ce" accepts_getevent).1.exit_zero rfl
  exact ⟨m, mem, hrun, hreplies, hleaves⟩

end CEMonitor.Client
