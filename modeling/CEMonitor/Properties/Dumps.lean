import CEMonitor.ConsumerProgram
import CEMonitor.Properties.Clearing
import CEMonitor.Properties.Dialects
import CEMonitor.Properties.Notifications
import CEMonitor.Properties.Verdicts

/-!
# What the consumer program leaves behind

The program runs until something ends it, and its only lasting effect is on its output files. Two
questions: what does a file hold after a run, and which rounds end the program? For the first the
answer of a round depends on what the round itself met and on nothing before it; for the second
there is one thing that a round inherits, the flag that the notification handler writes.
-/

namespace CEMonitor

open Infra Commands

/-! ## What a round dumps -/

/-- `accept` takes the connection. -/
def Connection.taken (authn : Bool) (x : Connection) : Bool :=
  (!authn || x.credentialSet) && x.accepted

theorem Connection.taken_iff {authn : Bool} {x : Connection} :
    x.taken authn = true ↔ ¬(authn = true ∧ ¬x.credentialSet = true) ∧ x.accepted = true := by
  cases authn <;> simp [Connection.taken]

namespace ConsumerProgram

/-- The notification that a round receives. -/
def Round.notification? (o : Settings) (y : Round) : Option Notification :=
  if y.peer.taken o.authn ∧ y.request.ret = SOAP_OK then y.request.handler.join else none

/-- The messages of the events that are published, in order. -/
def dumpText (n : Notification) : String :=
  String.join ((Listener.publishedEvents n).flatMap fun e => e.message.map messageText)

/-- The file that a round writes, and the text. -/
def Round.write? (o : Settings) (y : Round) : Option (String × String) :=
  if o.useout then
    (y.notification? o).map fun n => (o.fileout (resolveName y.hosts), dumpText n)
  else none

theorem outstream_put (text : String) (t : Streams) :
    (t.put true text).outstream = t.outstream ++ text := rfl

theorem outstream_dumpMessages (j m : Nat) (messages : List String) (t : Streams) :
    (dumpMessages true j m messages t).outstream
      = t.outstream ++ String.join (messages.map messageText) := by
  induction messages generalizing m t with
  | nil => simp [dumpMessages]
  | cons msg rest ih =>
    rw [dumpMessages, ih, outstream_put, List.map_cons, String.join_cons, String.append_assoc]

theorem outstream_dumpEvents (j : Nat) (events : List Event) (t : Streams) :
    (dumpEvents true j events t).outstream
      = t.outstream ++ String.join (events.flatMap fun e => e.message.map messageText) := by
  induction events generalizing j t with
  | nil => simp [dumpEvents]
  | cons e rest ih =>
    rw [dumpEvents, ih, outstream_dumpMessages, List.flatMap_cons, String.join_append,
      String.append_assoc]

/-! ## When an error can be read -/

/-- `setError` finds a text, or has nothing to do. -/
def ErrorReadable (rt : SoapRuntime) (s : Soap) : Prop :=
  s.error = 0 ∨ (AbsRequest.withFaultcode rt s).faultstring ≠ none

theorem setError_of_errorReadable {rt : SoapRuntime} {s : Soap} (c : CEConsumer)
    (h : ErrorReadable rt s) :
    ∃ message code,
      c.setError rt s = .returned { c with errorMessage := message, errorCode := code } := by
  rcases CEConsumer.setError_cases rt s c with hraised | hreturned
  · rcases h with hzero | htext
    · rw [CEConsumer.setError, if_neg (not_not.mpr hzero)] at hraised
      cases hraised
    · obtain ⟨message, hm⟩ := Option.ne_none_iff_exists'.mp htext
      obtain ⟨code, hc⟩ := Option.ne_none_iff_exists'.mp (AbsRequest.faultcode_withFaultcode rt s)
      rw [CEConsumer.setError] at hraised
      split at hraised
      · simp [hm, hc] at hraised
      · cases hraised
  · exact hreturned

theorem setError_of_not_errorReadable {rt : SoapRuntime} {s : Soap} (c : CEConsumer)
    (h : ¬ErrorReadable rt s) : c.setError rt s = .raised (.std .logicError) := by
  obtain ⟨herror, htext⟩ := not_or.mp h
  rw [CEConsumer.setError, if_pos herror]
  simp only [not_not.mp htext, stringOf_none, Outcome.bind_raised]

/-! ## The parts of a round -/

section

variable (rt : SoapRuntime) (o : Settings) {y : Round} {d : State}

/-- With the connection taken, the round goes on with a blank consumer. -/
theorem accept_of_taken {x : Connection} {l : Listener} (h : x.taken l.consumer.authn = true) :
    l.accept rt x =
      (.returned true, { l.reset with consumer := { l.reset.consumer with
        clientDN := if l.consumer.authn then x.peerDN else ""
        clientIP := x.peerName
        clientName := x.hostName } }) := by
  obtain ⟨hcred, hacc⟩ := Connection.taken_iff.mp h
  rcases l.accept_cases rt x with ⟨hrefused, -⟩ | ⟨-, -, haccept⟩
  · rcases hrefused with hno | hno
    · exact absurd hno hcred
    · exact absurd hacc hno
  · exact haccept

/-- Otherwise it returns false, or ends in an exception when gSOAP has no text for the error. -/
theorem accept_of_not_taken {x : Connection} {l : Listener}
    (h : x.taken l.consumer.authn = false) :
    ((l.accept rt x).1 = .returned false ∨ (l.accept rt x).1 = .raised (.std .logicError)) ∧
    ((l.accept rt x).1 = .returned false ↔
      (l.consumer.authn = true ∧ ¬x.credentialSet = true) ∨ ErrorReadable rt x.soap) := by
  by_cases hcred : l.reset.consumer.authn = true ∧ ¬x.credentialSet = true
  · have haccept : (l.accept rt x).1 = .returned false := by
      simp only [Listener.accept, if_pos hcred]
    exact ⟨Or.inl haccept, iff_of_true haccept (Or.inl hcred)⟩
  · have hacc : ¬x.accepted = true := by
      intro hacc
      have htaken : x.taken l.consumer.authn = true := Connection.taken_iff.mpr ⟨hcred, hacc⟩
      rw [h] at htaken
      cases htaken
    by_cases hread : ErrorReadable rt x.soap
    · obtain ⟨message, code, hset⟩ := setError_of_errorReadable l.reset.consumer hread
      have haccept : (l.accept rt x).1 = .returned false := by
        simp only [Listener.accept, if_neg hcred, if_pos hacc, hset]
      exact ⟨Or.inl haccept, iff_of_true haccept (Or.inr hread)⟩
    · have hset := setError_of_not_errorReadable l.reset.consumer hread
      have haccept : (l.accept rt x).1 = .raised (.std .logicError) := by
        simp only [Listener.accept, if_neg hcred, if_pos hacc, hset]
      refine ⟨Or.inr haccept, iff_of_false ?_ (not_or.mpr ⟨hcred, hread⟩)⟩
      intro hfalse
      rw [haccept] at hfalse
      cases hfalse

/-- A round without a connection writes to no file. -/
theorem round_of_not_taken (h : y.peer.taken d.listener.consumer.authn = false) :
    (round rt o y d).2.files = d.files ∧
    (round rt o y d).2.listener = (d.listener.accept rt y.connection).2 ∧
    ((round rt o y d).1 = none ↔
      (d.listener.consumer.authn = true ∧ ¬y.peer.credentialSet = true) ∨
        ErrorReadable rt y.peer.soap) := by
  have htaken : y.connection.taken d.listener.consumer.authn = false := h
  obtain ⟨hcases, hiff⟩ := accept_of_not_taken rt htaken
  rw [show y.peer.credentialSet = y.connection.credentialSet from rfl,
    show y.peer.soap = y.connection.soap from rfl, ← hiff]
  unfold round
  generalize d.listener.accept rt y.connection = p at hcases
  obtain ⟨accepted, l⟩ := p
  rcases hcases with hfalse | hraised
  · obtain rfl : accepted = .returned false := hfalse
    exact ⟨rfl, rfl, iff_of_true rfl rfl⟩
  · obtain rfl : accepted = .raised (.std .logicError) := hraised
    exact ⟨rfl, rfl, iff_of_false nofun nofun⟩

/-- A request that was not answered with `SOAP_OK` is reported, or ends the program when gSOAP has
no text for the error and the handler's flag is down. -/
theorem serveError_cases (s : Soap) (l : Listener) :
    ((l.serveError rt s).1 = .returned false ∨
      (l.serveError rt s).1 = .raised (.std .logicError)) ∧
    ((l.serveError rt s).1 = .returned false ↔
      l.globals.pointer_nullness = true ∨ ErrorReadable rt s) := by
  by_cases hflag : l.globals.pointer_nullness = true
  · have hserve : (l.serveError rt s).1 = .returned false := by
      simp only [Listener.serveError, if_neg (not_not.mpr hflag)]
    exact ⟨Or.inl hserve, iff_of_true hserve (Or.inl hflag)⟩
  · by_cases hread : ErrorReadable rt s
    · obtain ⟨message, code, hset⟩ := setError_of_errorReadable l.consumer hread
      have hserve : (l.serveError rt s).1 = .returned false := by
        simp only [Listener.serveError, if_pos hflag, hset]
      exact ⟨Or.inl hserve, iff_of_true hserve (Or.inr hread)⟩
    · have hset := setError_of_not_errorReadable l.consumer hread
      have hserve : (l.serveError rt s).1 = .raised (.std .logicError) := by
        simp only [Listener.serveError, if_pos hflag, hset]
      refine ⟨Or.inr hserve, iff_of_false ?_ (not_or.mpr ⟨hflag, hread⟩)⟩
      intro hfalse
      rw [hserve] at hfalse
      cases hfalse

theorem receive_of_error (h : y.request.ret ≠ SOAP_OK) :
    (receive rt o y d).2.files = d.files ∧
    ((receive rt o y d).1 = none ↔
      y.request.sawNull?.getD d.listener.globals.pointer_nullness = true ∨
        ErrorReadable rt y.request.soap) := by
  obtain ⟨hcases, hiff⟩ := serveError_cases rt y.request.soap
    { d.listener with globals := Listener.dispatch y.request d.listener.globals }
  rw [pointer_nullness_dispatch] at hiff
  rw [← hiff]
  unfold receive
  rw [Listener.serve_of_error rt y.request d.listener h]
  generalize Listener.serveError rt y.request.soap _ = p at hcases
  obtain ⟨ret, l⟩ := p
  rcases hcases with hfalse | hraised
  · obtain rfl : ret = .returned false := hfalse
    exact ⟨rfl, iff_of_true rfl rfl⟩
  · obtain rfl : ret = .raised (.std .logicError) := hraised
    exact ⟨rfl, iff_of_false nofun nofun⟩

/-- What `dump` writes goes to the client's file, or nowhere. -/
theorem dump_of_topic {t : Topic} (opens : Bool) (clientName : String) (d : State)
    (ht : d.listener.consumer.topic = some t) :
    ((dump o opens clientName d).1 = none ↔
      none ∉ t.dialect ∧ (o.useout = true → opens = true)) ∧
    (dump o opens clientName d).2.listener = d.listener ∧
    (dump o opens clientName d).2.files =
      if (dump o opens clientName d).1 = none then
        Files.write? o.append d.files
          (if o.useout then
            some (o.fileout clientName, String.join
              (d.listener.consumer.events.flatMap fun e => e.message.map messageText))
          else none)
      else d.files := by
  rw [← Topic.print_returns_iff]
  simp only [dump, ht, Outcome.deref_some, Outcome.bind_returned]
  cases hprint : t.print with
  | returned printed =>
    have hprints : ∃ out, (.returned printed : Result String) = .returned out := ⟨printed, rfl⟩
    by_cases hout : o.useout = true
    · by_cases hopens : opens = true
      · simp only [if_pos hout, if_pos hopens]
        refine ⟨iff_of_true trivial ⟨hprints, fun _ => hopens⟩, trivial, ?_⟩
        rw [outstream_dumpEvents]
        rfl
      · simp only [if_pos hout, if_neg hopens]
        exact ⟨iff_of_false nofun fun h => hopens (h.2 hout), trivial, rfl⟩
    · simp only [if_neg hout]
      exact ⟨iff_of_true trivial ⟨hprints, fun h => absurd h hout⟩, trivial, rfl⟩
  | raised e => exact ⟨iff_of_false nofun (by simp), rfl, rfl⟩
  | unexpected => exact ⟨iff_of_false nofun (by simp), rfl, rfl⟩
  | undefined => exact ⟨iff_of_false nofun (by simp), rfl, rfl⟩

/-- The topic that `serve` leaves is a copy of the notification's. -/
theorem topic_publish {n : Notification} (l : Listener) (h : Listener.Completes n) :
    (l.publish n).2.consumer.topic = n.topic.map Topic.copy := by
  unfold Listener.Completes at h
  cases hn : n.event with
  | nil =>
    rw [hn] at h
    exact absurd h id
  | cons e rest =>
    rw [hn] at h
    cases e with
    | none => rw [Listener.publish, hn]
    | some e => rw [Listener.publish_of_event l hn h]

/-- What `receive` makes of a notification that the handler has accepted. -/
theorem receive_of_ok {n : Notification} (hret : y.request.ret = SOAP_OK)
    (hn : y.request.handler = some (some n)) (hevents : d.listener.consumer.events = []) :
    ((receive rt o y d).1 = none ↔
      Listener.Completes n ∧ (∀ t, n.topic = some t → none ∉ t.dialect) ∧
        (o.useout = true → y.opens = true)) ∧
    (receive rt o y d).2.files =
      if (receive rt o y d).1 = none then
        Files.write? o.append d.files
          (if o.useout then
            some (o.fileout d.listener.consumer.clientName, dumpText n)
          else none)
      else d.files := by
  have hserve : (∃ t, n.topic = some t) ∧ d.listener.serve rt y.request = _ :=
    Listener.serve_of_handler hret hn
  obtain ⟨⟨t, ht⟩, hserve⟩ := hserve
  have hdialects : (∀ t, n.topic = some t → none ∉ t.dialect) ↔ none ∉ t.dialect := by
    rw [ht]
    exact ⟨fun h => h t rfl, fun h t' ht' => Option.some.inj ht' ▸ h⟩
  rw [hdialects]
  unfold receive
  rw [hserve]
  by_cases hcompletes : Listener.Completes n
  · obtain ⟨htrue, hpublished⟩ :=
      Listener.publish_of_completes { d.listener with globals := ⟨.live n, false⟩ } hcompletes
    have htopic := topic_publish { d.listener with globals := ⟨.live n, false⟩ } hcompletes
    generalize Listener.publish n _ = p at htrue hpublished htopic
    obtain ⟨ret, l⟩ := p
    obtain rfl : ret = .returned true := htrue
    rw [ht, Option.map_some] at htopic
    rw [hevents, List.nil_append] at hpublished
    obtain ⟨hiff, -, hfiles⟩ := dump_of_topic o y.opens d.listener.consumer.clientName
      { d with listener := l } htopic
    rw [Topic.copy_dialect] at hiff
    refine ⟨hiff.trans (and_iff_right hcompletes).symm, ?_⟩
    rw [show (l.consumer.events.flatMap _) = _ from
      congrArg (List.flatMap fun e => e.message.map messageText) hpublished] at hfiles
    exact hfiles
  · rcases Listener.publish_of_not_completes hcompletes with hundefined | hraised
    · rw [hundefined]
      exact ⟨iff_of_false nofun fun h => hcompletes h.1, rfl⟩
    · obtain ⟨hout, -⟩ := hraised { d.listener with globals := ⟨.live n, false⟩ }
      generalize Listener.publish n _ = p at hout
      obtain ⟨ret, l⟩ := p
      obtain rfl : ret = .raised (.std .outOfRange) := hout
      exact ⟨iff_of_false nofun fun h => hcompletes h.1, rfl⟩

/-! ## Whole rounds -/

theorem listener_dump (opens : Bool) (clientName : String) (d : State) :
    (dump o opens clientName d).2.listener = d.listener := by
  simp only [dump]
  split
  · split
    · split <;> rfl
    · rfl
  · rfl
  · rfl
  · rfl

theorem listener_receive :
    (receive rt o y d).2.listener = (d.listener.serve rt y.request).2 := by
  simp only [receive]
  split
  · rfl
  · exact listener_dump ..
  · rfl
  · rfl
  · rfl

/-- What a round makes of `pointer_nullness`; `none` when the handler is not reached. -/
def Round.sawNull? (o : Settings) (y : Round) : Option Bool :=
  if y.peer.taken o.authn then y.request.sawNull? else none

/-- With the connection taken, the rest is up to the request. -/
theorem round_of_taken (h : y.peer.taken d.listener.consumer.authn = true) :
    ∃ d₁, round rt o y d = receive rt o y d₁ ∧ d₁.files = d.files ∧
      d₁.listener = (d.listener.accept rt y.connection).2 ∧
      d₁.listener.consumer.events = [] ∧
      d₁.listener.consumer.clientName = resolveName y.hosts := by
  have htaken : y.connection.taken d.listener.consumer.authn = true := h
  have haccept := accept_of_taken rt htaken
  refine ⟨State.announce y.ctime { d with
    listener := (d.listener.accept rt y.connection).2
    stdout := d.stdout ++ "Accepting connection ... \n" }, ?_, rfl, rfl, ?_, ?_⟩
  · have htrue : (d.listener.accept rt y.connection).1 = .returned true := by rw [haccept]
    unfold round
    generalize d.listener.accept rt y.connection = p at htrue
    obtain ⟨accepted, l⟩ := p
    obtain rfl : accepted = .returned true := htrue
    rfl
  · show (d.listener.accept rt y.connection).2.consumer.events = []
    rw [haccept]
    rfl
  · show (d.listener.accept rt y.connection).2.consumer.clientName = _
    rw [haccept]
    rfl

/-- The consumer goes on authenticating as it did, and only the handler writes the flag. -/
theorem listener_round (hauthn : d.listener.consumer.authn = o.authn) :
    (round rt o y d).2.listener.consumer.authn = o.authn ∧
    (round rt o y d).2.listener.globals.pointer_nullness
      = (y.sawNull? o).getD d.listener.globals.pointer_nullness := by
  have haccept : (d.listener.accept rt y.connection).2.consumer.authn
      = d.listener.consumer.authn := (clientDN_accept y.connection).1
  have hglobals : (d.listener.accept rt y.connection).2.globals = d.listener.globals :=
    globals_accept y.connection
  unfold Round.sawNull?
  by_cases htaken : y.peer.taken o.authn = true
  · obtain ⟨d₁, hround, -, hlistener, -, -⟩ := round_of_taken rt o (hauthn ▸ htaken)
    rw [if_pos htaken, hround, listener_receive, pointer_nullness_serve, (clientDN_serve _).1,
      hlistener, hglobals, haccept]
    exact ⟨hauthn, rfl⟩
  · rw [if_neg htaken]
    have hnot : y.peer.taken d.listener.consumer.authn = false := by
      rw [hauthn]
      exact Bool.not_eq_true _ ▸ htaken
    rw [(round_of_not_taken rt o hnot).2.1, hglobals, haccept]
    exact ⟨hauthn, rfl⟩

/-- The program goes on after a round. `flag` is the handler's verdict on the last notification
that it was given before. -/
def Round.Survivable (rt : SoapRuntime) (o : Settings) (flag : Bool) (y : Round) : Prop :=
  if y.peer.taken o.authn = true then
    if y.request.ret = SOAP_OK then
      ∃ n, y.request.handler = some (some n) ∧ Listener.Completes n ∧
        (∀ t, n.topic = some t → none ∉ t.dialect) ∧ (o.useout = true → y.opens = true)
    else y.request.sawNull?.getD flag = true ∨ ErrorReadable rt y.request.soap
  else (o.authn = true ∧ ¬y.peer.credentialSet = true) ∨ ErrorReadable rt y.peer.soap

theorem round_goesOn_iff (hauthn : d.listener.consumer.authn = o.authn) :
    (round rt o y d).1 = none ↔ y.Survivable rt o d.listener.globals.pointer_nullness := by
  unfold Round.Survivable
  by_cases htaken : y.peer.taken o.authn = true
  · obtain ⟨d₁, hround, -, hlistener, hevents, -⟩ :=
      round_of_taken rt o (hauthn ▸ htaken)
    have hflag : d₁.listener.globals = d.listener.globals := by
      rw [hlistener]
      exact globals_accept _
    rw [if_pos htaken, hround]
    by_cases hret : y.request.ret = SOAP_OK
    · obtain ⟨n, t, hn, -, -⟩ := Listener.serve_of_ok rt y.request d.listener hret
      rw [if_pos hret, (receive_of_ok rt o hret hn hevents).1]
      constructor
      · exact fun h => ⟨n, hn, h⟩
      · rintro ⟨n', hn', h⟩
        rw [hn] at hn'
        cases hn'
        exact h
    · rw [if_neg hret, (receive_of_error rt o hret).2, hflag]
  · have hnot : y.peer.taken d.listener.consumer.authn = false := by
      rw [hauthn]
      exact Bool.not_eq_true _ ▸ htaken
    rw [if_neg htaken, (round_of_not_taken rt o hnot).2.2, hauthn]

theorem step_eq_some_iff {d' : State} :
    step rt o y d = some d' ↔ (round rt o y d).1 = none ∧ (round rt o y d).2 = d' := by
  unfold step
  generalize round rt o y d = p
  obtain ⟨_ | ending, d₁⟩ := p <;> simp

theorem authn_step {d' : State} (hauthn : d.listener.consumer.authn = o.authn)
    (h : step rt o y d = some d') : d'.listener.consumer.authn = o.authn := by
  obtain ⟨-, rfl⟩ := (step_eq_some_iff rt o).mp h
  exact (listener_round rt o hauthn).1

/-- A run gets to its end when every round leaves the program running; each inherits the flag from
those before it. -/
theorem run_goesOn_iff {ys : List Round} (hauthn : d.listener.consumer.authn = o.authn) :
    (∃ d', run (step rt o) ys d = some d') ↔
      ∀ (i : Nat) (h : i < ys.length), (ys[i]).Survivable rt o
        ((lastWrite (Round.sawNull? o) (ys.take i)).getD d.listener.globals.pointer_nullness) := by
  simp only [← foldl_write]
  refine run_exists_iff (fun d : State => d.listener.consumer.authn = o.authn)
    (fun d => d.listener.globals.pointer_nullness)
    (fun flag (y : Round) => (y.sawNull? o).getD flag) (Round.Survivable rt o) ?_ ?_ ?_ hauthn
  · exact fun y d d' hd hstep => authn_step rt o hd hstep
  · intro y d d' hd hstep
    obtain ⟨-, rfl⟩ := (step_eq_some_iff rt o).mp hstep
    exact (listener_round rt o hd).2
  · intro y d hd
    rw [← round_goesOn_iff rt o hd]
    simp only [step_eq_some_iff, exists_and_left, exists_eq', and_true]

end

/-- Binding changes nothing but the error. -/
theorem bindLoop_frame {rt : SoapRuntime} {attempts : List (Int × Soap)} {l l' : Listener}
    (h : bindLoop rt attempts l = some l') :
    l'.consumer.authn = l.consumer.authn ∧ l'.globals = l.globals := by
  induction attempts generalizing l with
  | nil => cases h
  | cons attempt rest ih =>
    obtain ⟨localSocket, s⟩ := attempt
    rw [bindLoop, Listener.bind] at h
    by_cases hsocket : localSocket < 0
    · rw [if_pos hsocket] at h
      rcases CEConsumer.setError_cases rt s l.consumer with hset | ⟨message, code, hset⟩
      · rw [hset] at h
        cases h
      · rw [hset] at h
        have hrest := ih h
        exact hrest
    · rw [if_neg hsocket] at h
      cases h
      exact ⟨rfl, rfl⟩

theorem exec_eq_some_iff {rt : SoapRuntime} {cl : CommandLine} {attempts : List (Int × Soap)}
    {files : Files String} {ys : List Round} {d : State} {o : Settings} {port : Int}
    (ho : configure cl = some (o, port)) :
    exec rt cl attempts files ys = some d ↔
      ∃ l, bindLoop rt attempts (Listener.new o.authn) = some l ∧
        run (step rt o) ys (State.start l files) = some d := by
  rw [exec, ho, Option.bind_some]
  exact Option.bind_eq_some_iff

/-- A client that sends one event with the given messages. -/
def sends (hostname : String) (messages : List String) : Round where
  peer :=
    { credentialSet := false
      accepted := true
      soap := Soap.new
      peerDN := ""
      peerName := "10.0.0.1"
      hostName := "" }
  hosts := some [none, some "", some hostname]
  request := accepted [some (idleEvent messages)]
  ctime := ""
  opens := true

/-- A client that closes the connection. -/
def hangsUp : Round where
  peer := (sends "ce1" []).peer
  hosts := none
  request := closedRequest
  ctime := ""
  opens := true

def appendLine : CommandLine where
  options := [('P', "/var/out"), ('A', "")]
  operand := some "9000"

/--
**The program gets through a run exactly when every round is one that it survives.**

A round without a connection or with a failed request needs a text for the error, a notification a
first event that can be copied, a topic without null dialects, and a file that opens. The one
thing that a round inherits from those before it is the flag of the last notification that
reached the handler: when it is up, a failed request needs no text.
-/
theorem exec_goesOn_iff (rt : SoapRuntime) (cl : CommandLine) (attempts : List (Int × Soap))
    (files : Files String) (ys : List Round) (l : Listener) (o : Settings) (port : Int)
    (ho : configure cl = some (o, port))
    (hl : bindLoop rt attempts (Listener.new o.authn) = some l) :
    (∃ d, exec rt cl attempts files ys = some d) ↔
      ∀ (i : Nat) (h : i < ys.length),
        (ys[i]).Survivable rt o ((lastWrite (Round.sawNull? o) (ys.take i)).getD false) := by
  obtain ⟨hauthn, hglobals⟩ := bindLoop_frame hl
  have hgoesOn : (∃ d, run (step rt o) ys (State.start l files) = some d) ↔ _ :=
    run_goesOn_iff rt o hauthn
  have hflag : (State.start l files).listener.globals.pointer_nullness = false := by
    show l.globals.pointer_nullness = false
    rw [hglobals]
    rfl
  rw [hflag] at hgoesOn
  rw [← hgoesOn]
  constructor
  · rintro ⟨d, hd⟩
    obtain ⟨l', hl', hrun⟩ := (exec_eq_some_iff ho).mp hd
    rw [hl] at hl'
    cases hl'
    exact ⟨d, hrun⟩
  · rintro ⟨d, hd⟩
    exact ⟨d, (exec_eq_some_iff ho).mpr ⟨l, hl, hd⟩⟩

/-- A client that sends a null notification. -/
def sendsNull : Round := { hangsUp with request := nullRequest }

/-- A request that fails with an error that has a code and no text. -/
def failsSilently : Round :=
  { hangsUp with request :=
    { closedRequest with soap := { closedRequest.soap with faultstring := none } } }

/-- The silent error ends the program, unless a null notification came before it. -/
theorem exec_failsSilently :
    (¬∃ d, exec (.plain "SOAP-ENV:Client" "Client fault") appendLine [(3, Soap.new)]
      (fun _ => none) [failsSilently] = some d) ∧
    ∃ d, exec (.plain "SOAP-ENV:Client" "Client fault") appendLine [(3, Soap.new)]
      (fun _ => none) [sendsNull, failsSilently] = some d := by
  constructor
  · intro hex
    have hall := (exec_goesOn_iff (.plain "SOAP-ENV:Client" "Client fault") appendLine
      [(3, Soap.new)] (fun _ => none) [failsSilently] _ _ _ rfl rfl).mp hex
    rcases hall 0 (by decide) with hflag | hzero | htext
    · cases hflag
    · cases hzero
    · exact htext rfl
  · refine (exec_goesOn_iff (.plain "SOAP-ENV:Client" "Client fault") appendLine
      [(3, Soap.new)] (fun _ => none) [sendsNull, failsSilently] _ _ _ rfl rfl).mpr ?_
    intro i hi
    match i, hi with
    | 0, _ => exact Or.inl rfl
    | 1, _ => exact Or.inl rfl

end ConsumerProgram

end CEMonitor
