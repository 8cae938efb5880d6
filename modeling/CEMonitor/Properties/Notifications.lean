import CEMonitor.Properties.Cycles

/-!
# What `serve` makes of a notification

Two questions about a notification that the handler has accepted. Which of its events does the
consumer keep? `serve` looks at the first one before it copies them all, so an empty vector and
a null in the first place go their own ways. And how many messages of the first event can it
copy? The counter of the copying loop is a `short`.
-/

namespace CEMonitor

open Infra

/-! ## The events -/

/-- Where the events come out right: there is a first event, and what the consumer held before
completes what is added. -/
def KeepsEvents (l : Listener) (n : Notification) : Prop :=
  match n.event with
  | [] => False
  -- nothing is added
  | none :: rest => l.consumer.events = rest.filterMap id
  | some _ :: _ => l.consumer.events = []

/-- A long event after the first one does no harm, a long first one would. -/
theorem completes_of_le {n : Notification} (hne : n.event ≠ [])
    (hlen : ∀ e, some e ∈ n.event → e.message.length ≤ 32767) : Listener.Completes n := by
  unfold Listener.Completes
  cases hev : n.event with
  | nil => exact absurd hev hne
  | cons e rest =>
    cases e with
    | none => trivial
    | some e =>
      have hle : e.message.length ≤ 32767 := hlen e (by rw [hev]; exact List.mem_cons_self)
      show e.size ≤ 32767
      rw [Event.size_eq (by omega)]
      omega

/--
**The consumer keeps the events of a notification exactly when the first one is there and
nothing was kept before.**

An empty vector is read beyond its end. With a null first event nothing is copied, which is
right only if the consumer holds the other events already, as it does when there are none.
-/
theorem serve_keeps_iff (rt : SoapRuntime) (r : Request) (l : Listener) (n : Notification)
    (hret : r.ret = SOAP_OK) (hn : r.handler = some (some n))
    (hlen : ∀ e, some e ∈ n.event → e.message.length ≤ 32767) :
    ((l.serve rt r).1 = .returned true ∧
      (l.serve rt r).2.consumer.events = n.event.filterMap id) ↔ KeepsEvents l n := by
  have hserve : l.serve rt r = _ := (Listener.serve_of_handler hret hn).2
  rw [hserve]
  unfold KeepsEvents
  by_cases hne : n.event = []
  · rw [Listener.publish, hne]
    refine iff_of_false ?_ id
    rintro ⟨h, -⟩
    cases h
  · obtain ⟨htrue, hevents⟩ :=
      Listener.publish_of_completes { l with globals := ⟨.live n, false⟩ } (completes_of_le hne hlen)
    rw [htrue, hevents, and_iff_right rfl]
    unfold Listener.publishedEvents
    cases hev : n.event with
    | nil => exact absurd hev hne
    | cons e rest =>
      cases e with
      | none =>
        rw [List.append_nil, List.filterMap_cons_none rfl]
      | some e =>
        exact List.append_left_eq_self

/-- An accepted notification with the given events. -/
def accepted (event : List (Option Event)) : Request where
  ret := SOAP_OK
  soap := Soap.new
  handler := some (some { topic := some (Topic.new "CE_MONITOR"), event := event })
  ok_accepted := fun _ => ⟨_, rfl, fun _ => rfl⟩

/-- A notification without events: its first event is read all the same. -/
theorem serve_empty_undefined :
    (accepted []).ret = SOAP_OK ∧
    ¬(((Listener.new false).serve (.plain "SOAP-ENV:Client" "") (accepted [])).1 = .returned true ∧
      ((Listener.new false).serve (.plain "SOAP-ENV:Client" "") (accepted [])).2.consumer.events
        = []) := by
  refine ⟨rfl, ?_⟩
  rintro ⟨h, -⟩
  cases h

/-- An event with the given messages. -/
def idleEvent (message : List String) : Event where
  id := 1
  timestamp := 0
  producer := "ce"
  message := message

/-- A null behind the first event is left out. -/
theorem serve_nullBehindFirst_keeps :
    ((Listener.new false).serve (.plain "SOAP-ENV:Client" "")
      (accepted [some (idleEvent ["idle"]), none])).1 = .returned true ∧
    ((Listener.new false).serve (.plain "SOAP-ENV:Client" "")
      (accepted [some (idleEvent ["idle"]), none])).2.consumer.events = [idleEvent ["idle"]] := by
  refine (serve_keeps_iff (.plain "SOAP-ENV:Client" "")
    (accepted [some (idleEvent ["idle"]), none]) (Listener.new false)
    { topic := some (Topic.new "CE_MONITOR"), event := [some (idleEvent ["idle"]), none] }
    rfl rfl ?_).mpr rfl
  intro e he
  simp only [List.mem_cons, Option.some.injEq, reduceCtorEq, List.not_mem_nil, or_false] at he
  rw [he]
  decide

/-! ## The messages of the first event -/

/-- After a call of `serve` the consumer shows all messages of an event: it holds them, counts
them, and hands them out one by one, with a NULL at the end. -/
structure ShowsWhole (e : Event) (p : Result Bool × Listener) : Prop where
  ends : p.1 = .returned true
  messages : p.2.consumer.messages = e.message
  messageSize : p.2.consumer.messageSize = e.message.length
  reads : ∀ k, (reads k p.2).1 =
    (List.range k).map fun i => .returned e.message[i % (e.message.length + 1)]?

section

variable {rt : SoapRuntime} {r : Request} {l : Listener} {n : Notification} {e : Event}
  {rest : List (Option Event)}

/-- `serve` gets to its end exactly when a `short` can count the messages. -/
theorem completes_iff_of_event (hev : n.event = some e :: rest) (hlen : e.message.length < 2 ^ 31) :
    Listener.Completes n ↔ e.message.length ≤ 32767 := by
  rw [Listener.Completes, hev]
  show e.size ≤ 32767 ↔ _
  rw [Event.size_eq hlen]
  omega

theorem showsWhole_of_le (hret : r.ret = SOAP_OK) (hn : r.handler = some (some n))
    (hev : n.event = some e :: rest) (hle : e.message.length ≤ 32767) :
    ShowsWhole e (l.reset.serve rt r) := by
  have hserve : l.reset.serve rt r = _ := (Listener.serve_of_handler hret hn).2
  have htrue : (l.reset.serve rt r).1 = .returned true := by
    rw [hserve]
    exact (Listener.publish_of_completes _
      ((completes_iff_of_event hev (by omega)).mpr hle)).1
  have hfirst : n.event[0]? = some (some e) := by
    rw [hev]
    rfl
  obtain ⟨hshows, -⟩ := serve_of_shows (shows_reset l) rfl htrue hn hfirst hle
  refine ⟨htrue, hshows.messages, hshows.messageSize, fun k => ?_⟩
  have hreads := reads_of_shows k hshows
  simp only [Nat.zero_add] at hreads
  exact hreads

theorem not_showsWhole_of_gt (hret : r.ret = SOAP_OK) (hn : r.handler = some (some n))
    (hev : n.event = some e :: rest) (hlen : e.message.length < 2 ^ 31)
    (hgt : 32767 < e.message.length) : ¬ShowsWhole e (l.reset.serve rt r) := by
  have hserve : l.reset.serve rt r = _ := (Listener.serve_of_handler hret hn).2
  have hnot : ¬Listener.Completes n := by
    rw [completes_iff_of_event hev hlen]
    omega
  rintro ⟨hends, -, -, -⟩
  rw [hserve] at hends
  rcases Listener.publish_of_not_completes hnot with h | h
  · rw [h] at hends
    cases hends
  · rw [(h _).1] at hends
    cases hends

end

/--
**A reset consumer shows the whole first event exactly when a `short` can count its messages.**

From 32768 messages on the counter wraps to a negative value before it gets to the number of
messages, and `at` raises.
-/
theorem showsWhole_iff (rt : SoapRuntime) (r : Request) (l : Listener) (n : Notification)
    (e : Event) (rest : List (Option Event)) (hret : r.ret = SOAP_OK)
    (hn : r.handler = some (some n)) (hev : n.event = some e :: rest)
    (hlen : e.message.length < 2 ^ 31) :
    ShowsWhole e (l.reset.serve rt r) ↔ e.message.length ≤ 32767 := by
  constructor
  · intro hshows
    by_contra hgt
    exact not_showsWhole_of_gt hret hn hev hlen (by omega) hshows
  · exact showsWhole_of_le hret hn hev

/-- An event with the same message `m` times. -/
theorem serve_replicate_not_whole (m : Nat) (hgt : 32767 < m) (hlen : m < 2 ^ 31) :
    ¬ShowsWhole (idleEvent (List.replicate m "idle"))
      ((Listener.new false).reset.serve (.plain "SOAP-ENV:Client" "")
        (accepted [some (idleEvent (List.replicate m "idle"))])) := by
  have hlength : (idleEvent (List.replicate m "idle")).message.length = m := List.length_replicate
  exact not_showsWhole_of_gt rfl rfl rfl (by rw [hlength]; exact hlen) (by rw [hlength]; exact hgt)

/-- With 32768 messages `serve` raises. -/
theorem serve_tooManyMessages_raises :
    (idleEvent (List.replicate 32768 "idle")).message.length = 32768 ∧
    ¬ShowsWhole (idleEvent (List.replicate 32768 "idle"))
      ((Listener.new false).reset.serve (.plain "SOAP-ENV:Client" "")
        (accepted [some (idleEvent (List.replicate 32768 "idle"))])) :=
  ⟨List.length_replicate, serve_replicate_not_whole 32768 (by decide) (by decide)⟩

/-- Two messages are shown. -/
theorem serve_twoMessages_whole :
    ShowsWhole (idleEvent ["a", "b"])
      ((Listener.new false).reset.serve (.plain "SOAP-ENV:Client" "")
        (accepted [some (idleEvent ["a", "b"])])) :=
  (showsWhole_iff (.plain "SOAP-ENV:Client" "") (accepted [some (idleEvent ["a", "b"])])
    (Listener.new false) _ (idleEvent ["a", "b"]) [] rfl rfl rfl (by decide)).mpr (by decide)

end CEMonitor
