import CEMonitor.Consumer

/-!
# What the consumer shows of a notification

The documented use of a consumer is a cycle: `accept`, one `serve`, then as many
`getNextEventMessage` as one likes and perhaps a `reset`. Whatever the cycles before it, a cycle
shows the notification that it served and nothing else. What carries the proof is `Shows`: the
cursor lies within the messages of the first event, and the recorded size is their number.
-/

namespace CEMonitor

open Infra

/-! ## Reading the messages -/

/-- `k` calls of `getNextEventMessage` and what they return. -/
def reads : Nat → Listener → List (Result (Option String)) × Listener
  | 0, l => ([], l)
  | k + 1, l =>
    let m := l.getNextEventMessage
    let ms := reads k m.2
    (m.1 :: ms.1, ms.2)

/-- The messages on show, with the cursor at `j`. -/
structure Shows (ms : List String) (j : Nat) (l : Listener) : Prop where
  messages : l.consumer.messages = ms
  messageSize : l.consumer.messageSize = ms.length
  messageCounter : l.consumer.messageCounter = j
  cursor_le : j ≤ ms.length

/-- One call returns the message at the cursor, or NULL behind the last one, and moves on. -/
theorem getNextEventMessage_of_shows {ms : List String} {j : Nat} {l : Listener}
    (h : Shows ms j l) :
    l.getNextEventMessage.1 = .returned ms[j]? ∧
      Shows ms ((j + 1) % (ms.length + 1)) l.getNextEventMessage.2 := by
  obtain ⟨hm, hs, hc, hj⟩ := h
  unfold Listener.getNextEventMessage CEConsumer.getNextEventMessage
  by_cases hend : j = ms.length
  · have hge : l.consumer.messageCounter ≥ l.consumer.messageSize := by omega
    have hnone : ms[j]? = none := List.getElem?_eq_none (by omega)
    have hwrap : (j + 1) % (ms.length + 1) = 0 := by rw [hend, Nat.mod_self]
    rw [if_pos hge, hnone, hwrap]
    exact ⟨rfl, hm, hs, rfl, Nat.zero_le _⟩
  · have hlt : j < ms.length := by omega
    have hge : ¬l.consumer.messageCounter ≥ l.consumer.messageSize := by omega
    have hnext : (j + 1) % (ms.length + 1) = j + 1 := Nat.mod_eq_of_lt (by omega)
    rw [if_neg hge, hm, hc, at?_of_lt hlt, hnext, List.getElem?_eq_getElem hlt]
    exact ⟨rfl, rfl, hs, rfl, hlt⟩

/-- The `k`-th call from the start returns message `k` modulo their number and one. -/
theorem reads_of_shows {ms : List String} {j : Nat} {l : Listener} (k : Nat) (h : Shows ms j l) :
    (reads k l).1 = (List.range k).map fun i => .returned ms[(j + i) % (ms.length + 1)]? := by
  induction k generalizing j l with
  | zero => rfl
  | succ k ih =>
    obtain ⟨hm, hnext⟩ := getNextEventMessage_of_shows h
    have hle := h.cursor_le
    have hj : (j + 0) % (ms.length + 1) = j := Nat.mod_eq_of_lt (by omega)
    rw [List.range_succ_eq_map, List.map_cons, List.map_map]
    show l.getNextEventMessage.1 :: (reads k l.getNextEventMessage.2).1 = _
    rw [hm, ih hnext, hj]
    congr 1
    apply List.map_congr_left
    intro i _
    have hi : ((j + 1) % (ms.length + 1) + i) % (ms.length + 1)
        = (j + (i + 1)) % (ms.length + 1) := by
      rw [Nat.mod_add_mod]
      congr 1
      omega
    rw [hi]
    rfl

/-- With no messages on show every call returns NULL. -/
theorem reads_of_shows_nil {l : Listener} (k : Nat) (h : Shows [] 0 l) :
    ∀ m ∈ (reads k l).1, m = .returned none := by
  rw [reads_of_shows k h]
  intro m hm
  obtain ⟨i, -, rfl⟩ := List.mem_map.mp hm
  rfl

/-! ## Cycles -/

/-- One cycle. The request is served when `accept` returns true; a reset may be followed by
more reads. -/
structure Cycle where
  accept : Connection
  serve : Option Request
  reads : Nat
  reset : Option Nat

/-- What is seen of a cycle: what `accept` and `serve` return, what the accessors show after
them, and what `getNextEventMessage` returns before and after the reset. -/
structure Observed where
  accepted : Result Bool
  served : Option (Result Bool)
  shown : CEConsumer
  messages : List (Result (Option String))
  afterReset : List (Result (Option String))

namespace Cycle

/-- The first half: `accept`, and `serve` when it is due. `none` is the end of the program. -/
def receive (rt : SoapRuntime) (y : Cycle) (l : Listener) :
    Option (Result Bool × Option (Result Bool) × Listener) :=
  let a := l.accept rt y.accept
  match a.1, y.serve with
  | .returned true, some r =>
    let s := a.2.serve rt r
    match s.1 with
    | .returned _ => some (a.1, some s.1, s.2)
    | .raised _ => some (a.1, some s.1, s.2)
    | .unexpected => none
    | .undefined => none
  | .returned _, _ => some (a.1, none, a.2)
  | .raised _, _ => some (a.1, none, a.2)
  | .unexpected, _ => none
  | .undefined, _ => none

/-- The whole cycle. -/
def exec (rt : SoapRuntime) (y : Cycle) (l : Listener) : Option (Observed × Listener) :=
  (y.receive rt l).map fun (accepted, served, l) =>
    let before := CEMonitor.reads y.reads l
    let after :=
      match y.reset with
      | some k => CEMonitor.reads k before.2.reset
      | none => ([], before.2)
    ({ accepted := accepted
       served := served
       shown := l.consumer
       messages := before.1
       afterReset := after.1 }, after.2)

/-- A run of cycles. -/
def execAll (rt : SoapRuntime) : List Cycle → Listener → Option (List Observed)
  | [], _ => some []
  | y :: ys, l => (y.exec rt l).bind fun (o, l) => (execAll rt ys l).map fun os => o :: os

end Cycle

/-- What a cycle has to show. -/
structure Presents (y : Cycle) (o : Observed) : Prop where
  /-- A notification that was served, with its first event there and not too long. -/
  served : ∀ r n e, y.serve = some r → o.served = some (.returned true) →
    r.handler = some (some n) → n.event[0]? = some (some e) → e.message.length ≤ 32767 →
      o.shown.eventID = e.id ∧ o.shown.eventProducer = e.producer ∧
      o.shown.messageSize = e.message.length ∧ o.shown.events = n.event.filterMap id ∧
      (∃ t t', n.topic = some t ∧ o.shown.topic = some t' ∧ t'.name = t.name ∧
        t'.dialect = t.dialect) ∧
      o.messages = (List.range y.reads).map fun k =>
        .returned e.message[k % (e.message.length + 1)]?
  /-- Nothing was served, or `serve` failed other than in copying too many messages. -/
  failed : o.served ≠ some (.returned true) → o.served ≠ some (.raised (.std .outOfRange)) →
    ∀ m ∈ o.messages, m = .returned none
  reset : ∀ m ∈ o.afterReset, m = .returned none

section

variable {rt : SoapRuntime}

theorem shows_reset (l : Listener) : Shows [] 0 l.reset := ⟨rfl, rfl, rfl, Nat.le_refl _⟩

/-- After `accept` nothing of an earlier notification is left. -/
theorem accept_cleared (rt : SoapRuntime) (x : Connection) (l : Listener) :
    Shows [] 0 (l.accept rt x).2 ∧ (l.accept rt x).2.consumer.events = [] := by
  rcases l.accept_cases rt x with ⟨-, h | ⟨message, code, h⟩⟩ | ⟨-, -, h⟩
  · rw [h]
    exact ⟨shows_reset l, rfl⟩
  · rw [h]
    exact ⟨⟨rfl, rfl, rfl, Nat.le_refl _⟩, rfl⟩
  · rw [h]
    exact ⟨⟨rfl, rfl, rfl, Nat.le_refl _⟩, rfl⟩

/-- A failed `serve` leaves the messages as they were, unless it failed in copying them. -/
theorem shows_of_serve_ne {ms : List String} {j : Nat} {r : Request} {l : Listener}
    (h : Shows ms j l) (htrue : (l.serve rt r).1 ≠ .returned true)
    (hrange : (l.serve rt r).1 ≠ .raised (.std .outOfRange)) : Shows ms j (l.serve rt r).2 := by
  obtain ⟨hm, hs, hc, hj⟩ := h
  by_cases hret : r.ret = SOAP_OK
  · obtain ⟨n, t, -, -, hserve⟩ := Listener.serve_of_ok rt r l hret
    rw [hserve] at htrue hrange ⊢
    by_cases hcompletes : Listener.Completes n
    · -- then it returned true
      exact absurd (Listener.publish_of_completes _ hcompletes).1 htrue
    · rcases Listener.publish_of_not_completes hcompletes with hundefined | hraised
      · rw [hundefined]
        exact ⟨hm, hs, hc, hj⟩
      · exact absurd (hraised _).1 hrange
  · rw [Listener.serve_of_error rt r l hret, Listener.serveError]
    split
    · rcases CEConsumer.setError_cases rt r.soap l.consumer with h | ⟨message, code, h⟩
      · rw [h]
        exact ⟨hm, hs, hc, hj⟩
      · rw [h]
        exact ⟨hm, hs, hc, hj⟩
    · exact ⟨hm, hs, hc, hj⟩

theorem ret_of_serve_true {r : Request} {l : Listener}
    (htrue : (l.serve rt r).1 = .returned true) : r.ret = SOAP_OK := by
  by_contra hret
  rw [Listener.serve_of_error rt r l hret, Listener.serveError] at htrue
  split at htrue
  · rcases CEConsumer.setError_cases rt r.soap l.consumer with h | ⟨message, code, h⟩
    · rw [h] at htrue
      cases htrue
    · rw [h] at htrue
      cases htrue
  · cases htrue

/-- After a `serve` of a notification whose first event can be shown, the consumer shows it. -/
theorem serve_of_shows {r : Request} {l : Listener} {n : Notification} {e : Event}
    (hshows : Shows [] 0 l) (hevents : l.consumer.events = [])
    (htrue : (l.serve rt r).1 = .returned true) (hn : r.handler = some (some n))
    (he : n.event[0]? = some (some e)) (hlen : e.message.length ≤ 32767) :
    Shows e.message 0 (l.serve rt r).2 ∧ (l.serve rt r).2.consumer.eventID = e.id ∧
    (l.serve rt r).2.consumer.eventProducer = e.producer ∧
    (l.serve rt r).2.consumer.events = n.event.filterMap id ∧
    ∃ t, n.topic = some t ∧ (l.serve rt r).2.consumer.topic = some t.copy := by
  obtain ⟨⟨t, ht⟩, hserve⟩ := Listener.serve_of_handler (ret_of_serve_true htrue) hn
  obtain ⟨rest, hrest⟩ : ∃ rest, n.event = some e :: rest := by
    cases hev : n.event with
    | nil =>
      rw [hev] at he
      cases he
    | cons e' rest =>
      rw [hev] at he
      cases he
      exact ⟨rest, rfl⟩
  have hsize : e.size = e.message.length := Event.size_eq (by omega)
  rw [hserve, Listener.publish_of_event _ hrest (by omega), hsize, Int.toNat_natCast,
    List.take_length]
  refine ⟨⟨?_, rfl, hshows.messageCounter, Nat.zero_le _⟩, rfl, rfl, ?_, t, ht, ?_⟩
  · show l.consumer.messages ++ _ = _
    rw [hshows.messages, List.nil_append]
  · show l.consumer.events ++ _ = _
    rw [hevents, List.nil_append]
  · show n.topic.map Topic.copy = _
    rw [ht]
    rfl

/-- A cycle serves its request or nothing, in the state that `accept` left. -/
theorem receive_cases {y : Cycle} {l l' : Listener} {accepted : Result Bool}
    {served : Option (Result Bool)} (h : y.receive rt l = some (accepted, served, l')) :
    (served = none ∧ l' = (l.accept rt y.accept).2) ∨
    ∃ r, y.serve = some r ∧ served = some ((l.accept rt y.accept).2.serve rt r).1 ∧
      l' = ((l.accept rt y.accept).2.serve rt r).2 := by
  unfold Cycle.receive at h
  simp only at h
  split at h
  · next r _ hr =>
    refine Or.inr ⟨r, hr, ?_⟩
    split at h <;> cases h <;> exact ⟨rfl, rfl⟩
  · cases h
    exact Or.inl ⟨rfl, rfl⟩
  · cases h
    exact Or.inl ⟨rfl, rfl⟩
  · cases h
  · cases h

/-- One cycle, from any state. -/
theorem presents_of_exec {y : Cycle} {l l' : Listener} {o : Observed}
    (h : y.exec rt l = some (o, l')) : Presents y o := by
  obtain ⟨⟨accepted, served, m⟩, hreceive, ho⟩ := Option.map_eq_some_iff.mp h
  obtain ⟨rfl, -⟩ := Prod.mk.inj ho
  obtain ⟨hblank, hevents⟩ := accept_cleared rt y.accept l
  -- either `serve` ran behind `accept`, or the consumer is as `accept` left it
  have hcases := receive_cases hreceive
  refine ⟨?_, ?_, ?_⟩
  · -- a notification with a first event to show
    intro r n e hr hserved hn he hlen
    rcases hcases with ⟨hnone, -⟩ | ⟨r', hr', hserved', hm⟩
    · rw [hnone] at hserved
      cases hserved
    · rw [hr] at hr'
      cases hr'
      rw [hserved'] at hserved
      obtain ⟨hshows, hid, hproducer, hev, t, ht, htopic⟩ :=
        serve_of_shows hblank hevents (Option.some.inj hserved) hn he hlen
      rw [← hm] at hshows hid hproducer hev htopic
      refine ⟨hid, hproducer, hshows.messageSize, hev, ⟨t, t.copy, ht, htopic, rfl, ?_⟩, ?_⟩
      · exact Topic.copy_dialect t
      · have hreads := reads_of_shows y.reads hshows
        simp only [Nat.zero_add] at hreads
        exact hreads
  · -- nothing but what `accept` left
    intro htrue hrange
    rcases hcases with ⟨-, hm⟩ | ⟨r', hr', hserved', hm⟩
    · rw [← hm] at hblank
      exact reads_of_shows_nil y.reads hblank
    · rw [hserved'] at htrue hrange
      have hshows := shows_of_serve_ne hblank (fun h => htrue (congrArg some h))
        (fun h => hrange (congrArg some h))
      rw [← hm] at hshows
      exact reads_of_shows_nil y.reads hshows
  · intro x hx
    cases hreset : y.reset with
    | none =>
      simp only [hreset, List.not_mem_nil] at hx
    | some k =>
      simp only [hreset] at hx
      exact reads_of_shows_nil k (shows_reset _) x hx

end

/--
**Whatever came before, a cycle shows the notification it served.**

The accessors show its first event and its topic, `getEvents` its events, and the successive
calls of `getNextEventMessage` go round the messages of the first event with one NULL at the
end; after a failed `serve` or a `reset` they return NULL.
-/
theorem cycles_present (rt : SoapRuntime) (authn : Bool) (ys : List Cycle) (os : List Observed)
    (h : Cycle.execAll rt ys (Listener.new authn) = some os) : List.Forall₂ Presents ys os := by
  suffices hall : ∀ l, Cycle.execAll rt ys l = some os → List.Forall₂ Presents ys os from
    hall _ h
  clear h
  induction ys generalizing os with
  | nil =>
    intro l h
    cases h
    exact .nil
  | cons y ys ih =>
    intro l h
    obtain ⟨⟨o, l'⟩, ho, hrest⟩ := Option.bind_eq_some_iff.mp h
    obtain ⟨os', hos, rfl⟩ := Option.map_eq_some_iff.mp hrest
    exact .cons (presents_of_exec ho) (ih os' l' hos)

/-- Two cycles: a refused connection, then an event with two messages, read five times. -/
def twoCycles : List Cycle :=
  let refused : Connection :=
    { credentialSet := false
      accepted := false
      soap := { Soap.new with error := 28 }
      peerDN := ""
      peerName := ""
      hostName := "" }
  let notification : Notification :=
    { topic := some { name := "CE_MONITOR", visibility := none, dialect := [] }
      event := [some { id := 7, timestamp := 0, producer := "ce", message := ["a", "b"] }] }
  [ { accept := refused, serve := none, reads := 1, reset := none },
    { accept := { refused with accepted := true, soap := Soap.new }
      serve := some
        { ret := SOAP_OK
          soap := Soap.new
          handler := some (some notification)
          ok_accepted := fun _ => ⟨_, rfl, fun _ => rfl⟩ }
      reads := 5
      reset := some 1 } ]

theorem twoCycles_present :
    ∃ os, Cycle.execAll (.plain "SOAP-ENV:Client" "") twoCycles (Listener.new false) = some os ∧
      os.map Observed.messages =
        [[.returned none],
          [.returned (some "a"), .returned (some "b"), .returned none, .returned (some "a"),
            .returned (some "b")]] ∧
      List.Forall₂ Presents twoCycles os := by
  have hrun : ∃ os,
      Cycle.execAll (.plain "SOAP-ENV:Client" "") twoCycles (Listener.new false) = some os ∧
        os.map Observed.messages =
          [[.returned none],
            [.returned (some "a"), .returned (some "b"), .returned none, .returned (some "a"),
              .returned (some "b")]] := ⟨_, rfl, rfl⟩
  obtain ⟨os, hos, hmessages⟩ := hrun
  exact ⟨os, hos, hmessages, cycles_present _ _ _ _ hos⟩

end CEMonitor
