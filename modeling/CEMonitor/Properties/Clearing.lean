import CEMonitor.Infra.Run
import CEMonitor.Properties.Cycles

/-!
# What a reset leaves

`reset` clears what a notification and its sender left in the consumer, member by member. It
forgets one: the DN of the peer, which only a connection that `accept` takes overwrites. So
after a reset the consumer is like a new one but for the DN of the last peer.
-/

namespace CEMonitor

open Infra

/-- The accessors that describe the notification or its sender return what they return on a new
consumer. -/
structure LikeNew (authn : Bool) (l : Listener) : Prop where
  clientIP : l.consumer.clientIP = (CEConsumer.new authn).clientIP
  clientName : l.consumer.clientName = (CEConsumer.new authn).clientName
  clientDN : l.consumer.clientDN = (CEConsumer.new authn).clientDN
  eventID : l.consumer.eventID = (CEConsumer.new authn).eventID
  messageSize : l.consumer.messageSize = (CEConsumer.new authn).messageSize
  eventProducer : l.consumer.eventProducer = (CEConsumer.new authn).eventProducer
  topic : l.consumer.topic = (CEConsumer.new authn).topic
  events : l.consumer.events = (CEConsumer.new authn).events
  messages : ∀ k, (reads k l).1 = (reads k (Listener.new authn)).1

/-- The call is a `reset`, or an `accept` that returns false, and leaves `l'`. -/
def Clears (rt : SoapRuntime) (l : Listener) (y : ConsumerCall) (l' : Listener) : Prop :=
  match y with
  | .reset => l' = l.reset
  | .accept x => l.accept rt x = (.returned false, l')
  | .serve _ => False
  | .getNextEventMessage => False

/-- The DN that a call stores: that of the peer when `accept` takes a connection, and the empty
text without authentication. -/
def ConsumerCall.peerDN? (authn : Bool) : ConsumerCall → Option String
  | .accept x =>
    if authn = true ∧ ¬x.credentialSet then none
    else if ¬x.accepted then none
    else some (if authn then x.peerDN else "")
  | .serve _ => none
  | .getNextEventMessage => none
  | .reset => none

section

variable {rt : SoapRuntime} {l l' : Listener}

theorem clientDN_serve (r : Request) :
    (l.serve rt r).2.consumer.authn = l.consumer.authn ∧
    (l.serve rt r).2.consumer.clientDN = l.consumer.clientDN := by
  by_cases hret : r.ret = SOAP_OK
  · obtain ⟨n, t, -, -, hserve⟩ := Listener.serve_of_ok rt r l hret
    rw [hserve]
    obtain ⟨hauthn, hDN, -⟩ := Listener.publish_frame n { l with globals := ⟨.live n, false⟩ }
    exact ⟨hauthn, hDN⟩
  · rw [Listener.serve_of_error rt r l hret, Listener.serveError]
    split
    · rcases CEConsumer.setError_cases rt r.soap l.consumer with h | ⟨message, code, h⟩
      · rw [h]
        exact ⟨rfl, rfl⟩
      · rw [h]
        exact ⟨rfl, rfl⟩
    · exact ⟨rfl, rfl⟩

theorem clientDN_getNextEventMessage :
    l.getNextEventMessage.2.consumer.authn = l.consumer.authn ∧
    l.getNextEventMessage.2.consumer.clientDN = l.consumer.clientDN := by
  show l.consumer.getNextEventMessage.2.authn = _ ∧ l.consumer.getNextEventMessage.2.clientDN = _
  unfold CEConsumer.getNextEventMessage
  split <;> exact ⟨rfl, rfl⟩

theorem clientDN_accept (x : Connection) :
    (l.accept rt x).2.consumer.authn = l.consumer.authn ∧
    (l.accept rt x).2.consumer.clientDN
      = ((ConsumerCall.accept x).peerDN? l.consumer.authn).getD l.consumer.clientDN := by
  rcases l.accept_cases rt x with ⟨hrefused, h⟩ | ⟨hcred, hacc, h⟩
  · have hnone : (ConsumerCall.accept x).peerDN? l.consumer.authn = none := by
      rcases hrefused with hcred | hacc
      · simp only [ConsumerCall.peerDN?, if_pos hcred]
      · simp only [ConsumerCall.peerDN?, if_pos hacc, ite_self]
    rw [hnone]
    rcases h with h | ⟨message, code, h⟩
    · rw [h]
      exact ⟨rfl, rfl⟩
    · rw [h]
      exact ⟨rfl, rfl⟩
  · have hsome : (ConsumerCall.accept x).peerDN? l.consumer.authn
        = some (if l.consumer.authn then x.peerDN else "") := by
      simp only [ConsumerCall.peerDN?, if_neg hcred, if_neg (not_not.mpr hacc)]
    rw [hsome, h]
    exact ⟨rfl, rfl⟩

theorem clientDN_step {y : ConsumerCall} (h : y.step rt l = some l') :
    l'.consumer.authn = l.consumer.authn ∧
      l'.consumer.clientDN = (y.peerDN? l.consumer.authn).getD l.consumer.clientDN := by
  cases y with
  | accept x =>
    rw [eq_of_goesOn h]
    exact clientDN_accept x
  | serve r =>
    rw [eq_of_goesOn h]
    exact clientDN_serve r
  | getNextEventMessage =>
    rw [eq_of_goesOn h]
    exact clientDN_getNextEventMessage
  | reset =>
    cases h
    exact ⟨rfl, rfl⟩

/-- The stored DN is that of the last connection that was taken. -/
theorem clientDN_run {authn : Bool} {calls : List ConsumerCall}
    (h : run (ConsumerCall.step rt) calls (Listener.new authn) = some l) :
    l.consumer.clientDN = (lastWrite (ConsumerCall.peerDN? authn) calls).getD "" := by
  refine run_lastWrite (fun l => l.consumer.authn = authn) (fun l => l.consumer.clientDN) ?_ ?_
    rfl h
  · intro y l l' hauthn hstep
    rw [(clientDN_step hstep).1, hauthn]
  · intro y l l' hauthn hstep
    rw [(clientDN_step hstep).2, hauthn]

/-- A call that clears leaves what `reset` leaves, but for the error. -/
theorem shows_of_clears {y : ConsumerCall} (h : Clears rt l y l') :
    Shows [] 0 l' ∧ l'.consumer.clientIP = "" ∧ l'.consumer.clientName = "" ∧
    l'.consumer.clientDN = l.consumer.clientDN ∧ l'.consumer.eventID = 0 ∧
    l'.consumer.eventProducer = "" ∧ l'.consumer.topic = none ∧ l'.consumer.events = [] := by
  cases y with
  | reset =>
    cases h
    exact ⟨shows_reset l, rfl, rfl, rfl, rfl, rfl, rfl, rfl⟩
  | accept x =>
    have hfalse : l.accept rt x = (.returned false, l') := h
    rcases l.accept_cases rt x with ⟨-, hraised | ⟨message, code, hreturned⟩⟩ | ⟨-, -, htaken⟩
    · rw [hraised] at hfalse
      cases hfalse
    · rw [hreturned] at hfalse
      cases hfalse
      exact ⟨⟨rfl, rfl, rfl, Nat.le_refl _⟩, rfl, rfl, rfl, rfl, rfl, rfl, rfl⟩
    · rw [htaken] at hfalse
      cases hfalse
  | serve r => exact absurd h id
  | getNextEventMessage => exact absurd h id

theorem likeNew_iff_clientDN {authn : Bool} {y : ConsumerCall} (h : Clears rt l y l') :
    LikeNew authn l' ↔ l.consumer.clientDN = "" := by
  obtain ⟨hshows, hIP, hname, hDN, hid, hproducer, htopic, hevents⟩ := shows_of_clears h
  have hreads : ∀ k, (reads k l').1 = (reads k (Listener.new authn)).1 := by
    intro k
    have hnew : Shows [] 0 (Listener.new authn) := ⟨rfl, rfl, rfl, Nat.le_refl _⟩
    rw [reads_of_shows k hshows, reads_of_shows k hnew]
  constructor
  · intro hlike
    rw [← hDN, hlike.clientDN]
    rfl
  · intro hempty
    exact ⟨hIP, hname, hDN.trans hempty, hid, hshows.messageSize, hproducer, htopic, hevents,
      hreads⟩

end

/--
**After a `reset` or a failed `accept` the consumer is like a new one exactly when the last
connection that was taken left no DN.**

Without authentication it never leaves one. Whatever else a notification or its sender left is
cleared.
-/
theorem likeNew_iff (rt : SoapRuntime) (authn : Bool) (calls : List ConsumerCall) (l : Listener)
    (y : ConsumerCall) (l' : Listener)
    (hrun : run (ConsumerCall.step rt) calls (Listener.new authn) = some l)
    (hclears : Clears rt l y l') :
    LikeNew authn l' ↔ (lastWrite (ConsumerCall.peerDN? authn) calls).getD "" = "" := by
  rw [likeNew_iff_clientDN hclears, clientDN_run hrun]

/-- A connection from a peer with a certificate. -/
def fromCE : Connection where
  credentialSet := true
  accepted := true
  soap := Soap.new
  peerDN := "/C=IT/O=INFN/CN=ce"
  peerName := "10.0.0.1"
  hostName := "ce"

/-- An authenticated connection, and then one that fails: the DN of the first is still there. -/
theorem fromCE_DN_kept :
    ∃ l l', run (ConsumerCall.step (.plain "SOAP-ENV:Client" "")) [.accept fromCE]
        (Listener.new true) = some l ∧
      Clears (.plain "SOAP-ENV:Client" "") l
        (.accept { fromCE with accepted := false, soap := { Soap.new with error := 28 } }) l' ∧
      l'.consumer.clientDN = "/C=IT/O=INFN/CN=ce" ∧ ¬LikeNew true l' := by
  refine ⟨_, _, rfl, rfl, rfl, ?_⟩
  rintro ⟨-, -, hDN, -⟩
  have hempty : "/C=IT/O=INFN/CN=ce" = "" := hDN
  exact absurd hempty (by decide)

/-- Without authentication nothing is left. -/
theorem fromCE_plain_cleared :
    ∃ l, run (ConsumerCall.step (.plain "SOAP-ENV:Client" "")) [.accept fromCE]
        (Listener.new false) = some l ∧ LikeNew false l.reset :=
  ⟨_, rfl, (likeNew_iff (.plain "SOAP-ENV:Client" "") false [.accept fromCE] _ .reset _ rfl
    rfl).mpr rfl⟩

end CEMonitor
