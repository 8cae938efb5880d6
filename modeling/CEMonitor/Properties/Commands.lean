import CEMonitor.Commands

/-!
# What the command lines send

Two questions about whole programs: does a program whose URL argument is rejected keep silent,
and do `subscribe` and `subupdate` send the same topic for the same options?
-/

namespace CEMonitor

open Infra CliUtils Commands

variable {ρ : Type}

@[simp] theorem construct_of_authenticated {w : World ρ} {o : Options} {k : Process}
    (h : w.authenticate o = .returned ()) : w.construct o k = k := by
  rw [World.construct, h]

/-- Without authentication nothing is sent. -/
theorem sent_construct {w : World ρ} {o : Options} (k : Process)
    (h : w.authenticate o ≠ .returned ()) : (w.construct o k).sent = [] := by
  unfold World.construct
  split
  · next hw => exact absurd hw h
  · rfl
  · rfl
  · rfl

/-! ## Rejected URLs -/

/-- The command line is in order, apart perhaps from the URL. -/
structure ValidApartFromURL (c : Command) (w : World c.Response) (cl : CommandLine)
    (opts : Options) : Prop where
  parsed : parse c.letters w.env cl = some opts
  given : ∀ v ∈ c.mandatory opts, v ≠ ""

/-- The program makes no SOAP call and ends with an error. -/
def Refuses (p : Process) : Prop := p.sent = [] ∧ ∃ status, status ≠ 0 ∧ p.ending = .exit status

theorem refuses_refused : Refuses refused := ⟨rfl, 1, by decide, rfl⟩

/-- The programs that go on with the empty text for a URL. -/
def Command.ignoresRejection : List Command := [.subscribe, .subupdate, .subinfo]

section

variable (rt : SoapRuntime) {cl : CommandLine} {opts : Options} {url : String}

/-! ### What the operations send -/

theorem CESubscriptionMgr.sent_update (endpoint subid newConsumerURL : String) (topic : Topic)
    (policy : Policy) (t : Int) (x : Exchange (Option SubscriptionRef)) (o : CESubscriptionMgr) :
    ∃ sub, (o.update rt endpoint subid newConsumerURL topic policy t x).sent
        = [.update endpoint sub] ∧ sub.topic = some topic ∧ sub.expirationTime = some t := by
  unfold CESubscriptionMgr.update
  simp only
  split <;> exact ⟨_, rfl, rfl, rfl⟩

theorem CESubscriptionMgr.sent_list (endpoint : String) (target : List Subscription)
    (x : Exchange (Option (List (Option SubscriptionData)))) (o : CESubscriptionMgr) :
    (o.list rt endpoint target x).1.sent = [.getSubscription endpoint] := by
  unfold CESubscriptionMgr.list
  simp only
  split
  · split <;> rfl
  · rfl

/-! ### What the programs do with the URL -/

/-- `subscribe` calls the service at the checked URL, whatever that is. -/
theorem sent_subscribe {w : World (Option SubscriptionRef)}
    (hp : parse subscribeLetters w.env cl = some opts) (hc : opts.consumerURL ≠ "")
    (ht : opts.topic ≠ "") (ha : w.authenticate opts = .returned ())
    (hurl : cl.operand = some url) :
    ∃ sub, (Commands.subscribe rt w cl).sent = [.subscribe (checkCEMonURL url) sub] ∧
      sub.topic
        = some (addDialects (Text.split ',' opts.dialects) (Topic.new opts.topic)).copy ∧
      sub.expirationTime = some (w.call.now + opts.duration) := by
  unfold Commands.subscribe
  rw [hp, hurl]
  simp only [if_neg hc, if_neg ht, construct_of_authenticated ha,
    subscribePolicy_bind_setSubscribeParam]
  generalize checkCEMonURL url = serviceURL
  exact Exists.imp (fun _ => And.left) (CESubscription.sent_subscribe rt _ hc w.call)

/-- So does `subupdate`, with a topic that has one dialect, the null one. -/
theorem sent_subupdate {w : World (Option SubscriptionRef)}
    (hp : parse subupdateLetters w.env cl = some opts) (hc : opts.consumerURL ≠ "")
    (ht : opts.topic ≠ "") (ha : w.authenticate opts = .returned ())
    (hurl : cl.operand = some url) :
    ∃ sub, (Commands.subupdate rt w cl).sent = [.update (checkCEMonURL url) sub] ∧
      sub.topic = some ((Topic.new opts.topic).addDialect none) ∧
      sub.expirationTime = some (w.call.now + opts.duration) := by
  unfold Commands.subupdate
  rw [hp, hurl]
  simp only [if_neg hc, if_neg ht, construct_of_authenticated ha]
  generalize checkCEMonURL url = serviceURL
  exact CESubscriptionMgr.sent_update rt serviceURL _ _ _ _ _ w.call _

/-- And so does `subinfo`. -/
theorem sent_subinfo {w : World (Option (List (Option SubscriptionData)))}
    (hp : parse subinfoLetters w.env cl = some opts) (ha : w.authenticate opts = .returned ())
    (hurl : cl.operand = some url) :
    (Commands.subinfo rt w cl).sent = [.getSubscription (checkCEMonURL url)] := by
  unfold Commands.subinfo
  rw [hp, hurl]
  simp only [construct_of_authenticated ha]
  exact CESubscriptionMgr.sent_list rt _ _ _ _

theorem refuses_getevent {w : World (Option (List (Option Event)))}
    (hp : parse geteventLetters w.env cl = some opts) (ht : opts.topic ≠ "")
    (ha : w.authenticate opts = .returned ()) (hurl : cl.operand = some url)
    (hrej : checkCEMonURL url = "") : Refuses (Commands.getevent rt w cl) := by
  unfold Commands.getevent
  rw [hp, hurl]
  simp only [if_neg ht, construct_of_authenticated ha, hrej, if_true]
  exact refuses_refused

theorem refuses_getinfo {w : World (Option Info)}
    (hp : parse getinfoLetters w.env cl = some opts) (ha : w.authenticate opts = .returned ())
    (hurl : cl.operand = some url) (hrej : checkCEMonURL url = "") :
    Refuses (Commands.getinfo rt w cl) := by
  unfold Commands.getinfo
  rw [hp, hurl]
  simp only [construct_of_authenticated ha, hrej, if_true]
  exact refuses_refused

theorem refuses_gettopics {w : World (Option (List (Option Topic)))}
    (hp : parse gettopicsLetters w.env cl = some opts) (ha : w.authenticate opts = .returned ())
    (hurl : cl.operand = some url) (hrej : checkCEMonURL url = "") :
    Refuses (Commands.gettopics rt w cl) := by
  unfold Commands.gettopics
  rw [hp, hurl]
  simp only [construct_of_authenticated ha, hrej, if_true]
  exact refuses_refused

/-- `unsubscribe`, `pause` and `resume`: the operation itself refuses the empty service URL. -/
theorem refuses_onSubscription {msg : String → SubscriptionRef → SoapCall} {w : World Unit}
    (hp : parse subscriptionIDLetters w.env cl = some opts) (hid : opts.subscriptionID ≠ "")
    (ha : w.authenticate opts = .returned ()) (hurl : cl.operand = some url)
    (hrej : checkCEMonURL url = "") :
    Refuses (onSubscription (fun ceS subID x => ceS.onSubscription rt msg subID x) w cl) := by
  unfold onSubscription
  rw [hp, hurl]
  simp only [if_neg hid, construct_of_authenticated ha, hrej]
  exact ⟨rfl, 1, by decide, rfl⟩

end

theorem onSubscription_eq_construct
    (operation : CESubscription → String → Exchange Unit → Call CESubscription Unit)
    {w : World Unit} {cl : CommandLine} {opts : Options} {url : String}
    (hp : parse subscriptionIDLetters w.env cl = some opts) (hid : opts.subscriptionID ≠ "")
    (hurl : cl.operand = some url) : ∃ k, onSubscription operation w cl = w.construct opts k := by
  unfold onSubscription
  rw [hp, hurl]
  simp only [if_neg hid]
  exact ⟨_, rfl⟩

/-- Every program with a valid command line builds its request object first. -/
theorem exec_eq_construct (rt : SoapRuntime) {c : Command} {w : World c.Response}
    {cl : CommandLine} {opts : Options} {url : String} (hv : ValidApartFromURL c w cl opts)
    (hurl : cl.operand = some url) : ∃ k, c.exec rt w cl = w.construct opts k := by
  obtain ⟨hp, hg⟩ := hv
  cases c with
  | getevent =>
    have ht : opts.topic ≠ "" := hg _ (by simp [Command.mandatory])
    show ∃ k, Commands.getevent rt w cl = w.construct opts k
    unfold Commands.getevent
    rw [show parse geteventLetters w.env cl = some opts from hp, hurl]
    simp only [if_neg ht]
    exact ⟨_, rfl⟩
  | getinfo =>
    show ∃ k, Commands.getinfo rt w cl = w.construct opts k
    unfold Commands.getinfo
    rw [show parse getinfoLetters w.env cl = some opts from hp, hurl]
    exact ⟨_, rfl⟩
  | gettopics =>
    show ∃ k, Commands.gettopics rt w cl = w.construct opts k
    unfold Commands.gettopics
    rw [show parse gettopicsLetters w.env cl = some opts from hp, hurl]
    exact ⟨_, rfl⟩
  | subscribe =>
    have hc : opts.consumerURL ≠ "" := hg _ (by simp [Command.mandatory])
    have ht : opts.topic ≠ "" := hg _ (by simp [Command.mandatory])
    show ∃ k, Commands.subscribe rt w cl = w.construct opts k
    unfold Commands.subscribe
    rw [show parse subscribeLetters w.env cl = some opts from hp, hurl]
    simp only [if_neg hc, if_neg ht]
    exact ⟨_, rfl⟩
  | subupdate =>
    have hc : opts.consumerURL ≠ "" := hg _ (by simp [Command.mandatory])
    have ht : opts.topic ≠ "" := hg _ (by simp [Command.mandatory])
    show ∃ k, Commands.subupdate rt w cl = w.construct opts k
    unfold Commands.subupdate
    rw [show parse subupdateLetters w.env cl = some opts from hp, hurl]
    simp only [if_neg hc, if_neg ht]
    exact ⟨_, rfl⟩
  | unsubscribe =>
    have hid : opts.subscriptionID ≠ "" := hg _ (by simp [Command.mandatory])
    show ∃ k, Commands.unsubscribe rt w cl = w.construct opts k
    exact onSubscription_eq_construct _ hp hid hurl
  | pause =>
    have hid : opts.subscriptionID ≠ "" := hg _ (by simp [Command.mandatory])
    show ∃ k, Commands.pause rt w cl = w.construct opts k
    exact onSubscription_eq_construct _ hp hid hurl
  | resume =>
    have hid : opts.subscriptionID ≠ "" := hg _ (by simp [Command.mandatory])
    show ∃ k, Commands.resume rt w cl = w.construct opts k
    exact onSubscription_eq_construct _ hp hid hurl
  | subinfo =>
    show ∃ k, Commands.subinfo rt w cl = w.construct opts k
    unfold Commands.subinfo
    rw [show parse subinfoLetters w.env cl = some opts from hp, hurl]
    dsimp only
    -- the object is made before the URL is looked at
    generalize checkCEMonURL url = serviceURL
    exact ⟨_, rfl⟩

theorem not_refuses_of_sent {p : Process} {m : SoapCall} (h : p.sent = [m]) : ¬Refuses p := by
  rintro ⟨hsent, -⟩
  rw [h] at hsent
  cases hsent

theorem refuses_iff_of_authenticated (rt : SoapRuntime) {c : Command} {w : World c.Response}
    {cl : CommandLine} {opts : Options} {url : String} (hv : ValidApartFromURL c w cl opts)
    (ha : w.authenticate opts = .returned ()) (hurl : cl.operand = some url)
    (hrej : checkCEMonURL url = "") :
    Refuses (c.exec rt w cl) ↔ c ∉ Command.ignoresRejection := by
  obtain ⟨hp, hg⟩ := hv
  cases c with
  | getevent =>
    have ht : opts.topic ≠ "" := hg _ (by simp [Command.mandatory])
    exact iff_of_true (refuses_getevent rt hp ht ha hurl hrej) (by decide)
  | getinfo => exact iff_of_true (refuses_getinfo rt hp ha hurl hrej) (by decide)
  | gettopics => exact iff_of_true (refuses_gettopics rt hp ha hurl hrej) (by decide)
  | subscribe =>
    have hc : opts.consumerURL ≠ "" := hg _ (by simp [Command.mandatory])
    have ht : opts.topic ≠ "" := hg _ (by simp [Command.mandatory])
    obtain ⟨sub, hsent, -⟩ := sent_subscribe rt hp hc ht ha hurl
    exact iff_of_false (not_refuses_of_sent hsent) (by decide)
  | subupdate =>
    have hc : opts.consumerURL ≠ "" := hg _ (by simp [Command.mandatory])
    have ht : opts.topic ≠ "" := hg _ (by simp [Command.mandatory])
    obtain ⟨sub, hsent, -⟩ := sent_subupdate rt hp hc ht ha hurl
    exact iff_of_false (not_refuses_of_sent hsent) (by decide)
  | unsubscribe | pause | resume =>
    have hid : opts.subscriptionID ≠ "" := hg _ (by simp [Command.mandatory])
    exact iff_of_true (refuses_onSubscription rt hp hid ha hurl hrej) (by decide)
  | subinfo => exact iff_of_false (not_refuses_of_sent (sent_subinfo rt hp ha hurl)) (by decide)

/--
**A program refuses a rejected URL unless it is `subscribe`, `subupdate` or `subinfo`.**

Three programs test the answer of `checkCEMonURL`, and the operation behind three more tests the
service URL. The other three make their call at the empty endpoint, unless the user's
credentials stop them before.
-/
theorem refuses_iff_not_ignoresRejection (rt : SoapRuntime) (c : Command)
    (w : World c.Response) (cl : CommandLine) (opts : Options) (url : String)
    (hv : ValidApartFromURL c w cl opts) (hurl : cl.operand = some url)
    (hrej : checkCEMonURL url = "") :
    Refuses (c.exec rt w cl) ↔
      (∃ e, w.authenticate opts = .raised e) ∨
      w.authenticate opts = .returned () ∧ c ∉ Command.ignoresRejection := by
  obtain ⟨k, hk⟩ := exec_eq_construct rt hv hurl
  cases ha : w.authenticate opts with
  | returned =>
    rw [refuses_iff_of_authenticated rt hv ha hurl hrej]
    exact ⟨fun h => Or.inr ⟨rfl, h⟩, fun h => h.elim nofun And.right⟩
  | raised e =>
    -- there is no request object, so no call
    rw [hk, World.construct, ha]
    exact iff_of_true refuses_refused (Or.inl ⟨e, rfl⟩)
  | unexpected =>
    rw [hk, World.construct, ha]
    refine iff_of_false ?_ (by rintro (⟨e, h⟩ | ⟨h, -⟩) <;> cases h)
    rintro ⟨-, status, -, h⟩
    cases h
  | undefined =>
    rw [hk, World.construct, ha]
    refine iff_of_false ?_ (by rintro (⟨e, h⟩ | ⟨h, -⟩) <;> cases h)
    rintro ⟨-, status, -, h⟩
    cases h

/-- A proxy that expires at the end of 2030, and a plugin that works. -/
def goodCredentials : Credentials where
  certificateExists := true
  keyExists := true
  keyOpens := true
  certificateOpens := true
  file :=
    { allocated := true
      opened := true
      notAfter := some [51, 48, 49, 50, 51, 49, 50, 51, 53, 57, 53, 57, 90, 0] }
  initContext := true
  setCredential := true
  noAuth := false
  registerPlugin := true

/-- A user with such a proxy, and a service that answers. -/
def goodWorld (resp : Option ρ) : World ρ where
  env := { x509UserCert := none, x509UserKey := none, x509UserProxy := none, uid := 500 }
  integers := .sample
  authTime := 0
  credentials := fun _ _ => goodCredentials
  topicResp := none
  call := { now := 0, soap := Soap.new, resp := resp }

/-- A service URL without the port. -/
def rejectedURL : String := "https://ce/ce-monitor/services/CEMonitor"

def subscribeLine : CommandLine where
  options := [('U', "http://consumer:9000"), ('T', "CE_MONITOR")]
  operand := some rejectedURL

/-- `subscribe` with that URL calls a service at the empty endpoint. -/
theorem subscribe_rejectedURL_sends :
    (∃ opts, ValidApartFromURL .subscribe (goodWorld none) subscribeLine opts ∧
      (goodWorld (none : Option (Option SubscriptionRef))).authenticate opts = .returned ()) ∧
    subscribeLine.operand = some rejectedURL ∧ checkCEMonURL rejectedURL = "" ∧
    ¬Refuses (Command.subscribe.exec (.plain "SOAP-ENV:Client" "Client fault") (goodWorld none)
      subscribeLine) := by
  refine ⟨⟨_, ⟨rfl, ?_⟩, rfl⟩, rfl, by decide, ?_⟩
  · intro v hv
    revert v
    decide
  · rintro ⟨hsent, -⟩
    revert hsent
    decide

/-- `getinfo` with that URL ends with an error. -/
theorem getinfo_rejectedURL_refuses :
    Refuses (Command.getinfo.exec (.plain "SOAP-ENV:Client" "Client fault") (goodWorld none)
      { options := [], operand := some rejectedURL }) :=
  (refuses_iff_not_ignoresRejection (.plain "SOAP-ENV:Client" "Client fault") .getinfo
    (goodWorld none) { options := [], operand := some rejectedURL } _ rejectedURL
    ⟨rfl, fun _ hv => absurd hv List.not_mem_nil⟩ rfl (by decide)).mpr
    (Or.inr ⟨rfl, by decide⟩)

/-! ## The topic of a subscription -/

/-- The loop leaves the non-empty pieces behind, in order. -/
theorem dialect_addDialects (pieces : List String) (T : Topic) :
    (addDialects pieces T).dialect
      = T.dialect ++ (pieces.filter (· ≠ "")).map fun it => some (Dialect.new it) := by
  induction pieces generalizing T with
  | nil => simp [addDialects]
  | cons it pieces ih =>
    have hstep : addDialects (it :: pieces) T =
        addDialects pieces (if it ≠ "" then T.addDialect (some (Dialect.new it)) else T) := rfl
    rw [hstep, ih]
    by_cases hit : it ≠ ""
    · rw [if_pos hit, List.filter_cons_of_pos (by simpa using hit), Topic.addDialect_dialect,
        List.map_cons, List.append_assoc]
      rfl
    · rw [if_neg hit, List.filter_cons_of_neg (by simpa using hit)]

theorem dialectNames_addDialects (pieces : List String) (T : Topic) :
    (addDialects pieces T).dialectNames = T.dialectNames ++ pieces.filter (· ≠ "") := by
  have hnames : ((pieces.filter (· ≠ "")).map fun it => some (Dialect.new it)).filterMap
      (fun d => d.map Dialect.name) = pieces.filter (· ≠ "") := by
    rw [List.filterMap_map]
    exact List.filterMap_some
  rw [Topic.dialectNames, dialect_addDialects, List.filterMap_append, hnames]
  rfl

theorem name_addDialects (pieces : List String) (T : Topic) :
    (addDialects pieces T).name = T.name := by
  induction pieces generalizing T with
  | nil => rfl
  | cons it pieces ih =>
    have hstep : addDialects (it :: pieces) T =
        addDialects pieces (if it ≠ "" then T.addDialect (some (Dialect.new it)) else T) := rfl
    rw [hstep, ih]
    split <;> rfl

@[simp] theorem dialectNames_copy (t : Topic) : t.copy.dialectNames = t.dialectNames := by
  rw [Topic.dialectNames, Topic.copy_dialect, Topic.dialectNames]

section

variable (rt : SoapRuntime) {cl : CommandLine} {opts : Options}

/-- The request that `subscribe` sends has the topic and the lifetime of its options. -/
theorem subscribe_request {w : World (Option SubscriptionRef)} {endpoint : String}
    {sub : SubscriptionData} (hp : parse subscribeLetters w.env cl = some opts)
    (hsent : SoapCall.subscribe endpoint sub ∈ (Commands.subscribe rt w cl).sent) :
    sub.topic
      = some (addDialects (Text.split ',' opts.dialects) (Topic.new opts.topic)).copy ∧
    sub.expirationTime = some (w.call.now + opts.duration) := by
  cases hurl : cl.operand with
  | none =>
    simp only [Commands.subscribe, hp, hurl] at hsent
    cases hsent
  | some url =>
    by_cases hc : opts.consumerURL = ""
    · simp only [Commands.subscribe, hp, hurl, if_pos hc] at hsent
      cases hsent
    · by_cases ht : opts.topic = ""
      · simp only [Commands.subscribe, hp, hurl, if_neg hc, if_pos ht] at hsent
        cases hsent
      · by_cases ha : w.authenticate opts = .returned ()
        · obtain ⟨sub', hsent', hrequest⟩ := sent_subscribe rt hp hc ht ha hurl
          rw [hsent', List.mem_singleton, SoapCall.subscribe.injEq] at hsent
          rw [hsent.2]
          exact hrequest
        · simp only [Commands.subscribe, hp, hurl, if_neg hc, if_neg ht, sent_construct _ ha]
            at hsent
          cases hsent

/-- The request that `subupdate` sends has the null dialect and the lifetime of its options. -/
theorem subupdate_request {w : World (Option SubscriptionRef)} {endpoint : String}
    {sub : SubscriptionData} (hp : parse subupdateLetters w.env cl = some opts)
    (hsent : SoapCall.update endpoint sub ∈ (Commands.subupdate rt w cl).sent) :
    sub.topic = some ((Topic.new opts.topic).addDialect none) ∧
    sub.expirationTime = some (w.call.now + opts.duration) := by
  cases hurl : cl.operand with
  | none =>
    simp only [Commands.subupdate, hp, hurl] at hsent
    cases hsent
  | some url =>
    by_cases hc : opts.consumerURL = ""
    · simp only [Commands.subupdate, hp, hurl, if_pos hc] at hsent
      cases hsent
    · by_cases ht : opts.topic = ""
      · simp only [Commands.subupdate, hp, hurl, if_neg hc, if_pos ht] at hsent
        cases hsent
      · by_cases ha : w.authenticate opts = .returned ()
        · obtain ⟨sub', hsent', hrequest⟩ := sent_subupdate rt hp hc ht ha hurl
          rw [hsent', List.mem_singleton, SoapCall.update.injEq] at hsent
          rw [hsent.2]
          exact hrequest
        · simp only [Commands.subupdate, hp, hurl, if_neg hc, if_neg ht, sent_construct _ ha]
            at hsent
          cases hsent

end

/--
**`subupdate` sends the topic of `subscribe` exactly when `--dialects` names no dialect.**

The two command lines may differ in everything but `--topic` and `--dialects`.
-/
theorem subupdate_topic_eq_iff (rt : SoapRuntime) (w₁ w₂ : World (Option SubscriptionRef))
    (cl₁ cl₂ : CommandLine) (opts₁ opts₂ : Options) (endpoint₁ endpoint₂ : String)
    (sub₁ sub₂ : SubscriptionData)
    (hp₁ : parse subscribeLetters w₁.env cl₁ = some opts₁)
    (hp₂ : parse subupdateLetters w₂.env cl₂ = some opts₂)
    (htopic : opts₂.topic = opts₁.topic) (hdialects : opts₂.dialects = opts₁.dialects)
    (hsent₁ : (Commands.subscribe rt w₁ cl₁).sent = [.subscribe endpoint₁ sub₁])
    (hsent₂ : (Commands.subupdate rt w₂ cl₂).sent = [.update endpoint₂ sub₂]) :
    (∃ t₁ t₂, sub₁.topic = some t₁ ∧ sub₂.topic = some t₂ ∧ t₂.name = t₁.name ∧
      t₂.dialectNames = t₁.dialectNames) ↔
      ∀ piece ∈ Text.split ',' opts₂.dialects, piece = "" := by
  have htopic₁ := (subscribe_request rt hp₁ (hsent₁ ▸ List.mem_singleton_self _)).1
  have htopic₂ := (subupdate_request rt hp₂ (hsent₂ ▸ List.mem_singleton_self _)).1
  rw [htopic₁, htopic₂, hdialects]
  have hnames : (addDialects (Text.split ',' opts₁.dialects)
      (Topic.new opts₁.topic)).copy.dialectNames
        = (Text.split ',' opts₁.dialects).filter (· ≠ "") := by
    rw [dialectNames_copy, dialectNames_addDialects]
    rfl
  have hnone : ((Topic.new opts₂.topic).addDialect none).dialectNames = [] := rfl
  constructor
  · rintro ⟨t₁, t₂, h₁, h₂, -, heq⟩ piece hpiece
    cases h₁
    cases h₂
    rw [hnone, hnames] at heq
    simpa using List.filter_eq_nil_iff.mp heq.symm piece hpiece
  · intro hall
    refine ⟨_, _, rfl, rfl, ?_, ?_⟩
    · rw [Topic.copy_name, name_addDialects, Topic.addDialect_name, htopic]
    · rw [hnone, hnames]
      exact (List.filter_eq_nil_iff.mpr fun piece hpiece => by simp [hall piece hpiece]).symm

/-- A command line for both programs, with the given `--dialects`. -/
def dialectsLine (dialects : String) : CommandLine where
  options := [('U', "http://consumer:9000"), ('T', "CE_MONITOR"), ('D', dialects)]
  operand := some "ce"

/-- With a dialect that both are asked for, only `subscribe` sends it. -/
theorem subupdate_classad_dropped :
    ∃ opts₁ opts₂ endpoint₁ endpoint₂ sub₁ sub₂ t₁ t₂,
      parse subscribeLetters (goodWorld (none : Option (Option SubscriptionRef))).env
        (dialectsLine "CLASSAD") = some opts₁ ∧
      parse subupdateLetters (goodWorld (none : Option (Option SubscriptionRef))).env
        (dialectsLine "CLASSAD") = some opts₂ ∧
      opts₂.topic = opts₁.topic ∧ opts₂.dialects = opts₁.dialects ∧
      (Commands.subscribe (.plain "SOAP-ENV:Client" "Client fault") (goodWorld none)
        (dialectsLine "CLASSAD")).sent = [.subscribe endpoint₁ sub₁] ∧
      (Commands.subupdate (.plain "SOAP-ENV:Client" "Client fault") (goodWorld none)
        (dialectsLine "CLASSAD")).sent = [.update endpoint₂ sub₂] ∧
      sub₁.topic = some t₁ ∧ sub₂.topic = some t₂ ∧ t₁.dialectNames = ["CLASSAD"] ∧
      t₂.dialectNames = [] :=
  ⟨_, _, _, _, _, _, _, _, rfl, rfl, rfl, rfl, rfl, rfl, rfl, rfl, by decide, rfl⟩

/-- With only commas in `--dialects` both send a topic without dialects. -/
theorem subupdate_comma_same :
    ∃ sub₁ sub₂ : SubscriptionData, ∃ t₁ t₂, sub₁.topic = some t₁ ∧ sub₂.topic = some t₂ ∧
      t₂.name = t₁.name ∧ t₂.dialectNames = t₁.dialectNames :=
  ⟨_, _, (subupdate_topic_eq_iff (.plain "SOAP-ENV:Client" "Client fault") (goodWorld none)
    (goodWorld none) (dialectsLine ",") (dialectsLine ",") _ _ _ _ _ _ rfl rfl rfl rfl rfl
    rfl).mpr (by decide)⟩

end CEMonitor
