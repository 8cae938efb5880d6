import CEMonitor.Certificate
import CEMonitor.CliUtils
import CEMonitor.Requests

/-!
# The command lines

The nine `glite-ce-monitor-*` client programs: options, the request object built from them, the
one remote operation, and how the program ends. What a program writes to its terminal is left
out.
-/

namespace CEMonitor

open Infra CliUtils

namespace Commands

/-! ## Command lines -/

/-- What `getopt_long` makes of the arguments: the options in order, each with its argument,
`?` for one that it does not accept, and `argv[optind]`. -/
structure CommandLine where
  options : List (Char × String)
  operand : Option String
  deriving DecidableEq, Repr

/-- The variables the options are stored in. No program has all of them. -/
structure Options where
  certfile : String
  key : String
  consumerURL : String
  topic : String
  dialects : String
  rate : Int
  duration : Int
  subscriptionID : String
  deriving DecidableEq, Repr

/-- The values before the first option. -/
def Options.default (env : Environment) : Options where
  certfile := getCertificateFile env
  key := getKeyFile env
  consumerURL := ""
  topic := ""
  dialects := ""
  rate := 20
  duration := 600
  subscriptionID := ""

/-- The `switch` on one option; `none` is its `default`, which ends the program. -/
def Options.set (letters : List Char) (c : Char) (optarg : String) (o : Options) :
    Option Options :=
  if c ∈ letters then
    match c with
    | 'k' => some { o with key := optarg }
    | 'C' => some { o with certfile := optarg }
    | 'U' => some { o with consumerURL := optarg }
    | 'T' => some { o with topic := optarg }
    | 'D' => some { o with dialects := optarg }
    | 'r' => some { o with rate := Text.atoi optarg }
    | 'd' => some { o with duration := Text.atoi optarg }
    | 'i' => some { o with subscriptionID := optarg }
    | _ => none
  else none

/-- The loop over the options. -/
def parse (letters : List Char) (env : Environment) (cl : CommandLine) : Option Options :=
  cl.options.foldlM (fun o (c, optarg) => o.set letters c optarg) (Options.default env)

/-! ## Processes -/

/-- How a program ends: with a status, by `std::terminate`, or anyhow. -/
inductive Ending where
  | exit (status : Nat)
  | terminated
  | undefined
  deriving DecidableEq, Repr

/-- What a program did. -/
structure Process where
  sent : List SoapCall
  ending : Ending
  deriving DecidableEq, Repr

/-- A message on `cerr` and `exit(1)`, before anything is sent. -/
def refused : Process where
  sent := []
  ending := .exit 1

/-- The two `catch` clauses of every program, then what follows them. -/
def Ending.after {α : Type} (e : Result α) (k : α → Ending) : Ending :=
  match e with
  | .returned a => k a
  | .raised (.ce _ _) => .exit 1
  | .raised (.abs _ _) => .exit 1
  | .raised (.std _) => .terminated
  | .unexpected => .terminated
  | .undefined => .undefined

/-- What a program finds outside. `ρ` is the type of its operation's response. -/
structure World (ρ : Type) where
  env : Environment
  integers : FaultIntegers
  authTime : Int
  credentials : String → String → Credentials
  /-- What the response structure of a new `CETopics` happens to hold. -/
  topicResp : Option (List (Option Topic))
  call : Exchange ρ

variable {ρ : Type} (rt : SoapRuntime)

/-- The constructor of the request object authenticates. -/
def World.authenticate (w : World ρ) (o : Options) : Result Unit :=
  CEMonitor.authenticate w.authTime (w.credentials o.certfile o.key) o.certfile o.key

/-- The request object is built, or the program ends. -/
def World.construct (w : World ρ) (o : Options) (k : Process) : Process :=
  match w.authenticate o with
  | .returned _ => k
  | .raised _ => refused
  | .unexpected => { sent := [], ending := .terminated }
  | .undefined => { sent := [], ending := .undefined }

/-- Printing what was received. -/
def printAll {α : Type} (print : α → Result String) : List α → Result Unit
  | [] => .returned ()
  | a :: as => (print a).bind fun _ => printAll print as

/-! ## The programs -/

def geteventLetters : List Char := ['C', 'k', 'T', 'D']

/-- `glite-ce-monitor-getevent`. -/
def getevent (w : World (Option (List (Option Event)))) (cl : CommandLine) : Process :=
  match parse geteventLetters w.env cl with
  | none => refused
  | some opts =>
    match cl.operand with
    | none => refused
    | some url =>
      if opts.topic = "" then refused
      else
        let topic := Topic.new opts.topic
        let topic :=
          if opts.dialects ≠ "" then topic.addDialect (some (Dialect.new opts.dialects)) else topic
        w.construct opts <|
          let serviceURL := checkCEMonURL url
          if serviceURL = "" then refused
          else
            let ceE := CEEvent.new w.integers
            let ceE := { ceE with base := ceE.base.setServiceURL serviceURL }
            let ceE := ceE.setRequestParam (some topic)
            let k := ceE.getTopicEvents rt [] w.call
            { sent := k.sent, ending := .after k.outcome fun _ => .exit 0 }

def getinfoLetters : List Char := ['C', 'k']

/-- `glite-ce-monitor-getinfo`. -/
def getinfo (w : World (Option Info)) (cl : CommandLine) : Process :=
  match parse getinfoLetters w.env cl with
  | none => refused
  | some opts =>
    match cl.operand with
    | none => refused
    | some url =>
      w.construct opts <|
        let serviceURL := checkCEMonURL url
        if serviceURL = "" then refused
        else
          let ceI := CEInfo.new w.integers
          let ceI := { ceI with base := ceI.base.setServiceURL serviceURL }
          let k := ceI.getInfo rt w.call
          { sent := k.sent
            ending := .after k.outcome fun _ =>
              .after ((k.obj.getTopics []).bind fun T => (k.obj.getActions []).bind fun A =>
                (printAll Topic.print T).bind fun _ => printAll Action.print A) fun _ => .exit 0 }

def gettopicsLetters : List Char := ['C', 'k']

/-- `glite-ce-monitor-gettopics`. -/
def gettopics (w : World (Option (List (Option Topic)))) (cl : CommandLine) : Process :=
  match parse gettopicsLetters w.env cl with
  | none => refused
  | some opts =>
    match cl.operand with
    | none => refused
    | some url =>
      w.construct opts <|
        let serviceURL := checkCEMonURL url
        if serviceURL = "" then refused
        else
          let ceT := CETopics.new w.integers w.topicResp
          let ceT := { ceT with base := ceT.base.setServiceURL serviceURL }
          let k := ceT.getTopics rt w.call
          { sent := k.sent
            ending := .after k.outcome fun _ =>
              .after ((k.obj.getTopicArray []).bind fun T => printAll Topic.print T)
                fun _ => .exit 0 }

/-- The loop of `subscribe` that adds the non-empty pieces of `--dialects`. -/
def addDialects (pieces : List String) (T : Topic) : Topic :=
  pieces.foldl (fun T it => if it ≠ "" then T.addDialect (some (Dialect.new it)) else T) T

/-- The policy that `subscribe` asks for: its rate and two actions. -/
def subscribePolicy (rate : Int) : Result Policy :=
  ((Policy.new rate).addAction (Action.new "SendNotification" "" true)).bind
    (Policy.addAction (Action.new "DoNotSendNotification" "" false))

/-- Its two actions are copied on the way to the request without a change. -/
theorem subscribePolicy_bind_setSubscribeParam (rate : Int) (consumer : String) (T : Topic)
    (duration : Int) (o : CESubscription) :
    (subscribePolicy rate).bind (fun P => o.setSubscribeParam consumer T P duration) =
      .returned
        { o with
          consumerURL := consumer
          topic := some T.copy
          policy := some
            { query := none
              action := [some (Action.new "SendNotification" "" true),
                some (Action.new "DoNotSendNotification" "" false)]
              rate := rate }
          duration := duration } := rfl

def subscribeLetters : List Char := ['C', 'k', 'U', 'T', 'D', 'r', 'd']

/-- `glite-ce-monitor-subscribe`. The null dialect that its topic gets when it has been copied is in
`Client.subscribeCall`. -/
def subscribe (w : World (Option SubscriptionRef)) (cl : CommandLine) : Process :=
  match parse subscribeLetters w.env cl with
  | none => refused
  | some opts =>
    match cl.operand with
    | none => refused
    | some url =>
      if opts.consumerURL = "" then refused
      else if opts.topic = "" then refused
      else
        w.construct opts <|
          let serviceURL := checkCEMonURL url
          let ceS := CESubscription.new w.integers
          let ceS := { ceS with base := ceS.base.setServiceURL serviceURL }
          let T := addDialects (Text.split ',' opts.dialects) (Topic.new opts.topic)
          match (subscribePolicy opts.rate).bind fun P =>
              ceS.setSubscribeParam opts.consumerURL T P opts.duration with
          | .returned ceS =>
            let k := ceS.subscribe rt w.call
            { sent := k.sent, ending := .after k.outcome fun _ => .exit 0 }
          | .raised _ => { sent := [], ending := .terminated }
          | .unexpected => { sent := [], ending := .terminated }
          | .undefined => { sent := [], ending := .undefined }

def subupdateLetters : List Char := ['C', 'k', 'U', 'T', 'D', 'r', 'd', 'i']

/-- `glite-ce-monitor-subupdate`. The only dialect is null, whatever `--dialects` says. -/
def subupdate (w : World (Option SubscriptionRef)) (cl : CommandLine) : Process :=
  match parse subupdateLetters w.env cl with
  | none => refused
  | some opts =>
    match cl.operand with
    | none => refused
    | some url =>
      if opts.consumerURL = "" then refused
      else if opts.topic = "" then refused
      else
        w.construct opts <|
          let T := (Topic.new opts.topic).addDialect none
          let P := Policy.new opts.rate
          let newExpiration := w.call.now + opts.duration
          let serviceURL := checkCEMonURL url
          let k := (CESubscriptionMgr.new w.integers).update rt serviceURL opts.subscriptionID
            opts.consumerURL T P newExpiration w.call
          { sent := k.sent, ending := .after k.outcome fun _ => .exit 0 }

def subscriptionIDLetters : List Char := ['C', 'k', 'i']

/-- The common program of `unsubscribe`, `pause` and `resume`; `operation` is the one called. -/
def onSubscription
    (operation : CESubscription → String → Exchange Unit → Call CESubscription Unit)
    (w : World Unit) (cl : CommandLine) : Process :=
  match parse subscriptionIDLetters w.env cl with
  | none => refused
  | some opts =>
    match cl.operand with
    | none => refused
    | some url =>
      if opts.subscriptionID = "" then refused
      else
        w.construct opts <|
          let serviceURL := checkCEMonURL url
          let ceS := CESubscription.new w.integers
          let ceS := { ceS with base := ceS.base.setServiceURL serviceURL }
          let k := operation ceS opts.subscriptionID w.call
          { sent := k.sent, ending := .after k.outcome fun _ => .exit 0 }

/-- `glite-ce-monitor-unsubscribe`. -/
def unsubscribe : World Unit → CommandLine → Process :=
  onSubscription fun ceS subID x => ceS.unsubscribe rt subID x

/-- `glite-ce-monitor-pause`. -/
def pause : World Unit → CommandLine → Process :=
  onSubscription fun ceS subID x => ceS.pause rt subID x

/-- `glite-ce-monitor-resume`. -/
def resume : World Unit → CommandLine → Process :=
  onSubscription fun ceS subID x => ceS.resume rt subID x

def subinfoLetters : List Char := ['C', 'k']

/-- `glite-ce-monitor-subinfo`. -/
def subinfo (w : World (Option (List (Option SubscriptionData)))) (cl : CommandLine) : Process :=
  match parse subinfoLetters w.env cl with
  | none => refused
  | some opts =>
    match cl.operand with
    | none => refused
    | some url =>
      w.construct opts <|
        let serviceURL := checkCEMonURL url
        let k := ((CESubscriptionMgr.new w.integers).list rt serviceURL [] w.call).1
        { sent := k.sent, ending := .after k.outcome fun _ => .exit 0 }

end Commands

/-! ## All nine -/

/-- The client programs. -/
inductive Command where
  | getevent
  | getinfo
  | gettopics
  | subscribe
  | subupdate
  | unsubscribe
  | pause
  | resume
  | subinfo
  deriving DecidableEq, Repr

namespace Command

open Commands

/-- What a program's operation receives. -/
def Response : Command → Type
  | .getevent => Option (List (Option Event))
  | .getinfo => Option Info
  | .gettopics => Option (List (Option Topic))
  | .subscribe => Option SubscriptionRef
  | .subupdate => Option SubscriptionRef
  | .unsubscribe => Unit
  | .pause => Unit
  | .resume => Unit
  | .subinfo => Option (List (Option SubscriptionData))

/-- The options a program accepts. -/
def letters : Command → List Char
  | .getevent => geteventLetters
  | .getinfo => getinfoLetters
  | .gettopics => gettopicsLetters
  | .subscribe => subscribeLetters
  | .subupdate => subupdateLetters
  | .unsubscribe => subscriptionIDLetters
  | .pause => subscriptionIDLetters
  | .resume => subscriptionIDLetters
  | .subinfo => subinfoLetters

/-- The values a program insists on. -/
def mandatory (o : Options) : Command → List String
  | .getevent => [o.topic]
  | .getinfo => []
  | .gettopics => []
  | .subscribe => [o.consumerURL, o.topic]
  | .subupdate => [o.consumerURL, o.topic]
  | .unsubscribe => [o.subscriptionID]
  | .pause => [o.subscriptionID]
  | .resume => [o.subscriptionID]
  | .subinfo => []

/-- Running a program. -/
def exec (rt : SoapRuntime) : (c : Command) → World c.Response → CommandLine → Process
  | .getevent => Commands.getevent rt
  | .getinfo => Commands.getinfo rt
  | .gettopics => Commands.gettopics rt
  | .subscribe => Commands.subscribe rt
  | .subupdate => Commands.subupdate rt
  | .unsubscribe => Commands.unsubscribe rt
  | .pause => Commands.pause rt
  | .resume => Commands.resume rt
  | .subinfo => Commands.subinfo rt

end Command

end CEMonitor
