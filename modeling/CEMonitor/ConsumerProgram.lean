import CEMonitor.Commands
import CEMonitor.Consumer
import CEMonitor.Infra.Files
import CEMonitor.Infra.Run
import CEMonitor.PeerName

/-!
# `glite-ce-monitor-consumer`: the program that waits for notifications

Its options, the loop around `bind`, and the loop that accepts a connection, serves it and dumps
the messages of the notification, to the terminal or to a file named after the client. The
program does not end by itself, so a run is a list of rounds. What is written to `cerr`, and what
the library writes for its own sake, is left out.
-/

namespace CEMonitor

open Infra Commands

namespace ConsumerProgram

/-! ## Options -/

/-- The variables the options are stored in. -/
structure Settings where
  certfile : String
  keyfile : String
  outpath : String
  useout : Bool
  append : Bool
  deriving DecidableEq, Repr

def Settings.default : Settings where
  certfile := ""
  keyfile := ""
  outpath := ""
  useout := false
  append := false

/-- The `switch` on one option; `none` is its `default`, which ends the program. -/
def Settings.set (c : Char) (optarg : String) (o : Settings) : Option Settings :=
  match c with
  | 'A' => some { o with append := true }
  | 'P' => some { o with outpath := optarg, useout := true }
  | 'K' => some { o with keyfile := optarg }
  | 'C' => some { o with certfile := optarg }
  | _ => none

/-- The consumer is given a certificate and a key. -/
def Settings.authn (o : Settings) : Bool := o.keyfile ≠ ""

/-- The loop over the options. -/
def Settings.ofOptions (options : List (Char × String)) : Option Settings :=
  options.foldlM (fun o (c, optarg) => o.set c optarg) Settings.default

/-- What precedes the construction of the consumer: the settings and the port, or `exit(1)`. -/
def configure (cl : CommandLine) : Option (Settings × Int) :=
  (Settings.ofOptions cl.options).bind fun o =>
    match cl.operand with
    | none => none
    | some port =>
      if decide (o.keyfile = "") ≠ decide (o.certfile = "") then none
      else some (o, Text.atoi port)

/-! ## Binding -/

/-- The loop that binds the socket, for what `soap_bind` returns and leaves each time; `none` as
long as it has not succeeded, or when an exception ends the program. -/
def bindLoop (rt : SoapRuntime) : List (Int × Soap) → Listener → Option Listener
  | [], _ => none
  | (localSocket, s) :: rest, l =>
    match l.bind rt localSocket s with
    | (.returned true, l) => some l
    | (.returned false, l) => bindLoop rt rest l
    | (.raised _, _) => none
    | (.unexpected, _) => none
    | (.undefined, _) => none

/-! ## Dumping a notification -/

/-- The terminal and the file that is open. -/
structure Streams where
  stdout : String
  outstream : String

/-- `fprintf(outstream, ...)`, where `outstream` may be the terminal. -/
def Streams.put (useout : Bool) (text : String) (t : Streams) : Streams :=
  if useout then { t with outstream := t.outstream ++ text }
  else { t with stdout := t.stdout ++ text }

/-- What is written of a message, which ends at its first NUL. -/
def messageText (m : String) : String := Text.cStr m ++ "\n\n"

/-- The loop over the messages of event `j`, from message `m` on. -/
def dumpMessages (useout : Bool) (j : Nat) : Nat → List String → Streams → Streams
  | _, [], t => t
  | m, msg :: rest, t =>
    let t := { t with
      stdout := t.stdout ++ "Event #" ++ toString j ++ " - Message #" ++ toString m ++ "\n" }
    dumpMessages useout j (m + 1) rest (t.put useout (messageText msg))

/-- The loop over the events, from event `j` on. -/
def dumpEvents (useout : Bool) : Nat → List Event → Streams → Streams
  | _, [], t => t
  | j, e :: rest, t =>
    let t := { t with
      stdout := t.stdout ++ ">>> Event #" ++ toString j ++ " - Dumping messages: \n\n" }
    dumpEvents useout (j + 1) rest (dumpMessages useout j 0 e.message t)

/-! ## Rounds -/

/-- What a round meets: a peer, the names of its address, a request, the clock's text, and
whether the output file can be opened. -/
structure Round where
  peer : Connection
  hosts : Option (List (Option String))
  request : Request
  ctime : String
  opens : Bool

/-- The connection that `accept` finds; the name comes from `resolveName`. -/
def Round.connection (y : Round) : Connection := { y.peer with hostName := resolveName y.hosts }

/-- The consumer, the file system and the terminal; `i` counts the rounds. -/
structure State where
  listener : Listener
  files : Files String
  stdout : String
  i : Nat

/-- Behind `bind`. -/
def State.start (l : Listener) (files : Files String) : State where
  listener := l
  files := files
  stdout := ""
  i := 1

/-- The file of a client. -/
def Settings.fileout (o : Settings) (clientName : String) : String :=
  o.outpath ++ "/" ++ clientName

/-- The line about a connection that was accepted, with the text of the clock. -/
def State.announce (ctime : String) (d : State) : State :=
  { d with
    i := d.i + 1
    stdout := d.stdout ++ ctime ++ " - " ++ toString d.i ++ ": accepted connection from IP="
      ++ d.listener.consumer.clientIP ++ " (" ++ d.listener.consumer.clientName ++ ")\n" }

/-- What is written of a notification that `serve` has accepted; the first component says how
the program ends, if it does. -/
def dump (o : Settings) (opens : Bool) (clientName : String) (d : State) :
    Option Ending × State :=
  let c := d.listener.consumer
  let stdout := d.stdout ++ "Event Producer=" ++ c.eventProducer ++ "\n"
    ++ "Event ID      =" ++ toString c.eventID ++ "\n"
  -- `getEventTopic()->print()`
  match (Outcome.deref c.topic).bind Topic.print with
  | .returned printed =>
    let stdout := stdout ++ printed
    if o.useout then
      let fileout := o.fileout clientName
      if opens then
        let stdout := stdout ++ "Notification redirected to [" ++ fileout ++ "]\n"
        -- appending starts behind what is there, writing with an empty file
        let held := if o.append then (d.files fileout).getD "" else ""
        let t := dumpEvents true 0 c.events { stdout := stdout, outstream := held }
        (none, { d with
          stdout := t.stdout
          files := Function.update d.files fileout (some t.outstream) })
      else (some (.exit 1), { d with stdout := stdout })
    else
      let t := dumpEvents false 0 c.events { stdout := stdout, outstream := "" }
      (none, { d with stdout := t.stdout })
  | .raised _ => (some .terminated, { d with stdout := stdout })
  | .unexpected => (some .terminated, { d with stdout := stdout })
  | .undefined => (some .undefined, { d with stdout := stdout })

/-- `serve` and what follows it. -/
def receive (rt : SoapRuntime) (o : Settings) (y : Round) (d : State) : Option Ending × State :=
  let clientName := d.listener.consumer.clientName
  let (ret, l) := d.listener.serve rt y.request
  let d := { d with listener := l }
  match ret with
  | .returned false =>
    (none, { d with
      stdout := d.stdout ++ "ErrorCode=[" ++ l.consumer.errorCode ++ "]\n"
        ++ "ErrorMess=[" ++ l.consumer.errorMessage ++ "]\n" })
  | .returned true => dump o y.opens clientName d
  -- nothing is caught
  | .raised _ => (some .terminated, d)
  | .unexpected => (some .terminated, d)
  | .undefined => (some .undefined, d)

/-- One round of the loop. -/
def round (rt : SoapRuntime) (o : Settings) (y : Round) (d : State) : Option Ending × State :=
  let (accepted, l) := d.listener.accept rt y.connection
  let d := { d with
    listener := l
    stdout := d.stdout ++ "Accepting connection ... \n" }
  match accepted with
  | .returned false =>
    (none, { d with
      i := d.i + 1
      stdout := d.stdout ++ "error message=" ++ l.consumer.errorMessage ++ "\n"
        ++ "error code   =" ++ l.consumer.errorCode ++ "\n" })
  | .returned true => receive rt o y (d.announce y.ctime)
  | .raised _ => (some .terminated, d)
  | .unexpected => (some .terminated, d)
  | .undefined => (some .undefined, d)

/-- One round of a run. -/
def step (rt : SoapRuntime) (o : Settings) (y : Round) (d : State) : Option State :=
  match round rt o y d with
  | (none, d) => some d
  | (some _, _) => none

/-- The whole program, as far as the rounds go. -/
def exec (rt : SoapRuntime) (cl : CommandLine) (attempts : List (Int × Soap))
    (files : Files String) (ys : List Round) : Option State :=
  (configure cl).bind fun (o, _) =>
    (bindLoop rt attempts (Listener.new o.authn)).bind fun l =>
      run (step rt o) ys (State.start l files)

end ConsumerProgram

end CEMonitor
