import KcfTools.Backend.KcfNetwork
import KcfTools.Ui.RemoteWorkspace

/-! The remote tabs over the network of the backend, with every turn of the threads in between and through
every change of the network settings. -/

namespace KcfTools.RemoteSystem

open RemoteWorkspace (Workspace Pending)
open KcfNetwork (NetworkOptions Configuration Future)

/-- What the widgets of the network settings show. -/
structure Settings where
  options : NetworkOptions := {}
  enabled : Bool := false

/-- `futures` are those of the commands that have been submitted. During a tick, `checking` holds the requests
that it has still to look at. `taken` is the history of the settings that were put into force, the latest
first; the code keeps no such record. -/
structure System where
  ui : Workspace := {}
  backend : KcfNetwork := {}
  settings : Settings := {}
  configuration : Option Configuration := none
  futures : List Future := []
  checking : Option (List Pending) := none
  taken : List Settings := []

variable (texts : ValueCodec.Texts) (s : System)

def leaving : Option ℕ := s.configuration.bind Configuration.leaving

def reply (log : List RemoteExecutor.Notice) (ticket : ℕ) : Option RemoteReply :=
  log.findSome? fun n => match n with
    | .answered t r => if t = ticket then some r else none
    | _ => none

def answer : Future → Option RemoteReply
  | .ready r => some r
  | .call i n => (s.backend.executor i).bind fun e => reply e.log n

/-- The requests that are ready. -/
def ready (ticket : ℕ) : Option RemoteReply := (s.futures[ticket]?).bind (answer s)

/-- The command that the workspace is submitting. -/
def submitting : Option RemoteCommand := s.ui.sent[s.futures.length]?

def submit (c : RemoteCommand) : System :=
  let (future, backend) := s.backend.submitRemote c
  { s with backend := backend, futures := s.futures ++ [future] }

/-- The workspace has done something; a new epoch is a new configuration of the network. -/
def shows (ui : Workspace) : System :=
  if ui.epoch = s.ui.epoch then { s with ui := ui }
  else
    let settings : Settings := { s.settings with enabled := !ui.configurationShutdown && s.settings.enabled }
    { s with
      ui := ui, configuration := some { options := settings.options, enabled := settings.enabled }
      taken := settings :: s.taken }

def returned : Bool :=
  match s.configuration with
  | some ⟨_, _, .returned _⟩ => true
  | _ => false

/-- The part of a tick before the replies. -/
def beginTick : System :=
  let input : RemoteWorkspace.TickInput :=
    { snapshot := s.backend.getNetworkSnapshot, configured := returned s }
  let s := if returned s then { s with configuration := none } else s
  if s.ui.configuring ∧ input.configured ∧ s.ui.closing then shows s (RemoteWorkspace.tick s.ui input)
  else
    let ui := RemoteWorkspace.refresh (RemoteWorkspace.configured s.ui input) input
    { s with ui := ui, checking := some ui.pending }

def check : System :=
  match s.checking with
  | some (entry :: rest) =>
    { s with ui := RemoteWorkspace.receiveReady (ready s) s.ui entry, checking := some rest }
  | _ => s

/-- The part of a tick after the replies. -/
def finishTick : System :=
  match s.checking with
  | some [] =>
    { s with
      ui := RemoteWorkspace.enable (RemoteWorkspace.poll (RemoteWorkspace.pollReply s.ui (ready s)))
      checking := none }
  | _ => s

/-- The Host ID of a change of the settings is read from its field. -/
def read (e : RemoteWorkspace.Event) : RemoteWorkspace.Event :=
  match e with
  | .apply _ => .apply s.settings.options.hostId
  | e => e

def busy : Bool := (submitting s).isSome || s.checking.isSome

/-- A click is any event of the workspace but a tick. -/
inductive Event
  | click (e : RemoteWorkspace.Event)
  | edit (settings : Settings)
  | tick
  | check
  | finish
  | send
  | turn (i : ℕ) (t : ControlGate.Event)
  | configure (made : Bool)

/-- While a command is being submitted, the workspace waits for the call to return. -/
def next : Event → System
  | .click e => if busy s ∨ e.isTick then s else shows s (RemoteWorkspace.step s.ui (read s e))
  | .edit settings => if busy s ∨ s.ui.question.isSome then s else { s with settings := settings }
  | .tick => if busy s then s else beginTick s
  | .check => if (submitting s).isSome then s else check s
  | .finish => if (submitting s).isSome then s else finishTick s
  | .send => match submitting s with
    | none => s
    | some c => submit s c
  | .turn i t => { s with backend := s.backend.turn texts (leaving s) i t }
  | .configure made => match s.configuration with
    | none => s
    | some c =>
      let (c, backend) := s.backend.advance c made
      { s with backend := backend, configuration := some c }

/-- What the widgets show at the start. -/
def shown (b : KcfNetwork) : Settings :=
  let snapshot := b.getNetworkSnapshot
  { options := b.networkOptions
    enabled := snapshot.observerHost ≠ "" ∨ ¬ "disabled".toList <:+: snapshot.status.toList }

/-- The network that the program begins with, if any, and the turns of its threads before the window opens. -/
structure Opening where
  network : Option NetworkOptions := none
  made : Bool := true
  turns : List ControlGate.Event := []

def open_ (o : Opening) : KcfNetwork :=
  match o.network with
  | none => {}
  | some options =>
    o.turns.foldl (fun b t => b.turn texts none 0 t) (KcfNetwork.startNetwork {} options o.made).2

def initial (o : Opening) : System :=
  let b := open_ texts o
  { backend := b, settings := shown b
    taken := [{ options := o.network.getD {}, enabled := o.network.isSome }] }

/-- The constructor of the workspace ends with a tick. -/
def start (o : Opening) : System := beginTick (initial texts o)

def run (o : Opening) (events : List Event) : System := events.foldl (next texts) (start texts o)

end KcfTools.RemoteSystem
