import KcfTools.Backend.ControlGate

/-! The network of the backend: the observer that takes the commands, the observers before it, and the thread
that stops one and starts another. -/

namespace KcfTools

namespace KcfNetwork

def ealready : ℤ := -114

structure NetworkOptions where
  interfaceAddress : String := "0.0.0.0"
  port : UInt16 := 37651
  hostId : String := ""
deriving DecidableEq

end KcfNetwork

/-- `observers` are all that were made so far, `network` is the one that takes the commands, and `nextHandle`
is the last handle that the process has given out. -/
structure KcfNetwork where
  networkOptions : KcfNetwork.NetworkOptions := {}
  observers : List ControlGate.Observer := []
  network : Option ℕ := none
  nextHandle : ℕ := 0

namespace KcfNetwork

open ControlGate (Observer)

/-- A future is ready at once, or a call of an observer's executor answers it. -/
inductive Future
  | ready (r : RemoteReply)
  | call (i n : ℕ)

/-- Where `ConfigureNetwork` stands: `joining` waits for the end of the old observer's thread. -/
inductive Stage
  | stopping
  | joining (old : Option ℕ)
  | storing
  | starting
  | returned (code : ℤ)
deriving DecidableEq

structure Configuration where
  options : NetworkOptions
  enabled : Bool
  stage : Stage := .stopping
deriving DecidableEq

variable (texts : ValueCodec.Texts) (b : KcfNetwork)

def connected : Option (ℕ × Observer) := b.network.bind fun i => (b.observers[i]?).map fun o => (i, o)

def executor (i : ℕ) : Option RemoteExecutor := (b.observers[i]?).bind Observer.executor

/-- The thread of a new observer may fail to start. -/
def startNetwork (options : NetworkOptions) (made : Bool) : ℤ × KcfNetwork :=
  if b.network.isSome then (ealready, b)
  else if made then
    (0, { b with
      networkOptions := options, observers := b.observers ++ [{ hostId := options.hostId }]
      network := some b.observers.length })
  else (eagain, { b with networkOptions := options })

def getNetworkSnapshot : NetworkSnapshot :=
  match connected b with
  | none => {}
  | some (_, o) => o.snapshot

def submitRemote (c : RemoteCommand) : Future × KcfNetwork :=
  match connected b with
  | none => (.ready (remoteUnavailable ControlGate.enotconn), b)
  | some (i, o) => match ControlGate.submit o c with
    | .inl r => (.ready r, b)
    | .inr e =>
      (.call i (o.executor.getD {}).tickets,
        { b with observers := b.observers.set i { o with executor := some e } })

def joined : Option ℕ → Bool
  | none => true
  | some i => (b.observers[i]?).all fun o => match o.phase with
    | .ended => true
    | _ => false

/-- The next step of `ConfigureNetwork`. -/
def advance (c : Configuration) (made : Bool) : Configuration × KcfNetwork :=
  match c.stage with
  | .stopping => ({ c with stage := .joining b.network }, { b with network := none })
  | .joining old => if joined b old then ({ c with stage := .storing }, b) else (c, b)
  | .storing =>
    ({ c with stage := if c.enabled then .starting else .returned 0 }, { b with networkOptions := c.options })
  | .starting =>
    let (code, b) := startNetwork b c.options made
    ({ c with stage := .returned code }, b)
  | .returned _ => (c, b)

/-- The observer that is being destroyed. -/
def Configuration.leaving (c : Configuration) : Option ℕ :=
  match c.stage with
  | .joining old => old
  | _ => none

/-- An observer is told to end when it is destroyed; its executor also ends with the loop of the thread. -/
def Allowed (leaving : Option ℕ) (i : ℕ) (o : Observer) : ControlGate.Event → Bool
  | .leave => leaving = some i
  | .stop => leaving = some i || match o.phase with
    | .leaving => true
    | .failing => true
    | _ => false
  | .submit _ => false
  | _ => true

def lend (n : ℕ) (o : Observer) : Observer :=
  { o with executor := o.executor.map fun e => { e with runtime := { e.runtime with nextHandle := n } } }

/-- One turn of the threads of an observer. All executors count their handles together. -/
def turn (leaving : Option ℕ) (i : ℕ) (t : ControlGate.Event) : KcfNetwork :=
  match b.observers[i]? with
  | none => b
  | some o =>
    if Allowed leaving i o t then
      match t with
      | .work f =>
        let o := ControlGate.step texts (lend b.nextHandle o) (.work f)
        { b with
          observers := b.observers.set i o
          nextHandle := (o.executor.map fun e => e.runtime.nextHandle).getD b.nextHandle }
      | t => { b with observers := b.observers.set i (ControlGate.step texts o t) }
    else b

end KcfNetwork

end KcfTools
