import KcfTools.Lib.Traced
import KcfTools.Backend.ValueCodec
import KcfTools.Model.NetworkInfo

/-! The client of the local Gateway: its queries, the documents it accepts and its worker. A text that
the Gateway escapes byte by byte is a list of bytes. -/

namespace KcfTools.LocalGateway

open Traced

structure LocalGatewayEndpoint where
  identity : RouteEndpointIdentity := {}
  application : RouteEndpointIdentity := {}
  hostName : List UInt8 := []
  applicationName : List UInt8 := []
  elementName : List UInt8 := []
  name : List UInt8 := []
  kind : ℕ := 0
  role : ℕ := 0
  scope : ℕ := 0
  valueType : RemoteTypeIdentity := {}
  requestType : RemoteTypeIdentity := {}
  responseType : RemoteTypeIdentity := {}
  feedbackType : RemoteTypeIdentity := {}
  groups : List (List UInt8) := []
deriving DecidableEq

structure LocalGatewayPeer where
  host : String := ""
  boot : String := ""
  address : String := ""
  state : String := ""
  session : UInt64 := 0
  metadataRevision : UInt64 := 0
  metadataPort : ℕ := 0
  metadataReady : Bool := false
  endpoints : List LocalGatewayEndpoint := []
deriving DecidableEq

inductive LocalGatewayConnection
  | disabled | connecting | ready | error
deriving DecidableEq

structure LocalGatewaySnapshot where
  connection : LocalGatewayConnection := .disabled
  socketPath : String := ""
  state : String := ""
  host : String := ""
  boot : String := ""
  interfaceName : List UInt8 := []
  ipv4 : String := ""
  session : UInt64 := 0
  observedAtUnixMs : UInt64 := 0
  interfaceIndex : ℕ := 0
  error : ℤ := 0
  lastNetworkError : ℤ := 0
  peers : List LocalGatewayPeer := []
deriving DecidableEq

/-- A parsed document. Numbers without sign are unsigned; those out of range are floating point. -/
inductive Json
  | null
  | boolean (b : Bool)
  | signed (n : Int64)
  | unsigned (n : UInt64)
  | float
  | string (s : String)
  | array (items : List Json)
  | object (fields : List (String × Json))

abbrev Code := { code : ℤ // code < 0 }

/-- What leaves a cycle early: a `Failure`, or any other exception. -/
inductive Raised
  | failure (code : Code)
  | other
deriving DecidableEq

def eprotoCode : Code := ⟨-71, by decide⟩
def eproto : Raised := .failure eprotoCode
def einval : Raised := .failure ⟨-22, by decide⟩
def estale : Raised := .failure ⟨-116, by decide⟩

def errnoCode (errno : ℕ+) : Code := ⟨-errno, by have := errno.pos; omega⟩

/-- The Gateway's results are codes in 32 bits. -/
def resultCode (result : UInt32) : Code := ⟨result.toNat - 2 ^ 32, by have := result.toNat_lt; omega⟩

abbrev Parse := Except Raised

def require (b : Bool) : Parse Unit := if b then .ok () else .error eproto

section Scalars

def field (j : Json) (key : String) : Parse Json :=
  match j with
  | .object fields => match fields.find? fun f => f.1 = key with
    | some f => .ok f.2
    | none => .error eproto
  | _ => .error eproto

def string (j : Json) : Parse String :=
  match j with
  | .string s => .ok s
  | _ => .error eproto

def decimal (j : Json) : Parse UInt64 := do
  let s ← string j
  require (s ≠ "" ∧ s.utf8ByteSize ≤ 20)
  match ValueCodec.fromChars false s with
  | .ok n => return UInt64.ofNat n.toNat
  | .error _ => .error eproto

def integer (j : Json) (low high : ℤ) : Parse ℤ :=
  match j with
  | .signed n => if low ≤ n.toInt ∧ n.toInt ≤ high then .ok n.toInt else .error eproto
  | .unsigned n => if low ≤ n.toNat ∧ (n.toNat : ℤ) ≤ high then .ok n.toNat else .error eproto
  | _ => .error eproto

def isHex (c : Char) : Bool := c.isDigit ∨ 'a' ≤ c ∧ c ≤ 'f' ∨ 'A' ≤ c ∧ c ≤ 'F'

def zeroId : String := "00000000000000000000000000000000"

def id (j : Json) (zero : Bool) : Parse String := do
  let s ← string j
  require (s.utf8ByteSize = 32)
  require (s.toList.all isHex)
  let s := s.map Char.toLower
  require (zero || s ≠ zeroId)
  return s

/-- Each metadata byte is escaped as one character below U+0100. -/
def unescape : List UInt8 → Parse (List UInt8)
  | [] => .ok []
  | c :: rest =>
    if c < 128 then do return c :: (← unescape rest)
    else if c = 0xc2 ∨ c = 0xc3 then
      match rest with
      | [] => .error eproto
      | next :: rest =>
        if 0x80 ≤ next ∧ next ≤ 0xbf then do return ((c &&& 3) <<< 6 ||| (next &&& 63)) :: (← unescape rest)
        else .error eproto
    else .error eproto

def text (j : Json) : Parse (List UInt8) := do
  let s ← string j
  require (s.utf8ByteSize ≤ 8192)
  unescape s.toUTF8.toList

def boolean (j : Json) : Parse Bool :=
  match j with
  | .boolean b => .ok b
  | _ => .error eproto

def array (j : Json) (limit : ℕ) : Parse (List Json) :=
  match j with
  | .array items => if items.length ≤ limit then .ok items else .error eproto
  | _ => .error eproto

end Scalars

/-- An application may be absent, and is all zero then. -/
def runtime (j : Json) (application : Bool) : Parse RouteEndpointIdentity := do
  let host ← id (← field j "host") application
  let boot ← id (← field j "boot") application
  let pid ← integer (← field j "pid") (if application then 0 else 1) (2 ^ 31 - 1)
  let startTicks ← decimal (← field j "start_ticks")
  if pid = 0 then require (host = zeroId ∧ boot = zeroId ∧ startTicks = 0)
  else require (startTicks ≠ 0 ∧ host ≠ zeroId ∧ boot ≠ zeroId)
  return { hostId := host, bootId := boot, pid := Int32.ofInt pid, startTicks := startTicks }

def type (j : Json) : Parse RemoteTypeIdentity := do
  let typeId ← decimal (← field j "type_id")
  let schemaId ← decimal (← field j "schema_id")
  let encodingId ← integer (← field j "encoding_id") 0 (2 ^ 32 - 1)
  let payloadSize ← integer (← field j "payload_size") 0 (2 ^ 32 - 1)
  return ⟨typeId, schemaId, UInt32.ofNat encodingId.toNat, UInt32.ofNat payloadSize.toNat⟩

variable (inetPton : String → Bool)

abbrev Fill := Prog Unit LocalGatewaySnapshot Raised

def parse {α : Type} (p : Parse α) : Fill α := fun _ s => (p, s)

def assign (f : LocalGatewaySnapshot → LocalGatewaySnapshot) : Fill Unit := modifyState f

def states : List String := ["WAITING_NETWORK", "REBINDING", "RUNNING", "ERROR"]

/-- A document that is refused leaves the snapshot filled up to the refused field. -/
def status (j : Json) : Fill Unit := do
  let state ← parse (field j "state" >>= string)
  assign fun s => { s with state := state }
  parse (require (state ∈ states))
  let host ← parse (field j "host" >>= fun h => id h false)
  assign fun s => { s with host := host }
  let boot ← parse (field j "boot" >>= fun b => id b false)
  assign fun s => { s with boot := boot }
  let session ← parse (field j "session" >>= decimal)
  assign fun s => { s with session := session }
  let interfaceName ← parse (field j "interface" >>= text)
  assign fun s => { s with interfaceName := interfaceName }
  let ipv4 ← parse (field j "ipv4" >>= string)
  assign fun s => { s with ipv4 := ipv4 }
  let index ← parse (field j "interface_index" >>= fun i => integer i 0 (2 ^ 32 - 1))
  assign fun s => { s with interfaceIndex := index.toNat }
  let error ← parse (field j "last_error" >>= fun e => integer e (-2 ^ 31) 0)
  assign fun s => { s with lastNetworkError := error }
  parse (require (ipv4 = "" ∨ inetPton ipv4))
  if state = "RUNNING" then
    parse (require (session ≠ 0 ∧ interfaceName ≠ [] ∧ ipv4 ≠ "" ∧ index ≠ 0))

def identityText (e : RouteEndpointIdentity) : String :=
  toString e.pid ++ ":" ++ toString e.startTicks ++ ":" ++ toString e.registrationId

/-- `seen` are the identities of the peer's endpoints so far. -/
def endpoint (host boot : String) (seen : List String) (e : Json) : Parse LocalGatewayEndpoint := do
  let identity ← runtime (← field e "runtime") false
  let registrationId ← decimal (← field e "registration_id")
  let identity := { identity with registrationId := registrationId }
  require (registrationId ≠ 0 ∧ identity.hostId = host ∧ identity.bootId = boot)
  require (identityText identity ∉ seen)
  let application ← runtime (← field e "application") true
  let hostName ← text (← field e "host_name")
  let applicationName ← text (← field e "application_name")
  let elementName ← text (← field e "element_name")
  let name ← text (← field e "name")
  require (name.head? = some 47)
  let kind ← integer (← field e "kind") 1 4
  let role ← integer (← field e "role") 1 2
  let scope ← integer (← field e "scope") 0 1
  let valueType ← type (← field e "value_type")
  let requestType ← type (← field e "request_type")
  let responseType ← type (← field e "response_type")
  let feedbackType ← type (← field e "feedback_type")
  let groups ← array (← field e "groups") 64
  let groups ← groups.mapM text
  return {
    identity := identity, application := application, hostName := hostName
    applicationName := applicationName, elementName := elementName, name := name
    kind := kind.toNat, role := role.toNat, scope := scope.toNat
    valueType := valueType, requestType := requestType, responseType := responseType
    feedbackType := feedbackType, groups := groups }

def addEndpoint (host boot : String) (out : List LocalGatewayEndpoint) (e : Json) :
    Parse (List LocalGatewayEndpoint) := do
  let v ← endpoint host boot (out.map fun o => identityText o.identity) e
  return out ++ [v]

def addPeer (out : List LocalGatewayPeer) (p : Json) : Parse (List LocalGatewayPeer) := do
  let host ← id (← field p "host") false
  require (host ∉ out.map LocalGatewayPeer.host)
  let boot ← id (← field p "boot") false
  let session ← decimal (← field p "session")
  require (session ≠ 0)
  let state ← string (← field p "state")
  require (state = "ONLINE" ∨ state = "LOST")
  let address ← string (← field p "address")
  require (inetPton address)
  let port ← integer (← field p "metadata_port") 1 65535
  let revision ← decimal (← field p "metadata_revision")
  let ready ← boolean (← field p "metadata_ready")
  let endpoints ← array (← field p "endpoints") 64
  let endpoints ← endpoints.foldlM (addEndpoint host boot) []
  return out ++ [{
    host := host, boot := boot, address := address, state := state, session := session
    metadataRevision := revision, metadataPort := port.toNat, metadataReady := ready
    endpoints := endpoints }]

def peers (j : Json) : Parse (List LocalGatewayPeer) := do
  let list ← array (← field j "peers") 64
  list.foldlM (addPeer inetPton) []

section Query

structure Header where
  length : UInt32
  magic : UInt32
  version : UInt16
  reserved : UInt8
  op : UInt8
  result : UInt32

/-- The body of an answer: its transfer fails, it is no JSON, it is nested too deep, or it is read. -/
inductive Body
  | cut (errno : ℕ+)
  | invalid
  | tooDeep
  | document (j : Json)

/-- One connection: some system call fails, or a header comes back. -/
inductive Exchange
  | failed (errno : ℕ+)
  | answered (header : Header) (body : Body)

def maxBody : UInt32 := 1024 * 1024

def query (path : String) (op : UInt8) (x : Exchange) : Parse Json :=
  if path = "" ∨ 108 ≤ path.utf8ByteSize ∨ path.toList.contains (Char.ofNat 0) then .error einval
  else match x with
    | .failed errno => .error (.failure (errnoCode errno))
    | .answered header body => do
      require (header.length ≤ maxBody ∧ header.magic = 0x4b43464c ∧ header.version = 1 ∧
        header.reserved = 0 ∧ header.op = op)
      if header.result ≠ 0 then
        require (0x80000000 ≤ header.result ∧ header.length = 0)
        .error (.failure (resultCode header.result))
      else
        require (0 < header.length)
        match body with
        | .cut errno => .error (.failure (errnoCode errno))
        | .invalid => .error .other
        | .tooDeep => .error eproto
        | .document j => .ok j

end Query

/-- The answers that one cycle gets, and the system clock at its end, which has left the epoch. -/
structure Answers where
  first : Exchange
  peers : Exchange
  second : Exchange
  now : UInt64
  started : now ≠ 0

structure Locals where
  next : LocalGatewaySnapshot := {}
  after : LocalGatewaySnapshot := {}

abbrev Cycle := Prog Answers Locals Raised

def lift {α : Type} (p : Parse α) : Cycle α := fun _ l => (p, l)

def onNext (p : Fill Unit) : Cycle Unit := fun _ l =>
  ((p () l.next).1, { l with next := (p () l.next).2 })

def onAfter (p : Fill Unit) : Cycle Unit := fun _ l =>
  ((p () l.after).1, { l with after := (p () l.after).2 })

/-- The host, its boot, its session and its state, which must not change around the peers. -/
def sameGateway (a b : LocalGatewaySnapshot) : Bool :=
  a.host = b.host ∧ a.boot = b.boot ∧ a.session = b.session ∧ a.state = b.state

def attempt (path : String) : Cycle Unit := do
  let answers ← read
  let first ← lift (query path 1 answers.first)
  onNext (status inetPton first)
  let list ← lift (query path 2 answers.peers >>= peers inetPton)
  let second ← lift (query path 1 answers.second)
  onAfter (status inetPton second)
  let l ← getState
  if ¬ sameGateway l.next l.after then fail estale
  else modifyState fun l => { l with
    next := { l.after with
      socketPath := path, peers := list, connection := .ready, observedAtUnixMs := answers.now } }

def failed (path : String) (code : Code) : LocalGatewaySnapshot :=
  { socketPath := path, connection := .error, error := code }

/-- The snapshot of one cycle. -/
def cycle (path : String) (answers : Answers) : LocalGatewaySnapshot :=
  match attempt inetPton path answers { next := { socketPath := path } } with
  | (.ok (), l) => l.next
  | (.error (.failure code), _) => failed path code
  | (.error .other, _) => failed path eprotoCode

/-- The worker is at the head of its loop, in a cycle, at the lock with a snapshot, waits, or has
returned. -/
inductive Worker
  | head
  | querying
  | publishing (answers : Answers) (next : LocalGatewaySnapshot)
  | resting
  | ended

/-- `stopped` says that `Stop` has returned; `log` holds the published snapshots with the answers they
were made from, which the code does not keep. -/
structure LocalGatewayClient where
  path : String
  snapshot : LocalGatewaySnapshot
  stop : Bool := false
  worker : Worker := .head
  stopped : Bool := false
  log : List (Answers × LocalGatewaySnapshot) := []

def create (path : String) : LocalGatewayClient where
  path := path
  snapshot := { socketPath := path, connection := .connecting }

def disabled (path : String) : LocalGatewaySnapshot := { socketPath := path }

/-- A step of the worker, the start of `Stop`, and its end, for which the worker must have returned. -/
inductive Event
  | work (answers : Answers)
  | requestStop
  | finishStop

def work (c : LocalGatewayClient) (answers : Answers) : LocalGatewayClient :=
  match c.worker with
  | .head => { c with worker := if c.stop then .ended else .querying }
  | .querying => { c with worker := .publishing answers (cycle inetPton c.path answers) }
  | .publishing answers next =>
    if c.stop then { c with worker := .ended }
    else { c with snapshot := next, worker := .resting, log := c.log ++ [(answers, next)] }
  | .resting => { c with worker := .head }
  | .ended => c

def finishStop (c : LocalGatewayClient) : LocalGatewayClient :=
  match c.stop, c.worker with
  | true, .ended => { c with snapshot := disabled c.path, stopped := true }
  | _, _ => c

def step (c : LocalGatewayClient) : Event → LocalGatewayClient
  | .work answers => work inetPton c answers
  | .requestStop => { c with stop := true }
  | .finishStop => finishStop c

def run (path : String) (events : List Event) : LocalGatewayClient :=
  events.foldl (step inetPton) (create path)

end KcfTools.LocalGateway
