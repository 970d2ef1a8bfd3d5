import KcfTools.Lib.Traced
import KcfTools.Backend.ValueCodec

/-! The operations of the backend on a cached endpoint, with the framework calls they make. -/

namespace KcfTools.KcfBackend

open Traced ValueCodec

inductive ProcessState
  | stopped | starting | running | stopping | error | unknown
deriving DecidableEq

inductive ApplicationState
  | initializing | running | error | resetting | shuttingDown | stopped | unknown
deriving DecidableEq

inductive ExecutionMode
  | standalone | supervised
deriving DecidableEq

structure RuntimeInfo where
  pid : Int32 := 0
  processStartTicks : UInt64 := 0
  executable : String := ""
  state : ProcessState := .stopped
  runtimeError : Int32 := 0
  executionMode : ExecutionMode := .standalone
deriving DecidableEq

structure SupervisedElement where
  name : String := ""
  pid : Int32 := 0
  processStartTicks : UInt64 := 0
deriving DecidableEq

structure SupervisorInfo where
  applicationName : String := ""
  applicationState : ApplicationState := .initializing
  pid : Int32 := 0
  processStartTicks : UInt64 := 0
  revision : UInt64 := 0
  elements : List SupervisedElement := []
deriving DecidableEq

inductive EndpointKind
  | topic | parameter | other
deriving DecidableEq

inductive EndpointRole
  | publisher | subscriber | parameterOwner | parameterClient
deriving DecidableEq

structure EndpointInfo where
  registrationId : UInt64 := 0
  kind : EndpointKind := .topic
  role : EndpointRole := .publisher
  name : String := ""
  typeId : UInt64 := 0
  payloadSize : UInt64 := 0
  diagnosticTypeName : String := ""
deriving DecidableEq

/-- A service as the framework lists it. -/
structure ListedService where
  registrationId : UInt64 := 0
  name : String := ""
  port : UInt16 := 0
  serviceId : UInt16 := 0
  requestSize : UInt32 := 0
  responseSize : UInt32 := 0
  requestTypeId : UInt64 := 0
  responseTypeId : UInt64 := 0
  diagnosticRequestTypeName : String := ""
  diagnosticResponseTypeName : String := ""
deriving DecidableEq

inductive Fault
  | code (c : Failure)
  | badAlloc
  | exception
deriving DecidableEq

def enoent : Fault := .code ⟨-2, by decide⟩
def esrch : Fault := .code ⟨-3, by decide⟩
def eperm : Fault := .code ⟨-1, by decide⟩
def estale : Fault := .code ⟨-116, by decide⟩

/-- `Guard`: exceptions become error codes. -/
def Fault.guard : Fault → Failure
  | code c => c
  | badAlloc => ⟨-12, by decide⟩
  | exception => ⟨-5, by decide⟩

abbrev Outcome := Except Fault

inductive Action
  | listSupervisors (result : Outcome (List SupervisorInfo))
  | listRuntimes (result : Outcome (List RuntimeInfo))
  | listEndpoints (runtime : RuntimeInfo) (result : Outcome (List EndpointInfo))
  | listServices (runtime : RuntimeInfo) (result : Outcome (List ListedService))
  | getType (runtime : RuntimeInfo) (id : UInt64)
  | pidfdOpen (pid : Int32)
  | openTopic (name : String)
  | openParameter (name : String)
  | openService (port serviceId : UInt16)
  | readLatest
  | getParameter
  | setParameter (bytes : DynamicPayload)
  | callService (bytes : DynamicPayload)

/-- The framework. Call number `n` of an operation takes place at `moment n`, and anything may happen
between two calls. -/
structure World where
  moment : ℕ → ℕ
  increasing : StrictMono moment
  listSupervisors : ℕ → Outcome (List SupervisorInfo) := fun _ => .ok []
  listRuntimes : ℕ → Outcome (List RuntimeInfo) := fun _ => .ok []
  listEndpoints : ℕ → RuntimeInfo → Outcome (List EndpointInfo)
  listServices : ℕ → RuntimeInfo → Outcome (List ListedService)
  getType : ℕ → RuntimeInfo → UInt64 → Outcome TypeDescriptor
  pidfdOpen : ℕ → Int32 → Outcome Unit
  openTopic : ℕ → String → TypeDescriptor → Outcome Unit
  openParameter : ℕ → String → TypeDescriptor → Outcome Unit
  openService : ℕ → UInt16 → UInt16 → TypeDescriptor → TypeDescriptor → UInt32 → UInt32 → Outcome Unit
  readLatest : ℕ → Outcome DynamicPayload
  getParameter : ℕ → Outcome DynamicPayload
  setParameter : ℕ → DynamicPayload → Outcome Unit
  callService : ℕ → DynamicPayload → Outcome DynamicPayload

abbrev Op := Prog World (List Action) Fault

def ask {α : Type} (call : World → ℕ → Outcome α) (action : Action) : Op α :=
  act fun w n => (call w (w.moment n), action)

def lift {α : Type} : Except Failure α → Op α
  | .ok a => pure a
  | .error c => fail (.code c)

structure Record (T : Type) where
  model : T
  runtime : RuntimeInfo
deriving DecidableEq

def find {T : Type} (identity : T → EndpointIdentity) (records : List (Record T)) (id : EndpointIdentity) :
    Option (Record T) :=
  records.find? fun r => identity r.model = id

def discoveryError (e : Fault) : Fault := if e = enoent ∨ e = esrch then estale else e

/-- What a topic or parameter record says about its registration. -/
structure Cached where
  identity : EndpointIdentity
  runtime : RuntimeInfo
  name : String
  typeId : UInt64
  payloadSize : UInt64

def sameRuntime (id : RuntimeIdentity) (runtime : RuntimeInfo) : Bool :=
  id.pid = runtime.pid ∧ id.processStartTicks = runtime.processStartTicks

def sameEndpoint (cached : Cached) (kind : EndpointKind) (role : EndpointRole) (e : EndpointInfo) : Bool :=
  e.kind = kind ∧ e.role = role ∧ cached.name = e.name ∧ cached.typeId = e.typeId ∧
    cached.payloadSize = e.payloadSize

/-- One listing, in which the first entry with the cached registration id must be the same. -/
def listingCheck {E : Type} (listing : World → ℕ → Outcome (List E)) (log : Outcome (List E) → Action)
    (registrationId : E → UInt64) (same : E → Bool) (id : UInt64) : Op Unit := do
  let current ← act fun w n =>
    ((listing w (w.moment n)).mapError discoveryError, log (listing w (w.moment n)))
  match current.find? fun e => registrationId e = id with
  | some e => if same e then pure () else fail estale
  | none => fail estale

def validateEndpoint (cached : Cached) (kind : EndpointKind) (role : EndpointRole) : Op Unit :=
  if ¬ sameRuntime cached.identity.runtime cached.runtime then fail estale
  else listingCheck (fun w t => w.listEndpoints t cached.runtime) (.listEndpoints cached.runtime)
    EndpointInfo.registrationId (sameEndpoint cached kind role) cached.identity.registrationId

def topicCached (record : Record TopicInfo) : Cached :=
  ⟨record.model.identity, record.runtime, record.model.name, record.model.typeId,
    record.model.payloadSize⟩

def parameterCached (record : Record ParameterInfo) : Cached :=
  ⟨record.model.identity, record.runtime, record.model.name, record.model.typeId,
    record.model.payloadSize⟩

def topicRole (role : String) : EndpointRole := if role = "PUBLISHER" then .publisher else .subscriber

def validateTopic (record : Record TopicInfo) : Op Unit :=
  if record.model.role ≠ "PUBLISHER" ∧ record.model.role ≠ "SUBSCRIBER" then fail estale
  else validateEndpoint (topicCached record) .topic (topicRole record.model.role)

def parameterRole (role : String) : EndpointRole :=
  if role = "OWNER" then .parameterOwner else .parameterClient

def validateParameter (record : Record ParameterInfo) : Op Unit :=
  if record.model.role ≠ "OWNER" ∧ record.model.role ≠ "CLIENT" then fail estale
  else validateEndpoint (parameterCached record) .parameter (parameterRole record.model.role)

def sameService (cached : ServiceInfo) (s : ListedService) : Bool :=
  cached.name = s.name ∧ cached.port = s.port ∧ cached.serviceId = s.serviceId ∧
    cached.requestTypeId = s.requestTypeId ∧ cached.responseTypeId = s.responseTypeId ∧
    cached.requestSize = s.requestSize ∧ cached.responseSize = s.responseSize

def validateService (record : Record ServiceInfo) : Op Unit :=
  if ¬ sameRuntime record.model.identity.runtime record.runtime then fail estale
  else listingCheck (fun w t => w.listServices t record.runtime) (.listServices record.runtime)
    ListedService.registrationId (sameService record.model) record.model.identity.registrationId

variable (texts : Texts)

def type (runtime : RuntimeInfo) (id : UInt64) (size : ℕ) : Op TypeDescriptor :=
  if id = 0 then fail (.code enotsup)
  else do
    let d ← ask (fun w t => w.getType t runtime id) (.getType runtime id)
    if d.typeId = id ∧ d.payloadSize = size ∧ texts.validateTypeDescriptor d then return d
    else fail (.code eprototype)

def openTopic (name : String) (d : TypeDescriptor) : Op Unit :=
  ask (fun w t => w.openTopic t name d) (.openTopic name)

def openParameter (name : String) (d : TypeDescriptor) : Op Unit :=
  ask (fun w t => w.openParameter t name d) (.openParameter name)

def topicType (record : Record TopicInfo) : Op TypeDescriptor :=
  type texts record.runtime record.model.typeId record.model.payloadSize.toNat

def parameterType (record : Record ParameterInfo) : Op TypeDescriptor :=
  type texts record.runtime record.model.typeId record.model.payloadSize.toNat

structure PreparedTopic where
  identity : EndpointIdentity
  descriptor : TypeDescriptor
deriving DecidableEq

def prepareTopic (topics : List (Record TopicInfo)) (id : EndpointIdentity) : Op PreparedTopic :=
  match find TopicInfo.identity topics id with
  | none => fail enoent
  | some record =>
    if record.model.role ≠ "PUBLISHER" then fail (.code enotsup)
    else do
      validateTopic record
      ask (fun w t => w.pidfdOpen t id.runtime.pid) (.pidfdOpen id.runtime.pid)
      let d ← topicType texts record
      openTopic record.model.name d
      validateTopic record
      return ⟨id, d⟩

def readLatest (topics : List (Record TopicInfo)) (id : EndpointIdentity) : Op DataSnapshot :=
  match find TopicInfo.identity topics id with
  | none => fail enoent
  | some record => do
    validateTopic record
    let d ← topicType texts record
    openTopic record.model.name d
    validateTopic record
    let bytes ← ask (fun w t => w.readLatest t) .readLatest
    lift (decode texts d bytes)

def getValue (parameters : List (Record ParameterInfo)) (id : EndpointIdentity) : Op DataSnapshot :=
  match find ParameterInfo.identity parameters id with
  | none => fail enoent
  | some record => do
    validateParameter record
    let d ← parameterType texts record
    openParameter record.model.name d
    validateParameter record
    let bytes ← ask (fun w t => w.getParameter t) .getParameter
    lift (decode texts d bytes)

def setValue (parameters : List (Record ParameterInfo)) (id : EndpointIdentity) (value : DataSnapshot) :
    Op Unit :=
  match find ParameterInfo.identity parameters id with
  | none => fail enoent
  | some record =>
    if record.model.typeId = 0 then fail (.code enotsup)
    else if ¬ record.model.writable then fail eperm
    else do
      let d ← parameterType texts record
      let _ ← lift (encode texts d value none)
      validateParameter record
      openParameter record.model.name d
      let seed ← ask (fun w t => w.getParameter t) .getParameter
      let bytes ← lift (encode texts d value (some seed))
      validateParameter record
      ask (fun w t => w.setParameter t bytes) (.setParameter bytes)

def callValue (services : List (Record ServiceInfo)) (id : EndpointIdentity) (request : DataSnapshot)
    (timeout retries : UInt32) : Op DataSnapshot :=
  match find ServiceInfo.identity services id with
  | none => fail enoent
  | some record => do
    let s := record.model
    let req ← type texts record.runtime s.requestTypeId s.requestSize.toNat
    let res ← type texts record.runtime s.responseTypeId s.responseSize.toNat
    let bytes ← lift (encode texts req request none)
    validateService record
    ask (fun w t => w.openService t s.port s.serviceId req res timeout retries)
      (.openService s.port s.serviceId)
    validateService record
    let response ← ask (fun w t => w.callService t bytes) (.callService bytes)
    lift (decode texts res response)

/-- The returned code and the caller's output variable after the call. -/
def withOutput (r : Outcome DataSnapshot) (output : DataSnapshot) : ℤ × DataSnapshot :=
  match r with
  | .ok value => (0, value)
  | .error e => (e.guard.val, output)

def withCode {α : Type} (r : Outcome α) : ℤ :=
  match r with
  | .ok _ => 0
  | .error e => e.guard.val

variable (w : World)

/-- The code and the echo session afterwards; an earlier session is closed first. -/
def startTopicEcho (topics : List (Record TopicInfo)) (id : EndpointIdentity) :
    ℤ × Option PreparedTopic :=
  let r := (prepareTopic texts topics id w []).1
  (withCode r, r.toOption)

def readTopicLatest (topics : List (Record TopicInfo)) (id : EndpointIdentity) (output : DataSnapshot) :
    ℤ × DataSnapshot :=
  withOutput (readLatest texts topics id w []).1 output

def getParameter (parameters : List (Record ParameterInfo)) (id : EndpointIdentity)
    (output : DataSnapshot) : ℤ × DataSnapshot :=
  withOutput (getValue texts parameters id w []).1 output

def setParameter (parameters : List (Record ParameterInfo)) (id : EndpointIdentity)
    (value : DataSnapshot) : ℤ :=
  withCode (setValue texts parameters id value w []).1

def callService (services : List (Record ServiceInfo)) (id : EndpointIdentity) (request : DataSnapshot)
    (output : DataSnapshot) (timeout retries : UInt32) : ℤ × DataSnapshot :=
  withOutput (callValue texts services id request timeout retries w []).1 output

end KcfTools.KcfBackend

namespace KcfTools.NameResolution

open KcfBackend

/-- What the code reads of a record's model. -/
class Endpoint (T : Type) where
  name : T → String
  role : T → String
  identity : T → EndpointIdentity

instance : Endpoint TopicInfo := ⟨TopicInfo.name, TopicInfo.role, TopicInfo.identity⟩

instance : Endpoint ParameterInfo := ⟨ParameterInfo.name, ParameterInfo.role, ParameterInfo.identity⟩

variable {T : Type} [Endpoint T]

/-- `matches` is `found` here. -/
structure Selection (T : Type) where
  selected : Option (Record T) := none
  best : Bool := false
  found : ℕ := 0

def Selection.add (name preferred : String) (s : Selection T) (r : Record T) : Selection T :=
  if Endpoint.name r.model = name then
    let priority : Bool := Endpoint.role r.model = preferred
    if s.selected.isNone ∨ priority ∧ ¬ s.best then ⟨some r, priority, 1⟩
    else if priority = s.best then { s with found := s.found + 1 }
    else s
  else s

/-- The code, and the caller's identity after the call. -/
def select (records : List (Record T)) (name preferred : String) (id : EndpointIdentity) :
    ℤ × EndpointIdentity :=
  let s := records.foldl (Selection.add name preferred) {}
  match s.selected with
  | none => (-2, id)
  | some r => if s.found ≠ 1 then (enotuniq.val, id) else (0, Endpoint.identity r.model)

end KcfTools.NameResolution
