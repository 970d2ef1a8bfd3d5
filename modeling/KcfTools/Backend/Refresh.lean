import KcfTools.Backend.KcfBackend

/-! The discovery that fills the backend's cache. The framework lists processes and endpoints one call
after the other, and the lists need not agree. -/

namespace KcfTools.KcfBackend

open Traced

inductive BackendConnectionState
  | disconnected | connected | error
deriving DecidableEq

structure Impl where
  prepared : Option PreparedTopic := none
  state : BackendConnectionState := .disconnected
  applications : List ApplicationInfo := []
  elements : List ElementInfo := []
  topics : List (Record TopicInfo) := []
  parameters : List (Record ParameterInfo) := []
  services : List (Record ServiceInfo) := []

def ProcessState.text : ProcessState → String
  | stopped => "STOPPED"
  | starting => "STARTING"
  | running => "RUNNING"
  | stopping => "STOPPING"
  | error => "ERROR"
  | unknown => "UNKNOWN"

def ApplicationState.text : ApplicationState → String
  | initializing => "INITIALIZING"
  | running => "RUNNING"
  | error => "ERROR"
  | resetting => "RESETTING"
  | shuttingDown => "SHUTTING_DOWN"
  | stopped => "STOPPED"
  | unknown => "UNKNOWN"

def listSupervisors : Op (List SupervisorInfo) := act fun w n =>
  (w.listSupervisors (w.moment n), .listSupervisors (w.listSupervisors (w.moment n)))

def listRuntimes : Op (List RuntimeInfo) := act fun w n =>
  (w.listRuntimes (w.moment n), .listRuntimes (w.listRuntimes (w.moment n)))

def listEndpoints (runtime : RuntimeInfo) : Op (List EndpointInfo) := act fun w n =>
  (w.listEndpoints (w.moment n) runtime, .listEndpoints runtime (w.listEndpoints (w.moment n) runtime))

def listServices (runtime : RuntimeInfo) : Op (List ListedService) := act fun w n =>
  (w.listServices (w.moment n) runtime, .listServices runtime (w.listServices (w.moment n) runtime))

/-- A result code is passed over, an exception is not. -/
def tolerate {α : Type} (x : Op α) : Op (Option α) := fun w l =>
  match x w l with
  | (.ok a, l) => (.ok (some a), l)
  | (.error (.code _), l) => (.ok none, l)
  | (.error .badAlloc, l) => (.error .badAlloc, l)
  | (.error .exception, l) => (.error .exception, l)

def application (s : SupervisorInfo) : ApplicationInfo where
  name := s.applicationName
  state := s.applicationState.text
  supervisor := ⟨s.pid, s.processStartTicks⟩
  revision := s.revision
  managedElementCount := UInt32.ofNat s.elements.length

def defaultApplication (mode : String) : String := if mode = "STANDALONE" then "Standalone" else "Unassigned"

/-- One member of a supervisor takes the element over if it is the element's process. -/
def claim (s : SupervisorInfo) (e : ElementInfo) (m : SupervisedElement) : ElementInfo :=
  if m.pid = e.identity.pid ∧ m.processStartTicks = e.identity.processStartTicks then
    { e with
      name := m.name, supervisor := ⟨s.pid, s.processStartTicks⟩, applicationName := s.applicationName }
  else e

def assign (supervisors : List SupervisorInfo) (e : ElementInfo) : ElementInfo :=
  supervisors.foldl (fun e s => s.elements.foldl (claim s) e) e

def element (runtime : RuntimeInfo) : ElementInfo :=
  let mode := if runtime.executionMode = .standalone then "STANDALONE" else "SUPERVISED"
  { identity := ⟨runtime.pid, runtime.processStartTicks⟩
    pid := runtime.pid
    executable := runtime.executable
    name := runtime.executable
    state := runtime.state.text
    runtimeError := runtime.runtimeError
    mode := mode
    applicationName := defaultApplication mode }

def topicInfo (e : ElementInfo) (endpoint : EndpointInfo) : TopicInfo :=
  let publisher := endpoint.role = .publisher
  { identity := ⟨e.identity, endpoint.registrationId⟩
    name := endpoint.name
    typeName := endpoint.diagnosticTypeName
    diagnosticTypeName := endpoint.diagnosticTypeName
    typeId := endpoint.typeId
    payloadSize := endpoint.payloadSize
    role := if publisher then "PUBLISHER" else "SUBSCRIBER"
    publishers := if publisher then [e.name] else []
    subscribers := if publisher then [] else [e.name] }

/-- The type makes a parameter writable, and editable as a text if it has a single value. -/
def parameterInfo (e : ElementInfo) (endpoint : EndpointInfo) (d : Option ValueCodec.TypeDescriptor) :
    ParameterInfo where
  identity := ⟨e.identity, endpoint.registrationId⟩
  name := endpoint.name
  typeName := (d.map ValueCodec.TypeDescriptor.typeName).getD endpoint.diagnosticTypeName
  diagnosticTypeName := endpoint.diagnosticTypeName
  typeId := endpoint.typeId
  payloadSize := endpoint.payloadSize
  role := if endpoint.role = .parameterOwner then "OWNER" else "CLIENT"
  writable := d.isSome
  textEditable := d.any fun d => d.fields.length = 1 ∧ d.fields.all fun f => f.arrayCount = 1

def serviceInfo (e : ElementInfo) (s : ListedService) : ServiceInfo where
  identity := ⟨e.identity, s.registrationId⟩
  name := s.name
  port := s.port
  serviceId := s.serviceId
  requestSize := s.requestSize
  responseSize := s.responseSize
  requestTypeId := s.requestTypeId
  responseTypeId := s.responseTypeId
  diagnosticRequestTypeName := s.diagnosticRequestTypeName
  diagnosticResponseTypeName := s.diagnosticResponseTypeName

variable (texts : ValueCodec.Texts)

def scanEndpoint (runtime : RuntimeInfo) (e : ElementInfo) (next : Impl) (endpoint : EndpointInfo) : Op Impl :=
  match endpoint.kind with
  | .topic => return { next with topics := next.topics ++ [⟨topicInfo e endpoint, runtime⟩] }
  | .parameter => do
    let d ← tolerate (type texts runtime endpoint.typeId endpoint.payloadSize.toNat)
    return { next with parameters := next.parameters ++ [⟨parameterInfo e endpoint d, runtime⟩] }
  | .other => return next

def scanRuntime (supervisors : List SupervisorInfo) (next : Impl) (runtime : RuntimeInfo) : Op Impl := do
  let e := assign supervisors (element runtime)
  let next := { next with elements := next.elements ++ [e] }
  let endpoints ← tolerate (listEndpoints runtime)
  let next ← (endpoints.getD []).foldlM (scanEndpoint texts runtime e) next
  let services ← tolerate (listServices runtime)
  return { next with
    services := next.services ++ (services.getD []).map fun s => ⟨serviceInfo e s, runtime⟩ }

def alive (live : List RuntimeInfo) (id : RuntimeIdentity) : Bool := live.any fun v => sameRuntime id v

/-- The element as the final scan of the supervisors has it. -/
def reassign (supervisors : List SupervisorInfo) (e : ElementInfo) : ElementInfo :=
  assign supervisors
    { e with name := e.executable, supervisor := {}, applicationName := defaultApplication e.mode }

def rename (topic : TopicInfo) (e : ElementInfo) : TopicInfo :=
  if e.identity = topic.identity.runtime then
    if topic.role = "PUBLISHER" then { topic with publishers := [e.name] }
    else { topic with subscribers := [e.name] }
  else topic

/-- Processes that exited during the scan are dropped, and the memberships are read again. -/
def conclude (live : List RuntimeInfo) (supervisors : List SupervisorInfo) (next : Impl) : Impl :=
  let elements := (next.elements.filter fun e => alive live e.identity).map (reassign supervisors)
  let topics := next.topics.filter fun r => alive live r.model.identity.runtime
  { next with
    elements := elements
    applications := supervisors.map application
    topics := topics.map fun r => { r with model := elements.foldl rename r.model }
    parameters := next.parameters.filter fun r => alive live r.model.identity.runtime
    services := next.services.filter fun r => alive live r.model.identity.runtime
    state := if supervisors.map application ≠ [] ∨ elements ≠ [] then .connected else .disconnected }

def discover : Op Impl := do
  let supervisors ← listSupervisors
  let runtimes ← listRuntimes
  let next ← runtimes.foldlM (scanRuntime texts supervisors) { applications := supervisors.map application }
  let live ← listRuntimes
  let current ← listSupervisors
  return conclude live current next

variable (w : World)

/-- The code and the cache afterwards. -/
def refresh (impl : Impl) : ℤ × Impl :=
  match (discover texts w []).1 with
  | .ok next => (0, next)
  | .error e =>
    (e.guard.val,
      { impl with
        prepared := none, state := .error, applications := [], elements := [], topics := []
        parameters := [], services := [] })

end KcfTools.KcfBackend
