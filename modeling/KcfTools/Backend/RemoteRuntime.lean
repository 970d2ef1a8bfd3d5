import KcfTools.Lib.Traced
import KcfTools.Model.RemoteControl
import KcfTools.Backend.Discovery
import KcfTools.Backend.ValueCodec
import KcfTools.Backend.NetworkRates

/-! The control worker's commands, executed over the tables of actions and subscriptions. -/

namespace KcfTools.RemoteRuntime

open Std Traced Discovery ValueCodec NetworkRates

abbrev HandleId := ℕ

structure ActionSnapshot where
  accepted : Bool := false
  terminal : Bool := false
  state : ℤ := 0
  error : ℤ := 0
  communicationLost : Bool := false
  executionUnknown : Bool := false
  cancelUnknown : Bool := false
  cancelAccepted : Bool := false
  feedbackSequence : UInt64 := 0
  feedback : List UInt8 := []
  result : List UInt8 := []

inductive TopicState
  | waitingRoute | active | lost | stale | error | closed
deriving DecidableEq

def TopicState.code : TopicState → ℤ
  | waitingRoute => 0
  | active => 1
  | lost => 2
  | stale => 3
  | error => 4
  | closed => 5

structure TopicSnapshot where
  state : TopicState := .waitingRoute
  error : ℤ := 0
  sequence : UInt64 := 0
  packetsReceived : UInt64 := 0
  routeId : UInt64 := 0
  hasValue : Bool := false
  descriptor : TypeDescriptor := {}
  payload : List UInt8 := []

inductive DescriptorRole
  | value | request | response | feedback
deriving DecidableEq

structure CallResult where
  error : ℤ := 0
  responseReceived : Bool := false
  executionUnknown : Bool := false
  cancelUnknown : Bool := false
  accepted : Bool := false
  value : List UInt8 := []
  handle : Option HandleId := none

/-- What one command reads from the framework; `none` is an exception. Each handle is read at most
once. -/
structure Framework where
  peers : List PeerInfo
  peersAt : ℕ → List PeerInfo
  observedAt : ℕ → TimePoint
  actionSnapshot : HandleId → ActionSnapshot
  topicSnapshot : HandleId → TopicSnapshot
  queryTypeDescriptor : DescriptorRole → Option (ℤ × TypeDescriptor)
  parameterWireType : TypeDescriptor → ℤ × TypeIdentity
  decodeParameterValue : TypeDescriptor → List UInt8 → Except Failure DynamicPayload
  encodeParameterValue : TypeDescriptor → DynamicPayload → Except Failure (List UInt8)
  subscribe : Option (ℤ × HandleId)
  unsubscribe : HandleId → Option ℤ
  cancelAction : HandleId → Option CallResult
  getParameter : Option (ℤ × List UInt8)
  setParameter : List UInt8 → Option CallResult
  readback : Option (ℤ × List UInt8)
  callService : List UInt8 → Option CallResult
  startAction : List UInt8 → Option CallResult

structure RunningAction where
  endpoint : RemoteEndpoint
  feedback : TypeDescriptor
  result : TypeDescriptor
  handle : HandleId
deriving DecidableEq

structure SubscribedTopic where
  endpoint : RemoteEndpoint
  handle : HandleId
deriving DecidableEq

/-- `nextHandle` is the last handle that was given out. -/
structure Runtime where
  error : ℤ := 0
  actions : ExtTreeMap ℕ RunningAction := ∅
  subscriptions : ExtTreeMap ℕ SubscribedTopic := ∅
  nextHandle : ℕ := 0

/-- A command returns early with a reply, or an exception leaves it. -/
inductive Stop
  | returned (reply : RemoteReply)
  | threw

abbrev Exec := Prog Framework Runtime Stop

def leave {α : Type} (reply : RemoteReply) : Exec α := fail (.returned reply)

def leaveError {α : Type} (error : ℤ) : Exec α := leave { error := error }

def framework {α : Type} (call : Framework → Option α) : Exec α := fun f rt =>
  match call f with
  | some a => (.ok a, rt)
  | none => (.error .threw, rt)

def estale : ℤ := -116
def enoent : ℤ := -2
def einvalCode : ℤ := -22
def eprototypeCode : ℤ := -91

def endpointIdentity (e : RemoteEndpoint) : RemoteEndpointIdentity :=
  ⟨⟨parseHost e.identity.hostId, parseHost e.identity.bootId, e.identity.pid, e.identity.startTicks⟩,
    e.identity.registrationId⟩

def typeIdentity (t : RemoteTypeIdentity) : TypeIdentity := ⟨t.typeId, t.schemaId, t.encodingId, t.payloadSize⟩

def current (e : RemoteEndpoint) : List PeerInfo → Bool
  | [] => false
  | p :: peers =>
    if p.host = parseHost e.identity.hostId then
      if p.state ≠ .online ∨ p.bootId ≠ parseHost e.identity.bootId ∨ p.sessionId ≠ e.session ∨
          ¬ p.metadataReady ∨ ¬ p.compatibility.compatible then false
      else if p.endpoints.any fun m => m.identity = endpointIdentity e ∧ m.name = e.name then true
      else current e peers
    else current e peers

variable (texts : Texts)

def decodeValue (f : Framework) (d : TypeDescriptor) (bytes : List UInt8) : Except Failure DataSnapshot := do
  let p ← f.decodeParameterValue d bytes
  decode texts d p

def encodeValue (f : Framework) (d : TypeDescriptor) (input : DataSnapshot) :
    Except Failure (List UInt8) := do
  let p ← encode texts d input none
  f.encodeParameterValue d p

/-- The decoded bytes, or the values before and the error. -/
def decodeInto (f : Framework) (d : TypeDescriptor) (bytes : List UInt8) (old : DataSnapshot) :
    ℤ × DataSnapshot :=
  match decodeValue texts f d bytes with
  | .ok value => (0, value)
  | .error e => (e.val, old)

def descriptor (role : DescriptorRole) (type : RemoteTypeIdentity) : Exec TypeDescriptor := do
  let (r, d) ← framework fun f => f.queryTypeDescriptor role
  if r ≠ 0 then leaveError r
  else
    let f ← read
    let (r, actual) := f.parameterWireType d
    if r ≠ 0 then leaveError r
    else if actual ≠ typeIdentity type then leaveError eprototypeCode
    else return d

def actionActivity (f : Framework) (handle : ℕ) (a : RunningAction) : RemoteActivity :=
  let s := f.actionSnapshot a.handle
  let lost := s.communicationLost || !current a.endpoint (f.peersAt handle)
  let v : RemoteActivity :=
    { handle := handle, endpoint := a.endpoint, accepted := s.accepted, terminal := s.terminal
      state := s.state, error := s.error, communicationLost := lost
      executionUnknown := s.executionUnknown, cancelUnknown := s.cancelUnknown
      cancelAccepted := s.cancelAccepted, sequence := s.feedbackSequence }
  if lost then v
  else
    let v := if s.feedback = [] then v else
      let (code, feedback) := decodeInto texts f a.feedback s.feedback v.feedback
      { v with feedback := feedback, hasValue := code = 0, error := if code ≠ 0 then code else v.error }
    if s.result = [] then v else
      let (code, result) := decodeInto texts f a.result s.result v.result
      { v with result := result, error := if code ≠ 0 then code else v.error }

def topicActivity (f : Framework) (handle : ℕ) (t : SubscribedTopic) : RemoteActivity :=
  let s := f.topicSnapshot t.handle
  let lost := !current t.endpoint (f.peersAt handle)
  let terminal := s.state = .closed ∨ s.state = .error ∨ s.state = .lost ∨ s.state = .stale
  let v : RemoteActivity :=
    { topic := true, handle := handle, endpoint := t.endpoint, state := s.state.code, error := s.error
      sequence := s.sequence, receivedPackets := s.packetsReceived, routeId := s.routeId
      observedAt := f.observedAt handle, communicationLost := lost, terminal := terminal }
  if s.hasValue ∧ ¬ lost ∧ ¬ terminal then
    let (code, feedback) := decodeInto texts f s.descriptor s.payload v.feedback
    { v with error := code, hasValue := code = 0, feedback := { feedback with sequence := s.sequence } }
  else v

def poll : Exec RemoteReply := do
  let f ← read
  let rt ← getState
  return {
    activities := rt.actions.toList.map (fun a => actionActivity texts f a.1 a.2) ++
      rt.subscriptions.toList.map fun t => topicActivity texts f t.1 t.2 }

def unsubscribe (handle : ℕ) : Exec RemoteReply := do
  let rt ← getState
  match rt.subscriptions[handle]? with
  | none => leaveError enoent
  | some t =>
    let r ← framework fun f => f.unsubscribe t.handle
    modifyState fun rt => { rt with subscriptions := rt.subscriptions.erase handle }
    return { error := r }

def cancel (command : RemoteCommand) : Exec RemoteReply := do
  let e := command.endpoint
  let rt ← getState
  match rt.actions[command.handle]? with
  | none => leaveError estale
  | some a =>
    if endpointIdentity a.endpoint ≠ endpointIdentity e ∨ a.endpoint.session ≠ e.session then
      leaveError estale
    else
      let r ← framework fun f => f.cancelAction a.handle
      return { error := r.error, responseReceived := r.responseReceived, cancelUnknown := r.cancelUnknown
               accepted := r.accepted }

def newHandle : Exec ℕ := do
  modifyState fun rt => { rt with nextHandle := rt.nextHandle + 1 }
  let rt ← getState
  return rt.nextHandle

def subscribe (e : RemoteEndpoint) : Exec RemoteReply := do
  let (r, subscription) ← framework fun f => f.subscribe
  if r ≠ 0 then leaveError r
  else
    let handle ← newHandle
    modifyState fun rt =>
      { rt with subscriptions := rt.subscriptions.insertIfNew handle ⟨e, subscription⟩ }
    return { handle := handle }

def prepare (input : TypeDescriptor) : Exec RemoteReply :=
  match decode texts input { typeId := input.typeId, bytes := List.replicate input.payloadSize 0 } with
  | .ok value => return { value := value }
  | .error e => return { error := e.val }

def get (input : TypeDescriptor) : Exec RemoteReply := do
  let f ← read
  let (r, bytes) ← framework fun f => f.getParameter
  if r ≠ 0 then return { error := r }
  else
    let (code, value) := decodeInto texts f input bytes {}
    return { error := code, responseReceived := true, value := value }

def set (input : TypeDescriptor) (bytes : List UInt8) : Exec RemoteReply := do
  let f ← read
  let r ← framework fun f => f.setParameter bytes
  let out : RemoteReply :=
    { error := r.error, executionUnknown := r.executionUnknown, responseReceived := r.responseReceived }
  if r.error ≠ 0 then return out
  else
    let (code, bytes) ← framework fun f => f.readback
    if code ≠ 0 then return { out with readbackError := code }
    else
      let (code, value) := decodeInto texts f input bytes {}
      return { out with readbackError := code, value := value }

def call (response : TypeDescriptor) (bytes : List UInt8) : Exec RemoteReply := do
  let f ← read
  let r ← framework fun f => f.callService bytes
  let out : RemoteReply :=
    { error := r.error, executionUnknown := r.executionUnknown, responseReceived := r.responseReceived }
  if r.error ≠ 0 then return out
  else
    let (code, value) := decodeInto texts f response r.value {}
    return { out with error := code, value := value }

/-- Retain active handles only. -/
def prune : Exec Unit := do
  let f ← read
  modifyState fun rt =>
    { rt with actions := rt.actions.filter fun _ a => !(f.actionSnapshot a.handle).terminal }

def startGoal (e : RemoteEndpoint) (feedback response : TypeDescriptor) (bytes : List UInt8) :
    Exec RemoteReply := do
  let r ← framework fun f => f.startAction bytes
  let out : RemoteReply :=
    { error := r.error, responseReceived := r.responseReceived, executionUnknown := r.executionUnknown
      accepted := r.responseReceived && r.error = 0 }
  match r.handle with
  | none => return out
  | some h =>
    let handle ← newHandle
    modifyState fun rt => { rt with actions := rt.actions.insertIfNew handle ⟨e, feedback, response, h⟩ }
    return { out with handle := handle }

def goal (e : RemoteEndpoint) (response : TypeDescriptor) (bytes : List UInt8) : Exec RemoteReply := do
  let feedback ← descriptor .feedback e.feedbackType
  prune
  startGoal e feedback response bytes

/-- The operations that read a type descriptor first. -/
def request (command : RemoteCommand) : Exec RemoteReply := do
  let e := command.endpoint
  let parameter := e.kind = "P"
  let input ← descriptor (if parameter then .value else .request)
    (if parameter then e.valueType else e.requestType)
  match command.operation with
  | .prepare => prepare texts input
  | .get => get texts input
  | operation =>
    let f ← read
    match encodeValue texts f input command.input with
    | .error code => leaveError code.val
    | .ok bytes =>
      if operation = .set then set texts input bytes
      else
        let response ← descriptor .response e.responseType
        if operation = .call then call texts response bytes
        else if operation = .goal then goal e response bytes
        else leaveError einvalCode

def perform (command : RemoteCommand) : Exec RemoteReply := do
  let rt ← getState
  if rt.error ≠ 0 then leaveError rt.error
  else match command.operation with
    | .poll => poll texts
    | .unsubscribe => unsubscribe command.handle
    | operation =>
      let f ← read
      if ¬ current command.endpoint f.peers then leaveError estale
      else match operation with
        | .cancel => cancel command
        | .subscribe => subscribe command.endpoint
        | _ => request texts command

/-- The reply, if no exception left the command, and the tables afterwards. -/
def settle : Except Stop RemoteReply × Runtime → Option RemoteReply × Runtime
  | (.ok reply, rt) => (some reply, rt)
  | (.error (.returned reply), rt) => (some reply, rt)
  | (.error .threw, rt) => (none, rt)

def execute (command : RemoteCommand) (f : Framework) (rt : Runtime) : Option RemoteReply × Runtime :=
  settle (perform texts command f rt)

end KcfTools.RemoteRuntime
