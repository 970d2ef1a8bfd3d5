import KcfTools.Model.LocalInfo
import KcfTools.Model.NetworkInfo

/-! Commands to the remote control, their replies and the reported activities. Handles come from one
counter that starts at one. -/

namespace KcfTools

inductive RemoteOperation
  | prepare | get | set | call | goal | cancel | subscribe | unsubscribe | poll
deriving DecidableEq

structure RemoteCommand where
  operation : RemoteOperation := .prepare
  endpoint : RemoteEndpoint := {}
  input : DataSnapshot := {}
  handle : ℕ := 0
  timeoutMs : UInt32 := 1000
  trackingMs : UInt32 := 60000
deriving DecidableEq

structure RemoteActivity where
  handle : ℕ := 0
  endpoint : RemoteEndpoint := {}
  topic : Bool := false
  accepted : Bool := false
  terminal : Bool := false
  communicationLost : Bool := false
  executionUnknown : Bool := false
  cancelUnknown : Bool := false
  cancelAccepted : Bool := false
  hasValue : Bool := false
  state : ℤ := 0
  error : ℤ := 0
  sequence : UInt64 := 0
  receivedPackets : UInt64 := 0
  routeId : UInt64 := 0
  observedAt : ℤ := 0
  feedback : DataSnapshot := {}
  result : DataSnapshot := {}
deriving DecidableEq

structure RemoteReply where
  error : ℤ := 0
  responseReceived : Bool := false
  executionUnknown : Bool := false
  cancelUnknown : Bool := false
  accepted : Bool := false
  readbackError : ℤ := 0
  handle : ℕ := 0
  value : DataSnapshot := {}
  activities : List RemoteActivity := []
deriving DecidableEq

end KcfTools
