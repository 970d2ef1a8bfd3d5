import Mathlib

/-! Display records of the network observation. A `double` is taken as the exact rational that its
expression denotes; rounding is not modelled. -/

namespace KcfTools

structure RouteEndpointIdentity where
  hostId : String := ""
  bootId : String := ""
  pid : Int32 := 0
  startTicks : UInt64 := 0
  registrationId : UInt64 := 0
deriving DecidableEq

structure RemoteTypeIdentity where
  typeId : UInt64 := 0
  schemaId : UInt64 := 0
  encodingId : UInt32 := 0
  payloadSize : UInt32 := 0
deriving DecidableEq

structure RemoteEndpoint where
  identity : RouteEndpointIdentity := {}
  session : UInt64 := 0
  valueType : RemoteTypeIdentity := {}
  requestType : RemoteTypeIdentity := {}
  responseType : RemoteTypeIdentity := {}
  feedbackType : RemoteTypeIdentity := {}
  id : String := ""
  runtimeId : String := ""
  applicationId : String := ""
  application : String := ""
  element : String := ""
  name : String := ""
  kind : String := ""
  role : String := ""
  scope : String := ""
  type : String := ""
  diagnostic : String := ""
deriving DecidableEq

inductive DiagnosticsState
  | unavailable | unsupported | incompatible | pending | valid | truncated | lost | error | timeout
deriving DecidableEq

inductive NetworkRateState
  | invalid | measuring | valid
deriving DecidableEq

structure NetworkCounterDelta where
  packetsSent : UInt64 := 0
  packetsReceived : UInt64 := 0
  samplesPublished : UInt64 := 0
  dropped : UInt64 := 0
  duplicate : UInt64 := 0
  outOfOrder : UInt64 := 0
  missedSequence : UInt64 := 0
  malformed : UInt64 := 0
  localSamplesSkipped : UInt64 := 0
deriving DecidableEq

structure NetworkRouteRates where
  status : NetworkRateState := .invalid
  intervalSeconds : ℚ := 0
  sendHz : ℚ := 0
  receiveHz : ℚ := 0
  proxyPublishHz : ℚ := 0
  localSkippedPerSecond : ℚ := 0
  delta : NetworkCounterDelta := {}
deriving DecidableEq

structure RemoteRoute where
  source : RouteEndpointIdentity := {}
  destination : RouteEndpointIdentity := {}
  sourceSession : UInt64 := 0
  destinationSession : UInt64 := 0
  routeId : UInt64 := 0
  name : String := ""
  state : UInt8 := 0
  reason : UInt8 := 0
  proxyRecovery : UInt8 := 0
  sending : Bool := false
  error : Int32 := 0
  packetsSent : UInt64 := 0
  packetsReceived : UInt64 := 0
  samplesPublished : UInt64 := 0
  dropped : UInt64 := 0
  duplicate : UInt64 := 0
  outOfOrder : UInt64 := 0
  missedSequence : UInt64 := 0
  malformed : UInt64 := 0
  localSamplesSkipped : UInt64 := 0
  rates : NetworkRouteRates := {}
deriving DecidableEq

structure RemoteNetworkDiagnostics where
  status : DiagnosticsState := .unavailable
  gatewayHost : String := ""
  gatewayBoot : String := ""
  gatewaySession : UInt64 := 0
  observedAtUnixMs : UInt64 := 0
  error : Int32 := 0
  totalRoutes : UInt32 := 0
  truncated : Bool := false
  routes : List RemoteRoute := []
deriving DecidableEq

structure RemoteHost where
  id : String := ""
  bootId : String := ""
  label : String := ""
  address : String := ""
  state : String := ""
  frameworkVersion : String := ""
  networkVersion : String := ""
  compatibility : String := ""
  capabilities : String := ""
  session : UInt64 := 0
  revision : UInt64 := 0
  ageMs : UInt64 := 0
  metadataReady : Bool := false
  endpoints : List RemoteEndpoint := []
  diagnostics : RemoteNetworkDiagnostics := {}
deriving DecidableEq

structure NetworkSnapshot where
  observerHost : String := ""
  remoteControlAvailable : Bool := false
  networkClientAvailable : Bool := false
  explicitControlIdentity : Bool := false
  status : String := "Network discovery disabled / unavailable"
  routeStatus : String :=
    "External Gateway route/statistics observation API unavailable; no inferred network edges"
  hosts : List RemoteHost := []
deriving DecidableEq

end KcfTools
