import Mathlib

/-! Records of the local discovery, and the values that tools exchange. -/

namespace KcfTools

structure RuntimeIdentity where
  pid : Int32 := 0
  processStartTicks : UInt64 := 0
deriving DecidableEq

structure EndpointIdentity where
  runtime : RuntimeIdentity := {}
  registrationId : UInt64 := 0
deriving DecidableEq

inductive ValueKind
  | boolean | signedInteger | unsignedInteger | floatingPoint | string | struct
deriving DecidableEq

structure FieldValue where
  name : String := ""
  typeName : String := ""
  value : String := ""
  kind : ValueKind := .string
  arrayValues : List String := []
deriving DecidableEq

structure DataSnapshot where
  typeName : String := ""
  sequence : UInt64 := 0
  timestampUs : UInt64 := 0
  fields : List FieldValue := []
  typeId : UInt64 := 0
deriving DecidableEq

structure ApplicationInfo where
  name : String := ""
  state : String := ""
  supervisor : RuntimeIdentity := {}
  revision : UInt64 := 0
  managedElementCount : UInt32 := 0
deriving DecidableEq

structure ElementInfo where
  name : String := ""
  pid : Int32 := 0
  executable : String := ""
  mode : String := ""
  state : String := ""
  heartbeat : UInt64 := 0
  runtimeError : Int32 := 0
  identity : RuntimeIdentity := {}
  supervisor : RuntimeIdentity := {}
  applicationName : String := ""
  heartbeatAvailable : Bool := false
deriving DecidableEq

structure TopicInfo where
  name : String := ""
  typeName : String := ""
  payloadSize : UInt64 := 0
  publishers : List String := []
  subscribers : List String := []
  identity : EndpointIdentity := {}
  role : String := ""
  typeId : UInt64 := 0
  diagnosticTypeName : String := ""
deriving DecidableEq

structure ParameterInfo where
  name : String := ""
  typeName : String := ""
  value : String := ""
  writable : Bool := false
  identity : EndpointIdentity := {}
  role : String := ""
  payloadSize : UInt64 := 0
  typeId : UInt64 := 0
  diagnosticTypeName : String := ""
  textEditable : Bool := true
deriving DecidableEq

structure ServiceInfo where
  identity : EndpointIdentity := {}
  name : String := ""
  port : UInt16 := 0
  serviceId : UInt16 := 0
  requestSize : UInt32 := 0
  responseSize : UInt32 := 0
  requestTypeId : UInt64 := 0
  responseTypeId : UInt64 := 0
  diagnosticRequestTypeName : String := ""
  diagnosticResponseTypeName : String := ""
deriving DecidableEq

end KcfTools
