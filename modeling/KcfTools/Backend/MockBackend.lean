import KcfTools.Backend.EchoSessions
import KcfTools.Backend.FloatTexts

/-! The simulated backend: its parameters and services, beside the echo of `EchoSessions`. -/

namespace KcfTools.MockBackend

open ValueCodec

section Texts

/-- `from_chars` into a 64 bit number, and the characters that it leaves. -/
def scanChars (signed : Bool) (text : String) : Except Failure (ℤ × List Char) :=
  let negative := signed ∧ text.toList.head? = some '-'
  let cs := if negative then text.toList.tail else text.toList
  let digits := cs.takeWhile Char.isDigit
  let n : ℤ := if negative then -decimal digits else decimal digits
  if digits = [] then .error einval
  else if ¬ inRange 8 signed n then .error erange
  else .ok (n, cs.dropWhile Char.isDigit)

/-- A number outside of the range is reported before the characters that follow it. -/
def checkInteger (signed : Bool) (low high : ℤ) (text : String) : ℤ :=
  match scanChars signed text with
  | .error e => e.val
  | .ok (n, rest) => if n < low ∨ high < n then erange.val else if rest ≠ [] then einval.val else 0

def checkUint32 : String → ℤ := checkInteger false 0 (2 ^ 32 - 1)

def checkInt32 : String → ℤ := checkInteger true (-2 ^ 31) (2 ^ 31 - 1)

def checkDouble (text : String) : ℤ :=
  match streamFloat .float64 text with
  | none => einval.val
  | some (bytes, rest) => if rest ≠ [] ∨ ¬ finite .float64 bytes then einval.val else 0

end Texts

def mockParameter (i : ℕ) (name typeName value : String) (writable : Bool) : ParameterInfo where
  name := name
  typeName := typeName
  value := value
  writable := writable
  identity := ⟨⟨12001, 1⟩, 100 + UInt64.ofNat i⟩
  role := "OWNER"
  payloadSize := if i = 0 then 8 else if i = 1 then 4 else 0
  typeId := if i < 2 then 0x4d4f434b1000 + UInt64.ofNat i + 1 else 0
  diagnosticTypeName := typeName

structure Backend where
  echo : EchoSessions.Mock := {}
  parameters : List ParameterInfo :=
    [mockParameter 0 "/mecanum/motor/wheel_radius_mm" "double" "41.0" true,
      mockParameter 1 "/mecanum/motor/odom_period_ms" "uint32" "15" true,
      mockParameter 2 "/mecanum/motor/serial_port" "string" "/dev/ttyUSB1" false]

section Parameters

def parameterField (p : ParameterInfo) : FieldValue where
  name := "value"
  typeName := if p.typeName = "double" then "float64" else "uint32"
  value := p.value
  kind := if p.typeName = "double" then .floatingPoint else .unsignedInteger

def parameterSnapshot (p : ParameterInfo) : DataSnapshot where
  typeId := p.typeId
  typeName := p.typeName
  fields := [parameterField p]

variable (b : Backend)

def parameterOf (id : EndpointIdentity) : Option ParameterInfo := b.parameters.find? fun p => p.identity = id

def parameterNamed (name : String) : Option ParameterInfo := b.parameters.find? fun p => p.name = name

def getParameter (id : EndpointIdentity) (output : DataSnapshot) : ℤ × DataSnapshot :=
  match parameterOf b id with
  | none => (-2, output)
  | some p => if p.typeId = 0 then (enotsup.val, output) else (0, parameterSnapshot p)

def getParameterByName (name : String) (output : ParameterInfo) : ℤ × ParameterInfo :=
  match parameterNamed b name with
  | none => (-2, output)
  | some p => (0, p)

def checkText (typeName text : String) : ℤ := if typeName = "uint32" then checkUint32 text else checkDouble text

def checkField (f expected : FieldValue) : ℤ :=
  if f.name ≠ expected.name then einval.val
  else if f.typeName ≠ expected.typeName ∨ f.kind ≠ expected.kind then eprototype.val
  else if f.arrayValues ≠ [] then emsgsize.val
  else checkText f.typeName f.value

def checkValue (value schema : DataSnapshot) : ℤ :=
  if value.typeId ≠ schema.typeId ∨ value.typeName ≠ schema.typeName then eprototype.val
  else match value.fields, schema.fields with
    | [f], expected :: _ => checkField f expected
    | _, _ => einval.val

def validateParameter (id : EndpointIdentity) (value : DataSnapshot) : ℤ :=
  match parameterOf b id with
  | none => -2
  | some p =>
    if ¬ p.writable then -1
    else if p.typeId = 0 then enotsup.val
    else
      let schema := getParameter b id {}
      if schema.1 ≠ 0 then schema.1 else checkValue value schema.2

/-- The first such parameter takes the text. -/
def write (p : ParameterInfo → Bool) (text : String) : List ParameterInfo → List ParameterInfo
  | [] => []
  | q :: parameters => if p q then { q with value := text } :: parameters else q :: write p text parameters

def writeText (p : ParameterInfo → Bool) (text : String) : Backend :=
  { b with parameters := write p text b.parameters }

def setParameter (id : EndpointIdentity) (value : DataSnapshot) : ℤ × Backend :=
  let r := validateParameter b id value
  if r ≠ 0 then (r, b)
  else match parameterOf b id with
    | none => (-2, b)
    | some _ => (0, writeText b (fun p => p.identity = id) (value.fields.headD {}).value)

def setParameterByName (name text : String) : ℤ × Backend :=
  match parameterNamed b name with
  | none => (-2, b)
  | some p => if ¬ p.writable then (-1, b) else (0, writeText b (fun q => q.name = name) text)

end Parameters

section Services

def mockService (i : ℕ) (name : String) : ServiceInfo where
  identity := ⟨⟨12001, 1⟩, 900 + UInt64.ofNat i⟩
  name := name
  serviceId := UInt16.ofNat i + 1
  requestTypeId := 0x6d0101
  responseTypeId := 0x6d0102
  requestSize := 8
  responseSize := 4
  diagnosticRequestTypeName := "mock.AddRequest"
  diagnosticResponseTypeName := "mock.AddResponse"

def queryServices : List ServiceInfo := [mockService 0 "/mock/add", mockService 1 "/mock/subtract"]

def int32Field (name value : String) : FieldValue where
  name := name
  typeName := "int32"
  value := value
  kind := .signedInteger

def getTypeTemplate (id : RuntimeIdentity) (type : UInt64) (output : DataSnapshot) : ℤ × DataSnapshot :=
  if id ≠ ⟨12001, 1⟩ then (-2, output)
  else if type = 0x6d0101 then
    (0, { typeId := type, typeName := "mock.AddRequest", fields := [int32Field "a" "0", int32Field "b" "0"] })
  else if type = 0x6d0102 then
    (0, { typeId := type, typeName := "mock.AddResponse", fields := [int32Field "result" "0"] })
  else (-2, output)

/-- The fields in their order; `used` are the names of those before. -/
def checkOperands : List FieldValue → List String → ℤ
  | [], _ => 0
  | f :: fields, used =>
    if f.name ≠ "a" ∧ f.name ≠ "b" ∨ f.name ∈ used then einval.val
    else if f.kind ≠ .signedInteger ∨ f.typeName ≠ "int32" then eprototype.val
    else if f.arrayValues ≠ [] then emsgsize.val
    else
      let r := checkInt32 f.value
      if r ≠ 0 then r else checkOperands fields (f.name :: used)

def validateService (id : EndpointIdentity) (request : DataSnapshot) : ℤ :=
  if ¬ queryServices.any fun s => s.identity = id then -2
  else if request.typeId ≠ 0x6d0101 ∨ request.typeName ≠ "mock.AddRequest" then eprototype.val
  else if request.fields.length ≠ 2 then einval.val
  else checkOperands request.fields []

/-- A later field of the operand replaces an earlier one. -/
def operand (first : Bool) (fields : List FieldValue) : ℤ :=
  fields.foldl (fun n f => if decide (f.name = "a") = first then
    match scanChars true f.value with
    | .ok (m, _) => m
    | .error _ => n
  else n) 0

def callService (id : EndpointIdentity) (request output : DataSnapshot) : ℤ × DataSnapshot :=
  let r := validateService id request
  if r ≠ 0 then (r, output)
  else
    let a := operand true request.fields
    let b := operand false request.fields
    let sum := if id.registrationId = 900 then a + b else a - b
    if sum < -2 ^ 31 ∨ 2 ^ 31 - 1 < sum then (erange.val, output)
    else
      let response := (getTypeTemplate id.runtime 0x6d0102 {}).2
      (0, { response with fields := response.fields.modifyHead fun f => { f with value := toString sum } })

end Services

/-- The echo calls include `Refresh`. -/
inductive Operation
  | getParameter (id : EndpointIdentity) (output : DataSnapshot)
  | getParameterByName (name : String) (output : ParameterInfo)
  | validateParameter (id : EndpointIdentity) (value : DataSnapshot)
  | setParameter (id : EndpointIdentity) (value : DataSnapshot)
  | setParameterByName (name text : String)
  | echo (call : EchoSessions.EchoCall)
  | getTypeTemplate (id : RuntimeIdentity) (type : UInt64) (output : DataSnapshot)
  | validateService (id : EndpointIdentity) (request : DataSnapshot)
  | callService (id : EndpointIdentity) (request output : DataSnapshot)

inductive Reply
  | code (r : ℤ)
  | snapshot (r : ℤ × DataSnapshot)
  | parameter (r : ℤ × ParameterInfo)
  | seen (s : EchoSessions.Seen)

def call (b : Backend) : Operation → Reply × Backend
  | .getParameter id output => (.snapshot (getParameter b id output), b)
  | .getParameterByName name output => (.parameter (getParameterByName b name output), b)
  | .validateParameter id value => (.code (validateParameter b id value), b)
  | .setParameter id value => (.code (setParameter b id value).1, (setParameter b id value).2)
  | .setParameterByName name text =>
    (.code (setParameterByName b name text).1, (setParameterByName b name text).2)
  | .echo c => (.seen (b.echo.call c).1, { b with echo := (b.echo.call c).2 })
  | .getTypeTemplate id type output => (.snapshot (getTypeTemplate id type output), b)
  | .validateService id request => (.code (validateService id request), b)
  | .callService id request output => (.snapshot (callService id request output), b)

def run (operations : List Operation) : Backend := operations.foldl (fun b o => (call b o).2) {}

end KcfTools.MockBackend
