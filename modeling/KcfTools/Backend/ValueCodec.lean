import KcfTools.Model.LocalInfo

/-! Payload bytes and the texts of their fields. How a stream prints and reads a floating point number is a
parameter. -/

namespace KcfTools

/-- A result that is not zero, as a failing call returns it. -/
abbrev Failure := { code : ℤ // code ≠ 0 }

def einval : Failure := ⟨-22, by decide⟩
def erange : Failure := ⟨-34, by decide⟩
def eproto : Failure := ⟨-71, by decide⟩
def emsgsize : Failure := ⟨-90, by decide⟩
def eprototype : Failure := ⟨-91, by decide⟩
def enotsup : Failure := ⟨-95, by decide⟩
def enotuniq : Failure := ⟨-76, by decide⟩

namespace ValueCodec

inductive FieldValueKind
  | unspecified | bool | int8 | uint8 | int16 | uint16 | int32 | uint32 | int64 | uint64 | float32
  | float64
deriving DecidableEq

structure TypeFieldInfo where
  name : String := ""
  offset : ℕ := 0
  elementSize : ℕ := 0
  arrayCount : ℕ := 0
  kind : FieldValueKind := .unspecified
deriving DecidableEq

structure TypeDescriptor where
  typeName : String := ""
  typeId : UInt64 := 0
  payloadSize : ℕ := 0
  fields : List TypeFieldInfo := []
deriving DecidableEq

structure DynamicPayload where
  typeId : UInt64 := 0
  sequence : UInt64 := 0
  bytes : List UInt8 := []
deriving DecidableEq

namespace FieldValueKind

def name : FieldValueKind → String
  | unspecified => ""
  | bool => "bool"
  | int8 => "int8"
  | uint8 => "uint8"
  | int16 => "int16"
  | uint16 => "uint16"
  | int32 => "int32"
  | uint32 => "uint32"
  | int64 => "int64"
  | uint64 => "uint64"
  | float32 => "float32"
  | float64 => "float64"

def valueKind : FieldValueKind → ValueKind
  | bool => .boolean
  | float32 => .floatingPoint
  | float64 => .floatingPoint
  | unspecified => .signedInteger
  | int8 => .signedInteger
  | int16 => .signedInteger
  | int32 => .signedInteger
  | int64 => .signedInteger
  | uint8 => .unsignedInteger
  | uint16 => .unsignedInteger
  | uint32 => .unsignedInteger
  | uint64 => .unsignedInteger

/-- Width in bytes and signedness of the integer kinds. -/
def integer : FieldValueKind → Option (ℕ × Bool)
  | int8 => some (1, true)
  | uint8 => some (1, false)
  | int16 => some (2, true)
  | uint16 => some (2, false)
  | int32 => some (4, true)
  | uint32 => some (4, false)
  | int64 => some (8, true)
  | uint64 => some (8, false)
  | _ => none

def floatWidth : FieldValueKind → ℕ
  | float32 => 4
  | _ => 8

end FieldValueKind

/-- What the codec takes from the framework and from the stream library: a stream either fails or reads a number
and leaves the characters after it. -/
structure Texts where
  validateTypeDescriptor : TypeDescriptor → Bool
  printFloat : FieldValueKind → List UInt8 → String
  readFloat : (k : FieldValueKind) → String →
    Option ({ bytes : List UInt8 // bytes.length = k.floatWidth } × List Char)

/-- Little endian. -/
def natOfBytes : List UInt8 → ℕ
  | [] => 0
  | b :: bs => b.toNat + 256 * natOfBytes bs

def bytesOfNat : ℕ → ℕ → List UInt8
  | 0, _ => []
  | width + 1, n => UInt8.ofNat n :: bytesOfNat width (n / 256)

def readInteger (width : ℕ) (signed : Bool) (bytes : List UInt8) : ℤ :=
  let n := natOfBytes (bytes.take width)
  if signed ∧ 2 ^ (8 * width - 1) ≤ n then (n : ℤ) - 2 ^ (8 * width) else n

def inRange (width : ℕ) (signed : Bool) (n : ℤ) : Bool :=
  if signed then -2 ^ (8 * width - 1) ≤ n ∧ n < 2 ^ (8 * width - 1) else 0 ≤ n ∧ n < 2 ^ (8 * width)

def decimal (digits : List Char) : ℕ := digits.foldl (fun n c => 10 * n + (c.toNat - '0'.toNat)) 0

/-- `from_chars` into a 64 bit number. A number that is too large is reported before the characters
that follow it. -/
def fromChars (signed : Bool) (text : String) : Except Failure ℤ :=
  let negative := signed ∧ text.toList.head? = some '-'
  let cs := if negative then text.toList.tail else text.toList
  let digits := cs.takeWhile Char.isDigit
  let n : ℤ := if negative then -decimal digits else decimal digits
  if digits = [] then .error einval
  else if ¬ inRange 8 signed n then .error erange
  else if digits ≠ cs then .error einval
  else .ok n

def writeInteger (width : ℕ) (signed : Bool) (text : String) : Except Failure (List UInt8) := do
  let n ← fromChars signed text
  if ¬ inRange width signed n then .error erange
  else return bytesOfNat width (n % 2 ^ (8 * width)).toNat

/-- `isfinite`: the exponent is not all ones. -/
def finite (k : FieldValueKind) (bytes : List UInt8) : Bool :=
  match k with
  | .float32 => natOfBytes bytes / 2 ^ 23 % 2 ^ 8 ≠ 2 ^ 8 - 1
  | _ => natOfBytes bytes / 2 ^ 52 % 2 ^ 11 ≠ 2 ^ 11 - 1

variable (texts : Texts)

def writeFloat (k : FieldValueKind) (text : String) : Except Failure (List UInt8) :=
  if text = "" then .error einval
  else match texts.readFloat k text with
    | none => .error erange
    | some (bytes, rest) => if rest ≠ [] ∨ ¬ finite k bytes then .error erange else .ok bytes

def readScalar (k : FieldValueKind) (bytes : List UInt8) : Except Failure String :=
  match k, k.integer with
  | .bool, _ =>
    let v := bytes.headD 0
    if 1 < v then .error eproto else .ok (if v = 1 then "true" else "false")
  | .float32, _ => .ok (texts.printFloat .float32 (bytes.take 4))
  | .float64, _ => .ok (texts.printFloat .float64 (bytes.take 8))
  | _, some (width, signed) => .ok (toString (readInteger width signed bytes))
  | _, none => .error enotsup

def writeScalar (k : FieldValueKind) (text : String) : Except Failure (List UInt8) :=
  match k, k.integer with
  | .bool, _ => if text ≠ "true" ∧ text ≠ "false" then .error einval
    else .ok [if text = "true" then 1 else 0]
  | .float32, _ => writeFloat texts .float32 text
  | .float64, _ => writeFloat texts .float64 text
  | _, some (width, signed) => writeInteger width signed text
  | _, none => .error enotsup

def bounds (f : TypeFieldInfo) (size : ℕ) : Bool :=
  f.offset ≤ size ∧ f.elementSize * f.arrayCount ≤ size - f.offset

def overwrite (bytes : List UInt8) (start : ℕ) (new : List UInt8) : List UInt8 :=
  bytes.take start ++ new ++ bytes.drop (start + new.length)

def decodeField (f : TypeFieldInfo) (bytes : List UInt8) : Except Failure FieldValue :=
  if ¬ bounds f bytes.length then .error eproto
  else do
    let values ← (List.range f.arrayCount).mapM fun j =>
      readScalar texts f.kind (bytes.drop (f.offset + j * f.elementSize))
    return {
      name := f.name
      typeName := f.kind.name
      kind := f.kind.valueKind
      value := if f.arrayCount = 1 then values.headD "" else ""
      arrayValues := if f.arrayCount = 1 then [] else values }

def decode (d : TypeDescriptor) (p : DynamicPayload) : Except Failure DataSnapshot :=
  if ¬ texts.validateTypeDescriptor d then .error eproto
  else if p.typeId ≠ d.typeId then .error eprototype
  else if p.bytes.length ≠ d.payloadSize then .error emsgsize
  else do
    let fields ← d.fields.mapM fun f => decodeField texts f p.bytes
    return { typeName := d.typeName, typeId := d.typeId, sequence := p.sequence, fields := fields }

def wrongShape (f : TypeFieldInfo) (field : FieldValue) : Bool :=
  1 < f.arrayCount ∧ (field.arrayValues.length ≠ f.arrayCount ∨ field.value ≠ "") ∨
    f.arrayCount = 1 ∧ field.arrayValues ≠ []

def encodeElements (f : TypeFieldInfo) (field : FieldValue) (bytes : List UInt8) :
    Except Failure (List UInt8) :=
  (List.range f.arrayCount).foldlM (fun bytes j => do
    let new ← writeScalar texts f.kind
      (if f.arrayCount = 1 then field.value else field.arrayValues.getD j "")
    return overwrite bytes (f.offset + j * f.elementSize) new) bytes

/-- `used` holds the descriptor's fields that were already written. -/
def encodeFields (d : TypeDescriptor) :
    List FieldValue → List ℕ → List UInt8 → Except Failure (List UInt8)
  | [], _, bytes => .ok bytes
  | field :: fields, used, bytes =>
    let i := d.fields.findIdx fun f => field.name = f.name
    match d.fields[i]? with
    | none => .error einval
    | some f =>
      if i ∈ used then .error einval
      else if ¬ bounds f bytes.length then .error eproto
      else if field.kind ≠ f.kind.valueKind ∨ field.typeName ≠ f.kind.name then .error eprototype
      else if wrongShape f field then .error emsgsize
      else do
        let bytes ← encodeElements texts f field bytes
        encodeFields d fields (i :: used) bytes

def encode (d : TypeDescriptor) (input : DataSnapshot) (seed : Option DynamicPayload) :
    Except Failure DynamicPayload :=
  if ¬ texts.validateTypeDescriptor d then .error eproto
  else if input.typeId ≠ d.typeId ∨ input.typeName ≠ d.typeName then .error eprototype
  else if input.fields.length ≠ d.fields.length then .error einval
  else if seed.any fun s => s.typeId ≠ d.typeId ∨ s.bytes.length ≠ d.payloadSize then .error eprototype
  else
    let start := seed.getD { bytes := List.replicate d.payloadSize 0 }
    (encodeFields texts d input.fields [] start.bytes).map fun bytes =>
      { start with typeId := d.typeId, bytes := bytes }

end ValueCodec

end KcfTools
