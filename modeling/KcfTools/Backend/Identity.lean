import Mathlib

/-! Identities of Hosts, runtimes and endpoints, their text keys, and the parser of a Host key. -/

namespace KcfTools

structure HostIdentity where
  bytes : Vector UInt8 16 := Vector.replicate 16 0
deriving DecidableEq

structure RemoteRuntimeIdentity where
  host : HostIdentity := {}
  bootId : HostIdentity := {}
  pid : Int32 := 0
  processStartTicks : UInt64 := 0
deriving DecidableEq

structure RemoteEndpointIdentity where
  runtime : RemoteRuntimeIdentity := {}
  registrationId : UInt64 := 0
deriving DecidableEq

def hex (n : UInt8) : Char :=
  ['0', '1', '2', '3', '4', '5', '6', '7', '8', '9', 'a', 'b', 'c', 'd', 'e', 'f'].getD n.toNat '0'

def hexPair (b : UInt8) : List Char := [hex (b >>> 4), hex (b &&& 15)]

def HostIdentity.key (id : HostIdentity) : String := String.ofList (id.bytes.toList.flatMap hexPair)

def RemoteRuntimeIdentity.key (id : RemoteRuntimeIdentity) : String :=
  id.host.key ++ ":" ++ id.bootId.key ++ ":" ++ toString id.pid ++ ":" ++ toString id.processStartTicks

def RemoteEndpointIdentity.key (id : RemoteEndpointIdentity) : String :=
  id.runtime.key ++ ":" ++ toString id.registrationId

def digit (c : Char) : ℤ :=
  if '0' ≤ c ∧ c ≤ '9' then c.toNat - '0'.toNat
  else if 'a' ≤ c ∧ c ≤ 'f' then c.toNat - 'a'.toNat + 10
  else if 'A' ≤ c ∧ c ≤ 'F' then c.toNat - 'A'.toNat + 10
  else -1

def parseBytes : List Char → Option (List UInt8)
  | x :: y :: rest =>
    let a := digit x
    let b := digit y
    if a < 0 ∨ b < 0 then none
    else (parseBytes rest).map (UInt8.ofNat (a.toNat <<< 4 ||| b.toNat) :: ·)
  | _ => some []

/-- A text that is not 32 hexadecimal digits gives the zero identity. -/
def parseHost (text : String) : HostIdentity :=
  match parseBytes text.toList with
  | some bytes => if h : text.length = 32 ∧ bytes.length = 16 then
      ⟨⟨bytes.toArray, by simp [h.2]⟩⟩ else {}
  | none => {}

lemma parseBytes_hexPair (b : UInt8) (rest : List Char) :
    parseBytes (hexPair b ++ rest) = (parseBytes rest).map (b :: ·) := by
  have hb : ¬ digit (hex (b >>> 4)) < 0 ∧ ¬ digit (hex (b &&& 15)) < 0 ∧
      UInt8.ofNat ((digit (hex (b >>> 4))).toNat <<< 4 ||| (digit (hex (b &&& 15))).toNat) = b := by
    revert b
    decide +kernel
  obtain ⟨h₁, h₂, h₃⟩ := hb
  simp only [hexPair, List.cons_append, List.nil_append, parseBytes, h₁, h₂, or_self,
    if_false, h₃]

lemma parseBytes_hex (bytes : List UInt8) : parseBytes (bytes.flatMap hexPair) = some bytes := by
  induction bytes with
  | nil => rfl
  | cons b bs ih => rw [List.flatMap_cons, parseBytes_hexPair, ih]; rfl

@[simp] lemma HostIdentity.key_length (id : HostIdentity) : id.key.length = 32 := by
  simp [HostIdentity.key, hexPair, List.length_flatMap]

lemma parseHost_key (id : HostIdentity) : parseHost id.key = id := by
  have hp : parseBytes id.key.toList = some id.bytes.toList := by
    simp [HostIdentity.key, parseBytes_hex]
  obtain ⟨⟨bytes, hb⟩⟩ := id
  simp [parseHost, hp, hb]

lemma HostIdentity.key_injective : Function.Injective HostIdentity.key :=
  Function.LeftInverse.injective parseHost_key

@[simp] lemma HostIdentity.key_inj {a b : HostIdentity} : a.key = b.key ↔ a = b :=
  HostIdentity.key_injective.eq_iff

lemma HostIdentity.key_ne_empty (id : HostIdentity) : id.key ≠ "" := by
  intro h
  have hl := id.key_length
  rw [h] at hl
  simp at hl

end KcfTools
