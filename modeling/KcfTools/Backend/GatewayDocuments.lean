import KcfTools.Backend.GatewayCycles
import KcfTools.Backend.ScalarTexts
import KcfTools.Lib.Keys

/-! The peer tables that are accepted, and the documents that give the same table. -/

namespace KcfTools.LocalGateway

open Results

section Table

/-- Thirty-two hexadecimal digits in lower case. -/
def Normalised (s : String) : Prop :=
  s.toList.length = 32 ∧ ∀ c ∈ s.toList, c.isDigit ∨ 'a' ≤ c ∧ c ≤ 'f'

def Absent (r : RouteEndpointIdentity) : Prop :=
  r.hostId = zeroId ∧ r.bootId = zeroId ∧ r.pid = 0 ∧ r.startTicks = 0 ∧ r.registrationId = 0

def Present (r : RouteEndpointIdentity) : Prop :=
  r.hostId ≠ zeroId ∧ r.bootId ≠ zeroId ∧ 0 < r.pid ∧ r.startTicks ≠ 0

structure ConsistentEndpoint (host boot : String) (e : LocalGatewayEndpoint) : Prop where
  host : e.identity.hostId = host
  boot : e.identity.bootId = boot
  live : 0 < e.identity.pid ∧ e.identity.startTicks ≠ 0 ∧ e.identity.registrationId ≠ 0
  application : Absent e.application ∨ Present e.application
  name : e.name.head? = some 47
  kind : 1 ≤ e.kind ∧ e.kind ≤ 4
  role : 1 ≤ e.role ∧ e.role ≤ 2
  scope : e.scope ≤ 1

structure ConsistentPeer (p : LocalGatewayPeer) : Prop where
  host : Normalised p.host ∧ p.host ≠ zeroId
  boot : Normalised p.boot ∧ p.boot ≠ zeroId
  session : p.session ≠ 0
  port : 1 ≤ p.metadataPort ∧ p.metadataPort ≤ 65535
  limit : p.endpoints.length ≤ 64
  endpoints : ∀ e ∈ p.endpoints, ConsistentEndpoint p.host p.boot e

structure ConsistentTable (table : List LocalGatewayPeer) : Prop where
  limit : table.length ≤ 64
  hosts : (table.map LocalGatewayPeer.host).Nodup
  peers : ∀ p ∈ table, ConsistentPeer p
  identities : (table.flatMap fun p => p.endpoints.map LocalGatewayEndpoint.identity).Nodup

end Table

section Numbers

/-- The number that a document holds under a key. -/
def Number (j : Json) (key : String) (n : ℤ) : Prop :=
  (∃ m, field j key = .ok (.signed m) ∧ m.toInt = n) ∨ ∃ m, field j key = .ok (.unsigned m) ∧ (m.toNat : ℤ) = n

/-- The number whose digits a document holds under a key. -/
def Digits (j : Json) (key : String) (n : ℕ) : Prop :=
  ∃ s, field j key = .ok (.string s) ∧ ValueCodec.Numeral false s n

def Member (j : Json) (key : String) (P : Json → Prop) : Prop := ∃ v, field j key = .ok v ∧ P v

structure TypeNumbers (t : RemoteTypeIdentity) (j : Json) : Prop where
  typeId : Digits j "type_id" t.typeId.toNat
  schemaId : Digits j "schema_id" t.schemaId.toNat
  encodingId : Number j "encoding_id" t.encodingId.toNat
  payloadSize : Number j "payload_size" t.payloadSize.toNat

structure RuntimeNumbers (r : RouteEndpointIdentity) (j : Json) : Prop where
  pid : Number j "pid" r.pid.toInt
  startTicks : Digits j "start_ticks" r.startTicks.toNat

structure EndpointNumbers (j : Json) (e : LocalGatewayEndpoint) : Prop where
  runtime : Member j "runtime" (RuntimeNumbers e.identity)
  registration : Digits j "registration_id" e.identity.registrationId.toNat
  application : Member j "application" (RuntimeNumbers e.application)
  kind : Number j "kind" e.kind
  role : Number j "role" e.role
  scope : Number j "scope" e.scope
  valueType : Member j "value_type" (TypeNumbers e.valueType)
  requestType : Member j "request_type" (TypeNumbers e.requestType)
  responseType : Member j "response_type" (TypeNumbers e.responseType)
  feedbackType : Member j "feedback_type" (TypeNumbers e.feedbackType)

/-- The numbers of a peer are those of its document, nothing is cut off. -/
structure PeerNumbers (j : Json) (p : LocalGatewayPeer) : Prop where
  session : Digits j "session" p.session.toNat
  port : Number j "metadata_port" p.metadataPort
  revision : Digits j "metadata_revision" p.metadataRevision.toNat
  endpoints : ∃ items, field j "endpoints" = .ok (.array items) ∧ List.Forall₂ EndpointNumbers items p.endpoints

end Numbers

section Spelling

def identifierKeys : List String := ["host", "boot"]

def decimalKeys : List String :=
  ["session", "metadata_revision", "start_ticks", "registration_id", "type_id", "schema_id"]

/-- One text up to the case of hexadecimal digits. -/
def SameIdentifier (s t : String) : Prop :=
  List.Forall₂ (fun c d : Char => c = d ∨ isHex c ∧ isHex d ∧ c.toLower = d.toLower) s.toList t.toList

/-- One text up to leading zeros, within the limit of a decimal. -/
def SameDecimal (s t : String) : Prop :=
  s.utf8ByteSize ≤ 20 ∧ t.utf8ByteSize ≤ 20 ∧ ∃ m n rest, rest ≠ [] ∧
    s.toList = List.replicate m '0' ++ rest ∧ t.toList = List.replicate n '0' ++ rest

inductive SameMember (R : String → Json → Json → Prop) : String × Json → String × Json → Prop
  | mk {key : String} {v w : Json} : R key v w → SameMember R (key, v) (key, w)

/-- The values under one key of two documents that differ in such spellings only. -/
inductive Alike : String → Json → Json → Prop
  | same {key : String} {j : Json} : Alike key j j
  | identifier {key s t : String} : key ∈ identifierKeys → SameIdentifier s t →
    Alike key (.string s) (.string t)
  | decimal {key s t : String} : key ∈ decimalKeys → SameDecimal s t → Alike key (.string s) (.string t)
  | array {key : String} {xs ys : List Json} : List.Forall₂ (Alike "") xs ys → Alike key (.array xs) (.array ys)
  | object {key : String} {fs gs : List (String × Json)} :
    List.Forall₂ (SameMember Alike) fs gs → Alike key (.object fs) (.object gs)

end Spelling

section Readers

variable {j v : Json} {key : String}

lemma string_ok {s : String} (h : string j = .ok s) : j = .string s := by
  cases j with
  | string t => exact congrArg Json.string (Except.ok.inj h)
  | null | boolean | signed | unsigned | float | array | object => cases h

lemma array_ok {limit : ℕ} {items : List Json} (h : array j limit = .ok items) :
    j = .array items ∧ items.length ≤ limit := by
  cases j with
  | array xs =>
    unfold array at h
    dsimp only at h
    split_ifs at h with hl
    obtain rfl := Except.ok.inj h
    exact ⟨rfl, hl⟩
  | null | boolean | signed | unsigned | float | string | object => cases h

lemma integer_ok {low high n : ℤ} (hv : field j key = .ok v) (h : integer v low high = .ok n) :
    Number j key n ∧ low ≤ n ∧ n ≤ high := by
  cases v with
  | signed m =>
    unfold integer at h
    dsimp only at h
    split_ifs at h with hr
    obtain rfl := Except.ok.inj h
    exact ⟨.inl ⟨m, hv, rfl⟩, hr⟩
  | unsigned m =>
    unfold integer at h
    dsimp only at h
    split_ifs at h with hr
    obtain rfl := Except.ok.inj h
    exact ⟨.inr ⟨m, hv, rfl⟩, hr⟩
  | null | boolean | float | string | array | object => cases h

lemma decimal_ok {n : UInt64} (hv : field j key = .ok v) (h : decimal v = .ok n) : Digits j key n.toNat := by
  obtain ⟨s, hs, h⟩ := bind_ok_inv h
  obtain ⟨_, _, h⟩ := bind_ok_inv h
  rw [string_ok hs] at hv
  cases hread : ValueCodec.fromChars false s with
  | error e =>
    rw [hread] at h
    cases h
  | ok m =>
    rw [hread] at h
    obtain rfl := Except.ok.inj h
    obtain ⟨hnumeral, hrange⟩ := ValueCodec.fromChars_iff.mp hread
    refine ⟨s, hv, ?_⟩
    simp only [ValueCodec.inRange, Bool.false_eq_true, if_false, decide_eq_true_eq] at hrange
    have hn : ((UInt64.ofNat m.toNat).toNat : ℤ) = m := by
      rw [UInt64.toNat_ofNat']
      omega
    rwa [hn]

def hexDigits : List Char :=
  ['0', '1', '2', '3', '4', '5', '6', '7', '8', '9', 'a', 'b', 'c', 'd', 'e', 'f', 'A', 'B', 'C', 'D', 'E', 'F']

lemma isHex_mem {c : Char} (h : isHex c) : c ∈ hexDigits := by
  have hc : c = Char.ofNat c.toNat := (Char.ofNat_toNat c).symm
  have hranges : (48 ≤ c.toNat ∧ c.toNat ≤ 57) ∨ (97 ≤ c.toNat ∧ c.toNat ≤ 102) ∨
      (65 ≤ c.toNat ∧ c.toNat ≤ 70) := by
    simp only [isHex, Char.isDigit_iff_toNat, Char.le_def, UInt32.le_iff_toNat_le, Char.toNat_val,
      decide_eq_true_eq] at h
    exact h
  rw [hc]
  generalize c.toNat = n at hranges
  rcases hranges with ⟨hl, hu⟩ | ⟨hl, hu⟩ | ⟨hl, hu⟩ <;> interval_cases n <;> decide

lemma toLower_hex {c : Char} (h : isHex c) :
    c.utf8Size = 1 ∧ (c.toLower.isDigit ∨ 'a' ≤ c.toLower ∧ c.toLower ≤ 'f') := by
  have hall : ∀ d ∈ hexDigits,
      d.utf8Size = 1 ∧ (d.toLower.isDigit ∨ 'a' ≤ d.toLower ∧ d.toLower ≤ 'f') := by
    simp [hexDigits, Char.utf8Size]
  exact hall c (isHex_mem h)

lemma utf8Len_hex {cs : List Char} (h : ∀ c ∈ cs, isHex c) : String.utf8Len cs = cs.length := by
  induction cs with
  | nil => rfl
  | cons c cs ih =>
    rw [String.utf8Len_cons, List.length_cons, ih fun d hd => h d (List.mem_cons_of_mem _ hd),
      (toLower_hex (h c List.mem_cons_self)).1]

lemma id_ok {zero : Bool} {s : String} (h : id j zero = .ok s) : Normalised s ∧ (zero ∨ s ≠ zeroId) := by
  obtain ⟨t, ht, h⟩ := bind_ok_inv h
  obtain ⟨_, hlength, h⟩ := bind_ok_inv h
  obtain ⟨_, hhex, h⟩ := bind_ok_inv h
  obtain ⟨_, hzero, h⟩ := bind_ok_inv h
  have hlength := require_ok hlength
  have hhex := require_ok hhex
  have hzero := require_ok hzero
  obtain rfl := Except.ok.inj h
  simp only [decide_eq_true_eq, List.all_eq_true, Bool.or_eq_true] at hlength hhex hzero
  refine ⟨⟨?_, ?_⟩, hzero⟩
  · rw [String.toList_map, List.length_map, ← utf8Len_hex hhex, String.utf8Len_toList]
    exact hlength
  · intro c hc
    rw [String.toList_map, List.mem_map] at hc
    obtain ⟨d, hd, rfl⟩ := hc
    exact (toLower_hex (hhex d hd)).2

end Readers

section Accepted

variable {j : Json}

lemma type_ok {t : RemoteTypeIdentity} (h : type j = .ok t) : TypeNumbers t j := by
  obtain ⟨_, hfield₁, h⟩ := bind_ok_inv h
  obtain ⟨typeId, htype, h⟩ := bind_ok_inv h
  obtain ⟨_, hfield₂, h⟩ := bind_ok_inv h
  obtain ⟨schemaId, hschema, h⟩ := bind_ok_inv h
  obtain ⟨_, hfield₃, h⟩ := bind_ok_inv h
  obtain ⟨encodingId, hencoding, h⟩ := bind_ok_inv h
  obtain ⟨_, hfield₄, h⟩ := bind_ok_inv h
  obtain ⟨payloadSize, hpayload, h⟩ := bind_ok_inv h
  obtain rfl := Except.ok.inj h
  obtain ⟨hnumber₃, hlow₃, hhigh₃⟩ := integer_ok hfield₃ hencoding
  obtain ⟨hnumber₄, hlow₄, hhigh₄⟩ := integer_ok hfield₄ hpayload
  have hexact : ∀ n : ℤ, 0 ≤ n → n ≤ 2 ^ 32 - 1 → ((UInt32.ofNat n.toNat).toNat : ℤ) = n := by
    intro n hlow hhigh
    rw [UInt32.toNat_ofNat']
    omega
  refine ⟨decimal_ok hfield₁ htype, decimal_ok hfield₂ hschema, ?_, ?_⟩
  · rwa [hexact encodingId hlow₃ hhigh₃]
  · rwa [hexact payloadSize hlow₄ hhigh₄]

lemma runtime_ok {application : Bool} {r : RouteEndpointIdentity} (h : runtime j application = .ok r) :
    RuntimeNumbers r j ∧ r.registrationId = 0 ∧ (Absent r ∧ application ∨ Present r) := by
  obtain ⟨_, hfield₁, h⟩ := bind_ok_inv h
  obtain ⟨host, hhost, h⟩ := bind_ok_inv h
  obtain ⟨_, hfield₂, h⟩ := bind_ok_inv h
  obtain ⟨boot, hboot, h⟩ := bind_ok_inv h
  obtain ⟨_, hfield₃, h⟩ := bind_ok_inv h
  obtain ⟨pid, hpid, h⟩ := bind_ok_inv h
  obtain ⟨_, hfield₄, h⟩ := bind_ok_inv h
  obtain ⟨startTicks, hticks, h⟩ := bind_ok_inv h
  obtain ⟨hnumber, hlow, hhigh⟩ := integer_ok hfield₃ hpid
  have hlow' : 0 ≤ pid := by split_ifs at hlow <;> omega
  have hexact : (Int32.ofInt pid).toInt = pid := Int32.toInt_ofInt_of_le (by omega) (by omega)
  have hnumbers : ∀ r : RouteEndpointIdentity, r.pid = Int32.ofInt pid → r.startTicks = startTicks →
      RuntimeNumbers r j := by
    intro r hp ht
    refine ⟨?_, ht ▸ decimal_ok hfield₄ hticks⟩
    rwa [hp, hexact]
  by_cases hzero : pid = 0
  · rw [if_pos hzero] at h
    obtain ⟨_, hall, h⟩ := bind_ok_inv h
    have hall := require_ok hall
    obtain rfl := Except.ok.inj h
    simp only [decide_eq_true_eq] at hall
    refine ⟨hnumbers _ rfl rfl, rfl, .inl ⟨⟨hall.1, hall.2.1, ?_, hall.2.2, rfl⟩, ?_⟩⟩
    · simp [hzero]
    · cases application with
      | true => rfl
      | false => simp [hzero] at hlow
  · rw [if_neg hzero] at h
    obtain ⟨_, hall, h⟩ := bind_ok_inv h
    have hall := require_ok hall
    obtain rfl := Except.ok.inj h
    simp only [decide_eq_true_eq] at hall
    refine ⟨hnumbers _ rfl rfl, rfl, .inr ⟨hall.2.1, hall.2.2, ?_, hall.1⟩⟩
    rw [Int32.lt_iff_toInt_lt, hexact]
    exact lt_of_le_of_ne hlow' (Ne.symm hzero)

lemma present_of_live {r : RouteEndpointIdentity} (h : Absent r ∧ false ∨ Present r) : Present r := by
  rcases h with ⟨_, h⟩ | h
  · cases h
  · exact h

lemma endpoint_ok {host boot : String} {seen : List String} {e : LocalGatewayEndpoint}
    (h : endpoint host boot seen j = .ok e) :
    ConsistentEndpoint host boot e ∧ EndpointNumbers j e ∧ identityText e.identity ∉ seen := by
  obtain ⟨_, hfield, h⟩ := bind_ok_inv h
  obtain ⟨identity, hruntime, h⟩ := bind_ok_inv h
  obtain ⟨hnumbers, -, hlive⟩ := runtime_ok hruntime
  have hruntime : Member j "runtime" (RuntimeNumbers identity) := ⟨_, hfield, hnumbers⟩
  obtain ⟨_, hfield, h⟩ := bind_ok_inv h
  obtain ⟨registrationId, hread, h⟩ := bind_ok_inv h
  have hregistration := decimal_ok hfield hread
  obtain ⟨_, hrequire, h⟩ := bind_ok_inv h
  have hhome := require_ok hrequire
  obtain ⟨_, hrequire, h⟩ := bind_ok_inv h
  have hnew := require_ok hrequire
  obtain ⟨_, hfield, h⟩ := bind_ok_inv h
  obtain ⟨application, hread, h⟩ := bind_ok_inv h
  obtain ⟨hnumbers, -, happlication⟩ := runtime_ok hread
  have happ : Member j "application" (RuntimeNumbers application) := ⟨_, hfield, hnumbers⟩
  obtain ⟨_, _, h⟩ := bind_ok_inv h
  obtain ⟨hostName, _, h⟩ := bind_ok_inv h
  obtain ⟨_, _, h⟩ := bind_ok_inv h
  obtain ⟨applicationName, _, h⟩ := bind_ok_inv h
  obtain ⟨_, _, h⟩ := bind_ok_inv h
  obtain ⟨elementName, _, h⟩ := bind_ok_inv h
  obtain ⟨_, _, h⟩ := bind_ok_inv h
  obtain ⟨name, _, h⟩ := bind_ok_inv h
  obtain ⟨_, hrequire, h⟩ := bind_ok_inv h
  have hname := require_ok hrequire
  obtain ⟨_, hfield, h⟩ := bind_ok_inv h
  obtain ⟨kind, hread, h⟩ := bind_ok_inv h
  obtain ⟨hkind, hkindLow, hkindHigh⟩ := integer_ok hfield hread
  obtain ⟨_, hfield, h⟩ := bind_ok_inv h
  obtain ⟨role, hread, h⟩ := bind_ok_inv h
  obtain ⟨hrole, hroleLow, hroleHigh⟩ := integer_ok hfield hread
  obtain ⟨_, hfield, h⟩ := bind_ok_inv h
  obtain ⟨scope, hread, h⟩ := bind_ok_inv h
  obtain ⟨hscope, hscopeLow, hscopeHigh⟩ := integer_ok hfield hread
  obtain ⟨_, hfield₁, h⟩ := bind_ok_inv h
  obtain ⟨valueType, htype₁, h⟩ := bind_ok_inv h
  obtain ⟨_, hfield₂, h⟩ := bind_ok_inv h
  obtain ⟨requestType, htype₂, h⟩ := bind_ok_inv h
  obtain ⟨_, hfield₃, h⟩ := bind_ok_inv h
  obtain ⟨responseType, htype₃, h⟩ := bind_ok_inv h
  obtain ⟨_, hfield₄, h⟩ := bind_ok_inv h
  obtain ⟨feedbackType, htype₄, h⟩ := bind_ok_inv h
  obtain ⟨_, _, h⟩ := bind_ok_inv h
  obtain ⟨_, _, h⟩ := bind_ok_inv h
  obtain ⟨groups, _, h⟩ := bind_ok_inv h
  obtain rfl := Except.ok.inj h
  simp only [decide_eq_true_eq] at hhome hnew hname
  have hexact : ∀ n : ℤ, 0 ≤ n → ((n.toNat : ℕ) : ℤ) = n := fun n hn => Int.toNat_of_nonneg hn
  obtain ⟨-, -, hpid, hticks⟩ := present_of_live hlive
  refine ⟨?_, ?_, hnew⟩
  · exact {
      host := hhome.2.1
      boot := hhome.2.2
      live := ⟨hpid, hticks, hhome.1⟩
      application := happlication.imp_left And.left
      name := hname
      kind := ⟨by dsimp only; omega, by dsimp only; omega⟩
      role := ⟨by dsimp only; omega, by dsimp only; omega⟩
      scope := by dsimp only; omega }
  · obtain ⟨v, hv, hnumbers⟩ := hruntime
    exact {
      runtime := ⟨v, hv, hnumbers.pid, hnumbers.startTicks⟩
      registration := hregistration
      application := happ
      kind := by rwa [hexact kind (by omega)]
      role := by rwa [hexact role (by omega)]
      scope := by rwa [hexact scope hscopeLow]
      valueType := ⟨_, hfield₁, type_ok htype₁⟩
      requestType := ⟨_, hfield₂, type_ok htype₂⟩
      responseType := ⟨_, hfield₃, type_ok htype₃⟩
      feedbackType := ⟨_, hfield₄, type_ok htype₄⟩ }

lemma endpoints_ok {host boot : String} {items : List Json} {out : List LocalGatewayEndpoint}
    (h : items.foldlM (addEndpoint host boot) [] = .ok out) :
    List.Forall₂ (fun e v => ConsistentEndpoint host boot v ∧ EndpointNumbers e v) items out ∧
      (out.map LocalGatewayEndpoint.identity).Nodup := by
  constructor
  · obtain ⟨vs, rfl, hall⟩ := foldlM_appended
      (R := fun e v => ConsistentEndpoint host boot v ∧ EndpointNumbers e v)
      (fun out e out' hadd => by
        obtain ⟨v, hv, hadd⟩ := bind_ok_inv hadd
        obtain ⟨hconsistent, hnumbers, -⟩ := endpoint_ok hv
        exact ⟨v, (Except.ok.inj hadd).symm, hconsistent, hnumbers⟩) h
    exact hall
  · have htexts : (out.map fun o => identityText o.identity).Nodup := by
      refine foldlM_kept (P := fun out => (out.map fun o => identityText o.identity).Nodup) ?_ List.nodup_nil h
      intro out e out' hnodup hadd
      obtain ⟨v, hv, hadd⟩ := bind_ok_inv hadd
      obtain rfl := Except.ok.inj hadd
      rw [List.map_append]
      exact hnodup.append (List.nodup_singleton _) (by simpa using (endpoint_ok hv).2.2)
    have hmap : (out.map LocalGatewayEndpoint.identity).map identityText =
        out.map fun o => identityText o.identity := List.map_map
    rw [← hmap] at htexts
    exact htexts.of_map _

variable {inetPton : String → Bool}

lemma addPeer_ok {out out' : List LocalGatewayPeer} (h : addPeer inetPton out j = .ok out') :
    ∃ p, out' = out ++ [p] ∧ p.host ∉ out.map LocalGatewayPeer.host ∧ ConsistentPeer p ∧ PeerNumbers j p ∧
      (p.endpoints.map LocalGatewayEndpoint.identity).Nodup := by
  obtain ⟨_, _, h⟩ := bind_ok_inv h
  obtain ⟨host, hhost, h⟩ := bind_ok_inv h
  obtain ⟨_, hnew, h⟩ := bind_ok_inv h
  obtain ⟨_, _, h⟩ := bind_ok_inv h
  obtain ⟨boot, hboot, h⟩ := bind_ok_inv h
  obtain ⟨_, hfield₁, h⟩ := bind_ok_inv h
  obtain ⟨session, hsession, h⟩ := bind_ok_inv h
  obtain ⟨_, hlive, h⟩ := bind_ok_inv h
  obtain ⟨_, _, h⟩ := bind_ok_inv h
  obtain ⟨state, _, h⟩ := bind_ok_inv h
  obtain ⟨_, _, h⟩ := bind_ok_inv h
  obtain ⟨_, _, h⟩ := bind_ok_inv h
  obtain ⟨address, _, h⟩ := bind_ok_inv h
  obtain ⟨_, _, h⟩ := bind_ok_inv h
  obtain ⟨_, hfield₂, h⟩ := bind_ok_inv h
  obtain ⟨port, hport, h⟩ := bind_ok_inv h
  obtain ⟨_, hfield₃, h⟩ := bind_ok_inv h
  obtain ⟨revision, hrevision, h⟩ := bind_ok_inv h
  obtain ⟨_, _, h⟩ := bind_ok_inv h
  obtain ⟨ready, _, h⟩ := bind_ok_inv h
  obtain ⟨_, hfield₄, h⟩ := bind_ok_inv h
  obtain ⟨items, hitems, h⟩ := bind_ok_inv h
  obtain ⟨endpoints, hendpoints, h⟩ := bind_ok_inv h
  obtain rfl := Except.ok.inj h
  have hnew := require_ok hnew
  have hlive := require_ok hlive
  simp only [decide_eq_true_eq] at hnew hlive
  obtain ⟨hhostText, hhostId⟩ := id_ok hhost
  obtain ⟨hbootText, hbootId⟩ := id_ok hboot
  obtain ⟨hportNumber, hportLow, hportHigh⟩ := integer_ok hfield₂ hport
  obtain ⟨rfl, hlimit⟩ := array_ok hitems
  obtain ⟨hall, hnodup⟩ := endpoints_ok hendpoints
  have hexact : ((port.toNat : ℕ) : ℤ) = port := Int.toNat_of_nonneg (by omega)
  refine ⟨_, rfl, hnew, ?_, ?_, hnodup⟩
  · exact {
      host := ⟨hhostText, hhostId.resolve_left (by decide)⟩
      boot := ⟨hbootText, hbootId.resolve_left (by decide)⟩
      session := hlive
      port := ⟨by dsimp only; omega, by dsimp only; omega⟩
      limit := hall.length_eq ▸ hlimit
      endpoints := fun e he => by
        obtain ⟨_, _, hconsistent, _⟩ := forall₂_mem_right hall e he
        exact hconsistent }
  · exact {
      session := decimal_ok hfield₁ hsession
      port := by rwa [hexact]
      revision := decimal_ok hfield₃ hrevision
      endpoints := ⟨items, hfield₄, hall.imp fun _ _ h => h.2⟩ }

lemma peers_ok {table : List LocalGatewayPeer} (h : peers inetPton j = .ok table) :
    ConsistentTable table ∧
      ∃ items, field j "peers" = .ok (.array items) ∧ List.Forall₂ PeerNumbers items table := by
  obtain ⟨_, hfield, h⟩ := bind_ok_inv h
  obtain ⟨items, hitems, hfold⟩ := bind_ok_inv h
  obtain ⟨rfl, hlimit⟩ := array_ok hitems
  obtain ⟨_, rfl, hall⟩ := foldlM_appended
    (R := fun x p => ConsistentPeer p ∧ PeerNumbers x p ∧ (p.endpoints.map LocalGatewayEndpoint.identity).Nodup)
    (fun out x out' hadd => by
      obtain ⟨p, hout, -, hp⟩ := addPeer_ok hadd
      exact ⟨p, hout, hp⟩) hfold
  have hhosts : (table.map LocalGatewayPeer.host).Nodup := by
    refine foldlM_kept (P := fun out => (out.map LocalGatewayPeer.host).Nodup) ?_ List.nodup_nil hfold
    intro out x out' hnodup hadd
    obtain ⟨p, rfl, hnew, -⟩ := addPeer_ok hadd
    rw [List.map_append]
    exact hnodup.append (List.nodup_singleton _) (by simpa using hnew)
  refine ⟨{ limit := hall.length_eq ▸ hlimit, hosts := hhosts, peers := ?_, identities := ?_ },
    items, hfield, hall.imp fun _ _ h => h.2.1⟩
  · intro p hp
    obtain ⟨_, _, hconsistent, _⟩ := forall₂_mem_right hall p hp
    exact hconsistent
  · refine List.nodup_flatMap.mpr ⟨?_, ?_⟩
    · intro p hp
      obtain ⟨_, _, _, _, hnodup⟩ := forall₂_mem_right hall p hp
      exact hnodup
    · -- Endpoints of two peers differ in their hosts.
      refine (List.pairwise_map.mp hhosts).imp_of_mem ?_
      intro p q hp hq hpq i hi hi'
      obtain ⟨e, he, rfl⟩ := List.mem_map.mp hi
      obtain ⟨e', he', heq⟩ := List.mem_map.mp hi'
      obtain ⟨_, _, hconsistent, _⟩ := forall₂_mem_right hall p hp
      obtain ⟨_, _, hconsistent', _⟩ := forall₂_mem_right hall q hq
      refine hpq ?_
      rw [← (hconsistent.endpoints e he).host, ← heq, (hconsistent'.endpoints e' he').host]

end Accepted

section Alike

variable {α : Type} {j j' : Json} {key k : String}

lemma alike_same (xs : List Json) : List.Forall₂ (Alike "") xs xs := List.forall₂_same.mpr fun _ _ => .same

lemma field_alike (h : Alike k j j') (key : String) :
    (field j key = .error eproto ∧ field j' key = .error eproto) ∨
      ∃ v v', field j key = .ok v ∧ field j' key = .ok v' ∧ Alike key v v' := by
  cases h with
  | same =>
    cases hf : field j key with
    | ok v => exact .inr ⟨v, v, rfl, rfl, .same⟩
    | error e =>
      refine .inl ⟨?_, ?_⟩ <;>
      · unfold field at hf
        split at hf
        · split at hf
          · cases hf
          · exact hf.symm
        · exact hf.symm
  | identifier => exact .inl ⟨rfl, rfl⟩
  | decimal => exact .inl ⟨rfl, rfl⟩
  | array => exact .inl ⟨rfl, rfl⟩
  | object hall =>
    induction hall with
    | nil => exact .inl ⟨rfl, rfl⟩
    | @cons f g fs gs hfg hrest ih =>
      obtain @⟨name, v, w, hvw⟩ := hfg
      by_cases hname : name = key
      · subst hname
        exact .inr ⟨v, w, by simp [field], by simp [field], hvw⟩
      · have hskip : ∀ (u : Json) (l : List (String × Json)),
          field (.object ((name, u) :: l)) key = field (.object l) key := by
          intro u l
          simp [field, hname]
        rwa [hskip, hskip]

lemma field_bind_alike {f g : Json → Parse α} (h : Alike k j j')
    (hfg : ∀ v v', Alike key v v' → f v = g v') : (field j key >>= f) = (field j' key >>= g) := by
  rcases field_alike h key with ⟨hj, hj'⟩ | ⟨v, v', hj, hj', hv⟩
  · rw [hj, hj']
    rfl
  · rw [hj, hj']
    exact hfg v v' hv

lemma array_bind_alike {f g : List Json → Parse α} {limit : ℕ} (h : Alike k j j')
    (hfg : ∀ xs ys, List.Forall₂ (Alike "") xs ys → f xs = g ys) :
    (array j limit >>= f) = (array j' limit >>= g) := by
  cases h with
  | same => exact bind_congr fun xs => hfg xs xs (alike_same xs)
  | identifier => rfl
  | decimal => rfl
  | object => rfl
  | array hall =>
    unfold array
    dsimp only
    rw [hall.length_eq]
    split_ifs
    · exact hfg _ _ hall
    · rfl

lemma integer_alike (h : Alike k j j') (low high : ℤ) : integer j low high = integer j' low high := by
  cases h <;> rfl

lemma boolean_alike (h : Alike k j j') : boolean j = boolean j' := by
  cases h <;> rfl

lemma string_alike (hk : k ∉ identifierKeys) (hk' : k ∉ decimalKeys) (h : Alike k j j') :
    string j = string j' := by
  cases h with
  | same => rfl
  | identifier hkey => exact absurd hkey hk
  | decimal hkey => exact absurd hkey hk'
  | array => rfl
  | object => rfl

lemma text_alike (hk : k ∉ identifierKeys) (hk' : k ∉ decimalKeys) (h : Alike k j j') : text j = text j' := by
  rw [text, text, string_alike hk hk' h]

lemma identifier_chars {cs ds : List Char}
    (h : List.Forall₂ (fun c d : Char => c = d ∨ isHex c ∧ isHex d ∧ c.toLower = d.toLower) cs ds) :
    String.utf8Len cs = String.utf8Len ds ∧ cs.all isHex = ds.all isHex ∧
      cs.map Char.toLower = ds.map Char.toLower := by
  induction h with
  | nil => exact ⟨rfl, rfl, rfl⟩
  | cons hcd hrest ih =>
    obtain ⟨hlength, hhex, hlower⟩ := ih
    rw [String.utf8Len_cons, String.utf8Len_cons, List.all_cons, List.all_cons, List.map_cons, List.map_cons,
      hlength, hhex, hlower]
    rcases hcd with rfl | ⟨hc, hd, heq⟩
    · exact ⟨rfl, rfl, rfl⟩
    · exact ⟨by rw [(toLower_hex hc).1, (toLower_hex hd).1], by rw [hc, hd], by rw [heq]⟩

lemma identifier_alike {s t : String} (h : SameIdentifier s t) (zero : Bool) :
    id (.string s) zero = id (.string t) zero := by
  obtain ⟨hlength, hhex, hchars⟩ := identifier_chars h
  rw [String.utf8Len_toList, String.utf8Len_toList] at hlength
  have hlower : s.map Char.toLower = t.map Char.toLower := by
    apply String.toList_injective
    rw [String.toList_map, String.toList_map, hchars]
  simp only [id, string, hlength, hhex, hlower, bind, Except.bind]

lemma id_alike (hk : k ∈ identifierKeys) (h : Alike k j j') (zero : Bool) : id j zero = id j' zero := by
  cases h with
  | same => rfl
  | identifier _ hs => exact identifier_alike hs zero
  | decimal hkey =>
    have hdisjoint : ∀ key ∈ identifierKeys, key ∉ decimalKeys := by decide
    exact absurd hkey (hdisjoint _ hk)
  | array => rfl
  | object => rfl

lemma SameDecimal.symm {s t : String} (h : SameDecimal s t) : SameDecimal t s := by
  obtain ⟨hs, ht, m, n, rest, hrest, hms, hnt⟩ := h
  exact ⟨ht, hs, n, m, rest, hrest, hnt, hms⟩

lemma SameDecimal.accepted {s t : String} (h : SameDecimal s t) : s ≠ "" ∧ s.utf8ByteSize ≤ 20 := by
  obtain ⟨hs, ht, m, n, rest, hrest, hms, hnt⟩ := h
  refine ⟨?_, hs⟩
  rintro rfl
  have hnil := (List.append_eq_nil_iff.mp hms.symm).2
  exact hrest hnil

lemma decimal_zeros (m : ℕ) (rest : List Char) :
    ValueCodec.decimal (List.replicate m '0' ++ rest) = ValueCodec.decimal rest := by
  induction m with
  | zero => rfl
  | succ m ih => exact ih

lemma numeral_alike {s t : String} {n : ℤ} (h : SameDecimal s t) (hn : ValueCodec.Numeral false s n) :
    ValueCodec.Numeral false t n := by
  obtain ⟨hs, ht, m, m', rest, hrest, hms, hnt⟩ := h
  obtain ⟨digits, hne, hall, ⟨hdigits, hvalue⟩ | ⟨hsigned, -⟩⟩ := hn
  · obtain rfl : digits = List.replicate m '0' ++ rest := hdigits.symm.trans hms
    refine ⟨List.replicate m' '0' ++ rest, List.append_ne_nil_of_right_ne_nil _ hrest, ?_, .inl ⟨hnt, ?_⟩⟩
    · intro c hc
      rcases List.mem_append.mp hc with hc | hc
      · rw [List.eq_of_mem_replicate hc]
        decide
      · exact hall c (List.mem_append_right _ hc)
    · rw [hvalue, decimal_zeros, decimal_zeros]
  · cases hsigned

lemma decimal_string {s t : String} (h : SameDecimal s t) : decimal (.string s) =
    match ValueCodec.fromChars false s with
    | .ok n => .ok (UInt64.ofNat n.toNat)
    | .error _ => .error eproto := by
  have hrequire : require (s ≠ "" ∧ s.utf8ByteSize ≤ 20) = .ok () := if_pos (decide_eq_true h.accepted)
  exact congrArg (fun r : Parse Unit => r >>= fun _ => match ValueCodec.fromChars false s with
    | .ok n => .ok (UInt64.ofNat n.toNat)
    | .error _ => .error eproto) hrequire

lemma decimal_alike (hk : k ∈ decimalKeys) (h : Alike k j j') : decimal j = decimal j' := by
  cases h with
  | same => rfl
  | identifier hkey =>
    have hdisjoint : ∀ key ∈ identifierKeys, key ∉ decimalKeys := by decide
    exact absurd hk (hdisjoint _ hkey)
  | decimal _ h =>
    rw [decimal_string h, decimal_string h.symm]
    have hread : ∀ {s t : String} {n : ℤ}, SameDecimal s t →
        ValueCodec.fromChars false s = .ok n → ValueCodec.fromChars false t = .ok n := by
      intro s t n h hs
      rw [ValueCodec.fromChars_iff] at hs ⊢
      exact ⟨numeral_alike h hs.1, hs.2⟩
    cases hs : ValueCodec.fromChars false _ with
    | ok n => rw [hread h hs]
    | error e =>
      cases ht : ValueCodec.fromChars false _ with
      | ok n =>
        rw [hread h.symm ht] at hs
        cases hs
      | error e' => rfl
  | array => rfl
  | object => rfl

lemma type_alike (h : Alike k j j') : type j = type j' := by
  refine field_bind_alike h fun v v' hv => ?_
  rw [decimal_alike (by decide) hv]
  refine bind_congr fun typeId => field_bind_alike h fun v v' hv => ?_
  rw [decimal_alike (by decide) hv]
  refine bind_congr fun schemaId => field_bind_alike h fun v v' hv => ?_
  rw [integer_alike hv]
  refine bind_congr fun encodingId => field_bind_alike h fun v v' hv => ?_
  rw [integer_alike hv]

lemma runtime_alike (h : Alike k j j') (application : Bool) :
    runtime j application = runtime j' application := by
  refine field_bind_alike h fun v v' hv => ?_
  rw [id_alike (by decide) hv]
  refine bind_congr fun host => field_bind_alike h fun v v' hv => ?_
  rw [id_alike (by decide) hv]
  refine bind_congr fun boot => field_bind_alike h fun v v' hv => ?_
  rw [integer_alike hv]
  refine bind_congr fun pid => field_bind_alike h fun v v' hv => ?_
  rw [decimal_alike (by decide) hv]

lemma endpoint_alike (h : Alike k j j') (host boot : String) (seen : List String) :
    endpoint host boot seen j = endpoint host boot seen j' := by
  refine field_bind_alike h fun v v' hv => ?_
  rw [runtime_alike hv]
  refine bind_congr fun identity => field_bind_alike h fun v v' hv => ?_
  rw [decimal_alike (by decide) hv]
  refine bind_congr fun registrationId => bind_congr fun _ => bind_congr fun _ =>
    field_bind_alike h fun v v' hv => ?_
  rw [runtime_alike hv]
  refine bind_congr fun application => field_bind_alike h fun v v' hv => ?_
  rw [text_alike (by decide) (by decide) hv]
  refine bind_congr fun hostName => field_bind_alike h fun v v' hv => ?_
  rw [text_alike (by decide) (by decide) hv]
  refine bind_congr fun applicationName => field_bind_alike h fun v v' hv => ?_
  rw [text_alike (by decide) (by decide) hv]
  refine bind_congr fun elementName => field_bind_alike h fun v v' hv => ?_
  rw [text_alike (by decide) (by decide) hv]
  refine bind_congr fun name => bind_congr fun _ => field_bind_alike h fun v v' hv => ?_
  rw [integer_alike hv]
  refine bind_congr fun kind => field_bind_alike h fun v v' hv => ?_
  rw [integer_alike hv]
  refine bind_congr fun role => field_bind_alike h fun v v' hv => ?_
  rw [integer_alike hv]
  refine bind_congr fun scope => field_bind_alike h fun v v' hv => ?_
  rw [type_alike hv]
  refine bind_congr fun valueType => field_bind_alike h fun v v' hv => ?_
  rw [type_alike hv]
  refine bind_congr fun requestType => field_bind_alike h fun v v' hv => ?_
  rw [type_alike hv]
  refine bind_congr fun responseType => field_bind_alike h fun v v' hv => ?_
  rw [type_alike hv]
  refine bind_congr fun feedbackType => field_bind_alike h fun v v' hv => ?_
  refine array_bind_alike hv fun xs ys hall => ?_
  rw [mapM_congr (fun x y hxy => text_alike (by decide) (by decide) hxy) hall]

lemma addPeer_alike (inetPton : String → Bool) (out : List LocalGatewayPeer) (h : Alike k j j') :
    addPeer inetPton out j = addPeer inetPton out j' := by
  refine field_bind_alike h fun v v' hv => ?_
  rw [id_alike (by decide) hv]
  refine bind_congr fun host => bind_congr fun _ => field_bind_alike h fun v v' hv => ?_
  rw [id_alike (by decide) hv]
  refine bind_congr fun boot => field_bind_alike h fun v v' hv => ?_
  rw [decimal_alike (by decide) hv]
  refine bind_congr fun session => bind_congr fun _ => field_bind_alike h fun v v' hv => ?_
  rw [string_alike (by decide) (by decide) hv]
  refine bind_congr fun state => bind_congr fun _ => field_bind_alike h fun v v' hv => ?_
  rw [string_alike (by decide) (by decide) hv]
  refine bind_congr fun address => bind_congr fun _ => field_bind_alike h fun v v' hv => ?_
  rw [integer_alike hv]
  refine bind_congr fun port => field_bind_alike h fun v v' hv => ?_
  rw [decimal_alike (by decide) hv]
  refine bind_congr fun revision => field_bind_alike h fun v v' hv => ?_
  rw [boolean_alike hv]
  refine bind_congr fun ready => field_bind_alike h fun v v' hv => ?_
  refine array_bind_alike hv fun xs ys hall => ?_
  have hstep : ∀ out x y, Alike "" x y → addEndpoint host boot out x = addEndpoint host boot out y := by
    intro out x y hxy
    rw [addEndpoint, addEndpoint, endpoint_alike hxy]
  rw [foldlM_congr hstep hall]

lemma peers_alike (inetPton : String → Bool) (h : Alike k j j') : peers inetPton j = peers inetPton j' := by
  refine field_bind_alike h fun v v' hv => ?_
  refine array_bind_alike hv fun xs ys hall => ?_
  exact foldlM_congr (R := Alike "") (fun out x y hxy => addPeer_alike inetPton out hxy) hall []

end Alike

/-- An accepted table is consistent and holds the numbers of its document; the case of the digits of the
identifiers and leading zeros of the decimals do not matter. -/
theorem peers_consistent (inetPton : String → Bool) :
    (∀ j table, peers inetPton j = .ok table → ConsistentTable table ∧
      ∃ items, field j "peers" = .ok (.array items) ∧ List.Forall₂ PeerNumbers items table) ∧
    ∀ j j', Alike "" j j' → peers inetPton j = peers inetPton j' :=
  ⟨fun _ _ h => peers_ok h, fun _ _ h => peers_alike inetPton h⟩

section Witness

def hostA : String := "a0000000000000000000000000000000"

def runtimeDocument (host : String) (pid : UInt64) (startTicks : String) : Json :=
  .object [("host", .string host), ("boot", .string host), ("pid", .unsigned pid),
    ("start_ticks", .string startTicks)]

def typeDocument : Json :=
  .object [("type_id", .string "0"), ("schema_id", .string "0"), ("encoding_id", .unsigned 0),
    ("payload_size", .unsigned 8)]

def endpointDocument : Json :=
  .object [("runtime", runtimeDocument hostA 41 "9"), ("registration_id", .string "5"),
    ("application", runtimeDocument zeroId 0 "0"), ("host_name", .string ""), ("application_name", .string ""),
    ("element_name", .string ""), ("name", .string "/imu"), ("kind", .unsigned 1), ("role", .unsigned 1),
    ("scope", .unsigned 0), ("value_type", typeDocument), ("request_type", typeDocument),
    ("response_type", typeDocument), ("feedback_type", typeDocument), ("groups", .array [])]

def peersDocument (host session : String) : Json :=
  .object [("peers", .array [.object [("host", .string host), ("boot", .string hostA),
    ("session", .string session), ("state", .string "ONLINE"), ("address", .string "10.0.0.2"),
    ("metadata_port", .unsigned 7400), ("metadata_revision", .string "9"), ("metadata_ready", .boolean true),
    ("endpoints", .array [endpointDocument])]])]

def peersTable : List LocalGatewayPeer := [{
  host := hostA, boot := hostA, session := 7, state := "ONLINE", address := "10.0.0.2", metadataPort := 7400
  metadataRevision := 9, metadataReady := true
  endpoints := [{
    identity := { hostId := hostA, bootId := hostA, pid := 41, startTicks := 9, registrationId := 5 }
    application := { hostId := zeroId, bootId := zeroId }, name := [47, 105, 109, 117], kind := 1, role := 1
    valueType := { payloadSize := 8 }, requestType := { payloadSize := 8 }
    responseType := { payloadSize := 8 }, feedbackType := { payloadSize := 8 } }] }]

lemma id_hostA (zero : Bool) : id (.string hostA) zero = .ok hostA := by cases zero <;> cbv

lemma id_zeroId : id (.string zeroId) true = .ok zeroId := by
  cbv

lemma decimal_seven : decimal (.string "7") = .ok 7 := by
  cbv

lemma decimal_nine : decimal (.string "9") = .ok 9 := by
  cbv

lemma decimal_five : decimal (.string "5") = .ok 5 := by
  cbv

lemma decimal_zero : decimal (.string "0") = .ok 0 := by
  cbv

lemma text_empty : text (.string "") = .ok [] := by
  cbv

lemma text_imu : text (.string "/imu") = .ok [47, 105, 109, 117] := by
  cbv

lemma type_document : type typeDocument = .ok { payloadSize := 8 } := by
  simp [type, typeDocument, field, decimal_zero, integer, bind, Except.bind, pure, Except.pure]

lemma runtime_hostA : runtime (runtimeDocument hostA 41 "9") false =
    .ok { hostId := hostA, bootId := hostA, pid := 41, startTicks := 9 } := by
  simp [runtime, runtimeDocument, field, id_hostA, decimal_nine, integer, require, bind, Except.bind, pure,
    Except.pure]
  decide +kernel

lemma runtime_zero : runtime (runtimeDocument zeroId 0 "0") true =
    .ok { hostId := zeroId, bootId := zeroId } := by
  simp [runtime, runtimeDocument, field, id_zeroId, decimal_zero, integer, require, bind, Except.bind, pure,
    Except.pure]

lemma peers_document : peers (fun _ => true) (peersDocument hostA "7") = .ok peersTable := by
  simp [peers, addPeer, addEndpoint, peersDocument, endpointDocument, field, id_hostA, decimal_seven,
    decimal_nine, decimal_five, text_empty, text_imu, type_document, runtime_hostA, runtime_zero, string, array,
    boolean, integer, endpoint, require, bind, Except.bind, pure, Except.pure, peersTable]

lemma alike_document :
    Alike "" (peersDocument "A0000000000000000000000000000000" "007") (peersDocument hostA "7") := by
  have hhost : SameIdentifier "A0000000000000000000000000000000" hostA := by
    unfold SameIdentifier
    decide +kernel
  have hsession : SameDecimal "007" "7" := by
    refine ⟨by decide, by decide, 2, 0, ['7'], by decide, by decide, by decide⟩
  have hrest : ∀ fields : List (String × Json), List.Forall₂ (SameMember Alike) fields fields :=
    fun fields => List.forall₂_same.mpr fun _ _ => .mk .same
  exact .object (.cons (.mk (.array (.cons (.object (.cons (.mk (.identifier (by decide) hhost))
    (.cons (.mk .same) (.cons (.mk (.decimal (by decide) hsession)) (hrest _))))) .nil))) .nil)

theorem peers_consistent_imu : ConsistentTable peersTable ∧
    peers (fun _ => true) (peersDocument "A0000000000000000000000000000000" "007") = .ok peersTable :=
  ⟨((peers_consistent _).1 _ _ peers_document).1,
    ((peers_consistent _).2 _ _ alike_document).trans peers_document⟩

end Witness

end KcfTools.LocalGateway
