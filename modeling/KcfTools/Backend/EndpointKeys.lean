import KcfTools.Backend.ControlGate
import KcfTools.Backend.GatewayDocuments
import KcfTools.Graph.NetworkGraph

/-! Endpoint identities and their keys on the ways between the discovery, the graph and the commands, and
the Host texts that the worker accepts. -/

namespace KcfTools.EndpointKeys

open Discovery RemoteRuntime KcfTools.Graph ControlGate LocalGateway

section Keys

lemma endpointText_convertIdentity (x : RemoteEndpointIdentity) :
    endpointText (convertIdentity x) = x.key := rfl

lemma hex_ne_colon (n : UInt8) : hex n ≠ ':' := by
  obtain ⟨⟨n⟩⟩ := n
  revert n
  decide +kernel

lemma colon_notMem_host (id : HostIdentity) : ':' ∉ id.key.toList := by
  intro h
  rw [HostIdentity.key, String.toList_ofList, List.mem_flatMap] at h
  obtain ⟨b, _, hb⟩ := h
  rcases List.mem_pair.mp hb with hb | hb
  · exact hex_ne_colon _ hb.symm
  · exact hex_ne_colon _ hb.symm

lemma key_injective : Function.Injective RemoteEndpointIdentity.key := by
  rintro ⟨⟨host, boot, pid, ticks⟩, registration⟩ ⟨⟨host', boot', pid', ticks'⟩, registration'⟩ h
  obtain ⟨h, hregistration⟩ := Keys.colon_inj (Keys.colon_notMem_uint64 _) (Keys.colon_notMem_uint64 _) h
  obtain ⟨h, hticks⟩ := Keys.colon_inj (Keys.colon_notMem_uint64 _) (Keys.colon_notMem_uint64 _) h
  obtain ⟨h, hpid⟩ := Keys.colon_inj (Keys.colon_notMem_int32 _) (Keys.colon_notMem_int32 _) h
  obtain ⟨hhost, hboot⟩ := Keys.colon_inj (colon_notMem_host _) (colon_notMem_host _) h
  obtain rfl : host = host' := HostIdentity.key_injective hhost
  obtain rfl : boot = boot' := HostIdentity.key_injective hboot
  obtain rfl : pid = pid' := Keys.int32_toString_inj hpid
  obtain rfl : ticks = ticks' := Keys.uint64_toString_inj hticks
  obtain rfl : registration = registration' := Keys.uint64_toString_inj hregistration
  rfl

lemma endpointIdentity_convertIdentity {e : RemoteEndpoint} {x : RemoteEndpointIdentity}
    (h : e.identity = convertIdentity x) : endpointIdentity e = x := by
  rw [endpointIdentity, h]
  simp only [convertIdentity, parseHost_key]

lemma convertEndpoint_identity {checks : Checks} {index : Index} {peer : PeerInfo} {m : NetworkEndpointMetadata}
    {e : RemoteEndpoint} (h : convertEndpoint checks index peer m = some e) :
    endpointIdentity e = m.identity ∧ e.id = m.identity.key ∧ endpointText e.identity = e.id := by
  obtain ⟨candidates, _, rfl⟩ := Option.map_eq_some_iff.mp h
  exact ⟨endpointIdentity_convertIdentity rfl, rfl, rfl⟩

end Keys

section HostTexts

lemma digit_nonneg_iff (c : Char) : 0 ≤ digit c ↔ isHex c := by
  simp only [digit, isHex, Char.isDigit_iff_toNat, Char.le_def, UInt32.le_iff_toNat_le, Char.toNat_val,
    decide_eq_true_eq]
  split_ifs with hd hl hu
  · exact iff_of_true (by omega) (.inl hd)
  · exact iff_of_true (by omega) (.inr (.inl hl))
  · exact iff_of_true (by omega) (.inr (.inr hu))
  · exact iff_of_false (by omega) fun h => h.elim hd fun h => h.elim hl hu

lemma digit_eq_zero_iff (c : Char) : digit c = 0 ↔ c = '0' := by
  simp only [digit, Char.le_def, UInt32.le_iff_toNat_le, Char.toNat_val, ← Char.toNat_inj, Char.reduceToNat]
  split_ifs with hd hl hu
  · omega
  · omega
  · omega
  · exact iff_of_false (fun h => nomatch h) (by omega)

lemma hexPair_digits {a b : ℤ} (ha : 0 ≤ a ∧ a < 16) (hb : 0 ≤ b ∧ b < 16) :
    hexPair (UInt8.ofNat (a.toNat <<< 4 ||| b.toNat)) =
      [hex (UInt8.ofNat a.toNat), hex (UInt8.ofNat b.toNat)] := by
  obtain ⟨a, rfl⟩ := Int.eq_ofNat_of_zero_le ha.1
  obtain ⟨b, rfl⟩ := Int.eq_ofNat_of_zero_le hb.1
  have hall : ∀ a b : Fin 16, hexPair (UInt8.ofNat (a.val <<< 4 ||| b.val)) =
      [hex (UInt8.ofNat a.val), hex (UInt8.ofNat b.val)] := by decide +kernel
  exact hall ⟨a, by omega⟩ ⟨b, by omega⟩

lemma hex_digit {c : Char} (h : isHex c) : digit c < 16 ∧ hex (UInt8.ofNat (digit c).toNat) = c.toLower := by
  have hall : ∀ c ∈ hexDigits, digit c < 16 ∧ hex (UInt8.ofNat (digit c).toNat) = c.toLower := by
    simp [hexDigits, digit, hex]
  exact hall c (isHex_mem h)

lemma parseBytes_digits (cs : List Char) (hhex : ∀ c ∈ cs, isHex c) (heven : cs.length % 2 = 0) :
    ∃ bytes, parseBytes cs = some bytes ∧ 2 * bytes.length = cs.length ∧
      bytes.flatMap hexPair = cs.map Char.toLower := by
  fun_induction parseBytes cs with
  | case1 x y rest a b hneg =>
    have hx := (digit_nonneg_iff x).mpr (hhex x (by simp))
    have hy := (digit_nonneg_iff y).mpr (hhex y (by simp))
    exact absurd hneg (by omega)
  | case2 x y rest a b hneg ih =>
    have hx := hhex x (by simp)
    have hy := hhex y (by simp)
    have hlength : (x :: y :: rest).length = rest.length + 2 := rfl
    obtain ⟨bytes, hbytes, htwice, hpairs⟩ := ih (fun c hc => hhex c (by simp [hc])) (by omega)
    refine ⟨_, by rw [hbytes]; rfl, by rw [hlength, List.length_cons]; omega, ?_⟩
    rw [List.flatMap_cons, hpairs, hexPair_digits ⟨(digit_nonneg_iff x).mpr hx, (hex_digit hx).1⟩
      ⟨(digit_nonneg_iff y).mpr hy, (hex_digit hy).1⟩, (hex_digit hx).2, (hex_digit hy).2]
    rfl
  | case3 cs hshort =>
    cases cs with
    | nil => exact ⟨[], rfl, rfl, rfl⟩
    | cons x cs =>
      cases cs with
      | nil => cases heven
      | cons y rest => exact absurd rfl (hshort x y rest)

variable {id : String}

lemma hostIdError_iff (hid : id ≠ "") : hostIdError id = none ↔
    id.toList.length = 32 ∧ (∀ c ∈ id.toList, isHex c) ∧ ∃ c ∈ id.toList, c ≠ '0' := by
  have hany : (id.toList.any fun c => digit c < 0) = false ↔ ∀ c ∈ id.toList, isHex c := by
    simp [← digit_nonneg_iff]
  have hall : (id.toList.all fun c => digit c = 0) = false ↔ ∃ c ∈ id.toList, c ≠ '0' := by
    simp [digit_eq_zero_iff]
  have hsize : (∀ c ∈ id.toList, isHex c) → id.utf8ByteSize = id.toList.length := by
    intro hhex
    rw [← String.utf8Len_toList, utf8Len_hex hhex]
  rw [hostIdError, if_neg hid]
  split_ifs with hlength hbad hzero
  · refine iff_of_false (fun h => nomatch h) fun h => hlength ?_
    rw [hsize h.2.1, h.1]
  · refine iff_of_false (fun h => nomatch h) fun h => ?_
    rw [hany.mpr h.2.1] at hbad
    cases hbad
  · refine iff_of_false (fun h => nomatch h) fun h => ?_
    rw [hall.mpr h.2.2] at hzero
    cases hzero
  · have hhex := hany.mp (Bool.eq_false_iff.mpr hbad)
    refine iff_of_true rfl ⟨?_, hhex, hall.mp (Bool.eq_false_iff.mpr hzero)⟩
    rw [← hsize hhex]
    omega

lemma parseHost_accepted (hid : id ≠ "") (h : hostIdError id = none) :
    (parseHost id).key = id.map Char.toLower := by
  obtain ⟨hlength, hhex, -⟩ := (hostIdError_iff hid).mp h
  obtain ⟨bytes, hbytes, htwice, hpairs⟩ := parseBytes_digits id.toList hhex (by rw [hlength])
  have hsize : id.length = 32 ∧ bytes.length = 16 := ⟨hlength, by omega⟩
  apply String.toList_injective
  rw [String.toList_map, ← hpairs, parseHost, hbytes]
  simp [hsize, HostIdentity.key]

lemma launch_host {o : Observer} {l : Launch} {worker : NetworkObserver.Worker} (hid : o.hostId ≠ "")
    (h : (launch o l).phase = .running worker) : worker.host.key = o.hostId.map Char.toLower := by
  unfold launch at h
  cases herror : hostIdError o.hostId with
  | some status =>
    simp only [herror] at h
    split_ifs at h <;> cases h
  | none =>
    simp only [herror] at h
    split_ifs at h
    · cases h
    · obtain rfl := Phase.running.inj h
      exact parseHost_accepted hid herror
    · cases h

end HostTexts

/-- Every way from an identity to its key gives one key, which names one identity. A Host text of the worker
is the key of its Host, up to the case of its digits. -/
theorem keys_agree :
    (∀ x : RemoteEndpointIdentity, endpointText (convertIdentity x) = x.key) ∧
    (∀ x y : RemoteEndpointIdentity, x.key = y.key → x = y) ∧
    (∀ (x : RemoteEndpointIdentity) (e : RemoteEndpoint), e.identity = convertIdentity x →
      endpointIdentity e = x) ∧
    (∀ checks index peer m e, convertEndpoint checks index peer m = some e →
      endpointIdentity e = m.identity ∧ e.id = m.identity.key ∧ endpointText e.identity = e.id) ∧
    ∀ id : String, id ≠ "" →
      (hostIdError id = none ↔
        id.toList.length = 32 ∧ (∀ c ∈ id.toList, isHex c) ∧ ∃ c ∈ id.toList, c ≠ '0') ∧
      (hostIdError id = none → (parseHost id).key = id.map Char.toLower) ∧
      ∀ o l worker, o.hostId = id → (launch o l).phase = .running worker →
        worker.host.key = id.map Char.toLower :=
  ⟨endpointText_convertIdentity, fun _ _ h => key_injective h, fun _ _ h => endpointIdentity_convertIdentity h,
    fun _ _ _ _ _ h => convertEndpoint_identity h, fun _ hid =>
      ⟨hostIdError_iff hid, parseHost_accepted hid, fun _ _ _ ho h => ho ▸ launch_host (ho ▸ hid) h⟩⟩

theorem keys_agree_upper : (parseHost "00000000000000000000000000000ABC").key =
    "00000000000000000000000000000abc" := by
  have h := (keys_agree.2.2.2.2 "00000000000000000000000000000ABC" (by decide)).2.1 (by decide +kernel)
  rw [h]
  cbv

end KcfTools.EndpointKeys
