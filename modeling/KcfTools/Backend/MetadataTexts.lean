import KcfTools.Backend.GatewayCycles

/-! Metadata texts: the escaped strings that are accepted, and the bytes they stand for. -/

namespace KcfTools.LocalGateway

open Results

/-- The string whose characters have the bytes as their numbers. -/
def escaped (bytes : List UInt8) : String := String.ofList (bytes.map Char.ofUInt8)

def encode (bytes : List UInt8) : List UInt8 := (escaped bytes).toUTF8.toList

inductive ScanError
  | refused
  | outside
deriving DecidableEq

/-- A read at an index, which the string may not have. -/
def byteAt (s : List UInt8) (i : ℕ) : Except ScanError UInt8 :=
  match s[i]? with
  | some c => .ok c
  | none => .error .outside

def scan (s : List UInt8) (i : ℕ) (bytes : List UInt8) : Except ScanError (List UInt8) :=
  if i < s.length then do
    let c ← byteAt s i
    if c < 128 then scan s (i + 1) (bytes ++ [c])
    else if (c = 0xc2 ∨ c = 0xc3) ∧ i + 1 < s.length then do
      let next ← byteAt s (i + 1)
      if 0x80 ≤ next ∧ next ≤ 0xbf then scan s (i + 2) (bytes ++ [(c &&& 3) <<< 6 ||| (next &&& 63)])
      else .error .refused
    else .error .refused
  else .ok bytes
termination_by s.length - i

def textBytes (s : List UInt8) : Except ScanError (List UInt8) :=
  if s.length ≤ 8192 then scan s 0 [] else .error .refused

section Escapes

/-- One byte below 128, else a lead byte with the upper two bits and a continuation byte. -/
def escape (b : UInt8) : List UInt8 :=
  if b < 128 then [b] else [(0xc0 : UInt8) ||| b >>> 6, (0x80 : UInt8) ||| b &&& 63]

lemma utf8EncodeChar_ofUInt8 (b : UInt8) : String.utf8EncodeChar (Char.ofUInt8 b) = escape b := by
  obtain ⟨⟨b⟩⟩ := b
  revert b
  decide +kernel

lemma lead_escape {b : UInt8} (h : ¬ b < 128) :
    ((0xc0 : UInt8) ||| b >>> 6) = 0xc2 ∨ ((0xc0 : UInt8) ||| b >>> 6) = 0xc3 := by
  obtain ⟨⟨b⟩⟩ := b
  revert b
  decide +kernel

lemma next_escape (b : UInt8) : 0x80 ≤ ((0x80 : UInt8) ||| b &&& 63) ∧
    ((0x80 : UInt8) ||| b &&& 63) ≤ 0xbf := by
  obtain ⟨⟨b⟩⟩ := b
  revert b
  decide +kernel

lemma decode_escape {b : UInt8} (h : ¬ b < 128) :
    (((0xc0 : UInt8) ||| b >>> 6) &&& 3) <<< 6 ||| (((0x80 : UInt8) ||| b &&& 63) &&& 63) = b := by
  obtain ⟨⟨b⟩⟩ := b
  revert b
  decide +kernel

lemma escape_decode {c next : UInt8} (hc : c = 0xc2 ∨ c = 0xc3) (hnext : 0x80 ≤ next ∧ next ≤ 0xbf) :
    escape ((c &&& 3) <<< 6 ||| (next &&& 63)) = [c, next] := by
  obtain ⟨⟨next⟩⟩ := next
  rcases hc with rfl | rfl
  · revert next
    decide +kernel
  · revert next
    decide +kernel

lemma not_ascii_of_lead {c : UInt8} (h : c = 0xc2 ∨ c = 0xc3) : ¬ c < 128 := by
  rcases h with rfl | rfl <;> decide

lemma toList_eq (bytes : ByteArray) : bytes.toList = bytes.data.toList := by
  have hloop : ∀ i r, ByteArray.toList.loop bytes i r = r.reverse ++ bytes.data.toList.drop i := by
    intro i r
    fun_induction ByteArray.toList.loop bytes i r with
    | case1 i r h ih =>
      have hi : i < bytes.data.toList.length := h
      have hget : bytes.get! i = bytes.data.toList[i] := getElem!_pos bytes.data i hi
      rw [ih, List.drop_eq_getElem_cons hi, hget, List.reverse_cons, List.append_assoc]
      rfl
    | case2 i r h =>
      have hi : bytes.data.toList.drop i = [] := List.drop_eq_nil_of_le (Nat.le_of_not_lt h)
      rw [hi, List.append_nil]
  exact hloop 0 []

lemma encode_eq (bytes : List UInt8) : encode bytes = bytes.flatMap escape := by
  rw [encode, escaped, toList_eq, String.toUTF8_eq_toByteArray, String.toByteArray_ofList, List.utf8Encode,
    List.toList_data_toByteArray, List.flatMap_map]
  exact List.flatMap_congr fun b _ => utf8EncodeChar_ofUInt8 b

end Escapes

section Scanning

variable {s bytes : List UInt8}

lemma unescape_ascii {c : UInt8} {rest : List UInt8} (h : c < 128) :
    unescape (c :: rest) = (do return c :: (← unescape rest)) := by
  rw [unescape.eq_def]
  dsimp only
  rw [if_pos h]

lemma unescape_pair {c next : UInt8} {rest : List UInt8} (hc : c = 0xc2 ∨ c = 0xc3)
    (hnext : 0x80 ≤ next ∧ next ≤ 0xbf) : unescape (c :: next :: rest) =
      (do return ((c &&& 3) <<< 6 ||| (next &&& 63)) :: (← unescape rest)) := by
  rw [unescape.eq_def]
  dsimp only
  rw [if_neg (not_ascii_of_lead hc), if_pos hc, if_pos hnext]

lemma unescape_lead {c : UInt8} {rest : List UInt8} (h : ¬ c < 128)
    (hrest : ∀ next, rest.head? = some next → ¬ ((c = 0xc2 ∨ c = 0xc3) ∧ 0x80 ≤ next ∧ next ≤ 0xbf)) :
    unescape (c :: rest) = .error eproto := by
  rw [unescape.eq_def]
  dsimp only
  rw [if_neg h]
  split_ifs with hc
  · cases rest with
    | nil => rfl
    | cons next rest => exact if_neg fun hnext => hrest next rfl ⟨hc, hnext⟩
  · rfl

lemma unescape_escape (bytes : List UInt8) : unescape (bytes.flatMap escape) = .ok bytes := by
  induction bytes with
  | nil => rfl
  | cons b bytes ih =>
    rw [List.flatMap_cons, escape]
    by_cases hb : b < 128
    · rw [if_pos hb, List.singleton_append, unescape_ascii hb, ih]
      rfl
    · rw [if_neg hb]
      rw [List.cons_append, List.singleton_append, unescape_pair (lead_escape hb) (next_escape b), ih,
        decode_escape hb]
      rfl

lemma escape_unescape (h : unescape s = .ok bytes) : bytes.flatMap escape = s := by
  fun_induction unescape s generalizing bytes with
  | case1 =>
    obtain rfl := Except.ok.inj h
    rfl
  | case2 c rest hc ih =>
    obtain ⟨tail, htail, h⟩ := bind_ok_inv h
    obtain rfl := Except.ok.inj h
    rw [List.flatMap_cons, ih htail, escape, if_pos hc, List.singleton_append]
  | case3 => cases h
  | case4 c hc hlead next rest hnext ih =>
    obtain ⟨tail, htail, h⟩ := bind_ok_inv h
    obtain rfl := Except.ok.inj h
    rw [List.flatMap_cons, ih htail, escape_decode hlead hnext, List.cons_append, List.singleton_append]
  | case5 => cases h
  | case6 => cases h

/-- The loop over the indices reads inside of the string and does what the recursion does. -/
lemma scan_eq (s : List UInt8) (i : ℕ) (bytes : List UInt8) :
    scan s i bytes = match unescape (s.drop i) with
      | .ok rest => .ok (bytes ++ rest)
      | .error _ => .error .refused := by
  fun_induction scan s i bytes with
  | case1 i bytes hi ih1 ih2 =>
    have hdrop : s.drop i = s[i] :: s.drop (i + 1) := List.drop_eq_getElem_cons hi
    have hread : byteAt s i = .ok s[i] := by rw [byteAt, List.getElem?_eq_getElem hi]
    have hhead : (s.drop (i + 1)).head? = s[i + 1]? := List.head?_drop
    rw [hread, hdrop]
    change (if s[i] < 128 then _ else _) = _
    split_ifs with hc hlead
    · rw [ih1, unescape_ascii hc]
      cases unescape (s.drop (i + 1)) with
      | error e => rfl
      | ok rest => simp [bind, Except.bind, pure, Except.pure]
    · obtain ⟨hlead, hi'⟩ := hlead
      have hread' : byteAt s (i + 1) = .ok s[i + 1] := by rw [byteAt, List.getElem?_eq_getElem hi']
      rw [hread']
      change (if 0x80 ≤ s[i + 1] ∧ s[i + 1] ≤ 0xbf then _ else _) = _
      split_ifs with hnext
      · rw [ih2 _ ⟨hlead, hi'⟩, List.drop_eq_getElem_cons hi', unescape_pair hlead hnext]
        cases unescape (s.drop (i + 2)) with
        | error e => rfl
        | ok rest => simp [bind, Except.bind, pure, Except.pure]
      · rw [unescape_lead hc]
        intro next hn
        rw [hhead, List.getElem?_eq_getElem hi'] at hn
        obtain rfl := Option.some.inj hn
        exact fun h => hnext h.2
    · rw [unescape_lead hc]
      intro next hn h
      rw [hhead] at hn
      exact hlead ⟨h.1, (List.getElem?_eq_some_iff.mp hn).1⟩
  | case2 i bytes hi =>
    rw [List.drop_eq_nil_of_le (Nat.le_of_not_lt hi)]
    simp [unescape]

lemma textBytes_ok : textBytes s = .ok bytes ↔ encode bytes = s ∧ s.length ≤ 8192 := by
  rw [textBytes, scan_eq, List.drop_zero, encode_eq]
  split_ifs with hlength
  · constructor
    · intro h
      cases hs : unescape s with
      | error e => simp [hs] at h
      | ok rest =>
        simp only [hs, List.nil_append] at h
        obtain rfl := Except.ok.inj h
        exact ⟨escape_unescape hs, hlength⟩
    · rintro ⟨rfl, -⟩
      rw [unescape_escape]
      rfl
  · exact ⟨fun h => (nomatch h), fun h => absurd h.2 hlength⟩

lemma textBytes_inside (s : List UInt8) : textBytes s ≠ .error .outside := by
  rw [textBytes, scan_eq]
  split_ifs
  · cases unescape (s.drop 0) <;> simp
  · simp

end Scanning

lemma unescape_error {s : List UInt8} {e : Raised} (h : unescape s = .error e) : e = eproto := by
  fun_induction unescape s with
  | case1 => cases h
  | case2 c rest hc ih =>
    cases hrest : unescape rest with
    | error e' =>
      rw [hrest] at h ih
      obtain rfl := Except.error.inj h
      exact ih rfl
    | ok tail =>
      rw [hrest] at h
      cases h
  | case4 c hc hlead next rest hnext ih =>
    cases hrest : unescape rest with
    | error e' =>
      rw [hrest] at h ih
      obtain rfl := Except.error.inj h
      exact ih rfl
    | ok tail =>
      rw [hrest] at h
      cases h
  | case3 | case5 | case6 => exact (Except.error.inj h).symm

lemma text_string (s : String) : text (.string s) =
    match textBytes s.toUTF8.toList with
    | .ok bytes => .ok bytes
    | .error _ => .error eproto := by
  have hlength : s.toUTF8.toList.length = s.utf8ByteSize := by
    rw [toList_eq]
    rfl
  have htext : text (.string s) =
      if s.utf8ByteSize ≤ 8192 then unescape s.toUTF8.toList else .error eproto := by
    by_cases hs : s.utf8ByteSize ≤ 8192
    · simp [text, string, require, hs, bind, Except.bind]
    · simp [text, string, require, hs, bind, Except.bind]
  rw [htext, textBytes, hlength, scan_eq, List.drop_zero]
  split_ifs with hs
  · cases h : unescape s.toUTF8.toList with
    | error e => rw [unescape_error h]
    | ok bytes => rfl
  · rfl

/-- The accepted byte strings are those that escape some bytes, within the limit, and give them back. -/
theorem texts_bijective :
    (∀ bytes, (encode bytes).length ≤ 8192 → textBytes (encode bytes) = .ok bytes) ∧
    (∀ s bytes, textBytes s = .ok bytes → encode bytes = s ∧ s.length ≤ 8192) ∧
    (∀ s, textBytes s = .error .refused ↔ ¬ ∃ bytes, encode bytes = s ∧ s.length ≤ 8192) ∧
    (∀ s, textBytes s ≠ .error .outside) ∧
    (∀ s t bytes, textBytes s = .ok bytes → textBytes t = .ok bytes → s = t) ∧
    ∀ s, text (.string s) =
      match textBytes s.toUTF8.toList with
      | .ok bytes => .ok bytes
      | .error _ => .error eproto := by
  refine ⟨fun bytes h => textBytes_ok.mpr ⟨rfl, h⟩, fun s bytes h => textBytes_ok.mp h, ?_, textBytes_inside,
    ?_, text_string⟩
  · intro s
    constructor
    · rintro h ⟨bytes, hbytes⟩
      rw [textBytes_ok.mpr hbytes] at h
      cases h
    · intro h
      cases hs : textBytes s with
      | ok bytes => exact absurd ⟨bytes, textBytes_ok.mp hs⟩ h
      | error e =>
        cases e with
        | refused => rfl
        | outside => exact absurd hs (textBytes_inside s)
  · intro s t bytes hs ht
    rw [← (textBytes_ok.mp hs).1, ← (textBytes_ok.mp ht).1]

theorem texts_bijective_gate : encode [47, 0xe9] = [47, 0xc3, 0xa9] ∧
    textBytes (encode [47, 0xe9]) = .ok [47, 0xe9] :=
  ⟨by rw [encode_eq]; decide, texts_bijective.1 [47, 0xe9] (by rw [encode_eq]; decide)⟩

end KcfTools.LocalGateway
