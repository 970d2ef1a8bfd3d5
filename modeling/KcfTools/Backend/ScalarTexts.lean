import KcfTools.Backend.ValueCodec

/-! Values of the scalar kinds, the texts that denote them and the bytes that represent them. -/

namespace KcfTools.ValueCodec

inductive Value
  | bool (b : Bool)
  | int (n : ℤ)
  | float (bytes : List UInt8)

def FieldValueKind.width (k : FieldValueKind) : Option ℕ :=
  match k, k.integer with
  | .bool, _ => some 1
  | .float32, _ => some 4
  | .float64, _ => some 8
  | _, some (width, _) => some width
  | _, none => none

/-- Digits, after an optional minus where the kind is signed. -/
def Numeral (signed : Bool) (text : String) (n : ℤ) : Prop :=
  ∃ digits : List Char, digits ≠ [] ∧ (∀ c ∈ digits, c.isDigit) ∧
    (text.toList = digits ∧ n = decimal digits ∨
      signed ∧ text.toList = '-' :: digits ∧ n = -decimal digits)

variable (texts : Texts)

/-- The texts that a kind accepts for a value. -/
def Denotes (k : FieldValueKind) (text : String) : Value → Prop
  | .bool b => k = .bool ∧ text = if b then "true" else "false"
  | .int n => ∃ width signed, k.integer = some (width, signed) ∧ Numeral signed text n ∧
      inRange width signed n
  | .float bytes => k.valueKind = .floatingPoint ∧ text ≠ "" ∧ finite k bytes ∧
      ∃ h, texts.readFloat k text = some (⟨bytes, h⟩, [])

def Represents (k : FieldValueKind) (bytes : List UInt8) : Value → Prop
  | .bool b => k = .bool ∧ bytes = [if b then 1 else 0]
  | .int n => ∃ width signed, k.integer = some (width, signed) ∧ bytes.length = width ∧
      readInteger width signed bytes = n
  | .float x => k.valueKind = .floatingPoint ∧ bytes.length = k.floatWidth ∧ x = bytes

def Value.Finite (k : FieldValueKind) : Value → Prop
  | .float bytes => finite k bytes
  | _ => True

def render (k : FieldValueKind) : Value → String
  | .bool b => if b then "true" else "false"
  | .int n => toString n
  | .float bytes => texts.printFloat k bytes

def bytesOf (k : FieldValueKind) : Value → List UInt8
  | .bool b => [if b then 1 else 0]
  | .int n => match k.integer with
    | some (width, _) => bytesOfNat width (n % 2 ^ (8 * width)).toNat
    | none => []
  | .float bytes => bytes

/-- A value of the kind. -/
def Valid (k : FieldValueKind) : Value → Prop
  | .bool _ => k = .bool
  | .int n => ∃ width signed, k.integer = some (width, signed) ∧ inRange width signed n
  | .float bytes => k.valueKind = .floatingPoint ∧ bytes.length = k.floatWidth

variable {k : FieldValueKind} {width : ℕ} {signed : Bool} {n : ℤ} {text : String} {v : Value}
  {bytes : List UInt8}

section Bytes

@[simp] lemma length_bytesOfNat (width n : ℕ) : (bytesOfNat width n).length = width := by
  induction width generalizing n with
  | zero => rfl
  | succ width ih => simp [bytesOfNat, ih]

lemma natOfBytes_bytesOfNat (width n : ℕ) : natOfBytes (bytesOfNat width n) = n % 256 ^ width := by
  induction width generalizing n with
  | zero => simp [bytesOfNat, natOfBytes, Nat.mod_one]
  | succ width ih =>
    rw [bytesOfNat, natOfBytes, ih, Nat.pow_succ', Nat.mod_mul]
    simp

lemma natOfBytes_lt (bytes : List UInt8) : natOfBytes bytes < 256 ^ bytes.length := by
  induction bytes with
  | nil => simp [natOfBytes]
  | cons b bytes ih =>
    have hb := b.toNat_lt
    rw [natOfBytes, List.length_cons, Nat.pow_succ']
    omega

lemma bytesOfNat_natOfBytes (bytes : List UInt8) : bytesOfNat bytes.length (natOfBytes bytes) = bytes := by
  induction bytes with
  | nil => rfl
  | cons b bytes ih =>
    have hb := b.toNat_lt
    have hmod : (b.toNat + 256 * natOfBytes bytes) / 256 = natOfBytes bytes := by omega
    have hbyte : UInt8.ofNat (b.toNat + 256 * natOfBytes bytes) = b := by
      apply UInt8.toNat_inj.mp
      simp only [UInt8.toNat_ofNat']
      omega
    rw [List.length_cons, natOfBytes, bytesOfNat, hmod, hbyte, ih]

lemma two_pow_eight (width : ℕ) : 2 ^ (8 * width) = 256 ^ width := by
  rw [Nat.pow_mul]

lemma half_width (h : 0 < width) : (2 : ℤ) ^ (8 * width) = 2 * 2 ^ (8 * width - 1) := by
  rw [← pow_succ']
  congr 1
  omega

/-- The bytes of a number in two's complement, read without its sign. -/
lemma emod_width (hwidth : 0 < width) (h : inRange width signed n) :
    n % 2 ^ (8 * width) = if n < 0 then n + 2 ^ (8 * width) else n := by
  have hhalf := half_width hwidth
  have hpos : (0 : ℤ) < 2 ^ (8 * width - 1) := by positivity
  have hrange : -2 ^ (8 * width - 1) ≤ n ∧ n < 2 ^ (8 * width) := by
    cases signed <;> simp [inRange] at h <;> constructor <;> linarith
  split_ifs with hn
  · rw [← Int.add_emod_right]
    exact Int.emod_eq_of_lt (by linarith) (by linarith)
  · exact Int.emod_eq_of_lt (by linarith) hrange.2

lemma readInteger_eq (hlen : bytes.length = width) : readInteger width signed bytes =
    if signed ∧ (2 : ℤ) ^ (8 * width - 1) ≤ natOfBytes bytes then (natOfBytes bytes : ℤ) - 2 ^ (8 * width)
    else (natOfBytes bytes : ℤ) := by
  rw [readInteger, List.take_of_length_le hlen.le]
  norm_cast

lemma readInteger_bytesOfNat (hwidth : 0 < width) (h : inRange width signed n) :
    readInteger width signed (bytesOfNat width (n % 2 ^ (8 * width)).toNat) = n := by
  have hhalf := half_width hwidth
  have hpos : (0 : ℤ) < 2 ^ (8 * width - 1) := by positivity
  have hnonneg : 0 ≤ n % 2 ^ (8 * width) := Int.emod_nonneg _ (by positivity)
  have hlt : n % 2 ^ (8 * width) < 2 ^ (8 * width) := Int.emod_lt_of_pos _ (by positivity)
  have hnat : (natOfBytes (bytesOfNat width (n % 2 ^ (8 * width)).toNat) : ℤ) = n % 2 ^ (8 * width) := by
    rw [natOfBytes_bytesOfNat, ← two_pow_eight]
    push_cast
    rw [Int.toNat_of_nonneg hnonneg, Int.emod_emod_of_dvd _ (dvd_refl _)]
  rw [readInteger_eq (length_bytesOfNat _ _), hnat, emod_width hwidth h]
  cases signed with
  | false =>
    have hn : ¬ n < 0 := by simp [inRange] at h; omega
    simp [hn]
  | true =>
    simp only [inRange, if_true, decide_eq_true_eq] at h
    by_cases hn : n < 0
    · rw [if_pos hn, if_pos ⟨rfl, by linarith⟩]
      ring
    · rw [if_neg hn, if_neg fun hc => absurd hc.2 (by linarith)]

lemma readInteger_inRange (hwidth : 0 < width) (hlen : bytes.length = width) :
    inRange width signed (readInteger width signed bytes) := by
  have hhalf := half_width hwidth
  have hpos : (0 : ℤ) < 2 ^ (8 * width - 1) := by positivity
  have hlt : (natOfBytes bytes : ℤ) < 2 ^ (8 * width) := by
    have hn := natOfBytes_lt bytes
    rw [hlen, ← two_pow_eight] at hn
    exact_mod_cast hn
  rw [readInteger_eq hlen]
  cases signed with
  | false => simpa [inRange] using hlt
  | true =>
    simp only [inRange, if_true, decide_eq_true_eq, true_and]
    split_ifs with h <;> constructor <;> linarith [Int.natCast_nonneg (natOfBytes bytes)]

lemma bytesOfNat_readInteger (hlen : bytes.length = width) :
    bytesOfNat width (readInteger width signed bytes % 2 ^ (8 * width)).toNat = bytes := by
  have hlt : (natOfBytes bytes : ℤ) < 2 ^ (8 * width) := by
    have hn := natOfBytes_lt bytes
    rw [hlen, ← two_pow_eight] at hn
    exact_mod_cast hn
  have hmod : readInteger width signed bytes % 2 ^ (8 * width) = natOfBytes bytes := by
    rw [readInteger_eq hlen]
    split_ifs with h
    · rw [Int.sub_emod_right]
      exact Int.emod_eq_of_lt (Int.natCast_nonneg _) hlt
    · exact Int.emod_eq_of_lt (Int.natCast_nonneg _) hlt
  rw [hmod, Int.toNat_natCast, ← hlen]
  exact bytesOfNat_natOfBytes bytes

end Bytes

section Numerals

/-- The digits that follow the sign. -/
def scan (signed negative : Bool) (cs : List Char) : Except Failure ℤ :=
  let n : ℤ := if negative then -decimal (cs.takeWhile Char.isDigit) else decimal (cs.takeWhile Char.isDigit)
  if cs.takeWhile Char.isDigit = [] then .error einval
  else if ¬ inRange 8 signed n then .error erange
  else if cs.takeWhile Char.isDigit ≠ cs then .error einval
  else .ok n

lemma scan_iff {negative : Bool} {cs : List Char} : scan signed negative cs = .ok n ↔
    cs ≠ [] ∧ (∀ c ∈ cs, c.isDigit) ∧ inRange 8 signed n ∧
      n = if negative then -(decimal cs : ℤ) else decimal cs := by
  constructor
  · intro h
    unfold scan at h
    cases negative
    all_goals
      simp only [if_true, Bool.false_eq_true, if_false] at h
      split_ifs at h with hempty hrange hall
      simp only [ne_eq, not_not] at hrange hall
      rw [hall] at hempty hrange h
      obtain rfl := Except.ok.inj h
      exact ⟨hempty, List.takeWhile_eq_self_iff.mp hall, hrange, rfl⟩
  · rintro ⟨hne, hdigit, hrange, rfl⟩
    have hall := List.takeWhile_eq_self_iff.mpr hdigit
    simp [scan, hall, hne, hrange]

lemma fromChars_eq (signed : Bool) (text : String) : fromChars signed text =
    if signed ∧ text.toList.head? = some '-' then scan signed true text.toList.tail
    else scan signed false text.toList := by
  unfold fromChars scan
  by_cases h : signed ∧ text.toList.head? = some '-' <;> simp [h]

/-- The texts that are read are the numerals in the wide range. -/
lemma fromChars_iff : fromChars signed text = .ok n ↔ Numeral signed text n ∧ inRange 8 signed n := by
  have hminus : Char.isDigit '-' = false := rfl
  rw [fromChars_eq]
  split_ifs with hneg
  · obtain ⟨hsigned, hhead⟩ := hneg
    obtain ⟨cs, hcs⟩ := List.head?_eq_some_iff.mp hhead
    rw [hcs, List.tail_cons, scan_iff]
    constructor
    · rintro ⟨hne, hdigit, hrange, rfl⟩
      exact ⟨⟨cs, hne, hdigit, .inr ⟨hsigned, hcs, rfl⟩⟩, hrange⟩
    · rintro ⟨⟨ds, hne, hdigit, ⟨ht, rfl⟩ | ⟨_, ht, rfl⟩⟩, hrange⟩
      · have hc := hdigit '-' (by rw [← ht, hcs]; simp)
        simp [hminus] at hc
      · obtain rfl : cs = ds := (List.cons.inj (hcs.symm.trans ht)).2
        exact ⟨hne, hdigit, hrange, rfl⟩
  · rw [scan_iff]
    constructor
    · rintro ⟨hne, hdigit, hrange, rfl⟩
      exact ⟨⟨_, hne, hdigit, .inl ⟨rfl, rfl⟩⟩, hrange⟩
    · rintro ⟨⟨ds, hne, hdigit, ⟨ht, rfl⟩ | ⟨hsigned, ht, rfl⟩⟩, hrange⟩
      · exact ⟨by rwa [ht], by rwa [ht], hrange, by rw [ht]; rfl⟩
      · exact absurd ⟨hsigned, by rw [ht]; rfl⟩ hneg

lemma decimal_eq (digits : List Char) : decimal digits = Nat.ofDigitChars 10 digits 0 :=
  Nat.ofDigitChars_eq_foldl.symm

lemma numeral_toString (n : ℤ) (h : signed ∨ 0 ≤ n) : Numeral signed (toString n) n := by
  have hdigits : ∀ m : ℕ, ∀ c ∈ Nat.toDigits 10 m, c.isDigit := by
    intro m c hc
    exact Nat.isDigit_of_mem_toDigits (by decide) (by decide) hc
  have hvalue : ∀ m : ℕ, decimal (Nat.toDigits 10 m) = m := by
    intro m
    rw [decimal_eq, Nat.ofDigitChars_ten_toDigits]
  rw [Int.toString_eq_repr, Int.repr_eq_if]
  split_ifs with hn
  · refine ⟨Nat.toDigits 10 n.toNat, Nat.toDigits_ne_nil, hdigits _, .inl ⟨Nat.toList_repr, ?_⟩⟩
    rw [hvalue, Int.toNat_of_nonneg hn]
  · refine ⟨Nat.toDigits 10 (-n).toNat, Nat.toDigits_ne_nil, hdigits _, .inr ⟨h.resolve_right hn, ?_, ?_⟩⟩
    · rw [String.toList_append, Nat.toList_repr]
      rfl
    · rw [hvalue, Int.toNat_of_nonneg (by omega)]
      omega

end Numerals

section Kinds

/-- Every kind with a width is a truth value, a number or a floating point number. -/
lemma width_cases (h : k.width = some width) : k = .bool ∧ width = 1 ∨
    (∃ signed, k.integer = some (width, signed)) ∨ k.valueKind = .floatingPoint ∧ width = k.floatWidth := by
  cases k <;> simp_all [FieldValueKind.width, FieldValueKind.integer, FieldValueKind.valueKind,
    FieldValueKind.floatWidth]

lemma width_none (h : k.width = none) : k = .unspecified := by
  cases k <;> first | rfl | cases h

lemma integer_width (h : k.integer = some (width, signed)) :
    k.width = some width ∧ 0 < width ∧ width ≤ 8 ∧ k ≠ .bool ∧ k.valueKind ≠ .floatingPoint := by
  cases k <;> cases h <;> decide

lemma float_width (h : k.valueKind = .floatingPoint) :
    k.width = some k.floatWidth ∧ k ≠ .bool ∧ k.integer = none := by
  cases k <;> cases h <;> decide

variable {texts}

lemma readScalar_bool (bytes : List UInt8) : readScalar texts .bool bytes =
    if 1 < bytes.headD 0 then .error eproto
    else .ok (if bytes.headD 0 = 1 then "true" else "false") := rfl

lemma readScalar_integer (h : k.integer = some (width, signed)) (bytes : List UInt8) :
    readScalar texts k bytes = .ok (toString (readInteger width signed bytes)) := by
  cases k <;> cases h <;> rfl

lemma readScalar_float (h : k.valueKind = .floatingPoint) (bytes : List UInt8) :
    readScalar texts k bytes = .ok (texts.printFloat k (bytes.take k.floatWidth)) := by
  cases k <;> cases h <;> rfl

lemma writeScalar_integer (h : k.integer = some (width, signed)) (text : String) :
    writeScalar texts k text = writeInteger width signed text := by
  cases k <;> cases h <;> rfl

lemma writeScalar_float (h : k.valueKind = .floatingPoint) (text : String) :
    writeScalar texts k text = writeFloat texts k text := by
  cases k <;> cases h <;> rfl

lemma inRange_wide (hwidth : width ≤ 8) (h : inRange width signed n) : inRange 8 signed n := by
  have hhalf : (2 : ℤ) ^ (8 * width - 1) ≤ 2 ^ (8 * 8 - 1) := pow_le_pow_right₀ (by norm_num) (by omega)
  have hfull : (2 : ℤ) ^ (8 * width) ≤ 2 ^ (8 * 8) := pow_le_pow_right₀ (by norm_num) (by omega)
  cases signed with
  | false =>
    simp only [inRange, Bool.false_eq_true, if_false, decide_eq_true_eq] at h ⊢
    exact ⟨h.1, h.2.trans_le hfull⟩
  | true =>
    simp only [inRange, if_true, decide_eq_true_eq] at h ⊢
    exact ⟨by linarith, h.2.trans_le hhalf⟩

lemma writeInteger_iff (hwidth : width ≤ 8) : writeInteger width signed text = .ok bytes ↔
    ∃ n, Numeral signed text n ∧ inRange width signed n ∧
      bytes = bytesOfNat width (n % 2 ^ (8 * width)).toNat := by
  unfold writeInteger
  constructor
  · intro h
    cases hn : fromChars signed text with
    | error e =>
      rw [hn] at h
      cases h
    | ok n =>
      rw [hn] at h
      simp only [bind, Except.bind] at h
      split_ifs at h with hrange
      obtain rfl := Except.ok.inj h
      exact ⟨n, (fromChars_iff.mp hn).1, hrange, rfl⟩
  · rintro ⟨n, hnum, hrange, rfl⟩
    have hn := fromChars_iff.mpr ⟨hnum, inRange_wide hwidth hrange⟩
    simp [hn, bind, Except.bind, hrange, pure, Except.pure]

lemma writeFloat_iff : writeFloat texts k text = .ok bytes ↔
    text ≠ "" ∧ finite k bytes ∧ ∃ h, texts.readFloat k text = some (⟨bytes, h⟩, []) := by
  unfold writeFloat
  constructor
  · intro h
    split_ifs at h with hempty
    cases hr : texts.readFloat k text with
    | none =>
      rw [hr] at h
      cases h
    | some x =>
      rw [hr] at h
      obtain ⟨x, rest⟩ := x
      simp only at h
      split_ifs at h with hbad
      simp only [not_or, not_not] at hbad
      obtain ⟨rfl, hfinite⟩ := hbad
      obtain rfl := Except.ok.inj h
      exact ⟨hempty, hfinite, x.2, rfl⟩
  · rintro ⟨hempty, hfinite, hlen, hr⟩
    simp [hempty, hr, hfinite]

/-- A text is written iff it denotes a value, and then as the bytes of that value. -/
lemma writeScalar_iff : writeScalar texts k text = .ok bytes ↔
    ∃ v, Denotes texts k text v ∧ bytes = bytesOf k v := by
  constructor
  · intro h
    cases hwidth : k.width with
    | none =>
      obtain rfl := width_none hwidth
      cases h
    | some width =>
      obtain ⟨rfl, -⟩ | ⟨signed, hint⟩ | ⟨hfloat, -⟩ := width_cases hwidth
      · unfold writeScalar at h
        split_ifs at h with hbad htrue
        · exact ⟨.bool true, ⟨rfl, htrue⟩, (Except.ok.inj h).symm⟩
        · have hfalse : text = "false" := by
            by_contra hc
            exact hbad ⟨htrue, hc⟩
          exact ⟨.bool false, ⟨rfl, hfalse⟩, (Except.ok.inj h).symm⟩
      · rw [writeScalar_integer hint, writeInteger_iff (integer_width hint).2.2.1] at h
        obtain ⟨n, hnum, hrange, rfl⟩ := h
        exact ⟨.int n, ⟨width, signed, hint, hnum, hrange⟩, by rw [bytesOf, hint]⟩
      · rw [writeScalar_float hfloat, writeFloat_iff] at h
        exact ⟨.float bytes, ⟨hfloat, h⟩, rfl⟩
  · rintro ⟨v, hv, rfl⟩
    cases v with
    | bool b =>
      obtain ⟨rfl, rfl⟩ := hv
      cases b <;> rfl
    | int n =>
      obtain ⟨width, signed, hint, hnum, hrange⟩ := hv
      rw [writeScalar_integer hint, writeInteger_iff (integer_width hint).2.2.1]
      exact ⟨n, hnum, hrange, by rw [bytesOf, hint]⟩
    | float x =>
      rw [writeScalar_float hv.1, writeFloat_iff]
      exact hv.2

lemma length_bytesOf (hv : Valid k v) (hwidth : k.width = some width) : (bytesOf k v).length = width := by
  cases v with
  | bool b =>
    obtain rfl : k = .bool := hv
    exact Option.some.inj hwidth
  | int n =>
    obtain ⟨w, signed, hint, _⟩ := hv
    rw [bytesOf, hint, length_bytesOfNat]
    exact Option.some.inj ((integer_width hint).1.symm.trans hwidth)
  | float bytes =>
    exact hv.2.trans (Option.some.inj ((float_width hv.1).1.symm.trans hwidth))

/-- The bytes of a value of the kind represent it, and only they do. -/
lemma represents_iff : Represents k bytes v ↔ Valid k v ∧ bytes = bytesOf k v := by
  cases v with
  | bool b => exact Iff.rfl
  | int n =>
    constructor
    · rintro ⟨width, signed, hint, hlen, rfl⟩
      refine ⟨⟨width, signed, hint, readInteger_inRange (integer_width hint).2.1 hlen⟩, ?_⟩
      rw [bytesOf, hint]
      exact (bytesOfNat_readInteger hlen).symm
    · rintro ⟨⟨width, signed, hint, hrange⟩, rfl⟩
      rw [bytesOf, hint]
      exact ⟨width, signed, hint, length_bytesOfNat _ _,
        readInteger_bytesOfNat (integer_width hint).2.1 hrange⟩
  | float x =>
    constructor
    · rintro ⟨hfloat, hlen, rfl⟩
      exact ⟨⟨hfloat, hlen⟩, rfl⟩
    · rintro ⟨⟨hfloat, hlen⟩, rfl⟩
      exact ⟨hfloat, hlen, rfl⟩

lemma readScalar_of_represents (hwidth : k.width = some width) (h : Represents k (bytes.take width) v) :
    readScalar texts k bytes = .ok (render texts k v) := by
  cases v with
  | bool b =>
    obtain ⟨rfl, hb⟩ := h
    obtain rfl : 1 = width := Option.some.inj hwidth
    have hhead : bytes.headD 0 = if b then 1 else 0 := by
      cases bytes with
      | nil => simp at hb
      | cons c bytes => simpa using hb
    rw [readScalar_bool, hhead]
    cases b <;> rfl
  | int n =>
    obtain ⟨w, signed, hint, hlen, rfl⟩ := h
    obtain rfl : w = width := Option.some.inj ((integer_width hint).1.symm.trans hwidth)
    rw [readScalar_integer hint, readInteger, readInteger, List.take_take, min_self]
    rfl
  | float x =>
    obtain ⟨hfloat, _, rfl⟩ := h
    obtain rfl : k.floatWidth = width := Option.some.inj ((float_width hfloat).1.symm.trans hwidth)
    exact readScalar_float hfloat bytes

lemma exists_represents (hwidth : k.width = some width) (hlen : bytes.length = width)
    (h : k = .bool → bytes.headD 0 ≤ 1) : ∃ v, Represents k bytes v := by
  obtain ⟨rfl, rfl⟩ | ⟨signed, hint⟩ | ⟨hfloat, rfl⟩ := width_cases hwidth
  · obtain ⟨b, rfl⟩ := List.length_eq_one_iff.mp hlen
    have hb : b = 0 ∨ b = 1 := by
      have := h rfl
      simp only [List.headD_cons, UInt8.le_iff_toNat_le] at this
      simp only [← UInt8.toNat_inj]
      simp at this ⊢
      omega
    rcases hb with rfl | rfl
    · exact ⟨.bool false, rfl, rfl⟩
    · exact ⟨.bool true, rfl, rfl⟩
  · exact ⟨.int _, width, signed, hint, hlen, rfl⟩
  · exact ⟨.float bytes, hfloat, hlen, rfl⟩

/-- The text that is read from bytes is the text of the value that they represent. -/
lemma readScalar_iff (hwidth : k.width = some width) (hlen : width ≤ bytes.length) :
    readScalar texts k bytes = .ok text ↔
      ∃ v, Represents k (bytes.take width) v ∧ text = render texts k v := by
  have htake : (bytes.take width).length = width := by simp [hlen]
  constructor
  · intro h
    have hbool : k = .bool → (bytes.take width).headD 0 ≤ 1 := by
      rintro rfl
      obtain rfl : 1 = width := Option.some.inj hwidth
      have hv : ¬ 1 < bytes.headD 0 := by
        intro hc
        rw [readScalar_bool, if_pos hc] at h
        cases h
      cases bytes with
      | nil => decide
      | cons c bytes => simpa using hv
    obtain ⟨v, hv⟩ := exists_represents hwidth htake hbool
    rw [readScalar_of_represents hwidth hv] at h
    exact ⟨v, hv, (Except.ok.inj h).symm⟩
  · rintro ⟨v, hv, rfl⟩
    exact readScalar_of_represents hwidth hv

lemma Denotes.valid (h : Denotes texts k text v) : Valid k v := by
  cases v with
  | bool b => exact h.1
  | int n =>
    obtain ⟨width, signed, hint, _, hrange⟩ := h
    exact ⟨width, signed, hint, hrange⟩
  | float bytes =>
    obtain ⟨hfloat, _, _, hlen, _⟩ := h
    exact ⟨hfloat, hlen⟩

lemma Denotes.finite (h : Denotes texts k text v) : v.Finite k := by
  cases v with
  | bool b => trivial
  | int n => trivial
  | float bytes => exact h.2.2.1

/-- What the stream library promises: an empty text holds no number, a finite number is printed with
enough digits to be read back, and the text of any other one is not read as a finite number. -/
structure Exact (texts : Texts) : Prop where
  empty : ∀ k, texts.readFloat k "" = none
  finite : ∀ k bytes, k.valueKind = .floatingPoint → ∀ h : bytes.length = k.floatWidth,
    ValueCodec.finite k bytes → texts.readFloat k (texts.printFloat k bytes) = some (⟨bytes, h⟩, [])
  other : ∀ k bytes, k.valueKind = .floatingPoint → bytes.length = k.floatWidth →
    ¬ ValueCodec.finite k bytes → ∀ x, texts.readFloat k (texts.printFloat k bytes) = some (x, []) →
      ¬ ValueCodec.finite k x.1

lemma denotes_render (hexact : Exact texts) (hv : Valid k v) (hfinite : v.Finite k) :
    Denotes texts k (render texts k v) v := by
  cases v with
  | bool b => exact ⟨hv, rfl⟩
  | int n =>
    obtain ⟨width, signed, hint, hrange⟩ := hv
    refine ⟨width, signed, hint, numeral_toString n ?_, hrange⟩
    cases signed with
    | true => exact .inl rfl
    | false =>
      simp only [inRange, Bool.false_eq_true, if_false, decide_eq_true_eq] at hrange
      exact .inr hrange.1
  | float bytes =>
    have hread := hexact.finite k bytes hv.1 hv.2 hfinite
    refine ⟨hv.1, ?_, hfinite, hv.2, hread⟩
    intro hempty
    rw [render] at hempty
    rw [hempty, hexact.empty] at hread
    cases hread

lemma finite_of_denotes_render {v' : Value} (hexact : Exact texts) (hv : Valid k v)
    (h : Denotes texts k (render texts k v) v') : v.Finite k := by
  cases v with
  | bool b => trivial
  | int n => trivial
  | float bytes =>
    by_contra hc
    cases v' with
    | bool b => exact (float_width hv.1).2.1 h.1
    | int n =>
      obtain ⟨width, signed, hint, _⟩ := h
      exact absurd ((float_width hv.1).2.2.symm.trans hint) (by simp)
    | float x =>
      obtain ⟨_, _, hfinite, hlen, hread⟩ := h
      exact hexact.other k bytes hv.1 hv.2 hc _ hread hfinite

end Kinds

end KcfTools.ValueCodec
