import KcfTools.Backend.ScalarTexts

/-! How a stream reads a floating point number: the characters that it takes, the decimal number that they
write, and the nearest number of the kind. -/

namespace KcfTools.ValueCodec

open Float.Model (Format)

structure DecimalNumber where
  negative : Bool
  digits : ℕ
  exponent : ℤ

def dropSign : List Char → Bool × List Char
  | '-' :: cs => (true, cs)
  | '+' :: cs => (false, cs)
  | cs => (false, cs)

def scanFraction : List Char → List Char × List Char
  | '.' :: cs => (cs.takeWhile Char.isDigit, cs.dropWhile Char.isDigit)
  | cs => ([], cs)

def signedBy (negative : Bool) (n : ℕ) : ℤ := if negative then -n else n

/-- A stream that has taken the letter needs digits after it. -/
def scanPower : List Char → Option (ℤ × List Char)
  | [] => some (0, [])
  | c :: cs =>
    if c = 'e' ∨ c = 'E' then
      let (negative, cs) := dropSign cs
      let digits := cs.takeWhile Char.isDigit
      if digits = [] then none
      else some (signedBy negative (decimal digits), cs.dropWhile Char.isDigit)
    else some (0, c :: cs)

/-- The number at the start of the characters, and those after it. -/
def scanNumber (cs : List Char) : Option (DecimalNumber × List Char) :=
  let (negative, cs) := dropSign cs
  let whole := cs.takeWhile Char.isDigit
  let (fraction, rest) := scanFraction (cs.dropWhile Char.isDigit)
  if whole = [] ∧ fraction = [] then none
  else (scanPower rest).map fun (e, rest) =>
    (⟨negative, decimal (whole ++ fraction), e - fraction.length⟩, rest)

def FieldValueKind.format : FieldValueKind → Format
  | .float32 => .binary32
  | _ => .binary64

/-- The number of the kind that is nearest to the decimal one, an even one between two; it may be infinite. -/
def nearest (k : FieldValueKind) (x : DecimalNumber) : List UInt8 :=
  let magnitude := Float.Model.UnpackedFloat.ofScientific k.format x.digits x.exponent
  bytesOfNat k.floatWidth ((if x.negative then magnitude.neg else magnitude).pack k.format).toNat

/-- `>>` of a stream: it fails where no number is written, and at a number that is rounded to infinity. -/
def streamFloat (k : FieldValueKind) (text : String) :
    Option ({ bytes : List UInt8 // bytes.length = k.floatWidth } × List Char) :=
  (scanNumber text.toList).bind fun (x, rest) =>
    if finite k (nearest k x) then some (⟨nearest k x, length_bytesOfNat _ _⟩, rest) else none

section Grammar

def Digits (cs : List Char) : Prop := ∀ c ∈ cs, c.isDigit

/-- The sign may be missing. -/
def Signed (negative : Bool) (sign : List Char) : Prop :=
  negative = true ∧ sign = ['-'] ∨ negative = false ∧ (sign = [] ∨ sign = ['+'])

def Power (e : ℤ) (cs : List Char) : Prop :=
  cs = [] ∧ e = 0 ∨ ∃ c sign negative digits, (c = 'e' ∨ c = 'E') ∧ Signed negative sign ∧ digits ≠ [] ∧
    Digits digits ∧ cs = c :: (sign ++ digits) ∧ e = signedBy negative (decimal digits)

/-- Digits with a sign, a point and a power of ten, each of which may be missing. -/
structure Written (text : String) (x : DecimalNumber) (sign whole point fraction power : List Char) (e : ℤ) :
    Prop where
  signed : Signed x.negative sign
  wholeDigits : Digits whole
  fractionDigits : Digits fraction
  pointed : point = [] ∧ fraction = [] ∨ point = ['.']
  some_digit : whole ≠ [] ∨ fraction ≠ []
  powered : Power e power
  characters : text.toList = sign ++ (whole ++ (point ++ (fraction ++ power)))
  digits_eq : x.digits = decimal (whole ++ fraction)
  exponent_eq : x.exponent = e - fraction.length

/-- The texts of a decimal number. -/
def Decimal (text : String) (x : DecimalNumber) : Prop :=
  ∃ sign whole point fraction power e, Written text x sign whole point fraction power e

end Grammar

section Scan

variable {cs rest digits fraction power sign : List Char} {negative : Bool} {e : ℤ} {x : DecimalNumber}
  {text : String}

lemma takeWhile_digits (h : Digits digits) (hr : ∀ c ∈ rest.head?, ¬ c.isDigit) :
    (digits ++ rest).takeWhile Char.isDigit = digits ∧ (digits ++ rest).dropWhile Char.isDigit = rest := by
  have hrest : rest.takeWhile Char.isDigit = [] ∧ rest.dropWhile Char.isDigit = rest := by
    cases rest with
    | nil => exact ⟨rfl, rfl⟩
    | cons c cs =>
      have hc : c.isDigit = false := by simpa using hr c rfl
      simp [hc]
  rw [List.takeWhile_append_of_pos h, List.dropWhile_append_of_pos h, hrest.1, hrest.2, List.append_nil]
  exact ⟨rfl, rfl⟩

lemma digits_takeWhile (cs : List Char) : Digits (cs.takeWhile Char.isDigit) := fun _ hc =>
  List.mem_takeWhile_imp hc

lemma dropSign_spec (cs : List Char) : ∃ sign, Signed (dropSign cs).1 sign ∧ cs = sign ++ (dropSign cs).2 := by
  unfold dropSign
  split
  · exact ⟨['-'], .inl ⟨rfl, rfl⟩, rfl⟩
  · exact ⟨['+'], .inr ⟨rfl, .inr rfl⟩, rfl⟩
  · exact ⟨[], .inr ⟨rfl, .inl rfl⟩, rfl⟩

lemma dropSign_sign (h : Signed negative sign) (hr : ∀ c ∈ rest.head?, c ≠ '-' ∧ c ≠ '+') :
    dropSign (sign ++ rest) = (negative, rest) := by
  have hplain : dropSign rest = (false, rest) := by
    unfold dropSign
    split
    · exact absurd rfl (hr _ rfl).1
    · exact absurd rfl (hr _ rfl).2
    · rfl
  obtain ⟨rfl, rfl⟩ | ⟨rfl, rfl | rfl⟩ := h
  · rfl
  · exact hplain
  · rfl

lemma isDigit_ne {c : Char} (h : c.isDigit) : c ≠ '-' ∧ c ≠ '+' ∧ c ≠ '.' ∧ c ≠ 'e' ∧ c ≠ 'E' := by
  refine ⟨?_, ?_, ?_, ?_, ?_⟩ <;> rintro rfl <;> exact absurd h (by decide)

lemma Power.head (h : Power e power) : ∀ c ∈ power.head?, c = 'e' ∨ c = 'E' := by
  obtain ⟨rfl, -⟩ | ⟨c, sign, negative, digits, hc, -, -, -, rfl, -⟩ := h
  · rintro c ⟨⟩
  · rintro c' ⟨⟩
    exact hc

/-- The power of ten that ends the characters. -/
lemma scanPower_iff : scanPower cs = some (e, []) ↔ Power e cs := by
  constructor
  · intro h
    cases cs with
    | nil =>
      obtain rfl : 0 = e := by simpa [scanPower] using h
      exact .inl ⟨rfl, rfl⟩
    | cons c cs =>
      simp only [scanPower] at h
      split_ifs at h with hc hempty
      · obtain ⟨sign, hs, hsplit⟩ := dropSign_spec cs
        obtain ⟨rfl, hrest⟩ := Prod.mk.inj (Option.some.inj h)
        have hall := List.takeWhile_append_dropWhile (p := Char.isDigit) (l := (dropSign cs).2)
        rw [hrest, List.append_nil] at hall
        exact .inr ⟨c, sign, _, _, hc, hs, hempty, digits_takeWhile _, by rw [hall, ← hsplit], rfl⟩
      · exact absurd (Prod.mk.inj (Option.some.inj h)).2 (List.cons_ne_nil _ _)
  · rintro (⟨rfl, rfl⟩ | ⟨c, sign, negative, digits, hc, hs, hne, hd, rfl, rfl⟩)
    · rfl
    · have hhead : ∀ c ∈ digits.head?, c ≠ '-' ∧ c ≠ '+' := fun c hc =>
        have hne := isDigit_ne (hd c (List.mem_of_mem_head? hc))
        ⟨hne.1, hne.2.1⟩
      obtain ⟨htake, hdrop⟩ := @takeWhile_digits [] digits hd (by simp)
      rw [List.append_nil] at htake hdrop
      simp only [scanPower, if_pos hc, dropSign_sign hs hhead, htake, hdrop, if_neg hne]

lemma scanFraction_spec (cs : List Char) : ∃ point, (point = [] ∧ (scanFraction cs).1 = [] ∨ point = ['.']) ∧
    Digits (scanFraction cs).1 ∧ cs = point ++ ((scanFraction cs).1 ++ (scanFraction cs).2) := by
  unfold scanFraction
  split
  · exact ⟨['.'], .inr rfl, digits_takeWhile _, by simp [List.takeWhile_append_dropWhile]⟩
  · exact ⟨[], .inl ⟨rfl, rfl⟩, (fun _ hc => absurd hc List.not_mem_nil), rfl⟩

lemma scanFraction_point {point : List Char} (hp : point = [] ∧ fraction = [] ∨ point = ['.'])
    (hf : Digits fraction) (hr : Power e power) :
    scanFraction (point ++ (fraction ++ power)) = (fraction, power) := by
  have hhead : ∀ c ∈ power.head?, ¬ c.isDigit ∧ c ≠ '.' := fun c hc => by
    rcases hr.head c hc with rfl | rfl <;> decide
  obtain ⟨rfl, rfl⟩ | rfl := hp
  · cases power with
    | nil => rfl
    | cons c cs =>
      have hc := (hhead c rfl).2
      simp only [List.nil_append, scanFraction]
      split
      · exact absurd (List.cons.inj ‹_›).1 hc
      · rfl
  · obtain ⟨htake, hdrop⟩ := takeWhile_digits hf fun c hc => (hhead c hc).1
    simp only [List.cons_append, List.nil_append, scanFraction, htake, hdrop]

/-- A stream reads the whole text as a number iff it is the text of that number. -/
lemma scanNumber_iff : scanNumber text.toList = some (x, []) ↔ Decimal text x := by
  constructor
  · intro h
    unfold scanNumber at h
    obtain ⟨sign, hs, hsplit⟩ := dropSign_spec text.toList
    obtain ⟨point, hp, hf, hrest⟩ := scanFraction_spec ((dropSign text.toList).2.dropWhile Char.isDigit)
    simp only at h
    split_ifs at h with hempty
    obtain ⟨⟨e, power⟩, he, hx⟩ := Option.map_eq_some_iff.mp h
    obtain ⟨rfl, rfl⟩ := Prod.mk.inj hx
    refine ⟨sign, _, point, _, _, e, hs, digits_takeWhile _, hf, hp, not_and_or.mp hempty,
      scanPower_iff.mp he, ?_,
      rfl, rfl⟩
    rw [← hrest, List.takeWhile_append_dropWhile, ← hsplit]
  · rintro ⟨sign, whole, point, fraction, power, e, h⟩
    have hhead : ∀ c ∈ (point ++ (fraction ++ power)).head?, ¬ c.isDigit := by
      obtain ⟨hpoint, hfraction⟩ | hpoint := h.pointed
      · rw [hpoint, hfraction]
        intro c hc
        rcases h.powered.head c (by simpa using hc) with rfl | rfl <;> decide
      · rw [hpoint]
        rintro c ⟨⟩
        decide
    have hsign : ∀ c ∈ (whole ++ (point ++ (fraction ++ power))).head?, c ≠ '-' ∧ c ≠ '+' := by
      cases whole with
      | nil =>
        have hpoint : point = ['.'] :=
          h.pointed.resolve_left fun hc => h.some_digit.elim (absurd rfl) (absurd hc.2)
        rw [hpoint]
        rintro c ⟨⟩
        decide
      | cons d whole =>
        rintro _ ⟨⟩
        have hne := isDigit_ne (h.wholeDigits _ List.mem_cons_self)
        exact ⟨hne.1, hne.2.1⟩
    obtain ⟨htake, hdrop⟩ := takeWhile_digits h.wholeDigits hhead
    have hdigits : ¬ (whole = [] ∧ fraction = []) := not_and_or.mpr h.some_digit
    unfold scanNumber
    simp only [h.characters, dropSign_sign h.signed hsign, htake, hdrop,
      scanFraction_point h.pointed h.fractionDigits h.powered, if_neg hdigits, scanPower_iff.mpr h.powered,
      Option.map_some, ← h.digits_eq, ← h.exponent_eq]

lemma Decimal.ne_empty (h : Decimal text x) : text ≠ "" := by
  rintro rfl
  obtain ⟨sign, whole, point, fraction, power, e, h⟩ := h
  have hempty := h.characters
  simp only [String.toList_empty, List.nil_eq, List.append_eq_nil_iff] at hempty
  exact h.some_digit.elim (absurd hempty.2.1) (absurd hempty.2.2.2.1)

lemma streamFloat_iff {k : FieldValueKind} {bytes : List UInt8} :
    (∃ h, streamFloat k text = some (⟨bytes, h⟩, [])) ↔
      ∃ x, Decimal text x ∧ finite k bytes ∧ bytes = nearest k x := by
  constructor
  · rintro ⟨hlen, h⟩
    obtain ⟨⟨x, rest⟩, hx, h⟩ := Option.bind_eq_some_iff.mp h
    simp only at h
    split_ifs at h with hfinite
    obtain ⟨hbytes, rfl⟩ := Prod.mk.inj (Option.some.inj h)
    obtain rfl := Subtype.mk.inj hbytes
    exact ⟨x, scanNumber_iff.mp hx, hfinite, rfl⟩
  · rintro ⟨x, hx, hfinite, rfl⟩
    refine ⟨length_bytesOfNat _ _, ?_⟩
    unfold streamFloat
    simp only [scanNumber_iff.mpr hx, Option.bind_some, if_pos hfinite]

end Scan

end KcfTools.ValueCodec
