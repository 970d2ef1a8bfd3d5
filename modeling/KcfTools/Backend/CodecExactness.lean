import KcfTools.Backend.CodecLayout
import KcfTools.Backend.FloatTexts

/-! What the codec accepts, what it writes, and the round trips between payloads and snapshots. -/

namespace KcfTools.ValueCodec

open Splices

/-- What the source reads floating point numbers with. -/
def Texts.stream (texts : Texts) : Texts := { texts with readFloat := streamFloat }

/-- The texts that the kind accepts for the value. -/
def Accepts (k : FieldValueKind) (text : String) : Value → Prop
  | .bool b => k = .bool ∧ text = if b then "true" else "false"
  | .int n => ∃ width signed, k.integer = some (width, signed) ∧ Numeral signed text n ∧
      inRange width signed n
  | .float bytes => k.valueKind = .floatingPoint ∧
      ∃ x, Decimal text x ∧ finite k bytes ∧ bytes = nearest k x

/-- The complete and well typed snapshots. -/
def Accepted (d : TypeDescriptor) (input : DataSnapshot) : Prop :=
  input.typeId = d.typeId ∧ input.typeName = d.typeName ∧
    (input.fields.map FieldValue.name).Perm (d.fields.map TypeFieldInfo.name) ∧
      ∀ field ∈ input.fields, ∀ f ∈ d.fields, field.name = f.name →
        Matches f field ∧ ∀ j < f.arrayCount, ∃ v, Accepts f.kind (elementText f field j) v

def InField (d : TypeDescriptor) (i : ℕ) : Prop := ∃ f ∈ d.fields, f.offset ≤ i ∧ i < f.stop

/-- No floating point element of the payload is infinite or no number. -/
def FiniteFloats (d : TypeDescriptor) (bytes : List UInt8) : Prop :=
  ∀ f ∈ d.fields, f.kind.valueKind = .floatingPoint → ∀ j < f.arrayCount, finite f.kind (element bytes f j)

def FiniteValues (d : TypeDescriptor) (a : Assignment) : Prop :=
  ∀ f ∈ d.fields, ∀ j < f.arrayCount, (a f j).Finite f.kind

variable {texts : Texts} {d : TypeDescriptor} {a : Assignment} {f : TypeFieldInfo} {j : ℕ}
  {input : DataSnapshot} {seed : Option DynamicPayload} {p payload : DynamicPayload}

lemma denotes_stream {k : FieldValueKind} {text : String} {v : Value} :
    Denotes texts.stream k text v ↔ Accepts k text v := by
  cases v with
  | bool b => exact Iff.rfl
  | int n => exact Iff.rfl
  | float bytes =>
    constructor
    · rintro ⟨hk, _, _, hread⟩
      exact ⟨hk, streamFloat_iff.mp hread⟩
    · rintro ⟨hk, x, hx, hfinite, hnearest⟩
      exact ⟨hk, hx.ne_empty, hfinite, streamFloat_iff.mpr ⟨x, hx, hfinite, hnearest⟩⟩

section Writes

lemma inField_of_hits (hd : WellFormed d) (ha : a.Valid d) {w : ℕ × List UInt8} (hw : w ∈ writes d a) {i : ℕ}
    (hi : Hits w i) : InField d i := by
  obtain ⟨f, hf, j, hj, rfl⟩ := mem_writes.mp hw
  have hstop := element_le_stop hj
  obtain ⟨hlow, hhigh⟩ := hi
  rw [length_elementWrite hd ha hf hj] at hhigh
  simp only [elementWrite] at hlow hhigh
  exact ⟨f, hf, by omega, by omega⟩

lemma hits_of_inField (hd : WellFormed d) (ha : a.Valid d) {i : ℕ} (hi : InField d i) :
    ∃ w ∈ writes d a, Hits w i := by
  obtain ⟨f, hf, hlow, hhigh⟩ := hi
  unfold TypeFieldInfo.stop at hhigh
  have hj : (i - f.offset) / f.elementSize < f.arrayCount :=
    Nat.div_lt_of_lt_mul (by omega)
  have hsize : 0 < f.elementSize := by
    by_contra hc
    obtain hz : f.elementSize = 0 := by omega
    rw [hz, Nat.zero_mul] at hhigh
    omega
  refine ⟨_, mem_writes.mpr ⟨f, hf, _, hj, rfl⟩, ?_⟩
  have hdiv := Nat.div_mul_le_self (i - f.offset) f.elementSize
  have hnext := Nat.lt_div_mul_add (a := i - f.offset) hsize
  unfold Hits
  rw [length_elementWrite hd ha hf hj]
  simp only [elementWrite]
  omega

lemma element_encoded (hd : WellFormed d) (hseed : Seeds d seed) (ha : a.Valid d) (hf : f ∈ d.fields)
    (hj : j < f.arrayCount) : element (encoded d seed a).bytes f j = bytesOf f.kind (a f j) := by
  have hw : elementWrite a f j ∈ writes d a := mem_writes.mpr ⟨f, hf, j, hj, rfl⟩
  have hfits : ∀ w ∈ writes d a, Fits (start d seed).bytes.length w := by
    rw [length_start hseed]
    exact writes_fit hd ha
  have hread := slice_splices (writes_apart hd ha) hfits hw
  rwa [length_elementWrite hd ha hf hj] at hread

lemma length_encoded (hd : WellFormed d) (hseed : Seeds d seed) (ha : a.Valid d) :
    (encoded d seed a).bytes.length = d.payloadSize := by
  rw [← length_start hseed]
  apply length_splices
  rw [length_start hseed]
  exact writes_fit hd ha

lemma encoded_outside (hd : WellFormed d) (hseed : Seeds d seed) (ha : a.Valid d) {i : ℕ}
    (hi : ¬ InField d i) : (encoded d seed a).bytes[i]? = (start d seed).bytes[i]? := by
  apply getElem?_splices_outside
  · rw [length_start hseed]
    exact writes_fit hd ha
  · exact fun w hw hc => hi (inField_of_hits hd ha hw hc)

end Writes

section Sample

/-- A truth value, two numbers and a floating point number, unaligned, and a byte of padding. -/
def sampleType : TypeDescriptor where
  typeName := "sample"
  typeId := 5
  payloadSize := 10
  fields := [⟨"counts", 1, 2, 2, .int16⟩, ⟨"on", 0, 1, 1, .bool⟩, ⟨"gain", 5, 4, 1, .float32⟩]

/-- The stream library on the number zero, for a framework that knows one type. -/
def sampleTexts : Texts where
  validateTypeDescriptor d := d = sampleType
  printFloat k bytes := if finite k bytes then toString (natOfBytes bytes : ℤ) else "nan"
  readFloat k text := (fromChars false text).toOption.map fun n =>
    (⟨bytesOfNat k.floatWidth n.toNat, length_bytesOfNat _ _⟩, [])

lemma sample_wellFormed (d : TypeDescriptor) (h : sampleTexts.validateTypeDescriptor d) : WellFormed d := by
  obtain rfl : d = sampleType := of_decide_eq_true h
  constructor <;> decide

lemma sample_exact : Exact sampleTexts where
  empty k := rfl
  finite k bytes hfloat hlen hfin := by
    have hlt := natOfBytes_lt bytes
    have hwide : 256 ^ bytes.length ≤ 2 ^ 64 := by
      rw [hlen]
      cases k <;> cases hfloat <;> decide
    have hread : fromChars false (toString (natOfBytes bytes : ℤ)) = .ok (natOfBytes bytes : ℤ) := by
      refine fromChars_iff.mpr ⟨numeral_toString _ (.inr (Int.natCast_nonneg _)), ?_⟩
      simp only [inRange, Bool.false_eq_true, if_false, decide_eq_true_eq]
      exact ⟨Int.natCast_nonneg _, by exact_mod_cast hlt.trans_le hwide⟩
    simp only [sampleTexts, if_pos hfin, hread]
    simp only [Except.toOption, Option.map_some, Int.toNat_natCast, Option.some.injEq, Prod.mk.injEq,
      Subtype.mk.injEq, and_true]
    rw [← hlen]
    exact bytesOfNat_natOfBytes bytes
  other k bytes _ _ hfin x hx := by
    rw [sampleTexts] at hx
    simp only [if_neg hfin] at hx
    cases hx

def sampleSnapshot : DataSnapshot where
  typeName := "sample"
  typeId := 5
  fields := [
    { name := "counts", typeName := "int16", kind := .signedInteger, arrayValues := ["-2", "300"] },
    { name := "on", typeName := "bool", kind := .boolean, value := "true" },
    { name := "gain", typeName := "float32", kind := .floatingPoint, value := "0" }]

def samplePayload : DynamicPayload where
  typeId := 5
  bytes := [1, 254, 255, 44, 1, 0, 0, 0, 0, 7]

end Sample

/-- The encoder accepts exactly the complete, well typed snapshots, in any order of their fields, and
changes nothing but the bytes of the elements. -/
theorem encode_exact (hframework : ∀ d, texts.validateTypeDescriptor d → WellFormed d)
    (haccepted : texts.validateTypeDescriptor d) (hseed : Seeds d seed) (input : DataSnapshot) :
    ((∃ payload, encode texts.stream d input seed = .ok payload) ↔ Accepted d input) ∧
    ∀ payload, encode texts.stream d input seed = .ok payload →
      (∀ fields, fields.Perm input.fields →
        encode texts.stream d { input with fields := fields } seed = .ok payload) ∧
      (payload.typeId = d.typeId ∧ payload.sequence = (start d seed).sequence ∧
        payload.bytes.length = d.payloadSize) ∧
      (∀ field ∈ input.fields, ∀ f ∈ d.fields, field.name = f.name → ∀ j < f.arrayCount, ∃ v,
        Accepts f.kind (elementText f field j) v ∧
          Represents f.kind (element payload.bytes f j) v) ∧
      ∀ i, ¬ InField d i → payload.bytes[i]? = (start d seed).bytes[i]? := by
  have hd := hframework d haccepted
  have hencode : ∀ {input payload}, encode texts.stream d input seed = .ok payload ↔ _ := fun {_ _} =>
    encode_iff hd haccepted hseed
  refine ⟨⟨?_, ?_⟩, ?_⟩
  · rintro ⟨payload, h⟩
    obtain ⟨hid, hname, a, ha, _⟩ := hencode.mp h
    refine ⟨hid, hname, ha.1, fun field hfield f hf hsame => ?_⟩
    obtain ⟨hmatches, hdenotes⟩ := ha.2 field hfield f hf hsame
    exact ⟨hmatches, fun j hj => ⟨_, denotes_stream.mp (hdenotes j hj)⟩⟩
  · rintro ⟨hid, hname, hnames, hfields⟩
    obtain ⟨a, ha⟩ : ∃ a, Denoted texts.stream d input a :=
      exists_denoted hd hnames fun field hfield f hf hsame => by
        simpa only [denotes_stream] using hfields field hfield f hf hsame
    exact ⟨_, hencode.mpr ⟨hid, hname, a, ha, rfl⟩⟩
  · intro payload h
    obtain ⟨hid, hname, a, ha, rfl⟩ := hencode.mp h
    refine ⟨fun fields hperm => ?_, ⟨rfl, rfl, length_encoded hd hseed ha.valid⟩, ?_, ?_⟩
    · refine hencode.mpr ⟨hid, hname, a, ⟨?_, ?_⟩, rfl⟩
      · exact (hperm.map _).trans ha.1
      · exact fun field hfield => ha.2 field (hperm.mem_iff.mp hfield)
    · intro field hfield f hf hsame j hj
      have hdenotes := (ha.2 field hfield f hf hsame).2 j hj
      exact ⟨a f j, denotes_stream.mp hdenotes,
        represents_iff.mpr ⟨hdenotes.valid, element_encoded hd hseed ha.valid hf hj⟩⟩
    · exact fun i hi => encoded_outside hd hseed ha.valid hi

theorem encode_exact_sample :
    encode sampleTexts.stream sampleType { sampleSnapshot with fields := sampleSnapshot.fields.reverse }
      (some samplePayload) = .ok samplePayload :=
  ((encode_exact sample_wellFormed (by decide) (by rintro _ ⟨⟩; decide) sampleSnapshot).2
    samplePayload (by rfl)).1 _ (List.reverse_perm _)

section RoundTrip

lemma Holds.valid {bytes : List UInt8} (h : Holds d bytes a) : a.Valid d :=
  fun f hf j hj => (represents_iff.mp (h f hf j hj)).1

lemma Holds.element_eq {bytes : List UInt8} (h : Holds d bytes a) (hf : f ∈ d.fields) (hj : j < f.arrayCount) :
    element bytes f j = bytesOf f.kind (a f j) := (represents_iff.mp (h f hf j hj)).2

lemma Holds.finite_iff {bytes : List UInt8} (h : Holds d bytes a) :
    FiniteValues d a ↔ FiniteFloats d bytes := by
  constructor
  · intro hfin f hf hfloat j hj
    have hvalue := hfin f hf j hj
    have hrep := h f hf j hj
    cases hv : a f j with
    | bool b =>
      rw [hv] at hrep
      exact absurd hrep.1 (float_width hfloat).2.1
    | int n =>
      rw [hv] at hrep
      obtain ⟨_, _, hint, _⟩ := hrep
      exact absurd hfloat (integer_width hint).2.2.2.2
    | float x =>
      rw [hv] at hrep hvalue
      obtain ⟨_, _, rfl⟩ := hrep
      exact hvalue
  · intro hfin f hf j hj
    have hrep := h f hf j hj
    cases hv : a f j with
    | bool b => trivial
    | int n => trivial
    | float x =>
      rw [hv] at hrep
      obtain ⟨hfloat, _, rfl⟩ := hrep
      exact hfin f hf hfloat j hj

lemma Denoted.finite (h : Denoted texts d input a) : FiniteValues d a := by
  intro f hf j hj
  obtain ⟨field, hfield, hname⟩ := List.mem_map.mp (h.1.mem_iff.mpr (List.mem_map_of_mem hf))
  exact ((h.2 field hfield f hf hname).2 j hj).finite

lemma elementText_rendered (hj : j < f.arrayCount) :
    elementText f (rendered texts a f) j = render texts f.kind (a f j) := by
  unfold elementText rendered
  by_cases hone : f.arrayCount = 1
  · obtain rfl : j = 0 := by omega
    simp [hone]
  · simp [hone, List.getD_eq_getElem?_getD, hj]

lemma rendered_matches (a : Assignment) (f : TypeFieldInfo) : Matches f (rendered texts a f) where
  kind := rfl
  typeName := rfl
  array h := by simp [rendered, show f.arrayCount ≠ 1 by omega]
  scalar h := by simp [rendered, h]

/-- The canonical snapshot of finite values denotes them. -/
lemma denoted_canonical (hexact : Exact texts) (hd : WellFormed d) (ha : a.Valid d) (hfin : FiniteValues d a)
    (sequence : UInt64) : Denoted texts d (canonical texts d sequence a) a := by
  refine ⟨?_, ?_⟩
  · rw [canonical, List.map_map]
    rfl
  · intro field hfield f hf hname
    obtain ⟨g, hg, rfl⟩ := List.mem_map.mp hfield
    obtain rfl : g = f := List.inj_on_of_nodup_map hd.names hg hf hname
    refine ⟨rendered_matches a g, fun j hj => ?_⟩
    rw [elementText_rendered hj]
    exact denotes_render hexact (ha g hf j hj) (hfin g hf j hj)

lemma finite_of_denoted_canonical {b : Assignment} (hexact : Exact texts) (ha : a.Valid d)
    {sequence : UInt64} (h : Denoted texts d (canonical texts d sequence a) b) : FiniteValues d a := by
  intro f hf j hj
  have hdenotes := (h.2 (rendered texts a f) (List.mem_map_of_mem hf) f hf rfl).2 j hj
  rw [elementText_rendered hj] at hdenotes
  exact finite_of_denotes_render hexact (ha f hf j hj) hdenotes

/-- The canonical snapshot of a payload is accepted iff its floating point numbers are finite. -/
lemma encode_canonical_iff (hexact : Exact texts) (hd : WellFormed d)
    (haccepted : texts.validateTypeDescriptor d) (hseed : Seeds d seed) {bytes : List UInt8}
    (hholds : Holds d bytes a) (sequence : UInt64) :
    encode texts d (canonical texts d sequence a) seed = .ok payload ↔
      FiniteFloats d bytes ∧ payload = encoded d seed a := by
  have hof : FiniteValues d a →
      encode texts d (canonical texts d sequence a) seed = .ok (encoded d seed a) := fun hfin =>
    (encode_iff hd haccepted hseed).mpr
      ⟨rfl, rfl, a, denoted_canonical hexact hd hholds.valid hfin sequence, rfl⟩
  rw [← hholds.finite_iff]
  constructor
  · intro h
    obtain ⟨_, _, b, hb, _⟩ := (encode_iff hd haccepted hseed).mp h
    have hfin := finite_of_denoted_canonical hexact hholds.valid hb
    exact ⟨hfin, Except.ok.inj (h.symm.trans (hof hfin))⟩
  · rintro ⟨hfin, rfl⟩
    exact hof hfin

lemma encoded_self (hd : WellFormed d) (hid : p.typeId = d.typeId) (hlen : p.bytes.length = d.payloadSize)
    (h : Holds d p.bytes a) : encoded d (some p) a = p := by
  have hself : splices p.bytes (writes d a) = p.bytes := by
    refine splices_self (writes_apart hd h.valid) ?_ fun w hw => ?_
    · rw [hlen]
      exact writes_fit hd h.valid
    · obtain ⟨f, hf, j, hj, rfl⟩ := mem_writes.mp hw
      rw [length_elementWrite hd h.valid hf hj]
      exact h.element_eq hf hj
  unfold encoded start
  simp only [Option.getD_some, hself, ← hid]

/-- Written into any other payload, what a payload holds is the same in every byte of a field. -/
lemma encoded_field (hd : WellFormed d) (hseed : Seeds d seed)
    (h : Holds d p.bytes a) {i : ℕ} (hi : InField d i) : (encoded d seed a).bytes[i]? = p.bytes[i]? := by
  obtain ⟨w, hw, hi⟩ := hits_of_inField hd h.valid hi
  have hfits : ∀ w ∈ writes d a, Fits (start d seed).bytes.length w := by
    rw [length_start hseed]
    exact writes_fit hd h.valid
  have hwritten := getElem?_splices (writes_apart hd h.valid) hfits hw hi
  obtain ⟨f, hf, j, hj, rfl⟩ := mem_writes.mp hw
  obtain ⟨hlow, hhigh⟩ := hi
  rw [length_elementWrite hd h.valid hf hj] at hhigh
  refine hwritten.trans ?_
  rw [elementWrite, ← h.element_eq hf hj]
  unfold element
  simp only [elementWrite] at hlow hhigh ⊢
  rw [getElem?_slice (by omega)]
  congr 1
  omega

lemma encode_seeds (h : encode texts d input seed = .ok payload) : Seeds d seed := by
  unfold encode at h
  split_ifs at h with _ _ _ hseed
  exact seeds_iff.mpr hseed

lemma holds_encoded (hd : WellFormed d) (hseed : Seeds d seed) (ha : a.Valid d) :
    Holds d (encoded d seed a).bytes a :=
  fun f hf j hj => represents_iff.mpr ⟨ha f hf j hj, element_encoded hd hseed ha hf hj⟩

/-- A payload that is decoded and encoded again comes back, unless it holds a number that is not finite;
a snapshot that is encoded and decoded comes back in its canonical form. -/
theorem round_trip (hframework : ∀ d, texts.validateTypeDescriptor d → WellFormed d) (hexact : Exact texts)
    (haccepted : texts.validateTypeDescriptor d) :
    (∀ p s, decode texts d p = .ok s →
      ((∃ out, encode texts d s (some p) = .ok out) ↔ FiniteFloats d p.bytes) ∧
      (∀ out, encode texts d s (some p) = .ok out → out = p) ∧
      ((∃ out, encode texts d s none = .ok out) ↔ FiniteFloats d p.bytes) ∧
      ∀ out, encode texts d s none = .ok out → out.typeId = p.typeId ∧
        out.bytes.length = p.bytes.length ∧ ∀ i < p.bytes.length,
          (InField d i → out.bytes[i]? = p.bytes[i]?) ∧ (¬ InField d i → out.bytes[i]? = some 0)) ∧
    ∀ s seed out, encode texts d s seed = .ok out → ∃ a, Denoted texts d s a ∧
      decode texts d out = .ok (canonical texts d out.sequence a) ∧
        encode texts d (canonical texts d out.sequence a) seed = .ok out := by
  have hd := hframework d haccepted
  refine ⟨fun p s hdecode => ?_, fun s seed out hencode => ?_⟩
  · obtain ⟨hid, hlen, a, hholds, rfl⟩ := (decode_iff hd haccepted).mp hdecode
    have hsome : Seeds d (some p) := by
      rintro _ ⟨⟩
      exact ⟨hid, hlen⟩
    have hnone : Seeds d none := nofun
    have hiff : ∀ {seed}, Seeds d seed → ∀ out,
        encode texts d (canonical texts d p.sequence a) seed = .ok out ↔
          FiniteFloats d p.bytes ∧ out = encoded d seed a := fun hseed out =>
      encode_canonical_iff hexact hd haccepted hseed hholds p.sequence
    refine ⟨⟨?_, fun hfin => ⟨_, (hiff hsome _).mpr ⟨hfin, rfl⟩⟩⟩, ?_,
      ⟨?_, fun hfin => ⟨_, (hiff hnone _).mpr ⟨hfin, rfl⟩⟩⟩, ?_⟩
    · rintro ⟨out, hout⟩
      exact ((hiff hsome out).mp hout).1
    · intro out hout
      rw [((hiff hsome out).mp hout).2]
      exact encoded_self hd hid hlen hholds
    · rintro ⟨out, hout⟩
      exact ((hiff hnone out).mp hout).1
    · intro out hout
      obtain rfl := ((hiff hnone out).mp hout).2
      refine ⟨hid.symm, (length_encoded hd hnone hholds.valid).trans hlen.symm, fun i hi =>
        ⟨fun hin => encoded_field hd hnone hholds hin, fun hout => ?_⟩⟩
      rw [encoded_outside hd hnone hholds.valid hout]
      simp [start, ← hlen, hi]
  · have hseed := encode_seeds hencode
    obtain ⟨hid, hname, a, ha, rfl⟩ := (encode_iff hd haccepted hseed).mp hencode
    have hholds := holds_encoded hd hseed ha.valid
    refine ⟨a, ha, ?_, ?_⟩
    · exact (decode_iff hd haccepted).mpr ⟨rfl, length_encoded hd hseed ha.valid, a, hholds, rfl⟩
    · exact (encode_canonical_iff hexact hd haccepted hseed hholds _).mpr
        ⟨hholds.finite_iff.mp ha.finite, rfl⟩

theorem round_trip_sample : ∃ out, encode sampleTexts sampleType sampleSnapshot none = .ok out :=
  ((round_trip sample_wellFormed sample_exact (d := sampleType) (by decide)).1 samplePayload sampleSnapshot
    (by rfl)).2.2.1.mpr (by unfold FiniteFloats; decide)

end RoundTrip

end KcfTools.ValueCodec
