import KcfTools.Backend.ScalarTexts
import KcfTools.Lib.Results
import KcfTools.Lib.Splices

/-! Layouts, and what the codec does in terms of the values that a payload or a snapshot holds. -/

namespace KcfTools.ValueCodec

open Results Splices

def TypeFieldInfo.stop (f : TypeFieldInfo) : ℕ := f.offset + f.elementSize * f.arrayCount

/-- What the framework's check promises of a descriptor. -/
structure WellFormed (d : TypeDescriptor) : Prop where
  names : (d.fields.map TypeFieldInfo.name).Nodup
  counted : ∀ f ∈ d.fields, 1 ≤ f.arrayCount
  width : ∀ f ∈ d.fields, f.kind.width = some f.elementSize
  apart : d.fields.Pairwise fun f g => f.stop ≤ g.offset ∨ g.stop ≤ f.offset
  inside : ∀ f ∈ d.fields, f.stop ≤ d.payloadSize

/-- A value for each element of each field. -/
abbrev Assignment := TypeFieldInfo → ℕ → Value

def elementText (f : TypeFieldInfo) (field : FieldValue) (j : ℕ) : String :=
  if f.arrayCount = 1 then field.value else field.arrayValues.getD j ""

structure Matches (f : TypeFieldInfo) (field : FieldValue) : Prop where
  kind : field.kind = f.kind.valueKind
  typeName : field.typeName = f.kind.name
  array : 1 < f.arrayCount → field.arrayValues.length = f.arrayCount ∧ field.value = ""
  scalar : f.arrayCount = 1 → field.arrayValues = []

variable (texts : Texts)

/-- The snapshot's fields are the descriptor's, in some order, and their texts denote the values. -/
def Denoted (d : TypeDescriptor) (input : DataSnapshot) (a : Assignment) : Prop :=
  (input.fields.map FieldValue.name).Perm (d.fields.map TypeFieldInfo.name) ∧
    ∀ field ∈ input.fields, ∀ f ∈ d.fields, field.name = f.name →
      Matches f field ∧ ∀ j < f.arrayCount, Denotes texts f.kind (elementText f field j) (a f j)

def element (bytes : List UInt8) (f : TypeFieldInfo) (j : ℕ) : List UInt8 :=
  slice bytes (f.offset + j * f.elementSize) f.elementSize

/-- The payload holds the values. -/
def Holds (d : TypeDescriptor) (bytes : List UInt8) (a : Assignment) : Prop :=
  ∀ f ∈ d.fields, ∀ j < f.arrayCount, Represents f.kind (element bytes f j) (a f j)

def rendered (a : Assignment) (f : TypeFieldInfo) : FieldValue where
  name := f.name
  typeName := f.kind.name
  kind := f.kind.valueKind
  value := if f.arrayCount = 1 then render texts f.kind (a f 0) else ""
  arrayValues := if f.arrayCount = 1 then [] else
    (List.range f.arrayCount).map fun j => render texts f.kind (a f j)

/-- The canonical snapshot of the values. -/
def canonical (d : TypeDescriptor) (sequence : UInt64) (a : Assignment) : DataSnapshot where
  typeName := d.typeName
  typeId := d.typeId
  sequence := sequence
  fields := d.fields.map (rendered texts a)

def Assignment.Valid (d : TypeDescriptor) (a : Assignment) : Prop :=
  ∀ f ∈ d.fields, ∀ j < f.arrayCount, ValueCodec.Valid f.kind (a f j)

def elementWrite (a : Assignment) (f : TypeFieldInfo) (j : ℕ) : ℕ × List UInt8 :=
  (f.offset + j * f.elementSize, bytesOf f.kind (a f j))

def fieldWrites (a : Assignment) (f : TypeFieldInfo) : List (ℕ × List UInt8) :=
  (List.range f.arrayCount).map (elementWrite a f)

def writes (d : TypeDescriptor) (a : Assignment) : List (ℕ × List UInt8) :=
  d.fields.flatMap (fieldWrites a)

variable {texts} {d : TypeDescriptor} {a : Assignment} {f : TypeFieldInfo} {j : ℕ} {bytes out : List UInt8}

lemma mem_writes {w : ℕ × List UInt8} :
    w ∈ writes d a ↔ ∃ f ∈ d.fields, ∃ j < f.arrayCount, elementWrite a f j = w := by
  simp [writes, fieldWrites]

lemma WellFormed.nodup (hd : WellFormed d) : d.fields.Nodup := hd.names.of_map _

lemma element_stop (f : TypeFieldInfo) {i j : ℕ} (h : i < j) :
    f.offset + i * f.elementSize + f.elementSize ≤ f.offset + j * f.elementSize := by
  have hmul : (i + 1) * f.elementSize ≤ j * f.elementSize := Nat.mul_le_mul_right _ h
  rw [Nat.succ_mul] at hmul
  omega

lemma element_le_stop (hj : j < f.arrayCount) :
    f.offset + j * f.elementSize + f.elementSize ≤ f.stop := by
  have h := element_stop f hj
  rwa [Nat.mul_comm f.arrayCount] at h

lemma length_elementWrite (hd : WellFormed d) (ha : a.Valid d) (hf : f ∈ d.fields) (hj : j < f.arrayCount) :
    (elementWrite a f j).2.length = f.elementSize :=
  length_bytesOf (ha f hf j hj) (hd.width f hf)

lemma writes_fit (hd : WellFormed d) (ha : a.Valid d) : ∀ w ∈ writes d a, Fits d.payloadSize w := by
  intro w hw
  obtain ⟨f, hf, j, hj, rfl⟩ := mem_writes.mp hw
  have hstop := (element_le_stop hj).trans (hd.inside f hf)
  unfold Fits
  rwa [length_elementWrite hd ha hf hj]

lemma writes_apart (hd : WellFormed d) (ha : a.Valid d) : (writes d a).Pairwise Apart := by
  refine List.pairwise_flatMap.mpr ⟨fun f hf => ?_, ?_⟩
  · refine List.pairwise_map.mpr (List.pairwise_lt_range.imp_of_mem fun hi hj hij => .inl ?_)
    rw [length_elementWrite hd ha hf (List.mem_range.mp hi)]
    exact element_stop f hij
  · refine hd.apart.imp_of_mem fun {f g} hf hg hfg v hv w hw => ?_
    obtain ⟨i, hi, rfl⟩ := List.mem_map.mp hv
    obtain ⟨j, hj, rfl⟩ := List.mem_map.mp hw
    rw [List.mem_range] at hi hj
    have hstop := element_le_stop hi
    have hstop' := element_le_stop hj
    unfold Apart
    rw [length_elementWrite hd ha hf hi, length_elementWrite hd ha hg hj]
    simp only [elementWrite]
    omega

section Decode

lemma bounds_of_wellFormed (hd : WellFormed d) (hf : f ∈ d.fields) : bounds f d.payloadSize := by
  have hstop := hd.inside f hf
  unfold TypeFieldInfo.stop at hstop
  unfold bounds
  rw [decide_eq_true_eq]
  omega

lemma readElement_iff (hd : WellFormed d) (hlen : bytes.length = d.payloadSize) (hf : f ∈ d.fields)
    (hj : j < f.arrayCount) {text : String} :
    readScalar texts f.kind (bytes.drop (f.offset + j * f.elementSize)) = .ok text ↔
      ∃ v, Represents f.kind (element bytes f j) v ∧ text = render texts f.kind v := by
  have hstop := (element_le_stop hj).trans (hd.inside f hf)
  apply readScalar_iff (hd.width f hf)
  rw [List.length_drop]
  omega

variable (texts) in
lemma decodeField_of_holds (hd : WellFormed d) (hlen : bytes.length = d.payloadSize) (hf : f ∈ d.fields)
    (h : ∀ j < f.arrayCount, Represents f.kind (element bytes f j) (a f j)) :
    decodeField texts f bytes = .ok (rendered texts a f) := by
  have hvalues := mapM_of_ok (l := List.range f.arrayCount)
    (g := fun j => readScalar texts f.kind (bytes.drop (f.offset + j * f.elementSize)))
    (b := fun j => render texts f.kind (a f j)) fun j hj =>
      (readElement_iff hd hlen hf (List.mem_range.mp hj)).mpr ⟨_, h j (List.mem_range.mp hj), rfl⟩
  have hbounds := bounds_of_wellFormed hd hf
  unfold decodeField
  rw [hlen, if_neg (by simpa using hbounds), hvalues]
  unfold rendered
  by_cases hone : f.arrayCount = 1
  · simp [hone, bind, Except.bind, pure, Except.pure]
  · simp [hone, bind, Except.bind, pure, Except.pure]

lemma decodeField_inv (hd : WellFormed d) (hlen : bytes.length = d.payloadSize) (hf : f ∈ d.fields)
    {field : FieldValue} (h : decodeField texts f bytes = .ok field) :
    ∀ j < f.arrayCount, ∃ v, Represents f.kind (element bytes f j) v := by
  have hbounds := bounds_of_wellFormed hd hf
  rw [decodeField, hlen, if_neg (by simpa using hbounds)] at h
  obtain ⟨values, hvalues, _⟩ := bind_ok_inv h
  intro j hj
  obtain ⟨text, htext⟩ := mapM_each hvalues j (List.mem_range.mpr hj)
  obtain ⟨v, hv, _⟩ := (readElement_iff hd hlen hf hj).mp htext
  exact ⟨v, hv⟩

/-- A payload is accepted iff it holds values, and then as their canonical snapshot. -/
lemma decode_iff (hd : WellFormed d) (haccepted : texts.validateTypeDescriptor d) {p : DynamicPayload}
    {s : DataSnapshot} : decode texts d p = .ok s ↔ p.typeId = d.typeId ∧ p.bytes.length = d.payloadSize ∧
      ∃ a, Holds d p.bytes a ∧ s = canonical texts d p.sequence a := by
  constructor
  · intro h
    unfold decode at h
    split_ifs at h with hid hlen
    rw [ne_eq, not_not] at hid hlen
    obtain ⟨fields, hfields, h⟩ := bind_ok_inv h
    have hex : ∀ f j, ∃ v, f ∈ d.fields → j < f.arrayCount → Represents f.kind (element p.bytes f j) v := by
      intro f j
      by_cases hf : f ∈ d.fields ∧ j < f.arrayCount
      · obtain ⟨field, hfield⟩ := mapM_each hfields f hf.1
        obtain ⟨v, hv⟩ := decodeField_inv hd hlen hf.1 hfield j hf.2
        exact ⟨v, fun _ _ => hv⟩
      · exact ⟨.bool true, fun hmem hj => absurd ⟨hmem, hj⟩ hf⟩
    choose a ha using hex
    have hholds : Holds d p.bytes a := fun f hf j hj => ha f j hf hj
    have hrendered := mapM_of_ok fun f hf => decodeField_of_holds texts hd hlen hf (hholds f hf)
    obtain rfl := Except.ok.inj (hfields.symm.trans hrendered)
    exact ⟨hid, hlen, a, hholds, (Except.ok.inj h).symm⟩
  · rintro ⟨hid, hlen, a, hholds, rfl⟩
    have hrendered := mapM_of_ok fun f hf => decodeField_of_holds texts hd hlen hf (hholds f hf)
    unfold decode
    rw [if_neg (by simpa using haccepted), if_neg (by simpa using hid), if_neg (by simpa using hlen),
      hrendered]
    rfl

end Decode

section Encode

variable {field : FieldValue} {fields : List FieldValue} {used : List ℕ}

lemma encodeElements_of_denotes
    (h : ∀ j < f.arrayCount, Denotes texts f.kind (elementText f field j) (a f j)) :
    encodeElements texts f field bytes = .ok (splices bytes (fieldWrites a f)) := by
  have hloop := foldlM_of_ok (s := bytes) (l := List.range f.arrayCount)
    (g := fun j => writeScalar texts f.kind (elementText f field j))
    (w := fun bytes j new => splice bytes (f.offset + j * f.elementSize) new)
    (b := fun j => bytesOf f.kind (a f j)) fun j hj => writeScalar_iff.mpr ⟨_, h j (List.mem_range.mp hj), rfl⟩
  refine hloop.trans (congrArg Except.ok ?_)
  rw [splices, fieldWrites, List.foldl_map]
  rfl

lemma encodeElements_inv (h : encodeElements texts f field bytes = .ok out) :
    ∀ j < f.arrayCount, ∃ v, Denotes texts f.kind (elementText f field j) v := by
  intro j hj
  obtain ⟨new, hnew⟩ := foldlM_each
    (g := fun j => writeScalar texts f.kind (elementText f field j))
    (w := fun bytes j new => splice bytes (f.offset + j * f.elementSize) new) h j (List.mem_range.mpr hj)
  obtain ⟨v, hv, _⟩ := writeScalar_iff.mp hnew
  exact ⟨v, hv⟩

lemma matches_iff (f : TypeFieldInfo) (field : FieldValue) : Matches f field ↔
    ¬ (field.kind ≠ f.kind.valueKind ∨ field.typeName ≠ f.kind.name) ∧ ¬ wrongShape f field := by
  unfold wrongShape
  constructor
  · rintro ⟨hkind, hname, harray, hscalar⟩
    simp only [decide_eq_true_eq]
    tauto
  · rintro ⟨hkind, hshape⟩
    simp only [decide_eq_true_eq] at hshape
    constructor <;> tauto

lemma name_of_findIdx (h : d.fields[d.fields.findIdx fun g => field.name = g.name]? = some f) :
    field.name = f.name := by
  obtain ⟨hlt, hf⟩ := List.getElem?_eq_some_iff.mp h
  have hp := List.findIdx_getElem (w := hlt)
  rw [hf] at hp
  exact of_decide_eq_true hp

lemma findIdx_name (hd : WellFormed d) {i : ℕ} (hi : d.fields[i]? = some f) (hname : field.name = f.name) :
    d.fields.findIdx (fun g => field.name = g.name) = i := by
  obtain ⟨hlt, rfl⟩ := List.getElem?_eq_some_iff.mp hi
  refine (List.findIdx_eq hlt).mpr ⟨decide_eq_true hname, fun j hj => decide_eq_false fun hc => ?_⟩
  have hmap : ((d.fields.map TypeFieldInfo.name)[j]?) = (d.fields.map TypeFieldInfo.name)[i]? := by
    rw [List.getElem?_map, List.getElem?_map, List.getElem?_eq_getElem (by omega), hi, Option.map_some,
      Option.map_some, ← hc, hname]
  have hj' : j < (d.fields.map TypeFieldInfo.name).length := by
    rw [List.length_map]
    omega
  have hsame : j = i := (List.getElem?_inj hj' hd.names).mp hmap
  omega

/-- `fields` are given for the descriptor's fields `targets`, none of which is in `used`, and each is
related to its target. -/
structure Targets (R : FieldValue → TypeFieldInfo → Prop) (d : TypeDescriptor) (used : List ℕ)
    (fields : List FieldValue) (targets : List TypeFieldInfo) : Prop where
  listed : ∀ f ∈ targets, f ∈ d.fields
  nodup : targets.Nodup
  fresh : ∀ i ∈ used, ∀ f ∈ targets, d.fields[i]? ≠ some f
  matched : List.Forall₂ (fun field f => field.name = f.name ∧ Matches f field ∧ R field f) fields targets

variable {R : FieldValue → TypeFieldInfo → Prop} {targets : List TypeFieldInfo}

lemma Targets.cons (hd : WellFormed d) {i : ℕ} (hi : d.fields[i]? = some f) (hused : i ∉ used)
    (h : Targets R d (i :: used) fields targets)
    (hfield : field.name = f.name ∧ Matches f field ∧ R field f) :
    Targets R d used (field :: fields) (f :: targets) where
  listed := List.forall_mem_cons.mpr ⟨List.mem_of_getElem? hi, h.listed⟩
  nodup := List.nodup_cons.mpr ⟨fun hc => h.fresh i (by simp) f hc hi, h.nodup⟩
  fresh k hk g hg hc := by
    rcases List.mem_cons.mp hg with rfl | hg
    · obtain ⟨hlt, hkg⟩ := List.getElem?_eq_some_iff.mp hc
      obtain ⟨hlt', hig⟩ := List.getElem?_eq_some_iff.mp hi
      have hsame := hd.nodup.getElem_inj_iff.mp (hkg.trans hig.symm)
      exact hused (hsame ▸ hk)
    · exact h.fresh k (by simp [hk]) g hg hc
  matched := .cons hfield h.matched

lemma Targets.tail {i : ℕ} (hi : d.fields[i]? = some f)
    (h : Targets R d used (field :: fields) (f :: targets)) :
    i ∉ used ∧ Targets R d (i :: used) fields targets := by
  obtain ⟨hhere, hnodup⟩ := List.nodup_cons.mp h.nodup
  refine ⟨fun hc => h.fresh i hc f (by simp) hi, fun g hg => h.listed g (by simp [hg]), hnodup, ?_,
    (List.forall₂_cons.mp h.matched).2⟩
  intro k hk g hg hc
  rcases List.mem_cons.mp hk with rfl | hk
  · exact hhere (Option.some.inj (hi.symm.trans hc) ▸ hg)
  · exact h.fresh k hk g (by simp [hg]) hc

lemma encodeFields_inv (hd : WellFormed d) (h : encodeFields texts d fields used bytes = .ok out) :
    ∃ targets, Targets (fun field f => ∀ j < f.arrayCount,
      ∃ v, Denotes texts f.kind (elementText f field j) v) d used fields targets := by
  induction fields generalizing used bytes with
  | nil => exact ⟨[], nofun, .nil, nofun, .nil⟩
  | cons field fields ih =>
    unfold encodeFields at h
    simp only at h
    split at h
    · cases h
    · rename_i f hf
      split_ifs at h with hused hbounds hkind hshape
      obtain ⟨bytes', helements, h⟩ := bind_ok_inv h
      obtain ⟨targets, ht⟩ := ih h
      have hmatches := (matches_iff f field).mpr ⟨hkind, hshape⟩
      exact ⟨f :: targets, ht.cons hd hf hused ⟨name_of_findIdx hf, hmatches, encodeElements_inv helements⟩⟩

lemma encodeFields_of_denotes (hd : WellFormed d) (hlen : bytes.length = d.payloadSize) (ha : a.Valid d)
    (h : Targets (fun field f => ∀ j < f.arrayCount,
      Denotes texts f.kind (elementText f field j) (a f j)) d used fields targets) :
    encodeFields texts d fields used bytes = .ok (splices bytes (targets.flatMap (fieldWrites a))) := by
  induction fields generalizing used bytes targets with
  | nil =>
    obtain rfl := List.forall₂_nil_left_iff.mp h.matched
    rfl
  | cons field fields ih =>
    obtain ⟨f, targets, ⟨hname, hmatch, hdenotes⟩, _, rfl⟩ := List.forall₂_cons_left_iff.mp h.matched
    obtain ⟨hkind, hshape⟩ := (matches_iff f field).mp hmatch
    have hf : f ∈ d.fields := h.listed f (by simp)
    obtain ⟨i, hi⟩ := List.mem_iff_getElem?.mp hf
    obtain ⟨hused, hrest⟩ := h.tail hi
    have hlen' : (splices bytes (fieldWrites a f)).length = d.payloadSize := by
      rw [← hlen]
      apply length_splices
      intro w hw
      rw [hlen]
      exact writes_fit hd ha w (List.mem_flatMap.mpr ⟨f, hf, hw⟩)
    have hbounds : bounds f bytes.length := hlen ▸ bounds_of_wellFormed hd hf
    rw [encodeFields, findIdx_name hd hi hname, List.flatMap_cons, splices_append]
    simp only [hi]
    rw [if_neg hused, if_neg (by simpa using hbounds), if_neg hkind, if_neg hshape,
      encodeElements_of_denotes hdenotes]
    exact ih hlen' hrest

lemma Targets.perm (h : Targets R d used fields targets) (hlen : fields.length = d.fields.length) :
    targets.Perm d.fields := by
  have hsub := List.subperm_of_subset h.nodup h.listed
  apply hsub.perm_of_length_le
  rw [← h.matched.length_eq, hlen]

lemma Targets.names (h : Targets R d used fields targets) :
    fields.map FieldValue.name = targets.map TypeFieldInfo.name := by
  rw [← List.forall₂_eq_eq_eq, List.forall₂_map_left_iff, List.forall₂_map_right_iff]
  exact h.matched.imp fun _ _ hfield => hfield.1

lemma Targets.meets (hd : WellFormed d) (h : Targets R d used fields targets) (hfield : field ∈ fields)
    (hf : f ∈ d.fields) (hname : field.name = f.name) : Matches f field ∧ R field f := by
  have hlisted := h.listed
  have hmatched := h.matched
  clear h
  induction hmatched with
  | nil => cases hfield
  | @cons c g fields targets hhead _ ih =>
    rcases List.mem_cons.mp hfield with rfl | hfield
    · have hg := hlisted g (by simp)
      obtain rfl : g = f := List.inj_on_of_nodup_map hd.names hg hf (hhead.1.symm.trans hname)
      exact hhead.2
    · exact ih hfield fun g hg => hlisted g (by simp [hg])

/-- Where the payload starts from. -/
def start (d : TypeDescriptor) (seed : Option DynamicPayload) : DynamicPayload :=
  seed.getD { bytes := List.replicate d.payloadSize 0 }

/-- A payload of the descriptor's type, or none. -/
def Seeds (d : TypeDescriptor) (seed : Option DynamicPayload) : Prop :=
  ∀ p ∈ seed, p.typeId = d.typeId ∧ p.bytes.length = d.payloadSize

def encoded (d : TypeDescriptor) (seed : Option DynamicPayload) (a : Assignment) : DynamicPayload :=
  { start d seed with typeId := d.typeId, bytes := splices (start d seed).bytes (writes d a) }

variable {input : DataSnapshot} {seed : Option DynamicPayload} {payload : DynamicPayload}

lemma seeds_iff : Seeds d seed ↔
    ¬ (seed.any fun s => s.typeId ≠ d.typeId ∨ s.bytes.length ≠ d.payloadSize) := by
  cases seed <;> simp [Seeds]

lemma length_start (hseed : Seeds d seed) : (start d seed).bytes.length = d.payloadSize := by
  cases seed with
  | none => simp [start]
  | some p => exact (hseed p rfl).2

lemma Denoted.valid (h : Denoted texts d input a) : a.Valid d := by
  intro f hf j hj
  obtain ⟨field, hfield, hname⟩ := List.mem_map.mp (h.1.mem_iff.mpr (List.mem_map_of_mem hf))
  exact ((h.2 field hfield f hf hname).2 j hj).valid

lemma exists_denoted (hd : WellFormed d)
    (hnames : (input.fields.map FieldValue.name).Perm (d.fields.map TypeFieldInfo.name))
    (h : ∀ field ∈ input.fields, ∀ f ∈ d.fields, field.name = f.name →
      Matches f field ∧ ∀ j < f.arrayCount, ∃ v, Denotes texts f.kind (elementText f field j) v) :
    ∃ a, Denoted texts d input a := by
  have hinj := List.inj_on_of_nodup_map (hnames.nodup_iff.mpr hd.names)
  have hex : ∀ f j, ∃ v, ∀ field ∈ input.fields, f ∈ d.fields → j < f.arrayCount →
      field.name = f.name → Denotes texts f.kind (elementText f field j) v := by
    intro f j
    by_cases hf : ∃ field ∈ input.fields, f ∈ d.fields ∧ j < f.arrayCount ∧ field.name = f.name
    · obtain ⟨field, hfield, hmem, hj, hname⟩ := hf
      obtain ⟨v, hv⟩ := (h field hfield f hmem hname).2 j hj
      refine ⟨v, fun other hother _ _ hname' => ?_⟩
      obtain rfl := hinj hother hfield (hname'.trans hname.symm)
      exact hv
    · exact ⟨.bool true, fun field hfield hmem hj hname => absurd ⟨field, hfield, hmem, hj, hname⟩ hf⟩
  choose a ha using hex
  exact ⟨a, hnames, fun field hfield f hf hname =>
    ⟨(h field hfield f hf hname).1, fun j hj => ha f j field hfield hf hj hname⟩⟩

lemma targets_of_denoted (hd : WellFormed d) (h : Denoted texts d input a) : ∃ targets,
    Targets (fun field f => ∀ j < f.arrayCount,
      Denotes texts f.kind (elementText f field j) (a f j)) d [] input.fields targets := by
  have hself : List.Forall₂ (fun s f => s = f.name) (d.fields.map TypeFieldInfo.name) d.fields :=
    List.forall₂_map_left_iff.mpr (List.forall₂_same.mpr fun _ _ => rfl)
  obtain ⟨targets, hnames, hperm⟩ := List.perm_comp_forall₂ h.1 hself
  refine ⟨targets, fun f hf => hperm.mem_iff.mp hf, hperm.nodup_iff.mpr hd.nodup, nofun, ?_⟩
  rw [List.forall₂_map_left_iff] at hnames
  refine List.forall₂_iff_zip.mpr ⟨hnames.length_eq, fun {field f} hpair => ?_⟩
  obtain ⟨hfield, hf⟩ := List.of_mem_zip hpair
  have hname := List.forall₂_zip hnames hpair
  exact ⟨hname, h.2 field hfield f (hperm.mem_iff.mp hf) hname⟩

/-- A snapshot is accepted iff it denotes values, and then as the payload that holds them. -/
lemma encode_iff (hd : WellFormed d) (haccepted : texts.validateTypeDescriptor d) (hseed : Seeds d seed) :
    encode texts d input seed = .ok payload ↔ input.typeId = d.typeId ∧ input.typeName = d.typeName ∧
      ∃ a, Denoted texts d input a ∧ payload = encoded d seed a := by
  have hvalue : ∀ a, Denoted texts d input a → encodeFields texts d input.fields [] (start d seed).bytes =
      .ok (splices (start d seed).bytes (writes d a)) := by
    intro a ha
    obtain ⟨targets, ht⟩ := targets_of_denoted hd ha
    have hlen : input.fields.length = d.fields.length := by simpa using ha.1.length_eq
    have hperm := (ht.perm hlen).flatMap_right (fieldWrites a)
    rw [encodeFields_of_denotes hd (length_start hseed) ha.valid ht]
    congr 1
    symm
    apply splices_perm hperm.symm (writes_apart hd ha.valid)
    rw [length_start hseed]
    exact writes_fit hd ha.valid
  constructor
  · intro h
    unfold encode at h
    split_ifs at h with htype hlen hwrong
    rw [not_or, ne_eq, ne_eq, not_not, not_not] at htype
    rw [ne_eq, not_not] at hlen
    cases hfields : encodeFields texts d input.fields [] (start d seed).bytes with
    | error e =>
      unfold start at hfields
      simp only [hfields] at h
      cases h
    | ok bytes =>
      obtain ⟨targets, ht⟩ := encodeFields_inv hd hfields
      have hnames := ht.names ▸ (ht.perm hlen).map TypeFieldInfo.name
      obtain ⟨a, ha⟩ := exists_denoted hd hnames fun field hfield f hf => ht.meets hd hfield hf
      obtain rfl := Except.ok.inj (hfields.symm.trans (hvalue a ha))
      unfold start at hfields
      simp only [hfields] at h
      exact ⟨htype.1, htype.2, a, ha, (Except.ok.inj h).symm⟩
  · rintro ⟨hid, hname, a, ha, rfl⟩
    have hlen : input.fields.length = d.fields.length := by simpa using ha.1.length_eq
    have hfields := hvalue a ha
    unfold encode
    rw [if_neg (by simpa using haccepted), if_neg (by simp [hid, hname]), if_neg (by simpa using hlen),
      if_neg (seeds_iff.mp hseed)]
    unfold start at hfields
    simp only [hfields]
    rfl

end Encode

end KcfTools.ValueCodec
