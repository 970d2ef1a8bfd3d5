import KcfTools.Lib.Named
import KcfTools.Lib.Transitions
import KcfTools.Backend.MockBackend
import KcfTools.Backend.NameResolution

/-! The typed parameters of the simulated backend keep texts that it accepts, as long as no text is set by
name that it does not. -/

namespace KcfTools.MockBackend

open ValueCodec Transitions
open NameResolution (withText)

variable {b : Backend} {p : ParameterInfo} {id : EndpointIdentity} {name text : String}
  {value output : DataSnapshot}

/-- The text for the named parameter, through its identity. -/
def setTextByIdentity (b : Backend) (name text : String) : ℤ :=
  match parameterNamed b name with
  | none => -2
  | some p =>
    let read := getParameter b p.identity {}
    if read.1 ≠ 0 then read.1 else (setParameter b p.identity (withText read.2 text)).1

/-- What a write leaves. -/
def unvalued (p : ParameterInfo) : ParameterInfo := { p with value := "" }

def Shaped (b : Backend) : Prop := b.parameters.map unvalued = ({} : Backend).parameters.map unvalued

section Shape

lemma write_unvalued (q : ParameterInfo → Bool) (text : String) (parameters : List ParameterInfo) :
    (write q text parameters).map unvalued = parameters.map unvalued := by
  induction parameters with
  | nil => rfl
  | cons p parameters ih =>
    unfold write
    split_ifs
    · rfl
    · rw [List.map_cons, ih, List.map_cons]

lemma Shaped.write (h : Shaped b) (q : ParameterInfo → Bool) (text : String) : Shaped (writeText b q text) :=
  (write_unvalued q text b.parameters).trans h

lemma Shaped.member (h : Shaped b) (hp : p ∈ b.parameters) :
    unvalued p ∈ ({} : Backend).parameters.map unvalued := h ▸ List.mem_map_of_mem hp

lemma Shaped.identities (h : Shaped b) : (b.parameters.map ParameterInfo.identity).Nodup := by
  have hmap : b.parameters.map ParameterInfo.identity =
      (b.parameters.map unvalued).map ParameterInfo.identity := by
    rw [List.map_map]
    rfl
  rw [hmap, h]
  decide

lemma Shaped.writable (h : Shaped b) (hp : p ∈ b.parameters) : p.writable ↔ p.typeId ≠ 0 := by
  have hall : ∀ q ∈ ({} : Backend).parameters.map unvalued, q.writable ↔ q.typeId ≠ 0 := by decide
  exact hall (unvalued p) (h.member hp)

end Shape

/-- A text that the parameter's type takes. -/
def Accepted (p : ParameterInfo) (text : String) : Prop := checkText (parameterField p).typeName text = 0

/-- Every typed parameter stores a text that is valid for it. -/
def Typed (b : Backend) : Prop :=
  ∀ p ∈ b.parameters, p.typeId ≠ 0 → validateParameter b p.identity (parameterSnapshot p) = 0

/-- What has been read by identity can be set again. -/
def ReadsBack (b : Backend) : Prop :=
  ∀ id output, (getParameter b id output).1 = 0 → (setParameter b id (getParameter b id output).2).1 = 0

/-- The two ways of setting a text succeed together. -/
def Agrees (b : Backend) (name text : String) : Prop :=
  (setParameterByName b name text).1 = 0 ↔ setTextByIdentity b name text = 0

/-- The text is valid for the parameter of the name, if that can be written. -/
def Accepts (b : Backend) (name text : String) : Prop :=
  ∀ p, parameterNamed b name = some p → p.writable → Accepted p text

section Checks

lemma getParameter_typed (h : parameterOf b id = some p) (ht : p.typeId ≠ 0) :
    getParameter b id output = (0, parameterSnapshot p) := by
  unfold getParameter
  rw [h]
  exact if_neg ht

lemma getParameter_ok (h : (getParameter b id output).1 = 0) :
    ∃ p, parameterOf b id = some p ∧ p.typeId ≠ 0 ∧ getParameter b id output = (0, parameterSnapshot p) := by
  unfold getParameter at h ⊢
  cases hp : parameterOf b id with
  | none =>
    rw [hp] at h
    exact absurd h (show (-2 : ℤ) ≠ 0 by decide)
  | some p =>
    rw [hp] at h
    simp only at h ⊢
    split_ifs at h ⊢ with ht
    · exact absurd h enotsup.property
    · exact ⟨p, rfl, ht, rfl⟩

lemma parameterOf_member (h : Shaped b) (hp : p ∈ b.parameters) : parameterOf b p.identity = some p :=
  Named.find?_named h.identities hp

lemma validate_typed (hp : parameterOf b id = some p) (hw : p.writable) (ht : p.typeId ≠ 0)
    (value : DataSnapshot) :
    validateParameter b id value = checkValue value (parameterSnapshot p) := by
  unfold validateParameter
  rw [hp]
  simp only [hw, not_true_eq_false, if_false, if_neg ht, getParameter_typed hp ht, ne_eq]

lemma checkValue_text (p : ParameterInfo) (text : String) :
    checkValue (withText (parameterSnapshot p) text) (parameterSnapshot p) =
      checkText (parameterField p).typeName text := by
  simp [checkValue, withText, parameterSnapshot, checkField, parameterField]

lemma checkField_ok {f expected : FieldValue} (h : checkField f expected = 0) :
    checkText expected.typeName f.value = 0 := by
  unfold checkField at h
  split_ifs at h with hname htype harray
  · exact absurd h einval.property
  · exact absurd h eprototype.property
  · exact absurd h emsgsize.property
  · rw [not_or, not_not] at htype
    rw [← htype.1]
    exact h

lemma checkValue_ok (h : checkValue value (parameterSnapshot p) = 0) :
    Accepted p (value.fields.headD {}).value := by
  unfold checkValue at h
  split_ifs at h
  · exact absurd h eprototype.property
  · rcases hf : value.fields with - | ⟨f, - | ⟨f', fields⟩⟩
    · rw [hf] at h
      exact absurd h einval.property
    · rw [hf] at h
      exact checkField_ok h
    · rw [hf] at h
      exact absurd h einval.property

lemma validate_ok (h : validateParameter b id value = 0) :
    ∃ p, parameterOf b id = some p ∧ p.writable ∧ p.typeId ≠ 0 ∧
      checkValue value (parameterSnapshot p) = 0 := by
  cases hp : parameterOf b id with
  | none =>
    rw [validateParameter, hp] at h
    exact absurd h (show (-2 : ℤ) ≠ 0 by decide)
  | some p =>
    by_cases hw : p.writable
    · by_cases ht : p.typeId ≠ 0
      · rw [validate_typed hp hw ht] at h
        exact ⟨p, rfl, hw, ht, h⟩
      · rw [validateParameter, hp] at h
        simp only [hw, not_true_eq_false, if_false, not_not.mp ht, if_true] at h
        exact absurd h enotsup.property
    · rw [validateParameter, hp] at h
      simp only [hw, Bool.false_eq_true, not_false_eq_true, if_true] at h
      exact absurd h (show (-1 : ℤ) ≠ 0 by decide)

end Checks

section Writes

lemma typed_iff (h : Shaped b) : Typed b ↔ ∀ p ∈ b.parameters, p.typeId ≠ 0 → Accepted p p.value := by
  have hcheck : ∀ p ∈ b.parameters, p.typeId ≠ 0 →
      validateParameter b p.identity (parameterSnapshot p) = checkText (parameterField p).typeName p.value := by
    intro p hp ht
    rw [validate_typed (parameterOf_member h hp) ((h.writable hp).mpr ht) ht]
    exact checkValue_text p p.value
  constructor
  · intro htyped p hp ht
    rw [Accepted, ← hcheck p hp ht]
    exact htyped p hp ht
  · intro hall p hp ht
    rw [hcheck p hp ht]
    exact hall p hp ht

/-- Only the first such parameter changes. -/
lemma write_accepted {q : ParameterInfo → Bool} {parameters : List ParameterInfo}
    (hall : ∀ p ∈ parameters, p.typeId ≠ 0 → Accepted p p.value)
    (hq : ∀ p, parameters.find? q = some p → p.typeId ≠ 0 → Accepted p text) :
    ∀ p ∈ write q text parameters, p.typeId ≠ 0 → Accepted p p.value := by
  induction parameters with
  | nil => exact hall
  | cons r parameters ih =>
    have hrest : ∀ p ∈ parameters, p.typeId ≠ 0 → Accepted p p.value := fun p hp =>
      hall p (List.mem_cons_of_mem _ hp)
    intro p hp ht
    cases hr : q r with
    | true =>
      rw [write, if_pos hr] at hp
      rcases List.mem_cons.mp hp with rfl | hp
      · exact hq r (List.find?_cons_of_pos hr) ht
      · exact hrest p hp ht
    | false =>
      rw [write, if_neg (by simp [hr])] at hp
      rcases List.mem_cons.mp hp with rfl | hp
      · exact hall p List.mem_cons_self ht
      · refine ih hrest (fun p hp => hq p ?_) p hp ht
        rwa [List.find?_cons_of_neg (by simp [hr])]

lemma setParameter_cases (b : Backend) (id : EndpointIdentity) (value : DataSnapshot) :
    ((setParameter b id value).1 ≠ 0 ∧ (setParameter b id value).2 = b) ∨
    ∃ p, parameterOf b id = some p ∧ checkValue value (parameterSnapshot p) = 0 ∧
      setParameter b id value = (0, writeText b (fun p => p.identity = id) (value.fields.headD {}).value) := by
  unfold setParameter
  by_cases hr : validateParameter b id value ≠ 0
  · simp only [if_pos hr]
    exact .inl ⟨hr, trivial⟩
  · obtain ⟨p, hp, -, -, hcheck⟩ := validate_ok (not_not.mp hr)
    simp only [if_neg hr, hp]
    exact .inr ⟨p, rfl, hcheck, trivial⟩

lemma setParameter_code : (setParameter b id value).1 = 0 ↔ validateParameter b id value = 0 := by
  unfold setParameter
  by_cases hr : validateParameter b id value ≠ 0
  · simp only [if_pos hr]
  · obtain ⟨p, hp, -, -, -⟩ := validate_ok (not_not.mp hr)
    simp [hp, not_not.mp hr]

lemma setParameterByName_cases (b : Backend) (name text : String) :
    ((setParameterByName b name text).1 ≠ 0 ∧ (setParameterByName b name text).2 = b ∧
      ∀ p, parameterNamed b name = some p → ¬ p.writable) ∨
    ∃ p, parameterNamed b name = some p ∧ p.writable ∧
      setParameterByName b name text = (0, writeText b (fun q => q.name = name) text) := by
  unfold setParameterByName
  cases hp : parameterNamed b name with
  | none => exact .inl ⟨show (-2 : ℤ) ≠ 0 by decide, rfl, fun p hp => nomatch hp⟩
  | some p =>
    by_cases hw : p.writable
    · exact .inr ⟨p, rfl, hw, if_neg (not_not.mpr hw)⟩
    · simp only [if_pos hw]
      exact .inl ⟨by decide, trivial, fun q hq => by rwa [← Option.some.inj hq]⟩

lemma accepts_typed (h : Shaped b) (ha : Accepts b name text) (hp : parameterNamed b name = some p)
    (ht : p.typeId ≠ 0) : Accepted p text :=
  ha p hp ((h.writable (List.mem_of_find?_eq_some hp)).mpr ht)

/-- The condition does not depend on the texts that are stored. -/
lemma accepts_iff (h : Shaped b) : Accepts b name text ↔ Accepts {} name text := by
  have hsame : ∀ c : Backend, (parameterNamed c name).map unvalued =
      (c.parameters.map unvalued).find? fun p => p.name = name := fun c => by
    rw [List.find?_map]
    rfl
  have haccepts : ∀ c : Backend, Accepts c name text ↔
      ∀ p, (parameterNamed c name).map unvalued = some p → p.writable → Accepted p text := fun c => by
    constructor
    · intro ha p hp hw
      obtain ⟨q, hq, rfl⟩ := Option.map_eq_some_iff.mp hp
      exact ha q hq hw
    · intro ha p hp hw
      exact ha (unvalued p) (Option.map_eq_some_iff.mpr ⟨p, hp, rfl⟩) hw
  rw [haccepts, haccepts, hsame, hsame, h]

lemma setTextByIdentity_typed (h : Shaped b) (hp : parameterNamed b name = some p) (ht : p.typeId ≠ 0) :
    setTextByIdentity b name text = 0 ↔ Accepted p text := by
  have hmem : p ∈ b.parameters := List.mem_of_find?_eq_some hp
  have hid := parameterOf_member h hmem
  have hset : setTextByIdentity b name text =
      (setParameter b p.identity (withText (parameterSnapshot p) text)).1 := by
    unfold setTextByIdentity
    rw [hp]
    simp only [getParameter_typed hid ht, ne_eq, not_true_eq_false, if_false]
  rw [hset, setParameter_code, validate_typed hid ((h.writable hmem).mpr ht) ht, checkValue_text]
  rfl

lemma setTextByIdentity_fails (h : Shaped b) (hn : ∀ p, parameterNamed b name = some p → ¬ p.writable) :
    setTextByIdentity b name text ≠ 0 := by
  unfold setTextByIdentity
  cases hp : parameterNamed b name with
  | none => exact show (-2 : ℤ) ≠ 0 by decide
  | some p =>
    have hmem : p ∈ b.parameters := List.mem_of_find?_eq_some hp
    have huntyped : p.typeId = 0 := not_not.mp (mt (h.writable hmem).mpr (hn p hp))
    have hread : getParameter b p.identity {} = (enotsup.val, {}) := by
      unfold getParameter
      rw [parameterOf_member h hmem]
      exact if_pos huntyped
    simp only [hread, if_pos enotsup.property]
    exact enotsup.property

lemma agrees_iff (h : Shaped b) : Agrees b name text ↔ Accepts b name text := by
  unfold Agrees
  rcases setParameterByName_cases b name text with ⟨hcode, -, hn⟩ | ⟨p, hp, hw, he⟩
  · refine iff_of_true (iff_of_false hcode (setTextByIdentity_fails h hn)) fun p hp hw => ?_
    exact absurd hw (hn p hp)
  · have hset : (setParameterByName b name text).1 = 0 := by rw [he]
    have ht : p.typeId ≠ 0 := (h.writable (List.mem_of_find?_eq_some hp)).mp hw
    rw [iff_true_left hset, setTextByIdentity_typed h hp ht]
    constructor
    · intro ha q hq _
      rw [← Option.some.inj (hp.symm.trans hq)]
      exact ha
    · intro ha
      exact ha p hp hw

end Writes

section Runs

variable {operations before : List Operation}

/-- No operation of the list sets a text by name that the parameter's type does not take. -/
def Checked (operations : List Operation) : Prop :=
  ∀ name text, .setParameterByName name text ∈ operations → Accepts {} name text

lemma shaped_call (h : Shaped b) (o : Operation) : Shaped (call b o).2 := by
  cases o with
  | setParameter id value =>
    change Shaped (setParameter b id value).2
    rcases setParameter_cases b id value with ⟨-, he⟩ | ⟨p, -, -, he⟩
    · rwa [he]
    · rw [he]
      exact h.write _ _
  | setParameterByName name text =>
    change Shaped (setParameterByName b name text).2
    rcases setParameterByName_cases b name text with ⟨-, he, -⟩ | ⟨p, -, -, he⟩
    · rwa [he]
    · rw [he]
      exact h.write _ _
  | _ => exact h

lemma typed_call (h : Shaped b) (ht : Typed b) (o : Operation)
    (hc : ∀ name text, o = .setParameterByName name text → Accepts b name text) : Typed (call b o).2 := by
  have hshaped := shaped_call h o
  rw [typed_iff h] at ht
  rw [typed_iff hshaped]
  cases o with
  | setParameter id value =>
    change ∀ p ∈ (setParameter b id value).2.parameters, _
    rcases setParameter_cases b id value with ⟨-, he⟩ | ⟨p, hp, hcheck, he⟩
    · rwa [he]
    · rw [he]
      refine write_accepted ht fun q hq _ => ?_
      rw [← Option.some.inj (hp.symm.trans hq)]
      exact checkValue_ok hcheck
  | setParameterByName name text =>
    change ∀ p ∈ (setParameterByName b name text).2.parameters, _
    rcases setParameterByName_cases b name text with ⟨-, he, -⟩ | ⟨p, hp, -, he⟩
    · rwa [he]
    · rw [he]
      exact write_accepted ht fun q hq hne => accepts_typed h (hc name text rfl) hq hne
  | _ => exact ht

lemma shaped_run (operations : List Operation) : Shaped (run operations) :=
  foldl_invariant (I := Shaped) (fun _ o hb => shaped_call hb o) operations {} rfl

lemma run_concat (o : Operation) : run (operations ++ [o]) = (call (run operations) o).2 :=
  List.foldl_concat ..

lemma initial_accepted : ∀ p ∈ ({} : Backend).parameters, p.typeId ≠ 0 → Accepted p p.value := by
  unfold Accepted
  decide +kernel

lemma typed_run (h : Checked operations) : Typed (run operations) := by
  induction operations using List.reverseRecOn with
  | nil => exact (typed_iff rfl).mpr initial_accepted
  | append_singleton operations o ih =>
    have hbefore : Checked operations := fun name text hm => h name text (List.mem_append_left _ hm)
    rw [run_concat]
    refine typed_call (shaped_run operations) (ih hbefore) o fun name text ho => ?_
    rw [accepts_iff (shaped_run operations)]
    exact h name text (List.mem_append_right _ (ho ▸ List.mem_singleton_self _))

lemma Typed.readsBack (h : Typed b) : ReadsBack b := by
  intro id output hread
  obtain ⟨p, hp, ht, he⟩ := getParameter_ok hread
  have hid : p.identity = id := by simpa using List.find?_some hp
  rw [he, setParameter_code, ← hid]
  exact h p (List.mem_of_find?_eq_some hp) ht

/-- The parameters stay well typed, can be set to what was read, and both ways of setting a text agree,
exactly when every text that is set by name is valid. -/
theorem typed_values (operations : List Operation) :
    ((∀ before, before <+: operations → Typed (run before) ∧ ReadsBack (run before)) ∧
      ∀ before name text, before ++ [.setParameterByName name text] <+: operations →
        Agrees (run before) name text) ↔
    Checked operations := by
  constructor
  · rintro ⟨-, hagrees⟩ name text hm
    obtain ⟨before, later, rfl⟩ := List.append_of_mem hm
    have hbefore : before ++ [.setParameterByName name text] <+:
        before ++ .setParameterByName name text :: later :=
      ⟨later, by simp⟩
    rw [← accepts_iff (shaped_run before), ← agrees_iff (shaped_run before)]
    exact hagrees before name text hbefore
  · intro hchecked
    refine ⟨fun before hbefore => ?_, fun before name text hbefore => ?_⟩
    · have htyped : Typed (run before) := typed_run fun name text hm => hchecked name text (hbefore.subset hm)
      exact ⟨htyped, htyped.readsBack⟩
    · rw [agrees_iff (shaped_run before), accepts_iff (shaped_run before)]
      exact hchecked name text (hbefore.subset (by simp))

def periodSet : List Operation := [.setParameterByName "/mecanum/motor/odom_period_ms" "abc"]

/-- A text that is no number, set by name: it is stored, what is then read by identity cannot be set, and
setting the text by identity fails. -/
theorem period_unchecked :
    ¬ Typed (run periodSet) ∧ ¬ ReadsBack (run periodSet) ∧
      ¬ Agrees {} "/mecanum/motor/odom_period_ms" "abc" := by
  refine ⟨fun h => ?_, fun h => ?_, fun h => ?_⟩
  · have hstored := (typed_iff (shaped_run periodSet)).mp h
      (mockParameter 1 "/mecanum/motor/odom_period_ms" "uint32" "abc" true) (by decide +kernel) (by decide)
    exact absurd hstored (show checkUint32 "abc" ≠ 0 by decide +kernel)
  · have hset := h ⟨⟨12001, 1⟩, 101⟩ {} (by decide +kernel)
    exact absurd hset (by decide +kernel)
  · exact absurd (h.mp rfl) (by decide +kernel)

end Runs

end KcfTools.MockBackend
