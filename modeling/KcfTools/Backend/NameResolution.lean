import KcfTools.Lib.Named
import KcfTools.Lib.Preference
import KcfTools.Backend.Registration

/-! Names that stand for records of the cache. -/

namespace KcfTools.NameResolution

open Preference KcfBackend ValueCodec Traced

variable {T : Type} [Endpoint T]

def prefers (preferred : String) (r : Record T) : Bool := Endpoint.role r.model = preferred

def named (records : List (Record T)) (name : String) : List (Record T) :=
  records.filter fun r => Endpoint.name r.model = name

/-- The records of the name in the preferred role. -/
def preferredOf (records : List (Record T)) (name preferred : String) : List (Record T) :=
  (named records name).filter (prefers preferred)

/-- The other records of the name. -/
def othersOf (records : List (Record T)) (name preferred : String) : List (Record T) :=
  (named records name).filter fun r => !prefers preferred r

section Pass

variable {name preferred : String} {records records' : List (Record T)} {id : EndpointIdentity} {r : Record T}

def Selection.candidate (s : Selection T) : Candidate (Record T) := ⟨s.selected, s.best, s.found⟩

lemma candidate_add (s : Selection T) (h : Endpoint.name r.model = name) :
    (s.add name preferred r).candidate = s.candidate.add (prefers preferred) r := by
  unfold Selection.add Candidate.add
  rw [if_pos h]
  by_cases hreplace : s.selected.isNone ∨ prefers preferred r ∧ ¬ s.best
  · exact (congrArg Selection.candidate (if_pos hreplace)).trans (if_pos hreplace).symm
  · refine (congrArg Selection.candidate (if_neg hreplace)).trans (.trans ?_ (if_neg hreplace).symm)
    by_cases hcount : prefers preferred r = s.best
    · exact (congrArg Selection.candidate (if_pos hcount)).trans (if_pos hcount).symm
    · exact (congrArg Selection.candidate (if_neg hcount)).trans (if_neg hcount).symm

/-- Only the records of the name count. -/
lemma candidate_foldl (records : List (Record T)) (s : Selection T) :
    (records.foldl (Selection.add name preferred) s).candidate =
      (named records name).foldl (Candidate.add (prefers preferred)) s.candidate := by
  induction records generalizing s with
  | nil => rfl
  | cons r records ih =>
    rw [List.foldl_cons, ih]
    by_cases h : Endpoint.name r.model = name
    · have hnamed : named (r :: records) name = r :: named records name :=
        List.filter_cons_of_pos (by simpa using h)
      rw [hnamed, List.foldl_cons, candidate_add s h]
    · have hnamed : named (r :: records) name = named records name :=
        List.filter_cons_of_neg (by simpa using h)
      rw [hnamed, Selection.add, if_neg h]

lemma select_eq : select records name preferred id =
    match (scanned (prefers preferred) (named records name)).selected with
    | none => (-2, id)
    | some r => if (scanned (prefers preferred) (named records name)).found ≠ 1 then
        (enotuniq.val, id) else (0, Endpoint.identity r.model) := by
  have hpass : (records.foldl (Selection.add name preferred) {}).candidate =
      scanned (prefers preferred) (named records name) := (candidate_foldl records {}).trans (foldl_add _)
  rw [← hpass]
  rfl

lemma select_missing (hp : preferredOf records name preferred = [])
    (ho : othersOf records name preferred = []) :
    select records name preferred id = (-2, id) := by
  have hnone := scanned_empty.mpr ⟨hp, ho⟩
  rw [select_eq, hnone]

lemma select_sole (h : sole? (preferredOf records name preferred) (othersOf records name preferred) = some r) :
    select records name preferred id = (0, Endpoint.identity r.model) := by
  obtain ⟨hselected, hfound⟩ := (scanned_one r).mpr h
  rw [select_eq, hselected]
  exact if_neg (not_not.mpr hfound)

lemma select_ambiguous (h : sole? (preferredOf records name preferred) (othersOf records name preferred) = none)
    (hne : ¬ (preferredOf records name preferred = [] ∧ othersOf records name preferred = [])) :
    select records name preferred id = (enotuniq.val, id) := by
  obtain ⟨r, hselected⟩ := Option.ne_none_iff_exists'.mp (mt scanned_empty.mp hne)
  have hfound : (scanned (prefers preferred) (named records name)).found ≠ 1 := fun hone => by
    have hsole := (scanned_one r).mp ⟨hselected, hone⟩
    exact Option.some_ne_none r (hsole.symm.trans h)
  rw [select_eq, hselected]
  exact if_pos hfound

/-- The three results, and the elements that they stand for. -/
lemma select_cases (records : List (Record T)) (name preferred : String) (id : EndpointIdentity) :
    (preferredOf records name preferred = [] ∧ othersOf records name preferred = [] ∧
      select records name preferred id = (-2, id)) ∨
    (∃ r, sole? (preferredOf records name preferred) (othersOf records name preferred) = some r ∧
      select records name preferred id = (0, Endpoint.identity r.model)) ∨
    (sole? (preferredOf records name preferred) (othersOf records name preferred) = none ∧
      ¬ (preferredOf records name preferred = [] ∧ othersOf records name preferred = []) ∧
      select records name preferred id = (enotuniq.val, id)) := by
  by_cases hne : preferredOf records name preferred = [] ∧ othersOf records name preferred = []
  · exact .inl ⟨hne.1, hne.2, select_missing hne.1 hne.2⟩
  cases h : sole? (preferredOf records name preferred) (othersOf records name preferred) with
  | some r => exact .inr (.inl ⟨r, rfl, select_sole h⟩)
  | none => exact .inr (.inr ⟨rfl, hne, select_ambiguous h hne⟩)

lemma select_perm (h : records'.Perm records) :
    select records' name preferred id = select records name preferred id := by
  have hnamed : (named records' name).Perm (named records name) := h.filter _
  have hpreferred : (preferredOf records' name preferred).Perm (preferredOf records name preferred) :=
    hnamed.filter _
  have hothers : (othersOf records' name preferred).Perm (othersOf records name preferred) := hnamed.filter _
  have hsole := sole?_perm hpreferred hothers
  rcases select_cases records name preferred id with ⟨hp, ho, he⟩ | ⟨r, hr, he⟩ | ⟨hn, hne, he⟩
  · rw [he]
    rw [hp] at hpreferred
    rw [ho] at hothers
    exact select_missing (List.perm_nil.mp hpreferred) (List.perm_nil.mp hothers)
  · rw [he]
    exact select_sole (hsole.trans hr)
  · rw [he]
    refine select_ambiguous (hsole.trans hn) fun ⟨hp, ho⟩ => hne ⟨?_, ?_⟩
    · rw [hp] at hpreferred
      exact List.nil_perm.mp hpreferred
    · rw [ho] at hothers
      exact List.nil_perm.mp hothers

lemma sole_named (h : sole? (preferredOf records name preferred) (othersOf records name preferred) = some r) :
    r ∈ records ∧ Endpoint.name r.model = name := by
  have hmem : r ∈ named records name := by
    rcases sole?_eq_some.mp h with hp | ⟨-, ho⟩
    · exact List.mem_of_mem_filter (hp ▸ List.mem_singleton_self r : r ∈ preferredOf records name preferred)
    · exact List.mem_of_mem_filter (ho ▸ List.mem_singleton_self r : r ∈ othersOf records name preferred)
  simpa [named] using hmem

lemma find_member (hn : (records.map fun r => Endpoint.identity r.model).Nodup) (hr : r ∈ records) :
    find Endpoint.identity records (Endpoint.identity r.model) = some r := Named.find?_named hn hr

lemma select_named (hn : (records.map fun r => Endpoint.identity r.model).Nodup)
    (hcode : (select records name preferred id).1 = 0) :
    ∃ r, find Endpoint.identity records (select records name preferred id).2 = some r ∧
      Endpoint.name r.model = name := by
  rcases select_cases records name preferred id with ⟨-, -, he⟩ | ⟨r, hr, he⟩ | ⟨-, -, he⟩
  · rw [he] at hcode
    exact absurd hcode (show (-2 : ℤ) ≠ 0 by decide)
  · obtain ⟨hmem, hname⟩ := sole_named hr
    rw [he]
    exact ⟨r, find_member hn hmem, hname⟩
  · rw [he] at hcode
    exact absurd hcode enotuniq.property

end Pass

/-- A name stands for its only preferred record or, without one, for its only record; the result does not
depend on the order, and its record has the name. -/
theorem select_exact (records : List (Record T)) (name preferred : String) (id : EndpointIdentity) :
    ((select records name preferred id).1 = -2 ↔
      preferredOf records name preferred = [] ∧ othersOf records name preferred = []) ∧
    (∀ r, preferredOf records name preferred = [r] →
      select records name preferred id = (0, Endpoint.identity r.model)) ∧
    (∀ r, preferredOf records name preferred = [] → othersOf records name preferred = [r] →
      select records name preferred id = (0, Endpoint.identity r.model)) ∧
    (¬ (preferredOf records name preferred = [] ∧ othersOf records name preferred = []) →
      (∀ r, preferredOf records name preferred ≠ [r]) →
      (∀ r, ¬ (preferredOf records name preferred = [] ∧ othersOf records name preferred = [r])) →
        (select records name preferred id).1 = enotuniq.val) ∧
    ((select records name preferred id).1 ≠ 0 → (select records name preferred id).2 = id) ∧
    (∀ records' : List (Record T), records'.Perm records →
      select records' name preferred id = select records name preferred id) ∧
    ((records.map fun r => Endpoint.identity r.model).Nodup → (select records name preferred id).1 = 0 →
      ∃ r, find Endpoint.identity records (select records name preferred id).2 = some r ∧
        Endpoint.name r.model = name) := by
  refine ⟨?_, fun r hp => ?_, fun r hp ho => ?_, fun hne hp ho => ?_, fun hcode => ?_, fun _ h => select_perm h,
    fun hn hcode => ?_⟩
  · constructor
    · intro hcode
      rcases select_cases records name preferred id with ⟨hp, ho, -⟩ | ⟨r, -, he⟩ | ⟨-, -, he⟩
      · exact ⟨hp, ho⟩
      · rw [he] at hcode
        exact absurd hcode (show (0 : ℤ) ≠ -2 by decide)
      · rw [he] at hcode
        exact absurd hcode (show enotuniq.val ≠ -2 by decide)
    · rintro ⟨hp, ho⟩
      rw [select_missing hp ho]
  · exact select_sole (sole?_eq_some.mpr (.inl hp))
  · exact select_sole (sole?_eq_some.mpr (.inr ⟨hp, ho⟩))
  · have hnone : sole? (preferredOf records name preferred) (othersOf records name preferred) = none := by
      refine Option.eq_none_iff_forall_ne_some.mpr fun r hr => ?_
      rcases sole?_eq_some.mp hr with h | h
      · exact hp r h
      · exact ho r h
    rw [select_ambiguous hnone hne]
  · rcases select_cases records name preferred id with ⟨-, -, he⟩ | ⟨r, -, he⟩ | ⟨-, -, he⟩
    · rw [he]
    · rw [he] at hcode
      exact absurd rfl hcode
    · rw [he]
  · exact select_named hn hcode

section Overloads

def withText (value : DataSnapshot) (text : String) : DataSnapshot :=
  { value with fields := value.fields.modifyHead fun f => { f with value := text } }

variable (texts : Texts) {parameters : List (Record ParameterInfo)} {name text : String} {id : EndpointIdentity}
  {record : Record ParameterInfo} {P : Action → Prop}

/-- `SetParameter` by name; the record of the selected identity is always found. -/
def setText (parameters : List (Record ParameterInfo)) (name text : String) : Op Unit :=
  let s := select parameters name "OWNER" {}
  if h : s.1 ≠ 0 then fail (.code ⟨s.1, h⟩)
  else match find ParameterInfo.identity parameters s.2 with
    | none => fail .exception
    | some record =>
      if record.model.typeId = 0 then fail (.code enotsup)
      else if ¬ record.model.writable then fail eperm
      else if ¬ record.model.textEditable then fail (.code enotsup)
      else do
        let value ← getValue texts parameters s.2
        setValue texts parameters s.2 (withText value text)

lemma emits_validateParameter (h : ∀ result, P (.listEndpoints record.runtime result)) :
    Emits P (validateParameter record) := by
  unfold validateParameter
  split_ifs
  · exact Emits.fail _
  · exact emits_validateEndpoint h

lemma emits_getValue (hr : find ParameterInfo.identity parameters id = some record)
    (hl : ∀ result, P (.listEndpoints record.runtime result))
    (ht : P (.getType record.runtime record.model.typeId))
    (ho : P (.openParameter record.model.name)) (hg : P .getParameter) :
    Emits P (getValue texts parameters id) := by
  unfold getValue
  rw [hr]
  refine (emits_validateParameter hl).bind fun _ => (emits_type texts _ _ _ ht).bind fun d => ?_
  refine (emits_ask _ ho).bind fun _ => (emits_validateParameter hl).bind fun _ => ?_
  exact (emits_ask _ hg).bind fun _ => emits_lift _

/-- What is set has been encoded over what was read. -/
lemma emits_setValue {value : DataSnapshot} (hr : find ParameterInfo.identity parameters id = some record)
    (hl : ∀ result, P (.listEndpoints record.runtime result))
    (ht : P (.getType record.runtime record.model.typeId))
    (ho : P (.openParameter record.model.name)) (hg : P .getParameter)
    (hs : ∀ d seed bytes, encode texts d value (some seed) = .ok bytes → P (.setParameter bytes)) :
    Emits P (setValue texts parameters id value) := by
  unfold setValue
  rw [hr]
  by_cases ht' : record.model.typeId = 0
  · simp only [if_pos ht']
    exact Emits.fail _
  by_cases hw : ¬ record.model.writable
  · simp only [if_neg ht', if_pos hw]
    exact Emits.fail _
  simp only [if_neg ht', if_neg hw]
  refine (emits_type texts _ _ _ ht).bind fun d => (emits_lift _).bind fun _ => ?_
  refine (emits_validateParameter hl).bind fun _ => (emits_ask _ ho).bind fun _ => ?_
  refine (emits_ask _ hg).bind fun seed => ?_
  cases he : encode texts d value (some seed) with
  | error c => exact Emits.fail (Fault.code c)
  | ok bytes =>
    change Emits P (validateParameter record >>= fun _ => _)
    exact (emits_validateParameter hl).bind fun _ => emits_ask _ (hs d seed bytes he)

/-- What the name overload may do: it opens only the parameter of the name, and it sets only payloads that
encode the text. -/
def Addressed (texts : Texts) (name text : String) : Action → Prop
  | .openParameter n => n = name
  | .setParameter bytes => ∃ d value seed, encode texts d (withText value text) (some seed) = .ok bytes
  | _ => True

theorem setText_addressed (parameters : List (Record ParameterInfo)) (name text : String)
    (hn : (parameters.map fun r => r.model.identity).Nodup) :
    Emits (Addressed texts name text) (setText texts parameters name text) := by
  unfold setText
  simp only
  split_ifs with hcode
  · exact Emits.fail _
  rw [not_not] at hcode
  obtain ⟨record, hrecord, hname⟩ := select_named hn hcode
  have hfind : find ParameterInfo.identity parameters (select parameters name "OWNER" {}).2 = some record :=
    hrecord
  simp only [hfind]
  split_ifs
  · exact Emits.fail _
  · refine (emits_getValue texts hfind (fun _ => trivial) trivial hname trivial).bind fun value => ?_
    exact emits_setValue texts hfind (fun _ => trivial) trivial hname trivial fun d seed bytes he =>
      ⟨d, value, seed, he⟩
  · exact Emits.fail _
  · exact Emits.fail _

end Overloads

end KcfTools.NameResolution
