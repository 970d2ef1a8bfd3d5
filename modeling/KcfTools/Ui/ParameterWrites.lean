import KcfTools.Lib.Transitions
import KcfTools.Ui.MainWindow

/-! A write goes to the endpoint whose value was read into the form. -/

namespace KcfTools.MainWindow

variable (backend : ToolBackend) {w w' : Window} {e : Event} {n : Effect} {id : EndpointIdentity}
  {value : DataSnapshot} {new new' : List Effect} {result : ℤ}

section Effects

/-- A call of the backend's SetParameter. -/
def IsSet (n : Effect) : Prop := ∃ id value result, n = .set id value result

/-- What may happen between the read and the Apply: reverts, rejected inputs and service calls. -/
def Keeps (value : DataSnapshot) : Effect → Prop
  | .render other => other = value
  | .validate _ _ result => invalidInput result
  | .template _ _ _ => True
  | .validateService _ _ _ => True
  | .call _ _ => True
  | _ => False

/-- The value was read from the endpoint, and nothing has put it in doubt. -/
def ReadFrom (log : List Effect) (id : EndpointIdentity) (value : DataSnapshot) : Prop :=
  ∃ since earlier, log = since ++ .render value :: .get id 0 value :: earlier ∧ ∀ n ∈ since, Keeps value n

lemma ReadFrom.append {log : List Effect} (h : ReadFrom log id value) (hn : ∀ n ∈ new, Keeps value n) :
    ReadFrom (new ++ log) id value := by
  obtain ⟨since, earlier, rfl, hs⟩ := h
  refine ⟨new ++ since, earlier, (List.append_assoc ..).symm, fun n hm => ?_⟩
  rcases List.mem_append.mp hm with hm | hm
  · exact hn n hm
  · exact hs n hm

end Effects

section Handlers

/-- The list shows the parameters. -/
structure Placed (w : Window) : Prop where
  count : w.parameterList.items.length = w.parameters.length
  current : ∀ i, w.parameterList.current = some i → i < w.parameters.length

structure Sound (w : Window) : Prop extends Placed w where
  row : w.panel.row = w.parameterList.current
  read : w.panel.invalid = false → ∃ p, parameter w = some p ∧ ReadFrom w.log p.identity w.panel.value

/-- What a handler adds to the history, where the list and its parameters stay. -/
structure Extends (w w' : Window) (new : List Effect) : Prop where
  log : w'.log = new ++ w.log
  list : w'.parameterList = w.parameterList
  parameters : w'.parameters = w.parameters

lemma Extends.refl (w : Window) : Extends w w [] := ⟨rfl, rfl, rfl⟩

lemma Extends.trans {w₁ w₂ w₃ : Window} (h : Extends w₁ w₂ new) (h' : Extends w₂ w₃ new') :
    Extends w₁ w₃ (new' ++ new) :=
  ⟨by rw [h'.log, h.log, List.append_assoc], h'.list.trans h.list, h'.parameters.trans h.parameters⟩

lemma note_extends (w : Window) (n : Effect) : Extends w (w.note n) [n] := ⟨rfl, rfl, rfl⟩

lemma setPanel_extends (w : Window) (p : ParameterPanel) : Extends w (w.setPanel p) [] := ⟨rfl, rfl, rfl⟩

lemma parameterError_extends (w : Window) (action : String) (result : ℤ) :
    Extends w (parameterError w action result) [.error action result] := ⟨rfl, rfl, rfl⟩

lemma renderParameter_extends (w : Window) (value : DataSnapshot) :
    Extends w (renderParameter w value) [.render value] := ⟨rfl, rfl, rfl⟩

lemma showValue_extends (w : Window) (value : DataSnapshot) :
    Extends w (showValue w value) [.render value] :=
  (setPanel_extends w _).trans (renderParameter_extends _ value)

lemma Extends.placed (h : Extends w w' new) (hp : Placed w) : Placed w' :=
  ⟨by rw [h.list, h.parameters, hp.count], by rw [h.list, h.parameters]; exact hp.current⟩

lemma parameter_congr (hrow : w'.panel.row = w.panel.row) (hparameters : w'.parameters = w.parameters) :
    parameter w' = parameter w := by
  unfold parameter
  rw [hrow, hparameters]

/-- The form is the only one touched, and it stands for no value. -/
lemma Sound.invalidated (hs : Sound w) (h : Extends w w' new) (hrow : w'.panel.row = w.panel.row)
    (hinvalid : w'.panel.invalid = true) : Sound w' :=
  ⟨h.placed hs.toPlaced, by rw [hrow, hs.row, h.list], fun hv => by rw [hinvalid] at hv; cases hv⟩

lemma Sound.kept (hs : Sound w) (h : Extends w w' new) (hrow : w'.panel.row = w.panel.row)
    (hvalue : w'.panel.value = w.panel.value) (hinvalid : w'.panel.invalid = w.panel.invalid)
    (hn : ∀ n ∈ new, Keeps w.panel.value n) : Sound w' := by
  refine ⟨h.placed hs.toPlaced, by rw [hrow, hs.row, h.list], fun hv => ?_⟩
  obtain ⟨p, hp, hread⟩ := hs.read (hinvalid ▸ hv)
  rw [hvalue, h.log]
  exact ⟨p, (parameter_congr hrow h.parameters).trans hp, hread.append hn⟩

lemma Sound.read_now (hs : Sound w) {p : ParameterInfo} (hp : parameter w = some p)
    (h : Extends w w' (.render value :: .get p.identity 0 value :: new)) (hrow : w'.panel.row = w.panel.row)
    (hvalue : w'.panel.value = value) : Sound w' := by
  refine ⟨h.placed hs.toPlaced, by rw [hrow, hs.row, h.list], fun _ => ?_⟩
  refine ⟨p, (parameter_congr hrow h.parameters).trans hp, [], new ++ w.log, ?_, by simp⟩
  rw [h.log, hvalue]
  rfl

lemma readParameter_eq (w : Window) (id : EndpointIdentity) : ∃ result value,
    readParameter backend w id = (result, value, w.note (.get id result value)) :=
  ⟨_, _, rfl⟩

lemma refreshParameterValue_spec (hs : Sound w) : ∃ new,
    Extends w (refreshParameterValue backend w) new ∧ Sound (refreshParameterValue backend w) ∧
      (∀ n ∈ new, ¬ IsSet n) ∧ (refreshParameterValue backend w).panel.dirty = w.panel.dirty := by
  unfold refreshParameterValue
  split_ifs with hbusy hdirty
  · exact ⟨[], .refl w, hs, by simp, rfl⟩
  · exact ⟨[], .refl w, hs, by simp, rfl⟩
  · cases hp : parameter w with
    | none => exact ⟨[], .refl w, hs, by simp, rfl⟩
    | some p =>
      obtain ⟨result, value, hread⟩ := readParameter_eq backend w p.identity
      simp only [hread]
      split_ifs with hr
      · have hext : Extends w (parameterError (w.note (.get p.identity result value)) "Get failed" result)
            [.error "Get failed" result, .get p.identity result value] := ⟨rfl, rfl, rfl⟩
        exact ⟨_, hext, hs.invalidated hext rfl rfl, by simp [IsSet], rfl⟩
      · obtain rfl : result = 0 := not_not.mp hr
        have hext : Extends w (showValue (w.note (.get p.identity 0 value)) value)
            [.render value, .get p.identity 0 value] := ⟨rfl, rfl, rfl⟩
        refine ⟨_, hext, hs.read_now hp hext rfl rfl, by simp [IsSet], ?_⟩
        exact (Bool.not_eq_true _ ▸ hdirty).symm

lemma showParameter_spec (hbusy : w.service.busy = false) (hdirty : w.panel.dirty = false) (hp : Placed w) :
    ∃ new, Extends w (showParameter backend w) new ∧ Sound (showParameter backend w) ∧
      ∀ n ∈ new, ¬ IsSet n := by
  have hclear : Extends w (clearParameter w) [.select w.parameterList.current] := ⟨rfl, rfl, rfl⟩
  have hsound : Sound (clearParameter w) := ⟨hclear.placed hp, rfl, fun h => by cases h⟩
  have hnone : ∀ n ∈ [Effect.select w.parameterList.current], ¬ IsSet n := by simp [IsSet]
  unfold showParameter
  rw [if_neg (by simp [hbusy]), if_neg (by simp [hdirty])]
  simp only
  cases hq : parameter (clearParameter w) with
  | none => exact ⟨_, hclear, hsound, hnone⟩
  | some q =>
    simp only
    split_ifs with ht
    · exact ⟨_, hclear, hsound, hnone⟩
    · have henabled : Extends (clearParameter w)
          ((clearParameter w).setPanel { (clearParameter w).panel with refreshEnabled := true }) [] :=
        ⟨rfl, rfl, rfl⟩
      obtain ⟨new, hext, hs, hset, -⟩ := refreshParameterValue_spec backend
        (hsound.invalidated henabled rfl rfl)
      refine ⟨_, (hclear.trans henabled).trans hext, hs, fun n hn => ?_⟩
      rcases List.mem_append.mp hn with hn | hn
      · exact hset n hn
      · exact hnone n hn

/-- With unsaved edits the list goes back to the row of the form. -/
lemma showParameter_dirty (hbusy : w.service.busy = false) (hdirty : w.panel.dirty = true) (hs : Sound w)
    (row : Option ℕ) :
    showParameter backend { w with parameterList := w.parameterList.setCurrentRow row } = w := by
  have hback : (w.parameterList.setCurrentRow row).setCurrentRow w.panel.row = w.parameterList := by
    unfold ListWidget.setCurrentRow
    rw [hs.row]
    cases hc : w.parameterList.current with
    | none => rw [Option.filter_none, ← hc]
    | some i =>
      have hi : i < w.parameterList.items.length := hs.count ▸ hs.current i hc
      rw [Option.filter_some, if_pos (by simpa using hi), ← hc]
  unfold showParameter
  rw [if_neg (by simp [hbusy]), if_pos hdirty, hback]

lemma revertParameter_spec (hs : Sound w) : ∃ new, Extends w (revertParameter w) new ∧
    Sound (revertParameter w) ∧ (∀ n ∈ new, ¬ IsSet n) ∧ (revertParameter w).panel.row = w.panel.row ∧
      (revertParameter w).panel.value = w.panel.value := by
  unfold revertParameter
  split_ifs with hrow
  · exact ⟨[], .refl w, hs, by simp, rfl, rfl⟩
  · have hext : Extends w (renderParameter w w.panel.value) [.render w.panel.value] := ⟨rfl, rfl, rfl⟩
    exact ⟨_, hext, hs.kept hext rfl rfl rfl (by simp [Keeps]), by simp [IsSet], rfl, rfl⟩

lemma editParameter_spec (hs : Sound w) (row : ℕ) (text : String) : Extends w (editParameter w row text) [] ∧
    Sound (editParameter w row text) ∧ (editParameter w row text).panel.row = w.panel.row ∧
      (editParameter w row text).panel.value = w.panel.value := by
  unfold editParameter
  simp only
  split_ifs
  · exact ⟨.refl w, hs, rfl, rfl⟩
  · have hext : Extends w (parameterEdited (w.setPanel { w.panel with inputs := w.panel.inputs.set row text }))
        [] := ⟨rfl, rfl, rfl⟩
    exact ⟨hext, hs.kept hext rfl rfl rfl (by simp), rfl, rfl⟩

end Handlers

section Writes

/-- What a call of SetParameter meets: the window at the start of the Apply and the effects of the Apply
before the call. -/
structure Hits (w : Window) (before : List Effect) (id : EndpointIdentity) : Prop where
  dirty : w.panel.dirty = true
  valid : w.panel.invalid = false
  selected : ∃ p, parameter w = some p ∧ p.identity = id
  shown : w.panel.row = w.parameterList.current
  read : ReadFrom w.log id w.panel.value
  validated : ∃ current, before = [.get id 0 current, .validate id (editedParameter w.panel) 0]

/-- The calls of SetParameter among new effects. -/
def Aimed (w : Window) (new : List Effect) : Prop :=
  ∀ after id value result before, new = after ++ .set id value result :: before → Hits w before id

lemma Aimed.of_none (h : ∀ n ∈ new, ¬ IsSet n) : Aimed w new := by
  rintro after id value result before rfl
  exact absurd ⟨id, value, result, rfl⟩ (h _ (by simp))

/-- A list without the element on either side of it splits there in one way. -/
lemma split_unique {after after' before before' : List Effect} {n n' : Effect}
    (hafter : ∀ m ∈ after, ¬ IsSet m) (hbefore : ∀ m ∈ before, ¬ IsSet m) (hn : IsSet n')
    (h : after ++ n :: before = after' ++ n' :: before') : n' = n ∧ before' = before := by
  rcases List.append_eq_append_iff.mp h with ⟨mid, rfl, hmid⟩ | ⟨mid, rfl, hmid⟩
  · cases mid with
    | nil => exact ⟨(List.cons.inj hmid).1.symm, (List.cons.inj hmid).2.symm⟩
    | cons m mid =>
      obtain ⟨rfl, rfl⟩ := List.cons.inj hmid
      exact absurd hn (hbefore _ (by simp))
  · cases mid with
    | nil => exact ⟨(List.cons.inj hmid).1, (List.cons.inj hmid).2⟩
    | cons m mid =>
      obtain ⟨rfl, rfl⟩ := List.cons.inj hmid
      exact absurd hn (hafter _ (by simp))

/-- What happens to the form in an Apply. -/
structure Applied (w w' : Window) (new : List Effect) : Prop where
  extends_log : Extends w w' new
  sound : Sound w'
  aimed : Aimed w new
  row : w'.panel.row = w.panel.row
  value : w'.panel.value = w.panel.value ∨ ∃ id value, .set id value 0 ∈ new

lemma readBack_spec (w : Window) (id : EndpointIdentity) : ∃ new,
    Extends w (readBack backend w id) new ∧ (readBack backend w id).panel.row = w.panel.row ∧
      (∀ n ∈ new, ¬ IsSet n) ∧
      ((readBack backend w id).panel.invalid = true ∨
        ∃ actual, new = [.render actual, .get id 0 actual] ∧ (readBack backend w id).panel.value = actual) := by
  unfold readBack
  obtain ⟨result, actual, hread⟩ := readParameter_eq backend
    (w.setPanel { w.panel with dirty := false }) id
  have hget := (setPanel_extends w { w.panel with dirty := false }).trans
    (note_extends _ (.get id result actual))
  simp only [hread]
  split_ifs with hr
  · have herror := hget.trans (parameterError_extends _ "Set succeeded but readback failed" result)
    exact ⟨_, herror.trans (setPanel_extends _ _), rfl, by simp [IsSet], .inl rfl⟩
  · obtain rfl : result = 0 := not_not.mp hr
    exact ⟨_, hget.trans (showValue_extends _ actual), rfl, by simp [IsSet], .inr ⟨actual, rfl, rfl⟩⟩

lemma storeParameter_spec (hs : Sound w) {p : ParameterInfo} (hp : parameter w = some p)
    (hdirty : w.panel.dirty = true) (hvalid : w.panel.invalid = false) {before : List Effect}
    (hext : Extends w w' before) (hpanel : w'.panel = w.panel)
    (hbefore : ∃ current, before = [.get p.identity 0 current,
      .validate p.identity (editedParameter w.panel) 0])
    (value : DataSnapshot) :
    ∃ new, Applied w (storeParameter backend w' p.identity value) new := by
  have hread : ReadFrom w.log p.identity w.panel.value := by
    obtain ⟨q, hq, hread⟩ := hs.read hvalid
    rwa [Option.some.inj (hp.symm.trans hq)]
  have hplain : ∀ n ∈ before, ¬ IsSet n := by
    obtain ⟨current, rfl⟩ := hbefore
    simp [IsSet]
  have haim : ∀ after result, (∀ n ∈ after, ¬ IsSet n) →
      Aimed w (after ++ .set p.identity value result :: before) := by
    intro after result hafter after' id value' result' before' hsplit
    obtain ⟨hset, rfl⟩ := split_unique hafter hplain ⟨id, value', result', rfl⟩ hsplit
    obtain ⟨rfl, -, -⟩ := Effect.set.inj hset
    exact ⟨hdirty, hvalid, ⟨p, hp, rfl⟩, hs.row, hread, hbefore⟩
  have hrow : w'.panel.row = w.panel.row := by rw [hpanel]
  have hvalue : w'.panel.value = w.panel.value := by rw [hpanel]
  unfold storeParameter
  generalize backend.setParameter w'.log.length p.identity value = result
  simp only
  split_ifs with hr
  · have hstored : Extends w' (parameterError (w'.note (.set p.identity value result))
        "Apply failed; edits not applied" result)
        ([.error "Apply failed; edits not applied" result] ++ [.set p.identity value result]) :=
      ⟨rfl, rfl, rfl⟩
    have hall := hext.trans hstored
    rw [List.append_assoc, List.singleton_append] at hall
    exact ⟨_, hall, hs.invalidated hall hrow rfl, haim [.error _ result] result (by simp [IsSet]), hrow,
      .inl hvalue⟩
  · obtain rfl : result = 0 := not_not.mp hr
    have hset : Extends w' (w'.note (.set p.identity value 0)) [.set p.identity value 0] := ⟨rfl, rfl, rfl⟩
    obtain ⟨new, hback, hbackRow, hnone, hcases⟩ := readBack_spec backend
      (w'.note (.set p.identity value 0)) p.identity
    have hall := (hext.trans hset).trans hback
    have hkept := hbackRow.trans hrow
    refine ⟨_, hall, ?_, haim new 0 hnone, hkept, .inr ⟨p.identity, value, by simp⟩⟩
    rcases hcases with hinvalid | ⟨actual, rfl, hactual⟩
    · exact hs.invalidated hall hkept hinvalid
    · exact hs.read_now hp hall hkept hactual

lemma applyParameter_spec (hs : Sound w) : ∃ new, Applied w (applyParameter backend w) new := by
  have hidle : Applied w w [] := ⟨.refl w, hs, .of_none (by simp), rfl, .inl rfl⟩
  unfold applyParameter
  split_ifs with hbusy hready
  · exact ⟨_, hidle⟩
  · exact ⟨_, hidle⟩
  · obtain ⟨hdirty, hvalid⟩ := not_or.mp hready
    rw [not_not] at hdirty
    rw [Bool.not_eq_true] at hvalid
    cases hp : parameter w with
    | none => exact ⟨_, hidle⟩
    | some p =>
      simp only
      generalize hedited : editedParameter w.panel = edited
      generalize backend.validateParameter w.log.length p.identity edited = result
      have hcheck : Extends w (w.note (.validate p.identity edited result))
          [.validate p.identity edited result] := ⟨rfl, rfl, rfl⟩
      split_ifs with hr hinput
      · subst hr hedited
        unfold applyValidated
        obtain ⟨result, current, hread⟩ := readParameter_eq backend
          (w.note (.validate p.identity (editedParameter w.panel) 0)) p.identity
        simp only [hread]
        have hget : Extends w ((w.note (.validate p.identity (editedParameter w.panel) 0)).note
            (.get p.identity result current))
            [.get p.identity result current, .validate p.identity (editedParameter w.panel) 0] :=
          ⟨rfl, rfl, rfl⟩
        have hfail : ∀ action code, ∃ new, Applied w (parameterError
            ((w.note (.validate p.identity (editedParameter w.panel) 0)).note (.get p.identity result current))
            action code) new := by
          intro action code
          have herror := hget.trans (parameterError_extends _ action code)
          exact ⟨_, herror, hs.invalidated herror rfl rfl, .of_none (by simp [IsSet]), rfl, .inl rfl⟩
        split_ifs with hr
        · exact hfail _ _
        · obtain rfl : result = 0 := not_not.mp hr
          split
          · exact hfail _ _
          · exact storeParameter_spec backend hs hp hdirty hvalid hget rfl ⟨current, rfl⟩ _
      · refine ⟨_, hcheck, hs.kept hcheck rfl rfl rfl ?_, .of_none (by simp [IsSet]), rfl, .inl rfl⟩
        simpa [Keeps] using hinput
      · have herror : Extends w (parameterError (w.note (.validate p.identity edited result))
            "Validation failed" result)
            [.error "Validation failed" result, .validate p.identity edited result] := ⟨rfl, rfl, rfl⟩
        exact ⟨_, herror, hs.invalidated herror rfl rfl, .of_none (by simp [IsSet]), rfl, .inl rfl⟩

end Writes

section Services

/-- An effect of the service form. -/
def Aside (n : Effect) : Prop := (∀ value, Keeps value n) ∧ ¬ IsSet n

/-- Only the service form and its list are touched. -/
structure Beside (w w' : Window) (new : List Effect) : Prop where
  extends_log : Extends w w' new
  panel : w'.panel = w.panel
  aside : ∀ n ∈ new, Aside n

lemma Beside.trans {w₁ w₂ w₃ : Window} (h : Beside w₁ w₂ new) (h' : Beside w₂ w₃ new') :
    Beside w₁ w₃ (new' ++ new) := by
  refine ⟨h.extends_log.trans h'.extends_log, h'.panel.trans h.panel, fun n hn => ?_⟩
  rcases List.mem_append.mp hn with hn | hn
  · exact h'.aside n hn
  · exact h.aside n hn

lemma Beside.of_form (hlog : w'.log = w.log) (hlist : w'.parameterList = w.parameterList)
    (hparameters : w'.parameters = w.parameters) (hpanel : w'.panel = w.panel) : Beside w w' [] :=
  ⟨⟨hlog, hlist, hparameters⟩, hpanel, by simp⟩

lemma Beside.noted (w : Window) (hn : Aside n) : Beside w (w.note n) [n] :=
  ⟨note_extends w n, rfl, by simpa using hn⟩

lemma Beside.sound (h : Beside w w' new) (hs : Sound w) : Sound w' :=
  hs.kept h.extends_log (by rw [h.panel]) (by rw [h.panel]) (by rw [h.panel]) fun n hn => (h.aside n hn).1 _

lemma typeTemplate_beside (w : Window) (runtime : RuntimeIdentity) (typeId : UInt64) :
    ∃ new, Beside w (typeTemplate backend w runtime typeId).2.2 new :=
  ⟨_, .noted w ⟨fun _ => trivial, by simp [IsSet]⟩⟩

lemma showService_beside (w : Window) : ∃ new, Beside w (showService backend w) new := by
  unfold showService
  split_ifs
  · exact ⟨_, .of_form rfl rfl rfl rfl⟩
  · have hcleared : Beside w (w.setService { row := w.serviceList.current, callEnabled := false }) [] :=
      .of_form rfl rfl rfl rfl
    simp only
    split
    · exact ⟨_, hcleared⟩
    · rename_i s _
      obtain ⟨_, hfirst⟩ := typeTemplate_beside backend
        (w.setService { row := w.serviceList.current, callEnabled := false }) s.identity.runtime
        s.requestTypeId
      obtain ⟨_, hsecond⟩ := typeTemplate_beside backend
        (typeTemplate backend _ s.identity.runtime s.requestTypeId).2.2 s.identity.runtime s.responseTypeId
      have hboth := (hcleared.trans hfirst).trans hsecond
      split_ifs
      · exact ⟨_, hcleared⟩
      · exact ⟨_, hcleared.trans hfirst⟩
      · exact ⟨_, hboth⟩
      · exact ⟨_, hboth.trans (.of_form rfl rfl rfl rfl)⟩

lemma updateServices_beside (w : Window) : ∃ new, Beside w (updateServices backend w) new := by
  have hadopted : Beside w (adoptServices backend w) [] := .of_form rfl rfl rfl rfl
  obtain ⟨new, h⟩ := showService_beside backend (adoptServices backend w)
  exact ⟨_, hadopted.trans h⟩

lemma callService_beside (w : Window) : ∃ new, Beside w (callService backend w) new := by
  have hsame : Beside w w [] := .of_form rfl rfl rfl rfl
  unfold callService
  split_ifs
  · exact ⟨_, hsame⟩
  · cases service w with
    | none => exact ⟨_, hsame⟩
    | some s =>
      simp only
      generalize editedFields w.service.template w.service.inputs w.service.rows = request
      generalize backend.validateService w.log.length s.identity request = result
      have hchecked : Beside w (w.note (.validateService s.identity request result)) _ :=
        .noted w ⟨fun _ => trivial, by simp [IsSet]⟩
      split_ifs
      · exact ⟨_, hchecked⟩
      · have hcall : Aside (.call s.identity request) := ⟨fun _ => trivial, by simp [IsSet]⟩
        exact ⟨_, (hchecked.trans (.noted _ hcall)).trans (.of_form rfl rfl rfl rfl)⟩

end Services

section Steps

lemma placed_setCurrentRow (w : Window) {l : ListWidget} (row : Option ℕ)
    (hl : l.items.length = w.parameters.length) (hw : w.parameterList = l.setCurrentRow row) : Placed w := by
  refine ⟨by rw [hw]; exact hl, fun i hi => ?_⟩
  rw [hw] at hi
  obtain ⟨_, hlt⟩ := Option.filter_eq_some_iff.mp hi
  rw [← hl]
  exact of_decide_eq_true hlt

/-- A Refresh that is not refused. -/
structure Renewed (w w' : Window) (new : List Effect) : Prop where
  log : w'.log = new ++ w.log
  sound : Sound w'
  plain : ∀ n ∈ new, ¬ IsSet n

lemma renewed_of_placed (w₁ : Window) {w₂ : Window} {list : Effect} (hlist : ¬ IsSet list)
    (hlog : w₁.log = list :: w.log) (hbusy : w₁.service.busy = false) (hdirty : w₁.panel.dirty = false)
    (hp : Placed w₁) (h : ∃ new, Beside (showParameter backend w₁) w₂ new) : ∃ new, Renewed w w₂ new := by
  obtain ⟨shown, hext, hs, hplain⟩ := showParameter_spec backend hbusy hdirty hp
  obtain ⟨new, h⟩ := h
  refine ⟨new ++ (shown ++ [list]), ?_, h.sound hs, fun n hn => ?_⟩
  · rw [h.extends_log.log, hext.log, hlog, List.append_assoc, List.append_assoc, List.singleton_append]
  · simp only [List.mem_append, List.mem_singleton] at hn
    rcases hn with hn | hn | rfl
    · exact (h.aside n hn).2
    · exact hplain n hn
    · exact hlist

lemma refreshFailed_spec (hbusy : w.service.busy = false) (hdirty : w.panel.dirty = false) :
    ∃ new, Renewed w (refreshFailed backend w) new := by
  have hplaced : Placed (clearDiscovery w) := ⟨rfl, fun i hi => nomatch hi⟩
  have hlist : ¬ IsSet (.list []) := by simp [IsSet]
  refine renewed_of_placed backend (clearDiscovery w) hlist rfl hbusy hdirty hplaced ?_
  unfold refreshFailed
  generalize showParameter backend (clearDiscovery w) = shown
  have hcleared : Beside shown { shown with services := [], serviceList := {} } [] := .of_form rfl rfl rfl rfl
  obtain ⟨new, h⟩ := showService_beside backend
    { shown with services := [], serviceList := {} }
  exact ⟨_, (hcleared.trans h).trans (.of_form rfl rfl rfl rfl)⟩

lemma adoptDiscovery_placed (w : Window) (element : Option RuntimeIdentity)
    (topic previous : Option EndpointIdentity) : Placed (adoptDiscovery backend w element topic previous) :=
  placed_setCurrentRow _ _ (List.length_map _) rfl

lemma refreshSucceeded_spec (hbusy : w.service.busy = false) (hdirty : w.panel.dirty = false)
    (element : Option RuntimeIdentity) (topic previous : Option EndpointIdentity) :
    ∃ new, Renewed w (refreshSucceeded backend w element topic previous) new := by
  have hlist : ¬ IsSet (.list (sortParameters (backend.parameters w.log.length))) := by simp [IsSet]
  refine renewed_of_placed backend (adoptDiscovery backend w element topic previous) hlist rfl hbusy hdirty
    (adoptDiscovery_placed backend w element topic previous) ?_
  obtain ⟨new, h⟩ := updateServices_beside backend
    (showParameter backend (adoptDiscovery backend w element topic previous))
  exact ⟨_, h.trans (.of_form rfl rfl rfl rfl)⟩

lemma renewed_noted {n : Effect} (w₁ : Window) {w₂ : Window} (hn : ¬ IsSet n) (hlog : w₁.log = n :: w.log)
    (h : ∃ new, Renewed w₁ w₂ new) : ∃ new, Renewed w w₂ new := by
  obtain ⟨new, h⟩ := h
  refine ⟨new ++ [n], by rw [h.log, hlog, List.append_assoc, List.singleton_append], h.sound, fun m hm => ?_⟩
  rcases List.mem_append.mp hm with hm | hm
  · exact h.plain m hm
  · rwa [List.mem_singleton.mp hm]

lemma refresh_spec (hbusy : w.service.busy = false) (hdirty : w.panel.dirty = false) :
    ∃ new, Renewed w (refresh backend w) new := by
  unfold refresh
  rw [if_neg (by simp [hbusy]), if_neg (by simp [hdirty])]
  simp only
  generalize backend.refresh w.log.length = result
  generalize backend.connection w.log.length = connection
  have hn : ¬ IsSet (.refresh result connection) := by simp [IsSet]
  generalize hw₁ : (w.setPanel { w.panel with row := none }).note (.refresh result connection) = w₁
  have hlog : w₁.log = .refresh result connection :: w.log := hw₁ ▸ rfl
  have hbusy₁ : w₁.service.busy = false := hw₁ ▸ hbusy
  have hdirty₁ : w₁.panel.dirty = false := hw₁ ▸ hdirty
  split_ifs
  · exact renewed_noted w₁ hn hlog (refreshFailed_spec backend hbusy₁ hdirty₁)
  · exact renewed_noted w₁ hn hlog (refreshSucceeded_spec backend hbusy₁ hdirty₁ _ _ _)

/-- What edits protect. -/
structure Unmoved (w w' : Window) (new : List Effect) : Prop where
  row : w'.panel.row = w.panel.row
  list : w'.parameterList = w.parameterList
  parameters : w'.parameters = w.parameters
  value : w'.panel.value = w.panel.value ∨ ∃ id value, .set id value 0 ∈ new

lemma Unmoved.refl (w : Window) (new : List Effect) : Unmoved w w new := ⟨rfl, rfl, rfl, .inl rfl⟩

/-- What one event does. -/
structure Advance (w w' : Window) (new : List Effect) : Prop where
  log : w'.log = new ++ w.log
  sound : Sound w'
  aimed : Aimed w new
  unmoved : w.panel.dirty = true → Unmoved w w' new

lemma Advance.idle (hs : Sound w) : Advance w w [] := ⟨rfl, hs, .of_none (by simp), fun _ => .refl w _⟩

lemma Renewed.advance (h : Renewed w w' new) (hdirty : w.panel.dirty = false) : Advance w w' new :=
  ⟨h.log, h.sound, .of_none h.plain, fun hd => by simp [hdirty] at hd⟩

lemma Beside.advance (h : Beside w w' new) (hs : Sound w) : Advance w w' new := by
  refine ⟨h.extends_log.log, h.sound hs, .of_none fun n hn => (h.aside n hn).2, fun _ => ?_⟩
  exact ⟨by rw [h.panel], h.extends_log.list, h.extends_log.parameters, .inl (by rw [h.panel])⟩

lemma Applied.advance (h : Applied w w' new) : Advance w w' new :=
  ⟨h.extends_log.log, h.sound, h.aimed,
    fun _ => ⟨h.row, h.extends_log.list, h.extends_log.parameters, h.value⟩⟩

lemma setCurrentRow_advance (hbusy : w.service.busy = false) (hs : Sound w) (tab : Tab) (row : Option ℕ) :
    ∃ new, Advance w (setCurrentRow backend w tab row) new := by
  cases tab with
  | elements => exact ⟨_, Beside.advance (.of_form rfl rfl rfl rfl) hs⟩
  | topics => exact ⟨_, Beside.advance (.of_form rfl rfl rfl rfl) hs⟩
  | services =>
    unfold setCurrentRow
    simp only
    split_ifs
    · exact ⟨_, .idle hs⟩
    · have hrow : Beside w { w with serviceList := w.serviceList.setCurrentRow row } [] :=
        .of_form rfl rfl rfl rfl
      obtain ⟨new, h⟩ := showService_beside backend { w with serviceList := w.serviceList.setCurrentRow row }
      exact ⟨_, (hrow.trans h).advance hs⟩
  | parameters =>
    unfold setCurrentRow
    simp only
    split_ifs
    · exact ⟨_, .idle hs⟩
    · by_cases hdirty : w.panel.dirty = true
      · rw [showParameter_dirty backend hbusy hdirty hs]
        exact ⟨_, .idle hs⟩
      · rw [Bool.not_eq_true] at hdirty
        have hplaced : Placed { w with parameterList := w.parameterList.setCurrentRow row } :=
          placed_setCurrentRow _ row hs.count rfl
        obtain ⟨new, hext, hsound, hplain⟩ := showParameter_spec backend
          (w := { w with parameterList := w.parameterList.setCurrentRow row }) hbusy hdirty hplaced
        exact ⟨new, Renewed.advance ⟨hext.log, hsound, hplain⟩ hdirty⟩

lemma act_advance (hbusy : w.service.busy = false) (hs : Sound w) (e : Event) :
    ∃ new, Advance w (act backend w e) new := by
  have hidle : ∃ new, Advance w w new := ⟨_, .idle hs⟩
  have hopen : ∀ tab row, ∃ new, Advance w (openRow backend w tab row) new := by
    intro tab row
    unfold openRow
    split_ifs
    · exact hidle
    · exact setCurrentRow_advance backend hbusy hs tab row
  have happly : ∃ new, Advance w (applyParameter backend w) new := by
    obtain ⟨new, h⟩ := applyParameter_spec backend hs
    exact ⟨new, h.advance⟩
  have hbutton : ∀ (enabled : Bool) {w' : Window}, (∃ new, Advance w w' new) →
      ∃ new, Advance w (if enabled then w' else w) new := by
    intro enabled w' h
    cases enabled
    · exact hidle
    · exact h
  cases e with
  | refresh =>
    by_cases hdirty : w.panel.dirty = true
    · simpa [act, refresh, hbusy, hdirty] using hidle
    · rw [Bool.not_eq_true] at hdirty
      obtain ⟨new, h⟩ := refresh_spec backend hbusy hdirty
      exact ⟨new, h.advance hdirty⟩
  | pick tab row => exact setCurrentRow_advance backend hbusy hs tab (some row)
  | openEndpoint tab row => exact hopen tab (some row)
  | openElement id => exact hopen .elements _
  | openTopic id => exact hopen .topics _
  | treeItem row => exact setCurrentRow_advance backend hbusy hs .elements row
  | edit row text =>
    obtain ⟨hext, hsound, hrow, hvalue⟩ := editParameter_spec hs row text
    exact ⟨_, hext.log, hsound, .of_none (by simp), fun _ => ⟨hrow, hext.list, hext.parameters, .inl hvalue⟩⟩
  | refreshValue =>
    refine hbutton _ ?_
    by_cases hdirty : w.panel.dirty = true
    · simpa [refreshParameterValue, hbusy, hdirty] using hidle
    · rw [Bool.not_eq_true] at hdirty
      obtain ⟨new, hext, hsound, hplain, -⟩ := refreshParameterValue_spec backend hs
      exact ⟨new, Renewed.advance ⟨hext.log, hsound, hplain⟩ hdirty⟩
  | revert =>
    obtain ⟨new, hext, hsound, hplain, hrow, hvalue⟩ := revertParameter_spec hs
    refine hbutton _ ⟨new, hext.log, hsound, .of_none hplain, fun _ => ?_⟩
    exact ⟨hrow, hext.list, hext.parameters, .inl hvalue⟩
  | apply => exact hbutton _ happly
  | enter => exact hbutton _ happly
  | editRequest row text => exact ⟨_, Beside.advance (.of_form rfl rfl rfl rfl) hs⟩
  | call =>
    obtain ⟨new, h⟩ := callService_beside backend w
    exact ⟨new, h.advance hs⟩
  | finished => exact hidle

lemma step_advance (hs : Sound w) (e : Event) : ∃ new, Advance w (step backend w e) new := by
  unfold step
  split_ifs with hbusy
  · cases e with
    | finished => exact ⟨_, Beside.advance (.of_form rfl rfl rfl rfl) hs⟩
    | _ => exact ⟨_, .idle hs⟩
  · exact act_advance backend (Bool.not_eq_true _ ▸ hbusy) hs e

end Steps

section Runs

/-- Each call of SetParameter follows the read of its endpoint's value. -/
def Backed (log : List Effect) : Prop :=
  ∀ after id value result before, log = after ++ .set id value result :: before →
    ∃ current edited shown since earlier,
      before = .get id 0 current :: .validate id edited 0 ::
        (since ++ .render shown :: .get id 0 shown :: earlier) ∧ ∀ n ∈ since, Keeps shown n

lemma Backed.append {log : List Effect} (h : Backed log) (hlog : w.log = log) (ha : Aimed w new) :
    Backed (new ++ log) := by
  intro after id value result before hsplit
  rcases List.append_eq_append_iff.mp hsplit with ⟨mid, rfl, hmid⟩ | ⟨mid, rfl, hmid⟩
  · exact h mid id value result before hmid
  · cases mid with
    | nil => exact h [] id value result before hmid.symm
    | cons m mid =>
      obtain ⟨rfl, rfl⟩ := List.cons.inj hmid
      have hhits := ha after id value result mid rfl
      obtain ⟨current, rfl⟩ := hhits.validated
      obtain ⟨since, earlier, hread, hs⟩ := hhits.read
      refine ⟨current, editedParameter w.panel, w.panel.value, since, earlier, ?_, hs⟩
      rw [← hlog, hread]
      rfl

structure Reached (w : Window) : Prop extends Sound w where
  backed : Backed w.log

lemma reached_step (h : Reached w) (e : Event) : Reached (step backend w e) := by
  obtain ⟨new, ha⟩ := step_advance backend h.toSound e
  exact ⟨ha.sound, ha.log ▸ h.backed.append rfl ha.aimed⟩

lemma reached_start : Reached (start backend) := by
  obtain ⟨new, h⟩ := refresh_spec backend (w := showParameter backend {}) rfl rfl
  refine ⟨h.sound, ?_⟩
  have hplain : ∀ n ∈ new ++ (showParameter backend {}).log, ¬ IsSet n := by
    intro n hn
    rcases List.mem_append.mp hn with hn | hn
    · exact h.plain n hn
    · rw [show (showParameter backend {}).log = [.select none] from rfl, List.mem_singleton] at hn
      simp [hn, IsSet]
  intro after id value result before hsplit
  rw [start, h.log] at hsplit
  exact absurd ⟨id, value, result, rfl⟩ (hplain _ (by rw [hsplit]; simp))

lemma reached_run (h : Reached w) (events : List Event) : Reached (run backend w events) :=
  Transitions.foldl_invariant (I := Reached) (fun _ e hw => reached_step backend hw e) events w h

/-- What leaves the value in doubt: a failed Get or Set, a reported error such as a changed type, a
failed check of an input that is not itself invalid. -/
def Spoils : Effect → Prop
  | .get _ result _ => result ≠ 0
  | .set _ _ result => result ≠ 0
  | .error _ _ => True
  | .validate _ _ result => result ≠ 0 ∧ ¬ invalidInput result
  | _ => False

lemma Keeps.not_spoils (h : Keeps value n) : ¬ Spoils n := by
  cases n with
  | validate id value result => exact fun hs => hs.2 h
  | get id result value => exact h.elim
  | set id value result => exact h.elim
  | error action result => exact h.elim
  | _ => exact id

lemma prefix_of_not_mem {first rest between earlier : List Effect} (h : first ++ rest = between ++ n :: earlier)
    (hn : n ∉ first) : ∃ older, between = first ++ older := by
  rcases List.append_eq_append_iff.mp h with ⟨mid, rfl, -⟩ | ⟨mid, rfl, hmid⟩
  · exact ⟨mid, rfl⟩
  · cases mid with
    | nil => exact ⟨[], by simp⟩
    | cons m mid =>
      obtain ⟨rfl, -⟩ := List.cons.inj hmid
      exact absurd (by simp) hn

lemma Backed.read_again {log : List Effect} (h : Backed log) {after between earlier : List Effect}
    {spoiled : Effect} (hlog : log = after ++ .set id value result :: (between ++ spoiled :: earlier))
    (hs : Spoils spoiled) :
    ∃ later id value before, between = later ++ .render value :: .get id 0 value :: before := by
  obtain ⟨current, edited, shown, since, older, hbefore, hkeeps⟩ := h after id value result _ hlog
  have hprefix : ([.get id 0 current, .validate id edited 0] ++ since ++ [.render shown, .get id 0 shown]) ++
      older = between ++ spoiled :: earlier := by
    rw [hbefore]
    simp
  obtain ⟨before, rfl⟩ := prefix_of_not_mem hprefix (by
    intro hmem
    simp only [List.mem_append, List.mem_cons, List.not_mem_nil, or_false] at hmem
    rcases hmem with ((rfl | rfl) | hm) | rfl | rfl
    · exact hs rfl
    · exact hs.1 rfl
    · exact (hkeeps _ hm).not_spoils hs
    · exact hs
    · exact hs rfl)
  exact ⟨[.get id 0 current, .validate id edited 0] ++ since, id, shown, before, by simp⟩

/-- SetParameter is called for the endpoint from which the displayed value was read, with a form that is
dirty, valid and checked; edits stay until a Revert or a successful Set, and doubts until the next read. -/
theorem writes_reach_baseline (events : List Event) :
    let w := run backend (start backend) events
    (∀ e, ∃ new, (step backend w e).log = new ++ w.log ∧
      (∀ after id value result before, new = after ++ .set id value result :: before → Hits w before id) ∧
      (w.panel.dirty = true → Unmoved w (step backend w e) new)) ∧
    ∀ after id value result between spoiled earlier,
      w.log = after ++ .set id value result :: (between ++ spoiled :: earlier) → Spoils spoiled →
      ∃ later id value before, between = later ++ .render value :: .get id 0 value :: before := by
  intro w
  have hw : Reached w := reached_run backend (reached_start backend) events
  constructor
  · intro e
    obtain ⟨new, h⟩ := step_advance backend hw.toSound e
    exact ⟨new, h.log, h.aimed, h.unmoved⟩
  · intro after id value result between spoiled earlier hlog hs
    exact hw.backed.read_again hlog hs

def gain : ParameterInfo :=
  { name := "gain", writable := true, identity := ⟨⟨7, 1⟩, 3⟩, role := "OWNER", typeId := 7 }

def gainValue (text : String) : DataSnapshot :=
  { typeName := "Gain", typeId := 7
    fields := [{ name := "gain", typeName := "int32", value := text, kind := .signedInteger }] }

def gainBackend : ToolBackend where
  refresh _ := 0
  connection _ := .connected
  elements _ := []
  topics _ := []
  parameters _ := [gain]
  services _ := []
  typeTemplate _ _ _ := (0, {})
  validateService _ _ _ := 0
  getParameter _ _ := (0, gainValue "5")
  validateParameter _ _ _ := 0
  setParameter _ _ _ := 0

example : (run gainBackend (start gainBackend) [.edit 0 "6", .apply]).log =
    [.render (gainValue "5"), .get gain.identity 0 (gainValue "5"), .set gain.identity (gainValue "6") 0,
      .get gain.identity 0 (gainValue "5"), .validate gain.identity (gainValue "6") 0] ++
    (start gainBackend).log := rfl

end Runs

end KcfTools.MainWindow
