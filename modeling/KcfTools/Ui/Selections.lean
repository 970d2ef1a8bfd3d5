import KcfTools.Ui.ParameterWrites

/-! What is selected stays the same thing, or nothing, when the lists are rebuilt. -/

namespace KcfTools.MainWindow

variable (backend : ToolBackend) {w w' : Window}

section Rows

variable {α ι : Type}

/-- What is selected after a change was selected before it. -/
def Follows (before after : Option ι) : Prop := after = none ∨ after = before

lemma Follows.refl (s : Option ι) : Follows s s := .inr rfl

lemma Follows.of_none {before after : Option ι} (h : after = none) : Follows before after := .inl h

lemma Follows.trans {s₁ s₂ s₃ : Option ι} (h : Follows s₁ s₂) (h' : Follows s₂ s₃) : Follows s₁ s₃ := by
  rcases h' with h' | rfl
  · exact .inl h'
  · exact h

/-- The identity of what a row of a list stands for. -/
def rowIdentity (l : List α) (identity : α → ι) (row : Option ℕ) : Option ι :=
  (row.bind fun i => l[i]?).map identity

lemma lastRow_some {l : List α} {p : α → Bool} {i : ℕ} (h : lastRow l p = some i) :
    ∃ x, l[i]? = some x ∧ p x = true := by
  have hmem : i ∈ l.findIdxs p := List.mem_of_getLast? h
  obtain ⟨hi, hp⟩ := List.mem_findIdxs_iff_exists_getElem_pos.mp hmem
  exact ⟨l[i], List.getElem?_eq_getElem hi, hp⟩

variable [DecidableEq ι]

lemma rowOf_follows (l : List α) (identity : α → ι) (previous : Option ι) :
    Follows previous (rowIdentity l identity (rowOf l identity previous none)) := by
  unfold rowOf rowIdentity
  rw [Option.or_none]
  cases hrow : lastRow l fun x => previous = some (identity x) with
  | none => exact .of_none rfl
  | some i =>
    obtain ⟨x, hx, hp⟩ := lastRow_some hrow
    right
    rw [Option.bind_some, hx, of_decide_eq_true hp]
    rfl

lemma rebuilt_follows (list : ListWidget) (l : List α) (identity : α → ι) (previous : Option ι)
    {other : Option ℕ} (hother : other = none) :
    Follows previous (rowIdentity l identity
      (list.setCurrentRow (rowOf l identity previous other)).current) := by
  subst hother
  unfold ListWidget.setCurrentRow
  cases hrow : rowOf l identity previous none with
  | none => exact .of_none rfl
  | some i =>
    by_cases hi : i < list.items.length
    · rw [Option.filter_some, if_pos (by simpa using hi), ← hrow]
      exact rowOf_follows l identity previous
    · rw [Option.filter_some, if_neg (by simpa using hi)]
      exact .of_none rfl

lemma initialRow_refreshed {refreshed : Bool} (h : refreshed = true) (had empty : Bool) :
    initialRow had refreshed empty = none := by
  subst h
  cases had <;> rfl

end Rows

section Selections

structure Selections where
  element : Option RuntimeIdentity
  topic : Option EndpointIdentity
  parameter : Option EndpointIdentity
  service : Option EndpointIdentity

/-- The element and the topic are those of their lists, the parameter and the service those of their
forms. -/
def selections (w : Window) : Selections where
  element := rowIdentity w.elements ElementInfo.identity w.elementList.current
  topic := rowIdentity w.topics TopicInfo.identity w.topicList.current
  parameter := rowIdentity w.parameters ParameterInfo.identity w.panel.row
  service := rowIdentity w.services ServiceInfo.identity w.service.row

structure Selections.Follow (before after : Selections) : Prop where
  element : Follows before.element after.element
  topic : Follows before.topic after.topic
  parameter : Follows before.parameter after.parameter
  service : Follows before.service after.service

lemma Selections.Follow.refl (s : Selections) : s.Follow s := ⟨.refl _, .refl _, .refl _, .refl _⟩

lemma Selections.Follow.trans {s₁ s₂ s₃ : Selections} (h : s₁.Follow s₂) (h' : s₂.Follow s₃) :
    s₁.Follow s₃ :=
  ⟨h.element.trans h'.element, h.topic.trans h'.topic, h.parameter.trans h'.parameter,
    h.service.trans h'.service⟩

end Selections

section Frames

def Window.withoutForm (w : Window) : Window := { w with panel := {}, log := [] }

def Window.withoutRequest (w : Window) : Window := { w with service := {}, log := [] }

/-- Only the parameter form and the history change. -/
def FormOnly (w w' : Window) : Prop := w'.withoutForm = w.withoutForm

/-- Only the service form and the history change. -/
def RequestOnly (w w' : Window) : Prop := w'.withoutRequest = w.withoutRequest

lemma FormOnly.refl (w : Window) : FormOnly w w := rfl

lemma FormOnly.trans {w₁ w₂ w₃ : Window} (h : FormOnly w₁ w₂) (h' : FormOnly w₂ w₃) : FormOnly w₁ w₃ :=
  Eq.trans h' h

lemma setPanel_form (w : Window) (panel : ParameterPanel) : FormOnly w (w.setPanel panel) := rfl

lemma note_form (w : Window) (n : Effect) : FormOnly w (w.note n) := rfl

lemma parameterError_form (w : Window) (action : String) (result : ℤ) :
    FormOnly w (parameterError w action result) := rfl

lemma showValue_form (w : Window) (value : DataSnapshot) : FormOnly w (showValue w value) := rfl

lemma FormOnly.field {β : Type} (h : FormOnly w w') (f : Window → β) :
    f w'.withoutForm = f w.withoutForm := congrArg f h

lemma RequestOnly.field {β : Type} (h : RequestOnly w w') (f : Window → β) :
    f w'.withoutRequest = f w.withoutRequest := congrArg f h

lemma refreshParameterValue_form (w : Window) : FormOnly w (refreshParameterValue backend w) := by
  unfold refreshParameterValue
  split_ifs
  · exact .refl w
  · exact .refl w
  · cases parameter w with
    | none => exact .refl w
    | some p =>
      obtain ⟨result, value, hread⟩ := readParameter_eq backend w p.identity
      simp only [hread]
      split_ifs
      · exact (note_form w _).trans (parameterError_form _ _ _)
      · exact (note_form w _).trans (showValue_form _ _)

lemma showParameter_form (hbusy : w.service.busy = false) (hdirty : w.panel.dirty = false) :
    FormOnly w (showParameter backend w) := by
  have hclear : FormOnly w (clearParameter w) := rfl
  unfold showParameter
  rw [if_neg (by simp [hbusy]), if_neg (by simp [hdirty])]
  simp only
  cases parameter (clearParameter w) with
  | none => exact hclear
  | some p =>
    simp only
    split_ifs
    · exact hclear
    · exact (hclear.trans (setPanel_form _ _)).trans (refreshParameterValue_form backend _)

lemma revertParameter_form (w : Window) : FormOnly w (revertParameter w) := by
  unfold revertParameter
  split_ifs
  · exact .refl w
  · exact rfl

lemma editParameter_form (w : Window) (row : ℕ) (text : String) : FormOnly w (editParameter w row text) := by
  unfold editParameter
  simp only
  split_ifs
  · exact .refl w
  · exact rfl

lemma readBack_form (w : Window) (id : EndpointIdentity) : FormOnly w (readBack backend w id) := by
  unfold readBack
  obtain ⟨result, actual, hread⟩ := readParameter_eq backend (w.setPanel { w.panel with dirty := false }) id
  have hget := (setPanel_form w { w.panel with dirty := false }).trans (note_form _ (.get id result actual))
  simp only [hread]
  split_ifs
  · exact (hget.trans (parameterError_form _ _ _)).trans (setPanel_form _ _)
  · exact hget.trans (showValue_form _ _)

lemma storeParameter_form (w : Window) (id : EndpointIdentity) (value : DataSnapshot) :
    FormOnly w (storeParameter backend w id value) := by
  unfold storeParameter
  simp only
  split_ifs
  · exact (note_form w _).trans (parameterError_form _ _ _)
  · exact (note_form w _).trans (readBack_form backend _ id)

lemma applyValidated_form (w : Window) (id : EndpointIdentity) (edited : DataSnapshot) :
    FormOnly w (applyValidated backend w id edited) := by
  unfold applyValidated
  obtain ⟨result, current, hread⟩ := readParameter_eq backend w id
  have hget := note_form w (.get id result current)
  simp only [hread]
  split_ifs
  · exact hget.trans (parameterError_form _ _ _)
  · split
    · exact hget.trans (parameterError_form _ _ _)
    · exact hget.trans (storeParameter_form backend _ id _)

lemma applyParameter_form (w : Window) : FormOnly w (applyParameter backend w) := by
  unfold applyParameter
  split_ifs
  · exact .refl w
  · exact .refl w
  · cases parameter w with
    | none => exact .refl w
    | some p =>
      simp only
      split_ifs
      · exact (note_form w _).trans (applyValidated_form backend _ _ _)
      · exact note_form w _
      · exact (note_form w _).trans (parameterError_form _ _ _)

lemma showService_request (hbusy : w.service.busy = false) :
    RequestOnly w (showService backend w) ∧ (showService backend w).service.row = w.serviceList.current := by
  unfold showService
  rw [if_neg (by simp [hbusy])]
  simp only
  split
  · exact ⟨rfl, rfl⟩
  · split_ifs
    · exact ⟨rfl, rfl⟩
    · exact ⟨rfl, rfl⟩
    · exact ⟨rfl, rfl⟩
    · exact ⟨rfl, rfl⟩

lemma callService_request (w : Window) :
    RequestOnly w (callService backend w) ∧ (callService backend w).service.row = w.service.row := by
  unfold callService
  split_ifs
  · exact ⟨rfl, rfl⟩
  · cases service w with
    | none => exact ⟨rfl, rfl⟩
    | some s =>
      simp only
      split_ifs
      · exact ⟨rfl, rfl⟩
      · exact ⟨rfl, rfl⟩

end Frames

section Refreshes

/-- The lists are those of a Refresh, and the service form shows the row of its list. -/
structure Anchored (w : Window) : Prop where
  refreshed : w.discoveryRefreshed = true
  serviceRow : w.service.row = w.serviceList.current

/-- A Refresh that is not refused. -/
structure Rebuilt (w w' : Window) : Prop extends Anchored w' where
  follow : w.discoveryRefreshed = true → (selections w).Follow (selections w')

lemma rowIdentity_nil {α ι : Type} (identity : α → ι) (row : Option ℕ) :
    rowIdentity [] identity row = none := by
  cases row <;> rfl

lemma refreshFailed_none (hbusy : w.service.busy = false) (hdirty : w.panel.dirty = false) :
    Anchored (refreshFailed backend w) ∧ selections (refreshFailed backend w) = ⟨none, none, none, none⟩ := by
  have hshown := showParameter_form backend (w := clearDiscovery w) hbusy hdirty
  unfold refreshFailed
  generalize showParameter backend (clearDiscovery w) = shown at hshown
  have hbusyShown : shown.service.busy = false := (hshown.field fun v => v.service.busy).trans hbusy
  obtain ⟨hrequest, hrow⟩ := showService_request backend
    (w := { shown with services := [], serviceList := {} }) hbusyShown
  simp only
  generalize showService backend { shown with services := [], serviceList := {} } = last at hrequest hrow
  have helements : last.elements = [] := (hrequest.field Window.elements).trans (hshown.field Window.elements)
  have htopics : last.topics = [] := (hrequest.field Window.topics).trans (hshown.field Window.topics)
  have hparameters : last.parameters = [] :=
    (hrequest.field Window.parameters).trans (hshown.field Window.parameters)
  have hservices : last.services = [] := hrequest.field Window.services
  have hlist : last.serviceList = {} := hrequest.field Window.serviceList
  refine ⟨⟨rfl, hrow.trans (congrArg ListWidget.current hlist).symm⟩, ?_⟩
  rw [selections, helements, htopics, hparameters, hservices]
  simp only [rowIdentity_nil]

lemma adoptDiscovery_follows (hrefreshed : w.discoveryRefreshed = true) {element : Option RuntimeIdentity}
    {topic previous : Option EndpointIdentity} (h : adoptDiscovery backend w element topic previous = w') :
    Follows element (selections w').element ∧ Follows topic (selections w').topic ∧
      Follows previous (rowIdentity w'.parameters ParameterInfo.identity w'.parameterList.current) := by
  subst h
  refine ⟨?_, ?_, ?_⟩
  · exact rebuilt_follows _ _ _ _ rfl
  · exact rebuilt_follows _ _ _ _ (initialRow_refreshed hrefreshed _ _)
  · exact rebuilt_follows _ _ _ _ (initialRow_refreshed hrefreshed _ _)

lemma adoptServices_follows (hrefreshed : w.discoveryRefreshed = true) (h : adoptServices backend w = w') :
    Follows (selections w).service (rowIdentity w'.services ServiceInfo.identity w'.serviceList.current) := by
  subst h
  exact rebuilt_follows _ _ _ _ (initialRow_refreshed hrefreshed _ _)

/-- The service form shows the list's row; the rest stays. -/
structure Served (w w' : Window) : Prop where
  elements : (selections w').element = (selections w).element
  topics : (selections w').topic = (selections w).topic
  parameters : (selections w').parameter = (selections w).parameter
  row : w'.service.row = w'.serviceList.current
  service : w.discoveryRefreshed = true → Follows (selections w).service (selections w').service

lemma updateServices_served (hbusy : w.service.busy = false) : Served w (updateServices backend w) := by
  unfold updateServices
  generalize hadopted : adoptServices backend w = adopted
  have hbusyAdopted : adopted.service.busy = false := hadopted ▸ hbusy
  obtain ⟨hrequest, hrow⟩ := showService_request backend hbusyAdopted
  generalize showService backend adopted = shown at hrequest hrow
  have hservices : shown.services = adopted.services := hrequest.field Window.services
  have hlist : shown.serviceList = adopted.serviceList := hrequest.field Window.serviceList
  refine ⟨?_, ?_, ?_, by rw [hrow, hlist], fun hrefreshed => ?_⟩
  · exact (hrequest.field fun v => (selections v).element).trans (hadopted ▸ rfl)
  · exact (hrequest.field fun v => (selections v).topic).trans (hadopted ▸ rfl)
  · exact (hrequest.field fun v => (selections v).parameter).trans (hadopted ▸ rfl)
  · have hfollow := adoptServices_follows backend hrefreshed hadopted
    rwa [← hrow, ← hservices] at hfollow

/-- The parameters are shown before the services are queried. -/
lemma refreshSucceeded_rebuilt (hbusy : w.service.busy = false) (hdirty : w.panel.dirty = false)
    (element : Option RuntimeIdentity) (topic previous : Option EndpointIdentity)
    (h : refreshSucceeded backend w element topic previous = w') :
    Anchored w' ∧ (w.discoveryRefreshed = true →
      Selections.Follow ⟨element, topic, previous, (selections w).service⟩ (selections w')) := by
  unfold refreshSucceeded at h
  have hplaced := adoptDiscovery_placed backend w element topic previous
  generalize hadopted : adoptDiscovery backend w element topic previous = adopted at h hplaced
  have hbusyAdopted : adopted.service.busy = false := hadopted ▸ hbusy
  have hdirtyAdopted : adopted.panel.dirty = false := hadopted ▸ hdirty
  have hrefreshedAdopted : adopted.discoveryRefreshed = w.discoveryRefreshed := hadopted ▸ rfl
  have hserviceAdopted : (selections adopted).service = (selections w).service := hadopted ▸ rfl
  obtain ⟨new, hext, hsound, -⟩ := showParameter_spec backend hbusyAdopted hdirtyAdopted hplaced
  have hform := showParameter_form backend hbusyAdopted hdirtyAdopted
  generalize showParameter backend adopted = shown at h hext hsound hform
  have hserved := updateServices_served backend (w := shown)
    ((hform.field fun v => v.service.busy).trans hbusyAdopted)
  subst h
  refine ⟨⟨rfl, hserved.row⟩, fun hrefreshed => ?_⟩
  have hrefreshedShown : shown.discoveryRefreshed = true :=
    (hform.field Window.discoveryRefreshed).trans (hrefreshedAdopted.trans hrefreshed)
  have helement : (selections shown).element = (selections adopted).element :=
    hform.field fun v => (selections v).element
  have htopic : (selections shown).topic = (selections adopted).topic :=
    hform.field fun v => (selections v).topic
  have hservice : (selections shown).service = (selections w).service :=
    (hform.field fun v => (selections v).service).trans hserviceAdopted
  have hparameter : (selections shown).parameter =
      rowIdentity adopted.parameters ParameterInfo.identity adopted.parameterList.current := by
    rw [selections, hsound.row, hext.list, hext.parameters]
  obtain ⟨helementFollows, htopicFollows, hparameterFollows⟩ :=
    adoptDiscovery_follows backend hrefreshed hadopted
  constructor
  · exact (hserved.elements.trans helement) ▸ helementFollows
  · exact (hserved.topics.trans htopic) ▸ htopicFollows
  · exact (hserved.parameters.trans hparameter) ▸ hparameterFollows
  · exact hservice ▸ hserved.service hrefreshedShown

lemma refresh_rebuilt (hbusy : w.service.busy = false) (hdirty : w.panel.dirty = false) :
    Rebuilt w (refresh backend w) := by
  unfold refresh
  rw [if_neg (by simp [hbusy]), if_neg (by simp [hdirty])]
  simp only
  generalize backend.refresh w.log.length = result
  generalize backend.connection w.log.length = connection
  generalize hnoted : (w.setPanel { w.panel with row := none }).note (.refresh result connection) = noted
  have hbusyNoted : noted.service.busy = false := hnoted ▸ hbusy
  have hdirtyNoted : noted.panel.dirty = false := hnoted ▸ hdirty
  split_ifs
  · obtain ⟨hanchored, hnone⟩ := refreshFailed_none backend hbusyNoted hdirtyNoted
    refine ⟨hanchored, fun _ => ?_⟩
    rw [hnone]
    exact ⟨.of_none rfl, .of_none rfl, .of_none rfl, .of_none rfl⟩
  · obtain ⟨hanchored, hfollow⟩ := refreshSucceeded_rebuilt backend hbusyNoted hdirtyNoted _ _ _ rfl
    refine ⟨hanchored, fun hrefreshed => ?_⟩
    have hservice : (selections noted).service = (selections w).service := hnoted ▸ rfl
    have hall := hfollow (hnoted ▸ hrefreshed)
    rw [hservice] at hall
    exact hall

end Refreshes

section Steps

lemma FormOnly.anchored (h : FormOnly w w') (hw : Anchored w) : Anchored w' :=
  ⟨(h.field Window.discoveryRefreshed).trans hw.refreshed,
    (h.field fun v => v.service.row).trans
      (hw.serviceRow.trans (h.field fun v => v.serviceList.current).symm)⟩

lemma RequestOnly.anchored (h : RequestOnly w w') (hrow : w'.service.row = w.serviceList.current)
    (hw : w.discoveryRefreshed = true) : Anchored w' :=
  ⟨(h.field Window.discoveryRefreshed).trans hw,
    hrow.trans (h.field fun v => v.serviceList.current).symm⟩

lemma setCurrentRow_anchored (hbusy : w.service.busy = false) (hs : Sound w) (hw : Anchored w) (tab : Tab)
    (row : Option ℕ) : Anchored (setCurrentRow backend w tab row) := by
  cases tab with
  | elements => exact ⟨hw.refreshed, hw.serviceRow⟩
  | topics => exact ⟨hw.refreshed, hw.serviceRow⟩
  | parameters =>
    unfold setCurrentRow
    simp only
    split_ifs
    · exact hw
    · by_cases hdirty : w.panel.dirty = true
      · rw [showParameter_dirty backend hbusy hdirty hs]
        exact hw
      · rw [Bool.not_eq_true] at hdirty
        have hform := showParameter_form backend
          (w := { w with parameterList := w.parameterList.setCurrentRow row }) hbusy hdirty
        exact hform.anchored ⟨hw.refreshed, hw.serviceRow⟩
  | services =>
    unfold setCurrentRow
    simp only
    split_ifs
    · exact hw
    · obtain ⟨hrequest, hrow⟩ := showService_request backend
        (w := { w with serviceList := w.serviceList.setCurrentRow row }) hbusy
      exact hrequest.anchored hrow hw.refreshed

lemma act_anchored (hbusy : w.service.busy = false) (hs : Sound w) (hw : Anchored w) (e : Event) :
    Anchored (act backend w e) := by
  have hopen : ∀ tab row, Anchored (openRow backend w tab row) := by
    intro tab row
    unfold openRow
    split_ifs
    · exact hw
    · exact setCurrentRow_anchored backend hbusy hs hw tab row
  have hbutton : ∀ (enabled : Bool) {w' : Window}, FormOnly w w' → Anchored (if enabled then w' else w) := by
    intro enabled w' h
    cases enabled
    · exact hw
    · exact h.anchored hw
  cases e with
  | refresh =>
    by_cases hdirty : w.panel.dirty = true
    · simpa [act, refresh, hbusy, hdirty] using hw
    · exact (refresh_rebuilt backend hbusy (Bool.not_eq_true _ ▸ hdirty)).toAnchored
  | pick tab row => exact setCurrentRow_anchored backend hbusy hs hw tab (some row)
  | openEndpoint tab row => exact hopen tab (some row)
  | openElement id => exact hopen .elements _
  | openTopic id => exact hopen .topics _
  | treeItem row => exact setCurrentRow_anchored backend hbusy hs hw .elements row
  | edit row text => exact (editParameter_form w row text).anchored hw
  | refreshValue => exact hbutton _ (refreshParameterValue_form backend w)
  | revert => exact hbutton _ (revertParameter_form w)
  | apply => exact hbutton _ (applyParameter_form backend w)
  | enter => exact hbutton _ (applyParameter_form backend w)
  | editRequest row text => exact ⟨hw.refreshed, hw.serviceRow⟩
  | call =>
    obtain ⟨hrequest, hrow⟩ := callService_request backend w
    exact hrequest.anchored (hrow.trans hw.serviceRow) hw.refreshed
  | finished => exact hw

/-- What holds in each reachable window. -/
structure Settled (w : Window) : Prop extends Sound w, Anchored w

lemma step_settled (hw : Settled w) (e : Event) : Settled (step backend w e) := by
  obtain ⟨new, h⟩ := step_advance backend hw.toSound e
  refine ⟨h.sound, ?_⟩
  unfold step
  split_ifs with hbusy
  · cases e with
    | finished => exact ⟨hw.refreshed, hw.serviceRow⟩
    | _ => exact hw.toAnchored
  · exact act_anchored backend (Bool.not_eq_true _ ▸ hbusy) hw.toSound hw.toAnchored e

lemma start_settled : Settled (start backend) :=
  ⟨(reached_start backend).toSound,
    (refresh_rebuilt backend (w := showParameter backend {}) rfl rfl).toAnchored⟩

lemma run_settled (hw : Settled w) (events : List Event) : Settled (run backend w events) :=
  Transitions.foldl_invariant (I := Settled) (fun _ e h => step_settled backend h e) events w hw

lemma step_refresh_follow (hw : Settled w) : (selections w).Follow (selections (step backend w .refresh)) := by
  unfold step
  split_ifs with hbusy
  · exact .refl _
  · rw [Bool.not_eq_true] at hbusy
    by_cases hdirty : w.panel.dirty = true
    · simpa [act, refresh, hbusy, hdirty] using Selections.Follow.refl (selections w)
    · exact (refresh_rebuilt backend hbusy (Bool.not_eq_true _ ▸ hdirty)).follow hw.refreshed

lemma refreshes_follow (hw : Settled w) (n : ℕ) :
    (selections w).Follow (selections (run backend w (List.replicate n .refresh))) := by
  induction n generalizing w with
  | zero => exact .refl _
  | succ n ih => exact (step_refresh_follow backend hw).trans (ih (step_settled backend hw .refresh))

/-- After each Refresh but the first, what is selected is what was selected before, or nothing; the forms of
the parameters and of the services show what their lists select. -/
theorem selections_follow_identity (events : List Event) (n : ℕ) :
    let w := run backend (start backend) events
    let w' := run backend w (List.replicate n .refresh)
    (selections w).Follow (selections w') ∧
      w'.panel.row = w'.parameterList.current ∧ w'.service.row = w'.serviceList.current := by
  intro w w'
  have hw : Settled w := run_settled backend (start_settled backend) events
  have hw' : Settled w' := run_settled backend hw _
  exact ⟨refreshes_follow backend hw n, hw'.row, hw'.serviceRow⟩

/-- After the first Refresh, the owner's PID is another process. -/
def reusedPid : ToolBackend :=
  { gainBackend with
    parameters := fun n => if n = 2 then [gain] else [{ gain with identity := ⟨⟨7, 2⟩, 3⟩ }] }

example : (selections (start reusedPid)).parameter = some ⟨⟨7, 1⟩, 3⟩ ∧
    (selections (run reusedPid (start reusedPid) [.refresh])).parameter = none := ⟨rfl, rfl⟩

end Steps

end KcfTools.MainWindow
