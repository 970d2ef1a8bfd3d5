import KcfTools.Backend.EchoSessions
import KcfTools.Ui.LocalTabs
import KcfTools.Ui.Selections

/-! The calls of the local window: nothing is called while a service call runs, and the backend reads the topic
whose echo is shown. -/

namespace KcfTools.MainWindow

variable (backend : ToolBackend) {w w' : Window}

section Lists

/-- The lists with their texts; their rows may have changed. -/
structure SameLists (w w' : Window) : Prop where
  elements : w'.elements = w.elements
  topics : w'.topics = w.topics
  parameters : w'.parameters = w.parameters
  services : w'.services = w.services
  elementItems : w'.elementList.items = w.elementList.items
  topicItems : w'.topicList.items = w.topicList.items
  parameterItems : w'.parameterList.items = w.parameterList.items
  serviceItems : w'.serviceList.items = w.serviceList.items

lemma SameLists.refl (w : Window) : SameLists w w := ⟨rfl, rfl, rfl, rfl, rfl, rfl, rfl, rfl⟩

lemma FormOnly.sameLists (h : FormOnly w w') : SameLists w w' :=
  ⟨h.field Window.elements, h.field Window.topics, h.field Window.parameters, h.field Window.services,
    h.field fun v => v.elementList.items, h.field fun v => v.topicList.items,
    h.field fun v => v.parameterList.items, h.field fun v => v.serviceList.items⟩

lemma RequestOnly.sameLists (h : RequestOnly w w') : SameLists w w' :=
  ⟨h.field Window.elements, h.field Window.topics, h.field Window.parameters, h.field Window.services,
    h.field fun v => v.elementList.items, h.field fun v => v.topicList.items,
    h.field fun v => v.parameterList.items, h.field fun v => v.serviceList.items⟩

/-- A service call has begun. -/
def Begins (w w' : Window) : Prop := ∃ id request, w'.service.busy = true ∧
  w'.log = .call id request :: .validateService id request 0 :: w.log

/-- What an event does that is not a Refresh. -/
structure Handled (w w' : Window) : Prop where
  lists : SameLists w w'
  busy : w'.service.busy = false ∨ Begins w w' ∧ w'.topicList.current = w.topicList.current

lemma Handled.refl (hbusy : w.service.busy = false) : Handled w w := ⟨.refl w, .inl hbusy⟩

lemma FormOnly.handled (h : FormOnly w w') (hbusy : w.service.busy = false) : Handled w w' :=
  ⟨h.sameLists, .inl ((h.field fun v => v.service.busy).trans hbusy)⟩

lemma showService_busy (hbusy : w.service.busy = false) : (showService backend w).service.busy = false := by
  unfold showService
  rw [if_neg (by simp [hbusy])]
  simp only
  split
  · rfl
  · split_ifs <;> rfl

lemma setCurrentRow_handled (hbusy : w.service.busy = false) (tab : Tab) (row : Option ℕ) :
    Handled w (setCurrentRow backend w tab row) := by
  cases tab with
  | elements => exact ⟨⟨rfl, rfl, rfl, rfl, rfl, rfl, rfl, rfl⟩, .inl hbusy⟩
  | topics => exact ⟨⟨rfl, rfl, rfl, rfl, rfl, rfl, rfl, rfl⟩, .inl hbusy⟩
  | parameters =>
    unfold setCurrentRow
    simp only
    split_ifs
    · exact .refl hbusy
    · by_cases hdirty : w.panel.dirty = true
      · have hback : showParameter backend { w with parameterList := w.parameterList.setCurrentRow row } =
            { w with parameterList := (w.parameterList.setCurrentRow row).setCurrentRow w.panel.row } := by
          unfold showParameter
          rw [if_neg (by simp [hbusy]), if_pos hdirty]
        rw [hback]
        exact ⟨⟨rfl, rfl, rfl, rfl, rfl, rfl, rfl, rfl⟩, .inl hbusy⟩
      · rw [Bool.not_eq_true] at hdirty
        have hform := showParameter_form backend
          (w := { w with parameterList := w.parameterList.setCurrentRow row }) hbusy hdirty
        obtain ⟨he, ht, hp, hs, hei, hti, hpi, hsi⟩ := hform.sameLists
        exact ⟨⟨he, ht, hp, hs, hei, hti, hpi, hsi⟩, .inl ((hform.field fun v => v.service.busy).trans hbusy)⟩
  | services =>
    unfold setCurrentRow
    simp only
    split_ifs
    · exact .refl hbusy
    · obtain ⟨hrequest, -⟩ := showService_request backend
        (w := { w with serviceList := w.serviceList.setCurrentRow row }) hbusy
      obtain ⟨he, ht, hp, hs, hei, hti, hpi, hsi⟩ := hrequest.sameLists
      exact ⟨⟨he, ht, hp, hs, hei, hti, hpi, hsi⟩, .inl (showService_busy backend hbusy)⟩

lemma callService_handled (hbusy : w.service.busy = false) : Handled w (callService backend w) := by
  have hlists := (callService_request backend w).1.sameLists
  refine ⟨hlists, ?_⟩
  unfold callService
  split_ifs
  · exact .inl hbusy
  · cases service w with
    | none => exact .inl hbusy
    | some s =>
      simp only
      generalize editedFields w.service.template w.service.inputs w.service.rows = request
      generalize backend.validateService w.log.length s.identity request = result
      split_ifs with hr
      · exact .inl hbusy
      · obtain rfl := not_not.mp hr
        exact .inr ⟨⟨s.identity, request, rfl, rfl⟩, rfl⟩

lemma act_handled (hbusy : w.service.busy = false) {e : Event} (he : e ≠ .refresh) :
    Handled w (act backend w e) := by
  have hopen : ∀ tab row, Handled w (openRow backend w tab row) := by
    intro tab row
    unfold openRow
    split_ifs
    · exact .refl hbusy
    · exact setCurrentRow_handled backend hbusy tab row
  have hbutton : ∀ (enabled : Bool) {w' : Window}, FormOnly w w' → Handled w (if enabled then w' else w) := by
    intro enabled w' h
    cases enabled
    · exact .refl hbusy
    · exact h.handled hbusy
  cases e with
  | refresh => exact absurd rfl he
  | pick tab row => exact setCurrentRow_handled backend hbusy tab (some row)
  | openEndpoint tab row => exact hopen tab (some row)
  | openElement id => exact hopen .elements _
  | openTopic id => exact hopen .topics _
  | treeItem row => exact setCurrentRow_handled backend hbusy .elements row
  | edit row text => exact (editParameter_form w row text).handled hbusy
  | refreshValue => exact hbutton _ (refreshParameterValue_form backend w)
  | revert => exact hbutton _ (revertParameter_form w)
  | apply => exact hbutton _ (applyParameter_form backend w)
  | enter => exact hbutton _ (applyParameter_form backend w)
  | editRequest row text => exact ⟨⟨rfl, rfl, rfl, rfl, rfl, rfl, rfl, rfl⟩, .inl hbusy⟩
  | call => exact callService_handled backend hbusy
  | finished => exact .refl hbusy

/-- What a Refresh brings. -/
lemma refresh_busy (hbusy : w.service.busy = false) (hdirty : w.panel.dirty = false) :
    (refresh backend w).service.busy = false := by
  have hshow : ∀ v : Window, v.service.busy = false → v.panel.dirty = false →
      (showParameter backend v).service.busy = false := fun v hb hd =>
    ((showParameter_form backend hb hd).field fun u => u.service.busy).trans hb
  unfold refresh
  rw [if_neg (by simp [hbusy]), if_neg (by simp [hdirty])]
  simp only
  split_ifs
  · unfold refreshFailed
    exact showService_busy backend (hshow _ hbusy hdirty)
  · unfold refreshSucceeded updateServices
    exact showService_busy backend (hshow _ hbusy hdirty)

end Lists

end KcfTools.MainWindow

namespace KcfTools.LocalTabs

open MainWindow (Window Effect Handled)
open EchoView (View ShownTopic)
open Transitions

variable {backend : Backend} {t t' : Tabs} {v v' : View}

section Views

/-- The topics and the row stay, and so does the service call. -/
structure Kept (v v' : View) : Prop where
  topics : v'.topics = v.topics
  row : v'.row = v.row
  busy : v'.serviceBusy = v.serviceBusy

lemma Kept.topic (h : Kept v v') : EchoView.topic v' = EchoView.topic v := by
  unfold EchoView.topic
  rw [h.topics, h.row]

lemma failEcho_kept (v : View) (result : ℤ) : Kept v (EchoView.failEcho v result) := ⟨rfl, rfl, rfl⟩

lemma showTopic_kept (v : View) (result : ℤ) : Kept v (EchoView.showTopic v result) := by
  unfold EchoView.showTopic
  split
  · exact ⟨rfl, rfl, rfl⟩
  · simp only
    split
    · exact ⟨rfl, rfl, rfl⟩
    · split_ifs <;> exact ⟨rfl, rfl, rfl⟩

lemma showTopic_stopped (hbusy : v.serviceBusy = false) (result : ℤ) :
    (EchoView.showTopic v result).timer = false ∧ (EchoView.showTopic v result).stopEnabled = false := by
  unfold EchoView.showTopic
  rw [if_neg (by simp [hbusy])]
  simp only
  split
  · exact ⟨rfl, rfl⟩
  · split_ifs <;> exact ⟨rfl, rfl⟩

lemma showSample_kept (v : View) (snapshot : DataSnapshot) (now : ℤ) :
    Kept v (EchoView.showSample v snapshot now) ∧
    (EchoView.showSample v snapshot now).timer = v.timer ∧
      (EchoView.showSample v snapshot now).stopEnabled = v.stopEnabled := by
  unfold EchoView.showSample
  simp only
  split <;> exact ⟨⟨rfl, rfl, rfl⟩, rfl, rfl⟩

/-- A poll goes on as long as the backend has a session. -/
lemma pollEcho_kept (hbusy : v.serviceBusy = false) (htimer : v.timer = true) (read : ℤ × DataSnapshot)
    (now : ℤ) :
    Kept v (EchoView.pollEcho v read now) ∧
      if read.1 = 0 ∨ read.1 = EchoView.eagain then (EchoView.pollEcho v read now).timer = v.timer ∧
        (EchoView.pollEcho v read now).stopEnabled = v.stopEnabled
      else (EchoView.pollEcho v read now).timer = false ∧
        (EchoView.pollEcho v read now).stopEnabled = false := by
  unfold EchoView.pollEcho
  rw [if_neg (by simp [hbusy]), if_neg (by simp [htimer])]
  by_cases hagain : read.1 = EchoView.eagain
  · rw [if_pos hagain, if_pos (.inr hagain)]
    exact ⟨⟨rfl, rfl, rfl⟩, rfl, rfl⟩
  · rw [if_neg hagain]
    by_cases h0 : read.1 = 0
    · rw [if_neg (by simp [h0]), if_pos (.inl h0)]
      exact showSample_kept v read.2 now
    · rw [if_pos h0, if_neg (by simp [h0, hagain])]
      exact ⟨failEcho_kept v _, rfl, rfl⟩

end Views

section Calls

/-- What a call means for the backend's echo session. -/
def Call.echo? : Call → Option (Sessions.Call EndpointIdentity × ℤ)
  | .refresh result => some (.refresh, result)
  | .startTopicEcho id result => some (.start id, result)
  | .readTopicEcho result => some (.read, result)
  | .stopTopicEcho => some (.stop, 0)
  | _ => none

/-- The topic that the backend reads after the calls. -/
def session (calls : List Call) : Option EndpointIdentity :=
  (calls.filterMap Call.echo?).foldr (fun c held => c.1.follow EchoView.eagain c.2 held) none

variable {calls new : List Call} {c : Call}

@[simp] lemma session_stop : session (.stopTopicEcho :: calls) = none := rfl

@[simp] lemma session_start (id : EndpointIdentity) (result : ℤ) :
    session (.startTopicEcho id result :: calls) = if result = 0 then some id else none := rfl

@[simp] lemma session_read (result : ℤ) : session (.readTopicEcho result :: calls) =
    if result = 0 ∨ result = EchoView.eagain then session calls else none := rfl

lemma session_silent (h : ∀ c ∈ new, c.echo? = none) : session (new ++ calls) = session calls := by
  unfold session
  rw [List.filterMap_append, List.filterMap_eq_nil_iff.mpr h, List.nil_append]

/-- A call that the window makes itself. -/
def Call.Own : Call → Prop
  | .callService _ _ => False
  | .returned _ => False
  | _ => True

def Open (calls : List Call) : Prop := ∃ id request before, calls = .callService id request :: before

/-- A service call comes right after its request was validated and the echo stopped, and nothing comes between
it and its return. -/
inductive Exclusive : List Call → Prop
  | nil : Exclusive []
  | own {c : Call} {calls : List Call} (hc : c.Own) (ho : ¬ Open calls) : Exclusive calls →
    Exclusive (c :: calls)
  | begins {id request before} : Exclusive (.stopTopicEcho :: .form (.validateService id request 0) :: before) →
      Exclusive (.callService id request :: .stopTopicEcho :: .form (.validateService id request 0) :: before)
  | returns {status id request before} : Exclusive (.callService id request :: before) →
      Exclusive (.returned status :: .callService id request :: before)

lemma not_open (hc : c.Own) : ¬ Open (c :: calls) := by
  rintro ⟨id, request, before, h⟩
  rw [(List.cons.inj h).1] at hc
  exact hc

lemma Exclusive.append (h : Exclusive calls) (ho : ¬ Open calls) (hnew : ∀ c ∈ new, c.Own) :
    Exclusive (new ++ calls) ∧ ¬ Open (new ++ calls) := by
  induction new with
  | nil => exact ⟨h, ho⟩
  | cons c new ih =>
    obtain ⟨hrest, hopen⟩ := ih fun d hd => hnew d (List.mem_cons_of_mem c hd)
    have hc := hnew c List.mem_cons_self
    exact ⟨.own hc hopen hrest, not_open hc⟩

lemma Exclusive.around (h : Exclusive calls) {after before : List Call} {id : EndpointIdentity}
    {request : DataSnapshot} (heq : calls = after ++ .callService id request :: before) :
    (∃ earlier, before = .stopTopicEcho :: .form (.validateService id request 0) :: earlier) ∧
      (after = [] ∨ ∃ later status, after = later ++ [.returned status]) := by
  induction h generalizing after with
  | nil => simp at heq
  | @own c calls hc ho _ ih =>
    cases after with
    | nil =>
      rw [(List.cons.inj heq).1] at hc
      exact hc.elim
    | cons d after =>
      obtain ⟨-, heq⟩ := List.cons.inj heq
      obtain ⟨hbefore, hafter⟩ := ih heq
      refine ⟨hbefore, .inr ?_⟩
      rcases hafter with rfl | ⟨later, status, rfl⟩
      · exact absurd ⟨id, request, before, heq⟩ ho
      · exact ⟨d :: later, status, rfl⟩
  | @begins id' request' before' _ ih =>
    cases after with
    | nil =>
      obtain ⟨hcall, rfl⟩ := List.cons.inj heq
      obtain ⟨rfl, rfl⟩ := Call.callService.inj hcall
      exact ⟨⟨_, rfl⟩, .inl rfl⟩
    | cons d after =>
      obtain ⟨-, heq⟩ := List.cons.inj heq
      obtain ⟨hbefore, hafter⟩ := ih heq
      refine ⟨hbefore, .inr ?_⟩
      rcases hafter with rfl | ⟨later, status, rfl⟩
      · cases (List.cons.inj heq).1
      · exact ⟨d :: later, status, rfl⟩
  | @returns status id' request' before' _ ih =>
    cases after with
    | nil => cases (List.cons.inj heq).1
    | cons d after =>
      obtain ⟨hd, heq⟩ := List.cons.inj heq
      obtain ⟨hbefore, hafter⟩ := ih heq
      refine ⟨hbefore, .inr ?_⟩
      rcases hafter with rfl | ⟨later, status', rfl⟩
      · exact ⟨[], status, congrArg (· :: []) hd.symm⟩
      · exact ⟨d :: later, status', rfl⟩

lemma performed_own (before after : Window) : ∀ c ∈ performed before after, c.Own ∧ c.echo? = none := by
  intro c hc
  obtain ⟨e, -, he⟩ := List.mem_filterMap.mp hc
  cases e <;> simp only [Effect.call?, Option.some.injEq, reduceCtorEq] at he <;> subst he <;>
    exact ⟨trivial, rfl⟩

lemma performed_self (w : Window) : performed w w = [] := by
  unfold performed
  rw [Nat.sub_self]
  rfl

end Calls

section Agreement

/-- The topic whose echo is shown. -/
def playing (v : View) : Option EndpointIdentity :=
  if v.timer then (EchoView.topic v).map fun topic => topic.info.identity else none

/-- The echo shows the topics of the window, and the backend reads the one whose echo is shown. -/
structure Agreed (t : Tabs) : Prop where
  busy : t.view.serviceBusy = t.window.service.busy
  topics : t.view.topics.map ShownTopic.info = t.window.topics
  row : t.view.row = t.window.topicList.current
  stopping : t.view.stopEnabled = t.view.timer
  quiet : t.view.timer → t.window.service.busy = false
  session : session t.calls = playing t.view

/-- The window has made calls of its own. -/
structure Speaks (t t' : Tabs) : Prop where
  calls : ∃ new, t'.calls = new ++ t.calls ∧ ∀ c ∈ new, c.Own
  worker : t'.worker = t.worker

lemma Speaks.refl (t : Tabs) : Speaks t t := ⟨⟨[], rfl, by simp⟩, rfl⟩

lemma Speaks.trans {t₁ t₂ t₃ : Tabs} (h : Speaks t₁ t₂) (h' : Speaks t₂ t₃) : Speaks t₁ t₃ := by
  obtain ⟨new, hl, hn⟩ := h.calls
  obtain ⟨more, hl', hn'⟩ := h'.calls
  refine ⟨⟨more ++ new, by rw [hl', hl, List.append_assoc], fun c hc => ?_⟩, h'.worker.trans h.worker⟩
  exact (List.mem_append.mp hc).elim (hn' c) (hn c)

/-- The echo is off. -/
lemma agreed_off (hbusy : t.view.serviceBusy = t.window.service.busy)
    (htopics : t.view.topics.map ShownTopic.info = t.window.topics)
    (hrow : t.view.row = t.window.topicList.current) (htimer : t.view.timer = false)
    (hstop : t.view.stopEnabled = false) (hs : session t.calls = none) : Agreed t where
  busy := hbusy
  topics := htopics
  row := hrow
  stopping := hstop.trans htimer.symm
  quiet h := by simp [htimer] at h
  session := by
    rw [hs, playing, if_neg (by simp [htimer])]

lemma stopEcho_speaks (t : Tabs) : Speaks t (stopEcho t) :=
  ⟨⟨[.stopTopicEcho], rfl, fun _ hc => List.mem_singleton.mp hc ▸ trivial⟩, rfl⟩

lemma Agreed.stopEcho (h : Agreed t) : Agreed (stopEcho t) := agreed_off h.busy h.topics h.row rfl rfl rfl

lemma showTopic_speaks (t : Tabs) : Speaks t (showTopic backend t) ∧
    (showTopic backend t).window = t.window := by
  unfold showTopic
  split_ifs
  · exact ⟨.refl t, rfl⟩
  · cases tried t.view with
    | none => exact ⟨⟨⟨[.stopTopicEcho], rfl, fun c hc => List.mem_singleton.mp hc ▸ trivial⟩, rfl⟩, rfl⟩
    | some id =>
      refine ⟨⟨⟨[.stopTopicEcho, .startTopicEcho id _, .stopTopicEcho], rfl, fun c hc => ?_⟩, rfl⟩, rfl⟩
      simp only [List.mem_cons, List.not_mem_nil, or_false] at hc
      rcases hc with rfl | rfl | rfl <;> trivial

lemma agreed_showTopic (hbusy : t.window.service.busy = false) (hview : t.view.serviceBusy = false)
    (htopics : t.view.topics.map ShownTopic.info = t.window.topics)
    (hrow : t.view.row = t.window.topicList.current) :
    Agreed (showTopic backend t) := by
  unfold showTopic
  rw [if_neg (by simp [hbusy])]
  cases tried t.view with
  | none =>
    obtain ⟨ht, hr, hb⟩ := showTopic_kept t.view 0
    obtain ⟨htimer, hstop⟩ := showTopic_stopped hview 0
    exact agreed_off (hb.trans (hview.trans hbusy.symm)) ((congrArg _ ht).trans htopics) (hr.trans hrow) htimer
      hstop rfl
  | some id =>
    obtain ⟨ht, hr, hb⟩ := showTopic_kept t.view (backend.startTopicEcho (t.calls.length + 1) id)
    obtain ⟨htimer, hstop⟩ := showTopic_stopped hview (backend.startTopicEcho (t.calls.length + 1) id)
    exact agreed_off (hb.trans (hview.trans hbusy.symm)) ((congrArg _ ht).trans htopics) (hr.trans hrow) htimer
      hstop rfl

lemma pollEcho_speaks (t : Tabs) : Speaks t (pollEcho backend t) ∧ (pollEcho backend t).window = t.window := by
  unfold pollEcho
  simp only
  split_ifs
  · exact ⟨.refl t, rfl⟩
  · exact ⟨⟨⟨[.readTopicEcho _], rfl, fun c hc => List.mem_singleton.mp hc ▸ trivial⟩, rfl⟩, rfl⟩
  · refine ⟨⟨⟨[.stopTopicEcho, .readTopicEcho _], rfl, fun c hc => ?_⟩, rfl⟩, rfl⟩
    simp only [List.mem_cons, List.not_mem_nil, or_false] at hc
    rcases hc with rfl | rfl <;> trivial

lemma Agreed.pollEcho (h : Agreed t) : Agreed (pollEcho backend t) := by
  unfold LocalTabs.pollEcho
  split_ifs with hno
  · exact h
  rw [not_or, not_not, Bool.not_eq_true] at hno
  obtain ⟨hbusy, htimer⟩ := hno
  obtain ⟨hkept, hgoes⟩ := pollEcho_kept hbusy htimer (backend.readTopicEcho t.calls.length)
    (backend.clock t.calls.length)
  simp only
  split_ifs at hgoes ⊢ with hread
  · obtain ⟨ht, hs⟩ := hgoes
    refine ⟨hkept.busy.trans h.busy, (congrArg _ hkept.topics).trans h.topics, hkept.row.trans h.row,
      hs.trans (h.stopping.trans ht.symm), fun _ => h.quiet htimer, ?_⟩
    rw [session_read, if_pos hread, h.session]
    unfold playing
    rw [ht, hkept.topic]
  · exact agreed_off (hkept.busy.trans h.busy) ((congrArg _ hkept.topics).trans h.topics)
      (hkept.row.trans h.row)
      hgoes.1 hgoes.2 rfl

lemma startEcho_speaks (t : Tabs) : Speaks t (startEcho backend t) ∧
    (startEcho backend t).window = t.window := by
  unfold startEcho
  split_ifs
  · exact ⟨.refl t, rfl⟩
  · cases EchoView.topic t.view with
    | none => exact ⟨.refl t, rfl⟩
    | some topic =>
      simp only
      split_ifs
      · refine ⟨⟨⟨[.stopTopicEcho, .startTopicEcho _ _], rfl, fun c hc => ?_⟩, rfl⟩, rfl⟩
        simp only [List.mem_cons, List.not_mem_nil, or_false] at hc
        rcases hc with rfl | rfl <;> trivial
      · let begun : Tabs := { t with
          view := EchoView.beginEcho t.view topic
          calls := .startTopicEcho topic.info.identity
            (backend.startTopicEcho t.calls.length topic.info.identity) ::
            t.calls }
        have hbegun : Speaks t begun :=
          ⟨⟨[.startTopicEcho _ _], rfl, fun c hc => List.mem_singleton.mp hc ▸ trivial⟩, rfl⟩
        obtain ⟨hs, hw⟩ := @pollEcho_speaks backend begun
        exact ⟨hbegun.trans hs, hw⟩

lemma Agreed.startEcho (h : Agreed t) : Agreed (startEcho backend t) := by
  unfold LocalTabs.startEcho
  split_ifs with hno
  · exact h
  rw [not_or, Bool.not_eq_true] at hno
  cases htopic : EchoView.topic t.view with
  | none => exact h
  | some topic =>
    simp only
    split_ifs with hr
    · exact agreed_off h.busy h.topics h.row rfl rfl rfl
    · rw [not_not] at hr
      refine Agreed.pollEcho ⟨h.busy, h.topics, h.row, rfl, fun _ => h.busy.symm.trans hno.1, ?_⟩
      rw [session_start, if_pos hr]
      change _ = Option.map _ (EchoView.topic t.view)
      rw [htopic]
      rfl

end Agreement

section Steps

/-- Where the thread of a service call stands. -/
def Worker.Fits : Worker → Bool → List Call → Prop
  | .idle, busy, calls => busy = false ∧ ¬ Open calls
  | .created id request, busy, calls => busy = true ∧
    ∃ before, calls = .stopTopicEcho :: .form (.validateService id request 0) :: before
  | .calling id request, busy, calls => busy = true ∧ ∃ before, calls = .callService id request :: before
  | .returned status, busy, calls => busy = true ∧ ∃ before, calls = .returned status :: before

structure Settled (t : Tabs) : Prop where
  agreed : Agreed t
  worker : t.worker.Fits t.window.service.busy t.calls
  exclusive : Exclusive t.calls

/-- No service call runs. -/
structure Idle (t : Tabs) : Prop where
  busy : t.window.service.busy = false
  worker : t.worker = .idle
  free : ¬ Open t.calls
  exclusive : Exclusive t.calls

lemma Settled.idle (h : Settled t) (hbusy : t.window.service.busy = false) : Idle t := by
  have hw := h.worker
  cases hworker : t.worker with
  | idle =>
    rw [hworker] at hw
    exact ⟨hbusy, hworker, hw.2, h.exclusive⟩
  | _ =>
    rw [hworker, hbusy] at hw
    cases hw.1

lemma Idle.speaks (h : Idle t) (hs : Speaks t t') (ha : Agreed t') (hbusy : t'.window.service.busy = false) :
    Settled t' := by
  obtain ⟨new, hl, hn⟩ := hs.calls
  obtain ⟨he, ho⟩ := h.exclusive.append h.free hn
  refine ⟨ha, ?_, hl ▸ he⟩
  rw [hs.worker, h.worker, hl]
  exact ⟨hbusy, ho⟩

/-- The window goes on while no service call runs. -/
lemma Settled.speaks (h : Settled t) (hbusy : t.window.service.busy = false) (hs : Speaks t t') (ha : Agreed t')
    (hbusy' : t'.window.service.busy = false) : Settled t' := (h.idle hbusy).speaks hs ha hbusy'

lemma adopt_speaks (t : Tabs) (w : Window) : Speaks t (adopt t w) :=
  ⟨⟨performed t.window w, rfl, fun c hc => (performed_own t.window w c hc).1⟩, rfl⟩

lemma session_adopt (t : Tabs) (w : Window) : session (adopt t w).calls = session t.calls :=
  session_silent fun c hc => (performed_own t.window w c hc).2

lemma Agreed.adopt (h : Agreed t) {w : Window} (hbusy : w.service.busy = t.window.service.busy)
    (htopics : w.topics = t.window.topics) (hrow : w.topicList.current = t.window.topicList.current) :
    Agreed (adopt t w) where
  busy := h.busy.trans hbusy.symm
  topics := h.topics.trans htopics.symm
  row := h.row.trans hrow.symm
  stopping := h.stopping
  quiet ht := hbusy.trans (h.quiet ht)
  session := (session_adopt t w).trans h.session

lemma step_idle (hbusy : t.window.service.busy = false) (e : MainWindow.Event) :
    MainWindow.step backend.toToolBackend t.window e = MainWindow.act backend.toToolBackend t.window e := by
  unfold MainWindow.step
  rw [if_neg (by simp [hbusy])]

lemma step_busy (hbusy : t.window.service.busy = true) {e : MainWindow.Event} (he : e ≠ .finished) :
    MainWindow.step backend.toToolBackend t.window e = t.window := by
  unfold MainWindow.step
  rw [if_pos hbusy]
  cases e with
  | finished => exact absurd rfl he
  | _ => rfl

lemma step_handled (hbusy : t.window.service.busy = false) {e : MainWindow.Event}
    (hr : ¬ refreshes t e = true) :
    Handled t.window (MainWindow.step backend.toToolBackend t.window e) := by
  rw [step_idle hbusy]
  by_cases hrefresh : e = .refresh
  · have hdirty : t.window.panel.dirty = true := by
      subst hrefresh
      simpa [refreshes, hbusy] using hr
    have hno : MainWindow.refresh backend.toToolBackend t.window = t.window := by
      unfold MainWindow.refresh
      rw [if_neg (by simp [hbusy]), if_pos hdirty]
    rw [hrefresh]
    change Handled t.window (MainWindow.refresh backend.toToolBackend t.window)
    rw [hno]
    exact .refl hbusy
  · exact MainWindow.act_handled _ hbusy hrefresh

lemma settled_refresh (h : Idle t) (hview : t.view.serviceBusy = false)
    (hdirty : t.window.panel.dirty = false) :
    Settled (refresh backend t) := by
  have hbusy := h.busy
  have hw : (MainWindow.step backend.toToolBackend t.window .refresh).service.busy = false := by
    rw [step_idle hbusy]
    exact MainWindow.refresh_busy _ hbusy hdirty
  unfold LocalTabs.refresh
  simp only
  generalize MainWindow.step backend.toToolBackend t.window .refresh = w at hw
  generalize htopics :
    (w.topics.map fun topic => { backend.figures t.calls.length topic with info := topic }) = topics
  have hinfo : topics.map ShownTopic.info = w.topics := by
    rw [← htopics, List.map_map]
    exact List.map_id _
  generalize backend.refresh t.window.log.length = result
  have hbegun : Speaks t (adoptRefresh t result w topics) := by
    refine ⟨⟨[.refresh result, .stopTopicEcho], rfl, fun c hc => ?_⟩, rfl⟩
    simp only [List.mem_cons, List.not_mem_nil, or_false] at hc
    rcases hc with rfl | rfl <;> trivial
  obtain ⟨hs, hwindow⟩ := @showTopic_speaks backend (adoptRefresh t result w topics)
  have hagreed : Agreed (showTopic backend (adoptRefresh t result w topics)) :=
    agreed_showTopic hw hview hinfo rfl
  generalize showTopic backend (adoptRefresh t result w topics) = shown at hs hwindow hagreed
  have hforms := performed_own t.window w
  obtain ⟨new, hl, hn⟩ := (hbegun.trans hs).calls
  have hbusy' : shown.window.service.busy = false := (congrArg (fun v => v.service.busy) hwindow).trans hw
  refine h.speaks ⟨⟨performed t.window w ++ new, ?_, fun c hc => ?_⟩, hs.worker⟩ ?_ hbusy'
  · rw [hl, List.append_assoc]
  · exact (List.mem_append.mp hc).elim (fun hc => (hforms c hc).1) (hn c)
  · refine ⟨hagreed.busy, hagreed.topics, hagreed.row, hagreed.stopping, hagreed.quiet, ?_⟩
    exact (session_silent fun c hc => (hforms c hc).2).trans hagreed.session

lemma begun_idle {w w' : Window} (h : w'.service.busy = false) :
    begun w w' = none := if_pos (.inr (by simp [h]))

lemma begun_begins {w w' : Window} (hbusy : w.service.busy = false) (h : MainWindow.Begins w w') :
    ∃ id request, begun w w' = some (id, request) ∧
    performed w w' = [.form (.validateService id request 0)] := by
  obtain ⟨id, request, hb, hlog⟩ := h
  refine ⟨id, request, ?_, ?_⟩
  · unfold begun
    rw [if_neg (by simp [hbusy, hb]), hlog]
    rfl
  · unfold performed
    rw [hlog, List.length_cons, List.length_cons, show w.log.length + 1 + 1 - w.log.length = 2 by omega]
    rfl

lemma settled_gui (h : Settled t) {e : MainWindow.Event} (he : e ≠ .finished) : Settled (gui backend t e) := by
  by_cases hbusy : t.window.service.busy = true
  · -- every handler of the window waits for the end of the service call
    have hstep : MainWindow.step backend.toToolBackend t.window e = t.window := step_busy hbusy he
    have hrefreshes : refreshes t e = false := by
      cases e <;> simp [refreshes, hbusy]
    unfold gui
    rw [hrefreshes, hstep]
    have hbegun : begun t.window t.window = none := if_pos (.inl hbusy)
    simp only [hbegun, Bool.false_eq_true, if_false, if_true]
    have hadopt : adopt t t.window = t := by
      unfold adopt
      rw [performed_self, if_pos rfl]
      rfl
    exact hadopt.symm ▸ h
  rw [Bool.not_eq_true] at hbusy
  unfold gui
  by_cases hr : refreshes t e = true
  · rw [if_pos hr]
    have hdirty : t.window.panel.dirty = false := by
      cases e <;> simp_all [refreshes]
    exact settled_refresh (h.idle hbusy) (h.agreed.busy.trans hbusy) hdirty
  rw [if_neg hr]
  have hhandled : Handled t.window (MainWindow.step backend.toToolBackend t.window e) := step_handled hbusy hr
  simp only
  generalize MainWindow.step backend.toToolBackend t.window e = w at hhandled
  rcases hhandled.busy with hw | ⟨hb, hrow⟩
  · rw [begun_idle hw]
    simp only
    split_ifs with hrow
    · have hagreed := h.agreed.adopt (hw.trans hbusy.symm) hhandled.lists.topics hrow
      exact h.speaks hbusy (adopt_speaks t w) hagreed hw
    · obtain ⟨hs, hwindow⟩ := @showTopic_speaks backend
        { adopt t w with view := { (adopt t w).view with row := w.topicList.current } }
      have hadopt : Speaks t { adopt t w with view := { (adopt t w).view with row := w.topicList.current } } :=
        ⟨(adopt_speaks t w).calls, (adopt_speaks t w).worker⟩
      refine h.speaks hbusy (hadopt.trans hs) ?_ ((congrArg (fun v => v.service.busy) hwindow).trans hw)
      exact agreed_showTopic hw (h.agreed.busy.trans hbusy)
        (h.agreed.topics.trans hhandled.lists.topics.symm) rfl
  · have hbusy' : w.service.busy = true := by
      obtain ⟨_, _, hw, -⟩ := hb
      exact hw
    obtain ⟨id, request, hbegun, hperformed⟩ := begun_begins hbusy hb
    have ho := (h.idle hbusy).free
    rw [hbegun]
    simp only
    have hcalls : (beginCall t w id request).calls =
        .stopTopicEcho :: .form (.validateService id request 0) :: t.calls := by
      change .stopTopicEcho :: (performed t.window w ++ t.calls) = _
      rw [hperformed]
      rfl
    refine ⟨⟨?_, ?_, ?_, rfl, by simp [beginCall, stopEcho, EchoView.stopEcho, View.note], ?_⟩,
      ⟨hbusy', t.calls, hcalls⟩, ?_⟩
    · exact hbusy'.symm
    · exact h.agreed.topics.trans hhandled.lists.topics.symm
    · exact h.agreed.row.trans hrow.symm
    · rw [hcalls]
      rfl
    · rw [hcalls]
      have hvalidated := Exclusive.own (c := .form (.validateService id request 0)) trivial ho h.exclusive
      exact .own trivial (not_open trivial) hvalidated

lemma settled_next (h : Settled t) (e : Event) : Settled (next backend t e) := by
  cases e with
  | window e =>
    simp only [next]
    split_ifs with hd
    · exact settled_gui h fun he => by simp [he, direct] at hd
    · exact h
  | endpoint k =>
    simp only [next]
    split
    · exact h
    · exact settled_gui h (by simp)
  | tree branch child => exact settled_gui h (by simp)
  | startEcho =>
    obtain ⟨hs, hw⟩ := @startEcho_speaks backend t
    by_cases hbusy : t.window.service.busy = true
    · have hno : startEcho backend t = t := if_pos (.inl (h.agreed.busy.trans hbusy))
      exact (hno.symm ▸ h : Settled (startEcho backend t))
    · rw [Bool.not_eq_true] at hbusy
      exact h.speaks hbusy hs h.agreed.startEcho ((congrArg (fun w => w.service.busy) hw).trans hbusy)
  | stopEcho =>
    simp only [next]
    split_ifs with hstop
    · have hbusy := h.agreed.quiet (h.agreed.stopping ▸ hstop)
      exact h.speaks hbusy (stopEcho_speaks t) h.agreed.stopEcho hbusy
    · exact h
  | timer =>
    obtain ⟨hs, hw⟩ := @pollEcho_speaks backend t
    by_cases hbusy : t.window.service.busy = true
    · have hno : pollEcho backend t = t := if_pos (.inl (h.agreed.busy.trans hbusy))
      exact (hno.symm ▸ h : Settled (pollEcho backend t))
    · rw [Bool.not_eq_true] at hbusy
      exact h.speaks hbusy hs h.agreed.pollEcho ((congrArg (fun w => w.service.busy) hw).trans hbusy)
  | work =>
    simp only [next]
    split
    · rename_i id request hworker
      have hw := h.worker
      rw [hworker] at hw
      obtain ⟨hbusy, before, hcalls⟩ := hw
      refine ⟨⟨h.agreed.busy, h.agreed.topics, h.agreed.row, h.agreed.stopping, h.agreed.quiet, ?_⟩,
        ⟨hbusy, t.calls, rfl⟩, ?_⟩
      · exact h.agreed.session
      · have he := h.exclusive
        simp only [hcalls] at he ⊢
        exact .begins he
    · exact h
  | respond status =>
    simp only [next]
    split
    · rename_i id request hworker
      have hw := h.worker
      rw [hworker] at hw
      obtain ⟨hbusy, before, hcalls⟩ := hw
      refine ⟨⟨h.agreed.busy, h.agreed.topics, h.agreed.row, h.agreed.stopping, h.agreed.quiet, ?_⟩,
        ⟨hbusy, t.calls, rfl⟩, ?_⟩
      · exact h.agreed.session
      · have he := h.exclusive
        simp only [hcalls] at he ⊢
        exact .returns he
    · exact h
  | finished =>
    simp only [next]
    split
    · rename_i status hworker
      have hw := h.worker
      rw [hworker] at hw
      obtain ⟨hbusy, before, hcalls⟩ := hw
      have hstep : MainWindow.step backend.toToolBackend t.window .finished =
        MainWindow.callFinished t.window := by
        unfold MainWindow.step
        rw [if_pos hbusy]
      rw [hstep]
      refine ⟨⟨rfl, h.agreed.topics, h.agreed.row, h.agreed.stopping, fun _ => rfl, h.agreed.session⟩,
        ⟨rfl, ?_⟩,
        h.exclusive⟩
      rintro ⟨id, request, earlier, he⟩
      rw [hcalls] at he
      cases (List.cons.inj he).1
    · exact h
  | close =>
    simp only [next]
    split_ifs with hno
    · exact h
    · rw [not_or, Bool.not_eq_true] at hno
      exact h.speaks hno.1 (stopEcho_speaks t) h.agreed.stopEcho hno.1

lemma settled_start : Settled (start backend) := by
  have hform := MainWindow.showParameter_form backend.toToolBackend (w := {}) rfl rfl
  have hdirty : (MainWindow.showParameter backend.toToolBackend {}).panel.dirty = false := by
    rw [MainWindow.showParameter]
    rfl
  have hidle : Idle { window := MainWindow.showParameter backend.toToolBackend {} } :=
    ⟨hform.field fun w => w.service.busy, rfl, (fun ⟨_, _, _, h⟩ => by cases h), .nil⟩
  exact settled_refresh hidle rfl hdirty

lemma settled_run (events : List Event) : Settled (run backend events) := by
  unfold run
  exact foldl_invariant (I := Settled) (fun _ e h => settled_next h e) events _ settled_start

end Steps

/-- Nothing is called between a validated request and its response, and the backend reads the topic whose
echo is shown, or none. -/
structure Serial (t : Tabs) : Prop where
  alone : ∀ after id request before, t.calls = after ++ .callService id request :: before →
    (∃ earlier, before = .stopTopicEcho :: .form (.validateService id request 0) :: earlier) ∧
      (after = [] ∨ ∃ later status, after = later ++ [.returned status])
  echo : ∀ (es : List EchoSessions.Seen) held,
    Sessions.Steps EchoSessions.eagain EchoSessions.ebadf.val {} es held →
    es.map (fun e => (e.call, e.code)) = t.calls.reverse.filterMap Call.echo? →
      held.session.map Sessions.Session.identity =
        if t.view.timer then t.window.topicList.current.bind fun i =>
          (t.window.topics[i]?).map TopicInfo.identity
        else none
  quiet : t.view.timer → t.window.service.busy = false

lemma playing_eq (h : Agreed t) : playing t.view =
    if t.view.timer then t.window.topicList.current.bind fun i => (t.window.topics[i]?).map TopicInfo.identity
    else none := by
  unfold playing EchoView.topic
  rw [← h.row, ← h.topics]
  simp only [List.getElem?_map, Option.map_bind, Option.map_map]
  rfl

lemma Settled.serial (h : Settled t) : Serial t where
  alone after id request before heq := h.exclusive.around heq
  echo es held hs heq := by
    rw [hs.identity, heq, ← playing_eq h.agreed, ← h.agreed.session, session, List.filterMap_reverse,
      List.foldl_reverse]
    rfl
  quiet := h.agreed.quiet

theorem calls_serialized (backend : Backend) (events : List Event) : Serial (run backend events) :=
  (settled_run events).serial

end KcfTools.LocalTabs
