import KcfTools.Graph.Origins
import KcfTools.Lib.Partitions
import KcfTools.Ui.LocalCalls

/-! Where the graph, the explorer and the endpoints of an element lead: to the rows that they show. -/

namespace KcfTools.MainWindow

variable (backend : ToolBackend) {w w' : Window}

/-- Each list has a row for each entry. -/
structure Listed (w : Window) : Prop where
  elements : w.elementList.items.length = w.elements.length
  topics : w.topicList.items.length = w.topics.length
  parameters : w.parameterList.items.length = w.parameters.length
  services : w.serviceList.items.length = w.services.length

lemma SameLists.listed (h : SameLists w w') (hw : Listed w) : Listed w' where
  elements := by rw [h.elementItems, h.elements, hw.elements]
  topics := by rw [h.topicItems, h.topics, hw.topics]
  parameters := by rw [h.parameterItems, h.parameters, hw.parameters]
  services := by rw [h.serviceItems, h.services, hw.services]

lemma showService_listed (hw : Listed w) (hbusy : w.service.busy = false) : Listed (showService backend w) :=
  (showService_request backend hbusy).1.sameLists.listed hw

lemma refreshFailed_listed (hbusy : w.service.busy = false) (hdirty : w.panel.dirty = false) :
    Listed (refreshFailed backend w) := by
  have hform := showParameter_form backend (w := clearDiscovery w) hbusy hdirty
  have hlists := hform.sameLists
  have hcleared : Listed { showParameter backend (clearDiscovery w) with services := [], serviceList := {} } :=
    ⟨by rw [hlists.elementItems, hlists.elements]; rfl, by rw [hlists.topicItems, hlists.topics]; rfl,
      by rw [hlists.parameterItems, hlists.parameters]; rfl, rfl⟩
  have hfree := (hform.field fun v => v.service.busy).trans hbusy
  obtain ⟨he, ht, hp, hs⟩ := showService_listed backend hcleared hfree
  exact ⟨he, ht, hp, hs⟩

lemma refreshSucceeded_listed (hbusy : w.service.busy = false) (hdirty : w.panel.dirty = false)
    (element : Option RuntimeIdentity) (topic previous : Option EndpointIdentity) :
    Listed (refreshSucceeded backend w element topic previous) := by
  have hform := showParameter_form backend (w := adoptDiscovery backend w element topic previous) hbusy hdirty
  have hlists := hform.sameLists
  unfold refreshSucceeded updateServices
  simp only
  generalize showParameter backend (adoptDiscovery backend w element topic previous) = v at hform hlists
  have hadopted : Listed (adoptServices backend v) := by
    constructor
    · change v.elementList.items.length = v.elements.length
      rw [hlists.elementItems, hlists.elements]
      exact List.length_map _
    · change v.topicList.items.length = v.topics.length
      rw [hlists.topicItems, hlists.topics]
      exact List.length_map _
    · change v.parameterList.items.length = v.parameters.length
      rw [hlists.parameterItems, hlists.parameters]
      exact List.length_map _
    · exact List.length_map _
  have hfree := (hform.field fun v => v.service.busy).trans hbusy
  obtain ⟨he, ht, hp, hs⟩ := showService_listed backend hadopted hfree
  exact ⟨he, ht, hp, hs⟩

lemma refresh_listed (hbusy : w.service.busy = false) (hdirty : w.panel.dirty = false) :
    Listed (refresh backend w) := by
  unfold refresh
  rw [if_neg (by simp [hbusy]), if_neg (by simp [hdirty])]
  simp only
  split_ifs
  · refine refreshFailed_listed backend ?_ ?_
    · exact hbusy
    · exact hdirty
  · refine refreshSucceeded_listed backend ?_ ?_ _ _ _
    · exact hbusy
    · exact hdirty

/-- The list behind a tab. -/
def listOf (w : Window) : Tab → ListWidget
  | .elements => w.elementList
  | .topics => w.topicList
  | .parameters => w.parameterList
  | .services => w.serviceList

lemma setCurrentRow_some {l : ListWidget} {i : ℕ} (hi : i < l.items.length) :
    (l.setCurrentRow (some i)).current = some i := by
  unfold ListWidget.setCurrentRow
  simp [Option.filter, hi]

/-- A row that is opened becomes the current one. -/
lemma openRow_current (hbusy : w.service.busy = false) (hdirty : w.panel.dirty = false) {tab : Tab} {i : ℕ}
    (hi : i < (listOf w tab).items.length) :
    (listOf (openRow backend w tab (some i)) tab).current = some i := by
  unfold openRow
  rw [if_neg (by simp [hdirty])]
  cases tab with
  | elements => exact setCurrentRow_some hi
  | topics => exact setCurrentRow_some hi
  | parameters =>
    have hcurrent := setCurrentRow_some hi
    simp only [listOf] at hcurrent
    unfold setCurrentRow
    simp only
    split_ifs with hsame
    · exact hsame.symm.trans hcurrent
    · have hform := showParameter_form backend
        (w := { w with parameterList := w.parameterList.setCurrentRow (some i) }) hbusy hdirty
      exact (hform.field fun v => v.parameterList.current).trans hcurrent
  | services =>
    have hcurrent := setCurrentRow_some hi
    simp only [listOf] at hcurrent
    unfold setCurrentRow
    simp only
    split_ifs with hsame
    · exact hsame.symm.trans hcurrent
    · have hrequest := (showService_request backend
        (w := { w with serviceList := w.serviceList.setCurrentRow (some i) }) hbusy).1
      exact (hrequest.field fun v => v.serviceList.current).trans hcurrent

end KcfTools.MainWindow

namespace KcfTools.LocalTabs

open MainWindow (Window Tab Listed SameLists listOf)
open KcfTools.Graph (buildGraph GraphOptions GraphNode)
open Transitions

variable {backend : Backend} {t t' : Tabs} {w w' : Window}

section Displays

/-- What the window shows of its lists. -/
def picture (t : Tabs) : Window × Drawn × List (List ℕ) × List (Tab × ℕ) :=
  (t.window, t.drawn, t.explorer, t.endpoints)

lemma picture_showTopic (t : Tabs) : picture (showTopic backend t) = picture t := by
  unfold showTopic
  split_ifs
  · rfl
  · split <;> rfl

lemma picture_pollEcho (t : Tabs) : picture (pollEcho backend t) = picture t := by
  unfold pollEcho
  split_ifs <;> rfl

lemma picture_startEcho (t : Tabs) : picture (startEcho backend t) = picture t := by
  unfold startEcho
  split_ifs
  · rfl
  · split
    · rfl
    · simp only
      split_ifs
      · rfl
      · exact picture_pollEcho _

/-- The graph, the explorer and the endpoints of the element belong to the lists. -/
structure Displayed (t : Tabs) : Prop where
  listed : Listed t.window
  elements : t.drawn.elements = t.window.elements
  topics : t.drawn.topics = t.window.topics
  explorer : t.explorer = updateExplorer t.drawn.applications t.window.elements
  endpoints : t.endpoints = showElement t.window

lemma Displayed.same (h : Displayed t) (hp : picture t' = picture t) : Displayed t' := by
  simp only [picture, Prod.mk.injEq] at hp
  obtain ⟨hw, hd, he, hp⟩ := hp
  exact ⟨hw ▸ h.listed, by rw [hd, hw, h.elements], by rw [hd, hw, h.topics], by rw [he, hd, hw, h.explorer],
    by rw [hp, hw, h.endpoints]⟩

lemma showElement_same (h : SameLists w w') (hcurrent : w'.elementList.current = w.elementList.current) :
    showElement w' = showElement w := by
  unfold showElement element
  rw [h.elements, h.topics, h.parameters, h.services, hcurrent]

lemma Displayed.adopt (h : Displayed t) (hs : SameLists t.window w) : Displayed (adopt t w) where
  listed := hs.listed h.listed
  elements := h.elements.trans hs.elements.symm
  topics := h.topics.trans hs.topics.symm
  explorer := h.explorer.trans (congrArg (updateExplorer t.drawn.applications) hs.elements.symm)
  endpoints := by
    unfold LocalTabs.adopt
    simp only
    split_ifs with hcurrent
    · exact h.endpoints.trans (showElement_same hs hcurrent).symm
    · rfl

lemma picture_gui {e : MainWindow.Event} (hr : ¬ refreshes t e = true) :
    picture (gui backend t e) = picture (adopt t (MainWindow.step backend.toToolBackend t.window e)) := by
  unfold gui
  rw [if_neg hr]
  simp only
  split
  · rfl
  · split_ifs
    · rfl
    · exact picture_showTopic _

lemma displayed_refresh (hbusy : t.window.service.busy = false) (hdirty : t.window.panel.dirty = false) :
    Displayed (refresh backend t) := by
  have hlisted : Listed (MainWindow.step backend.toToolBackend t.window .refresh) := by
    rw [step_idle hbusy]
    exact MainWindow.refresh_listed _ hbusy hdirty
  unfold LocalTabs.refresh
  simp only
  generalize MainWindow.step backend.toToolBackend t.window .refresh = w at hlisted
  generalize (w.topics.map fun topic => { backend.figures t.calls.length topic with info := topic }) = topics
  have hw : (showTopic backend (adoptRefresh t (backend.refresh t.window.log.length) w topics)).window = w :=
    congrArg Prod.fst (picture_showTopic _)
  refine ⟨?_, ?_, ?_, ?_, ?_⟩
  · exact hw.symm ▸ hlisted
  · exact congrArg Window.elements hw.symm
  · exact congrArg Window.topics hw.symm
  · exact congrArg (fun v => updateExplorer _ (Window.elements v)) hw.symm
  · exact congrArg showElement hw.symm

lemma displayed_gui (h : Displayed t) {e : MainWindow.Event} (he : e ≠ .finished) :
    Displayed (gui backend t e) := by
  by_cases hr : refreshes t e = true
  · have hfree : t.window.service.busy = false ∧ t.window.panel.dirty = false := by
      cases e <;> simp_all [refreshes]
    unfold gui
    rw [if_pos hr]
    exact displayed_refresh hfree.1 hfree.2
  refine Displayed.same (h.adopt ?_) (picture_gui hr)
  by_cases hbusy : t.window.service.busy = true
  · rw [step_busy hbusy he]
    exact .refl _
  · rw [Bool.not_eq_true] at hbusy
    exact (step_handled hbusy hr).lists

lemma finished_sameLists (backend : Backend) (w : Window) :
    SameLists w (MainWindow.step backend.toToolBackend w .finished) := by
  unfold MainWindow.step
  split_ifs
  · exact ⟨rfl, rfl, rfl, rfl, rfl, rfl, rfl, rfl⟩
  · exact .refl w

lemma displayed_next (h : Displayed t) (e : Event) : Displayed (next backend t e) := by
  cases e with
  | window e =>
    simp only [next]
    split_ifs with hd
    · exact displayed_gui h fun he => by simp [he, direct] at hd
    · exact h
  | endpoint k =>
    simp only [next]
    split
    · exact h
    · exact displayed_gui h (by simp)
  | tree branch child => exact displayed_gui h (by simp)
  | startEcho => exact h.same (picture_startEcho t)
  | stopEcho =>
    simp only [next]
    split_ifs
    · exact h.same rfl
    · exact h
  | timer => exact h.same (picture_pollEcho t)
  | work =>
    simp only [next]
    split
    · exact h.same rfl
    · exact h
  | respond status =>
    simp only [next]
    split
    · exact h.same rfl
    · exact h
  | finished =>
    simp only [next]
    split
    · -- the row of the element stays, and with it its endpoints
      have hs := finished_sameLists backend t.window
      have hcurrent : (MainWindow.step backend.toToolBackend t.window .finished).elementList.current =
          t.window.elementList.current := by
        unfold MainWindow.step
        split_ifs <;> rfl
      exact ⟨hs.listed h.listed, h.elements.trans hs.elements.symm, h.topics.trans hs.topics.symm,
        h.explorer.trans (congrArg (updateExplorer t.drawn.applications) hs.elements.symm),
        h.endpoints.trans (showElement_same hs hcurrent).symm⟩
    · exact h
  | close =>
    simp only [next]
    split_ifs
    · exact h
    · exact h.same rfl

lemma displayed_run (events : List Event) : Displayed (run backend events) := by
  have hform := MainWindow.showParameter_form backend.toToolBackend (w := {}) rfl rfl
  have hdirty : (MainWindow.showParameter backend.toToolBackend {}).panel.dirty = false := by
    rw [MainWindow.showParameter]
    rfl
  have hstart : Displayed (start backend) := displayed_refresh (hform.field fun w => w.service.busy) hdirty
  unfold run
  exact foldl_invariant (I := Displayed) (fun _ e h => displayed_next h e) events _ hstart

end Displays

section Opens

/-- The topic that is selected. -/
def selectedTopic (w : Window) : Option EndpointIdentity :=
  w.topicList.current.bind fun i => (w.topics[i]?).map TopicInfo.identity

def endpointAt (w : Window) : Tab × ℕ → Option EndpointIdentity
  | (.elements, _) => none
  | (.topics, i) => (w.topics[i]?).map TopicInfo.identity
  | (.parameters, i) => (w.parameters[i]?).map ParameterInfo.identity
  | (.services, i) => (w.services[i]?).map ServiceInfo.identity

lemma window_gui {e : MainWindow.Event} (hr : ¬ refreshes t e = true) :
    (gui backend t e).window = MainWindow.step backend.toToolBackend t.window e :=
  congrArg Prod.fst (picture_gui hr)

variable (backend) in
lemma gui_opens (hbusy : t.window.service.busy = false) (hdirty : t.window.panel.dirty = false)
    {e : MainWindow.Event} (hr : ¬ refreshes t e = true) {tab : Tab} {i : ℕ}
    (he : MainWindow.act backend.toToolBackend t.window e =
      MainWindow.openRow backend.toToolBackend t.window tab (some i))
    (hi : i < (listOf t.window tab).items.length) :
    (listOf (gui backend t e).window tab).current = some i ∧ SameLists t.window (gui backend t e).window := by
  rw [window_gui hr]
  refine ⟨?_, (step_handled hbusy hr).lists⟩
  rw [step_idle hbusy, he]
  exact MainWindow.openRow_current _ hbusy hdirty hi

lemma found {α : Type} {l : List α} {p : α → Bool} (h : ∃ a ∈ l, p a) :
    ∃ i a, l.findIdx? p = some i ∧ l[i]? = some a ∧ p a := by
  cases hi : l.findIdx? p with
  | none =>
    obtain ⟨a, ha, hp⟩ := h
    exact absurd hp (by simp [List.findIdx?_eq_none_iff.mp hi a ha])
  | some i =>
    obtain ⟨hlt, hp, -⟩ := List.findIdx?_eq_some_iff_getElem.mp hi
    exact ⟨i, l[i], rfl, List.getElem?_eq_getElem hlt, hp⟩

variable {options : GraphOptions} {n : GraphNode}

/-- The local graph that is drawn. -/
def localNodes (t : Tabs) (options : GraphOptions) : List GraphNode :=
  (buildGraph t.drawn.applications t.drawn.elements t.drawn.topics t.drawn.parameters t.drawn.services
    options).nodes

lemma Displayed.opens_element (h : Displayed t) (hbusy : t.window.service.busy = false)
    (hdirty : t.window.panel.dirty = false) (hn : n ∈ localNodes t options) (hkind : n.kind = .element) :
    (element (next backend t (.window (.openElement n.runtime))).window).map ElementInfo.identity =
      some n.runtime := by
  obtain ⟨e, he, hid⟩ := Graph.element_origin hn hkind
  obtain ⟨i, e', hi, hget, hp⟩ := found (p := fun x : ElementInfo => x.identity = n.runtime)
    ⟨e, h.elements ▸ he, decide_eq_true hid⟩
  have hlt : i < t.window.elementList.items.length :=
    h.listed.elements.symm ▸ (List.getElem?_eq_some_iff.mp hget).1
  obtain ⟨hcurrent, hlists⟩ := gui_opens backend hbusy hdirty (e := .openElement n.runtime)
    (by simp [refreshes]) (congrArg (MainWindow.openRow backend.toToolBackend t.window .elements) hi) hlt
  change (element (gui backend t (.openElement n.runtime)).window).map _ = _
  change (gui backend t (.openElement n.runtime)).window.elementList.current = some i at hcurrent
  rw [element, hcurrent, hlists.elements, Option.bind_some, hget]
  exact congrArg some (of_decide_eq_true hp)

lemma Displayed.opens_topic (h : Displayed t) (hbusy : t.window.service.busy = false)
    (hdirty : t.window.panel.dirty = false) (hn : n ∈ localNodes t options) (hkind : n.kind = .topic)
    {p : Graph.GraphEndpoint} (hp : p ∈ n.endpoints) :
    selectedTopic (next backend t (.window (.openTopic p.identity))).window = some p.identity := by
  obtain ⟨topic, ht, hid⟩ := Graph.topic_origin hn hkind hp
  obtain ⟨i, topic', hi, hget, hp⟩ := found (p := fun x : TopicInfo => x.identity = p.identity)
    ⟨topic, h.topics ▸ ht, decide_eq_true hid⟩
  have hlt : i < t.window.topicList.items.length :=
    h.listed.topics.symm ▸ (List.getElem?_eq_some_iff.mp hget).1
  obtain ⟨hcurrent, hlists⟩ := gui_opens backend hbusy hdirty (e := .openTopic p.identity)
    (by simp [refreshes]) (congrArg (MainWindow.openRow backend.toToolBackend t.window .topics) hi) hlt
  change selectedTopic (gui backend t (.openTopic p.identity)).window = _
  change (gui backend t (.openTopic p.identity)).window.topicList.current = some i at hcurrent
  rw [selectedTopic, hcurrent, hlists.topics, Option.bind_some, hget]
  exact congrArg some (of_decide_eq_true hp)

lemma mem_rowsOf {α : Type} {l : List α} {identity : α → EndpointIdentity} {runtime : RuntimeIdentity} {i : ℕ} :
    i ∈ rowsOf l identity runtime ↔ ∃ id, (l[i]?).map identity = some id ∧ id.runtime = runtime := by
  unfold rowsOf
  rw [List.mem_findIdxs_iff_exists_getElem_pos]
  constructor
  · rintro ⟨hi, hp⟩
    exact ⟨identity l[i], by rw [List.getElem?_eq_getElem hi]; rfl, of_decide_eq_true hp⟩
  · rintro ⟨id, hget, hid⟩
    obtain ⟨x, hx, rfl⟩ := Option.map_eq_some_iff.mp hget
    obtain ⟨hi, rfl⟩ := List.getElem?_eq_some_iff.mp hx
    exact ⟨hi, decide_eq_true hid⟩

/-- Exactly the endpoints of the current element are listed. -/
lemma mem_showElement {e : ElementInfo} (he : element w = some e) (x : Tab × ℕ) :
    x ∈ showElement w ↔ ∃ id, endpointAt w x = some id ∧ id.runtime = e.identity := by
  obtain ⟨tab, i⟩ := x
  unfold showElement
  simp only [he, List.mem_append, List.mem_map, Prod.mk.injEq, mem_rowsOf]
  cases tab with
  | elements => simp [endpointAt]
  | topics => simp [endpointAt]
  | parameters => simp [endpointAt]
  | services => simp [endpointAt]

lemma showElement_nodup (w : Window) : (showElement w).Nodup := by
  have hrows : ∀ {α : Type} (tab : Tab) (l : List α) identity runtime,
      ((rowsOf l identity runtime).map (Prod.mk tab)).Nodup := fun tab l identity runtime =>
    List.Nodup.map (fun _ _ h => (Prod.mk.inj h).2) List.nodup_findIdxs
  unfold showElement
  split
  · exact .nil
  · refine ((hrows _ _ _ _).append (hrows _ _ _ _) ?_).append (hrows _ _ _ _) ?_
    · intro x hx hx'
      obtain ⟨_, _, rfl⟩ := List.mem_map.mp hx
      obtain ⟨_, _, h⟩ := List.mem_map.mp hx'
      cases (Prod.mk.inj h).1
    · intro x hx hx'
      obtain ⟨_, _, rfl⟩ := List.mem_map.mp hx'
      rcases List.mem_append.mp hx with hx | hx <;>
        · obtain ⟨_, _, h⟩ := List.mem_map.mp hx
          cases (Prod.mk.inj h).1

lemma endpointAt_lt (h : Listed w) {tab : Tab} {i : ℕ} {id : EndpointIdentity}
    (hx : endpointAt w (tab, i) = some id) : i < (listOf w tab).items.length := by
  cases tab with
  | elements => cases hx
  | topics =>
    obtain ⟨x, hx, -⟩ := Option.map_eq_some_iff.mp hx
    exact h.topics.symm ▸ (List.getElem?_eq_some_iff.mp hx).1
  | parameters =>
    obtain ⟨x, hx, -⟩ := Option.map_eq_some_iff.mp hx
    exact h.parameters.symm ▸ (List.getElem?_eq_some_iff.mp hx).1
  | services =>
    obtain ⟨x, hx, -⟩ := Option.map_eq_some_iff.mp hx
    exact h.services.symm ▸ (List.getElem?_eq_some_iff.mp hx).1

lemma Displayed.opens_endpoint (h : Displayed t) (hbusy : t.window.service.busy = false)
    (hdirty : t.window.panel.dirty = false) {k : ℕ} {tab : Tab} {i : ℕ} (hk : t.endpoints[k]? = some (tab, i)) :
    (listOf (next backend t (.endpoint k)).window tab).current = some i := by
  have hmem : (tab, i) ∈ showElement t.window := h.endpoints ▸ List.mem_of_getElem? hk
  obtain ⟨e, he⟩ : ∃ e, element t.window = some e := by
    cases he : element t.window with
    | none =>
      rw [showElement, he] at hmem
      cases hmem
    | some e => exact ⟨e, rfl⟩
  obtain ⟨id, hid, -⟩ := (mem_showElement he _).mp hmem
  simp only [next, hk]
  exact (gui_opens backend hbusy hdirty (by simp [refreshes]) rfl (endpointAt_lt h.listed hid)).1

section Explorer

variable (applications : List ApplicationInfo) (elements : List ElementInfo)

lemma home_le (e : ElementInfo) : home applications e ≤ applications.length := by
  unfold home
  cases hi : applications.findIdx? fun a => 0 < e.supervisor.pid ∧ e.supervisor = a.supervisor with
  | none => exact le_rfl
  | some i =>
    obtain ⟨hlt, -⟩ := List.findIdx?_eq_some_iff_getElem.mp hi
    exact hlt.le

variable {applications elements} in
lemma mem_branch {branch : ℕ} {rows : List ℕ} (h : (updateExplorer applications elements)[branch]? = some rows)
    {i : ℕ} (hi : i ∈ rows) : ∃ e, elements[i]? = some e ∧ home applications e = branch := by
  unfold updateExplorer at h
  rw [List.getElem?_map] at h
  obtain ⟨g, hg, rfl⟩ := Option.map_eq_some_iff.mp h
  obtain ⟨hlt, rfl⟩ := List.getElem?_eq_some_iff.mp hg
  rw [List.getElem_range] at hi
  obtain ⟨-, hp⟩ := List.mem_filter.mp hi
  cases he : elements[i]? with
  | none =>
    rw [he] at hp
    cases hp
  | some e =>
    rw [he] at hp
    exact ⟨e, rfl, of_decide_eq_true hp⟩

/-- Every element is in the tree once. -/
lemma updateExplorer_perm :
    (updateExplorer applications elements).flatten.Perm (List.range elements.length) := by
  have hfilter : ∀ g, ((List.range elements.length).filter fun i =>
        (elements[i]?).any fun e => home applications e = g) =
      (List.range elements.length).filter fun i => ((elements[i]?).map (home applications)).getD 0 = g := by
    intro g
    refine List.filter_congr fun i hi => ?_
    rw [List.getElem?_eq_getElem (List.mem_range.mp hi)]
    rfl
  unfold updateExplorer
  rw [← List.flatMap_def]
  simp only [hfilter]
  refine Partitions.parts_perm List.nodup_range fun i hi => ?_
  rw [List.getElem?_eq_getElem (List.mem_range.mp hi)]
  exact List.mem_range.mpr (Nat.lt_succ_of_le (home_le applications _))

end Explorer

lemma Displayed.opens_tree (h : Displayed t) (hbusy : t.window.service.busy = false) {branch k i : ℕ}
    {rows : List ℕ} (hrows : t.explorer[branch]? = some rows) (hk : rows[k]? = some i) :
    (next backend t (.tree branch (some k))).window.elementList.current = some i := by
  obtain ⟨e, he, -⟩ := mem_branch (h.explorer ▸ hrows) (List.mem_of_getElem? hk)
  have hlt : i < t.window.elementList.items.length :=
    h.listed.elements.symm ▸ (List.getElem?_eq_some_iff.mp he).1
  simp only [next, hrows, Option.bind_some, hk]
  rw [window_gui (by simp [refreshes]), step_idle hbusy]
  exact MainWindow.setCurrentRow_some hlt

end Opens

/-- A navigation from the graph, or from the endpoints of an element. -/
inductive Opens : Event → Prop
  | element (id : RuntimeIdentity) : Opens (.window (.openElement id))
  | topic (id : EndpointIdentity) : Opens (.window (.openTopic id))
  | endpoint (k : ℕ) : Opens (.endpoint k)

lemma gui_stays (h : t.window.service.busy = true ∨ t.window.panel.dirty = true) {e : MainWindow.Event}
    (he : e ≠ .finished) (hr : ¬ refreshes t e = true)
    (hopen : t.window.panel.dirty = true → MainWindow.act backend.toToolBackend t.window e = t.window) :
    (gui backend t e).window = t.window := by
  rw [window_gui hr]
  by_cases hbusy : t.window.service.busy = true
  · exact step_busy hbusy he
  · rw [step_idle (Bool.not_eq_true _ ▸ hbusy)]
    exact hopen (h.resolve_left hbusy)

/-- Nothing is opened during a service call or over unsaved edits. -/
lemma opens_stays (h : t.window.service.busy = true ∨ t.window.panel.dirty = true) {e : Event} (he : Opens e) :
    (next backend t e).window = t.window := by
  have hrow : ∀ tab row, t.window.panel.dirty = true →
      MainWindow.openRow backend.toToolBackend t.window tab row = t.window := fun _ _ hd => if_pos (.inl hd)
  cases he with
  | element id => exact gui_stays (e := .openElement id) h (by simp) (by simp [refreshes]) (hrow _ _)
  | topic id => exact gui_stays (e := .openTopic id) h (by simp) (by simp [refreshes]) (hrow _ _)
  | endpoint k =>
    simp only [next]
    split
    · rfl
    · exact gui_stays h (by simp) (by simp [refreshes]) (hrow _ _)

/-- While no service call runs and no edits are unsaved, every node of the graph, every item of the explorer and
every listed endpoint leads to what it shows. -/
structure Navigates (backend : Backend) (t : Tabs) : Prop where
  element : t.window.service.busy = false → t.window.panel.dirty = false →
    ∀ options, ∀ n ∈ localNodes t options, n.kind = .element →
      (element (next backend t (.window (.openElement n.runtime))).window).map ElementInfo.identity =
        some n.runtime
  topic : t.window.service.busy = false → t.window.panel.dirty = false →
    ∀ options, ∀ n ∈ localNodes t options, n.kind = .topic → ∀ p ∈ n.endpoints,
      selectedTopic (next backend t (.window (.openTopic p.identity))).window = some p.identity
  endpoint : t.window.service.busy = false → t.window.panel.dirty = false → ∀ k tab i,
    t.endpoints[k]? = some (tab, i) → (listOf (next backend t (.endpoint k)).window tab).current = some i
  endpoints : t.endpoints.Nodup ∧ ∀ e, LocalTabs.element t.window = some e → ∀ x,
    x ∈ t.endpoints ↔ ∃ id, endpointAt t.window x = some id ∧ id.runtime = e.identity
  tree : t.window.service.busy = false → ∀ branch rows k i,
    t.explorer[branch]? = some rows → rows[k]? = some i →
      (next backend t (.tree branch (some k))).window.elementList.current = some i
  explorer : t.explorer.flatten.Perm (List.range t.window.elements.length) ∧
    ∀ (branch : ℕ) rows, t.explorer[branch]? = some rows → ∀ i ∈ rows,
      ∃ e, t.window.elements[i]? = some e ∧ home t.drawn.applications e = branch
  stays : t.window.service.busy = true ∨ t.window.panel.dirty = true → ∀ e, Opens e →
    (next backend t e).window = t.window

theorem run_navigates (backend : Backend) (events : List Event) : Navigates backend (run backend events) := by
  have h := @displayed_run backend events
  generalize run backend events = t at h
  exact {
    element := fun hbusy hdirty _ _ hn hkind => h.opens_element hbusy hdirty hn hkind
    topic := fun hbusy hdirty _ _ hn hkind _ hp => h.opens_topic hbusy hdirty hn hkind hp
    endpoint := fun hbusy hdirty _ _ _ hk => h.opens_endpoint hbusy hdirty hk
    endpoints := ⟨h.endpoints ▸ showElement_nodup _, fun _ he x => h.endpoints ▸ mem_showElement he x⟩
    tree := fun hbusy _ _ _ _ hrows hk => h.opens_tree hbusy hrows hk
    explorer := ⟨h.explorer ▸ updateExplorer_perm _ _, fun _ _ hrows _ hi => mem_branch (h.explorer ▸ hrows) hi⟩
    stays := fun hstill _ he => opens_stays hstill he }

end KcfTools.LocalTabs
