import KcfTools.Ui.UnsentEdits

/-! What a selection does when ticks run between its discard question and the answer. -/

namespace KcfTools.RemoteWorkspace

open Relation Transitions

/-- The two workspaces differ at most in the indices of the selector and of the lists, in the open
question and in the history. -/
def SameBehind (w w' : Workspace) : Prop :=
  ∃ hostIndex rows question log,
    w' = { w with hostIndex := hostIndex, rows := rows, question := question, log := log }

lemma SameBehind.foldl {α : Type} {f : Workspace → α → Workspace}
    (hf : ∀ {w w'}, SameBehind w w' → ∀ a, SameBehind (f w a) (f w' a)) (l : List α) {w w' : Workspace}
    (h : SameBehind w w') : SameBehind (l.foldl f w) (l.foldl f w') := by
  induction l generalizing w w' with
  | nil => exact h
  | cons a l ih => exact ih (hf h a)

section Behind

variable {w w' : Workspace}

lemma SameBehind.ite {p p' : Prop} [Decidable p] [Decidable p'] (hp : p' ↔ p) {v v' : Workspace}
    (h : SameBehind w w') (h' : SameBehind v v') :
    SameBehind (if p then w else v) (if p' then w' else v') := by
  rw [if_congr hp rfl rfl]
  split_ifs
  · exact h
  · exact h'

lemma SameBehind.clear (h : SameBehind w w') (page : Page) (reason : Reason) :
    SameBehind (clear w page reason) (clear w' page reason) := by
  obtain ⟨i, rows, q, log, rfl⟩ := h
  exact ⟨_, _, _, _, rfl⟩

lemma SameBehind.setPanel (h : SameBehind w w') (page : Page) (p : Panel) :
    SameBehind (w.setPanel page p) (w'.setPanel page p) := by
  obtain ⟨i, rows, q, log, rfl⟩ := h
  exact ⟨_, _, _, _, rfl⟩

lemma SameBehind.note (h : SameBehind w w') (n : Notice) : SameBehind (w.note n) (w'.note n) := by
  obtain ⟨i, rows, q, log, rfl⟩ := h
  exact ⟨_, _, _, _, rfl⟩

lemma SameBehind.panels (h : SameBehind w w') : w'.panels = w.panels := by
  obtain ⟨i, rows, q, log, rfl⟩ := h
  rfl

lemma SameBehind.showActivity (h : SameBehind w w') : SameBehind (showActivity w) (showActivity w') := by
  obtain ⟨i, rows, q, log, rfl⟩ := h
  unfold RemoteWorkspace.showActivity
  simp only
  split
  · exact ⟨i, rows, q, log, rfl⟩
  · rename_i a ha
    cases hb : w.activities[a]? <;> simp only
    · exact ⟨i, rows, q, log, rfl⟩
    · exact ⟨i, rows, q, log, rfl⟩

lemma SameBehind.observe (h : SameBehind w w') (input : TickInput) :
    SameBehind (observe w input) (observe w' input) := by
  obtain ⟨i, rows, q, log, rfl⟩ := h
  unfold RemoteWorkspace.observe
  simp only
  split_ifs
  · exact ⟨i, rows, q, log, rfl⟩
  · exact SameBehind.showActivity ⟨i, rows, q, log, rfl⟩

lemma SameBehind.rebuildHosts (h : SameBehind w w') : SameBehind (rebuildHosts w) (rebuildHosts w') := by
  obtain ⟨i, rows, q, log, rfl⟩ := h
  unfold RemoteWorkspace.rebuildHosts
  simp only
  split
  · exact ⟨_, rows, q, log, rfl⟩
  · exact ⟨_, rows, q, log, rfl⟩

/-- The page's list as the snapshot has it. -/
def listed (w : Workspace) (page : Page) : Workspace :=
  { w with choices := Function.update w.choices page (offered w page)
           rows := Function.update w.rows page (rowOf (offered w page) (key (w.panels page).selected)) }

/-- The page's endpoint is gone. -/
def Lost (w : Workspace) (page : Page) : Prop :=
  (w.panels page).selected.id ≠ "" ∧
    (¬ current w (w.panels page).selected ∨ rowOf (offered w page) (key (w.panels page).selected) = none)

instance (w : Workspace) (page : Page) : Decidable (Lost w page) := inferInstanceAs (Decidable (_ ∧ _))

lemma populatePage_eq (w : Workspace) (page : Page) : populatePage w page =
    if Lost w page then clear (listed w page) page .invalidated else listed w page := rfl

lemma SameBehind.populatePage (h : SameBehind w w') (page : Page) :
    SameBehind (populatePage w page) (populatePage w' page) := by
  have hlisted : SameBehind (listed w page) (listed w' page) := by
    obtain ⟨i, rows, q, log, rfl⟩ := h
    exact ⟨i, _, q, log, rfl⟩
  have hlost : Lost w' page ↔ Lost w page := by
    obtain ⟨i, rows, q, log, rfl⟩ := h
    exact Iff.rfl
  rw [populatePage_eq, populatePage_eq]
  exact SameBehind.ite hlost (hlisted.clear page .invalidated) hlisted

lemma SameBehind.populate (h : SameBehind w w') : SameBehind (populate w) (populate w') :=
  SameBehind.foldl SameBehind.populatePage Page.all h

lemma SameBehind.countTick (h : SameBehind w w') : SameBehind (countTick w) (countTick w') := by
  obtain ⟨i, rows, q, log, rfl⟩ := h
  exact ⟨i, rows, q, log, rfl⟩

lemma SameBehind.ticks (h : SameBehind w w') : w'.ticks = w.ticks := by
  obtain ⟨i, rows, q, log, rfl⟩ := h
  rfl

lemma SameBehind.refresh (h : SameBehind w w') (input : TickInput) :
    SameBehind (refresh w input) (refresh w' input) := by
  have hcount := (h.observe input).countTick
  unfold RemoteWorkspace.refresh
  simp only [hcount.ticks]
  split_ifs
  · exact hcount.rebuildHosts.populate
  · exact hcount

lemma SameBehind.recordGoal (h : SameBehind w w') (entry : Pending) (r : RemoteReply) :
    SameBehind (recordGoal w entry r) (recordGoal w' entry r) := by
  obtain ⟨i, rows, q, log, rfl⟩ := h
  unfold RemoteWorkspace.recordGoal
  simp only
  split_ifs <;> exact ⟨i, rows, q, log, rfl⟩

lemma SameBehind.dropStale (h : SameBehind w w') (entry : Pending) (r : RemoteReply) :
    SameBehind (dropStale w entry r) (dropStale w' entry r) := by
  obtain ⟨i, rows, q, log, rfl⟩ := h
  unfold RemoteWorkspace.dropStale
  simp only
  split_ifs <;> exact ⟨i, rows, q, log, rfl⟩

lemma SameBehind.settle (h : SameBehind w w') (entry : Pending) :
    SameBehind (settle w entry) (settle w' entry) := by
  obtain ⟨i, rows, q, log, rfl⟩ := h
  exact ⟨i, rows, q, log, rfl⟩

lemma SameBehind.applies (h : SameBehind w w') (entry : Pending) (r : RemoteReply) :
    applies w' entry r = applies w entry r := by
  obtain ⟨i, rows, q, log, rfl⟩ := h
  rfl

lemma SameBehind.epoch (h : SameBehind w w') : w'.epoch = w.epoch := by
  obtain ⟨i, rows, q, log, rfl⟩ := h
  rfl

lemma SameBehind.receive (h : SameBehind w w') (entry : Pending) (r : RemoteReply) :
    SameBehind (receive w entry r) (receive w' entry r) := by
  have ha := ((h.settle entry).recordGoal entry r).dropStale entry r
  unfold RemoteWorkspace.receive
  simp only [ha.applies, ha.panels, ha.epoch]
  split_ifs
  · exact (ha.setPanel _ _).note _
  · exact ha

lemma SameBehind.replies (h : SameBehind w w') (ready : ℕ → Option RemoteReply) :
    SameBehind (replies w ready) (replies w' ready) := by
  have hpending : w'.pending = w.pending := by
    obtain ⟨i, rows, q, log, rfl⟩ := h
    rfl
  unfold RemoteWorkspace.replies
  rw [hpending]
  refine SameBehind.foldl (fun {v v'} hv entry => ?_) _ h
  unfold receiveReady
  cases ready entry.ticket with
  | none => exact hv
  | some r => exact hv.receive entry r

lemma SameBehind.measured (h : SameBehind w w') (a : RemoteActivity) :
    SameBehind (measured w a) (measured w' a) := by
  obtain ⟨i, rows, q, log, rfl⟩ := h
  unfold RemoteWorkspace.measured
  simp only
  split_ifs <;> exact ⟨i, rows, q, log, rfl⟩

lemma SameBehind.report (h : SameBehind w w') (a : RemoteActivity) : SameBehind (report w a) (report w' a) := by
  have hm := h.measured a
  have herased : ∀ {v v' : Workspace}, SameBehind v v' → SameBehind { v with rates := v.rates.erase a.handle }
      { v' with rates := v'.rates.erase a.handle } := by
    rintro v v' ⟨i, rows, q, log, rfl⟩
    exact ⟨i, rows, q, log, rfl⟩
  unfold RemoteWorkspace.report reportTopic
  simp only [h.panels]
  split_ifs
  · exact h
  · exact hm.setPanel _ _
  · exact (herased hm).setPanel _ _
  · exact hm
  · obtain ⟨i, rows, q, log, rfl⟩ := h
    exact ⟨i, rows, q, log, rfl⟩

lemma SameBehind.listActivities (h : SameBehind w w') : SameBehind (listActivities w) (listActivities w') := by
  obtain ⟨i, rows, q, log, rfl⟩ := h
  exact SameBehind.showActivity ⟨i, rows, q, log, rfl⟩

lemma SameBehind.pollReply (h : SameBehind w w') (ready : ℕ → Option RemoteReply) :
    SameBehind (pollReply w ready) (pollReply w' ready) := by
  have hfree : SameBehind { w with polling := none } { w' with polling := none } := by
    obtain ⟨i, rows, q, log, rfl⟩ := h
    exact ⟨i, rows, q, log, rfl⟩
  have hpolling : w'.polling = w.polling ∧ w'.pollEpoch = w.pollEpoch ∧ w'.configuring = w.configuring ∧
      w'.closing = w.closing := by
    obtain ⟨i, rows, q, log, rfl⟩ := h
    exact ⟨rfl, rfl, rfl, rfl⟩
  obtain ⟨hp, he, hc, hl⟩ := hpolling
  unfold RemoteWorkspace.pollReply
  rw [hp]
  cases w.polling.bind ready with
  | none => exact h
  | some r =>
    refine SameBehind.listActivities (SameBehind.ite ?_ (SameBehind.foldl SameBehind.report _ hfree) hfree)
    simp only [he, hc, hl, h.epoch]

lemma SameBehind.poll (h : SameBehind w w') : SameBehind (poll w) (poll w') := by
  obtain ⟨i, rows, q, log, rfl⟩ := h
  unfold RemoteWorkspace.poll
  simp only
  split_ifs <;> exact ⟨i, rows, q, log, rfl⟩

lemma SameBehind.enable (h : SameBehind w w') : SameBehind (enable w) (enable w') := by
  obtain ⟨i, rows, q, log, rfl⟩ := h
  exact ⟨i, rows, q, log, rfl⟩

lemma SameBehind.configured (h : SameBehind w w') (input : TickInput) :
    SameBehind (configured w input) (configured w' input) := by
  obtain ⟨i, rows, q, log, rfl⟩ := h
  unfold RemoteWorkspace.configured
  simp only
  split_ifs <;> exact ⟨i, rows, q, log, rfl⟩

lemma SameBehind.detachPage (h : SameBehind w w') (page : Page) :
    SameBehind (detachPage w page) (detachPage w' page) := by
  have hc := h.clear page .reconfigured
  unfold RemoteWorkspace.detachPage
  simp only [hc.panels]
  exact hc.setPanel _ _

lemma SameBehind.reconfigure (h : SameBehind w w') : SameBehind (reconfigure w) (reconfigure w') := by
  refine SameBehind.foldl SameBehind.detachPage Page.all ?_
  obtain ⟨i, rows, q, log, rfl⟩ := h
  exact ⟨i, rows, q, log, rfl⟩

/-- The start of a configuration. -/
def shuttingDown (w : Workspace) : Workspace :=
  { w with activities := w.activities.map detach, configurationShutdown := true, configuring := true }

lemma configure_shutDown (w : Workspace) :
    configure w true "" = if w.configuring then w else shuttingDown (reconfigure w) := by
  unfold configure configureConfirmed
  simp only [not_true_eq_false, false_and, if_false]
  rfl

lemma SameBehind.shutDown (h : SameBehind w w') : SameBehind (configure w true "") (configure w' true "") := by
  have hdown : ∀ {v v' : Workspace}, SameBehind v v' → SameBehind (shuttingDown v) (shuttingDown v') := by
    rintro v v' ⟨i, rows, q, log, rfl⟩
    exact ⟨i, rows, q, log, rfl⟩
  have hconfiguring : w'.configuring = w.configuring := by
    obtain ⟨i, rows, q, log, rfl⟩ := h
    rfl
  rw [configure_shutDown, configure_shutDown]
  exact SameBehind.ite (by rw [hconfiguring]) h (hdown h.reconfigure)

/-- A tick neither reads the indices nor the question nor the history. -/
lemma SameBehind.tick (h : SameBehind w w') (input : TickInput) :
    SameBehind (tick w input) (tick w' input) := by
  have hc := h.configured input
  have hflags : w'.configuring = w.configuring ∧ w'.closing = w.closing ∧
      w'.configurationShutdown = w.configurationShutdown := by
    obtain ⟨i, rows, q, log, rfl⟩ := h
    exact ⟨rfl, rfl, rfl⟩
  obtain ⟨hconfiguring, hclosing, hshutdown⟩ := hflags
  unfold RemoteWorkspace.tick
  simp only [hconfiguring, hclosing, hshutdown]
  split_ifs
  · obtain ⟨i, rows, q, log, hc⟩ := hc
    rw [hc]
    exact ⟨i, rows, q, log, rfl⟩
  · exact hc.shutDown
  · exact (((hc.refresh input).replies _).pollReply _).poll.enable

end Behind

section Scene

variable {w w' : Workspace} {input : TickInput}

/-- What the answer to a question reads. -/
def scene (w : Workspace) :
    String × List String × Option ℕ × (Page → List RemoteEndpoint) × Option Question × Bool :=
  (w.hostSelected, w.hosts, w.hostIndex, w.choices, w.question, w.fault)

lemma scene_showActivity : scene (showActivity w) = scene w := by
  unfold showActivity
  split
  · rfl
  · split <;> rfl

lemma scene_receive (entry : Pending) (r : RemoteReply) : scene (receive w entry r) = scene w := by
  have hanswered : scene (answered w entry r) = scene w := by
    obtain ⟨activities, h⟩ := @answered_cases w entry r
    rw [h]
    rfl
  rw [receive_eq]
  split_ifs <;> exact hanswered

lemma scene_replies (ready : ℕ → Option RemoteReply) : scene (replies w ready) = scene w := by
  refine foldl_keeps (fun v entry => ?_) w.pending w
  unfold receiveReady
  split
  · rfl
  · exact scene_receive entry _

lemma scene_report (a : RemoteActivity) : scene (report w a) = scene w := by
  have hmeasured : scene (measured w a) = scene w := by
    unfold measured
    split_ifs <;> rfl
  unfold report reportTopic
  simp only
  split_ifs
  · rfl
  · exact hmeasured
  · exact hmeasured
  · exact hmeasured
  · rfl

lemma scene_pollReply (ready : ℕ → Option RemoteReply) : scene (pollReply w ready) = scene w := by
  unfold pollReply
  split
  · rfl
  · unfold listActivities
    refine scene_showActivity.trans ?_
    change scene (ite _ _ _) = _
    split_ifs
    · exact foldl_keeps (fun v a => scene_report a) _ _
    · rfl

lemma scene_poll : scene (poll w) = scene w := by
  unfold poll
  split_ifs <;> rfl

lemma scene_configured : scene (configured w input) = scene w := by
  unfold configured
  split_ifs <;> rfl

lemma scene_observe : scene (countTick (observe w input)) = scene w := by
  unfold countTick observe
  simp only
  split_ifs
  · rfl
  · exact scene_showActivity

lemma scene_shutDown : scene (configure w true "") = scene w := by
  rw [configure_shutDown]
  split_ifs
  · rfl
  · exact foldl_keeps (fun v page => rfl) Page.all _

instance (w : Workspace) (input : TickInput) : Decidable (Replies w input) := inferInstanceAs (Decidable (¬ _))

lemma scene_tick_closing (h : ¬ Replies w input) : scene (tick w input) = scene w := by
  unfold tick
  rw [if_pos (not_not.mp h)]
  split_ifs
  · exact scene_configured
  · exact scene_shutDown.trans scene_configured

lemma scene_tick (h : Replies w input) :
    scene (tick w input) = scene (refresh (configured w input) input) := by
  have henable : ∀ v : Workspace, scene (enable v) = scene v := fun _ => rfl
  unfold tick
  rw [if_neg h]
  exact (henable _).trans (scene_poll.trans ((scene_pollReply _).trans (scene_replies _)))

/-- A tick that rebuilds the selector and the lists. -/
def Rebuilds (w : Workspace) (input : TickInput) : Prop := Replies w input ∧ (w.ticks + 1) % 5 = 0

instance (w : Workspace) (input : TickInput) : Decidable (Rebuilds w input) :=
  inferInstanceAs (Decidable (_ ∧ _))

/-- The endpoints that a snapshot offers on a page of the host. -/
def offeredBy (snapshot : NetworkSnapshot) (host : String) (page : Page) : List RemoteEndpoint :=
  offered { snapshot := snapshot, hostSelected := host } page

/-- What a rebuilding tick leaves. -/
structure Rebuilt (snapshot : NetworkSnapshot) (host : String) (w : Workspace) : Prop where
  current : currentData w = host
  hosts : ∀ id, id ∈ w.hosts ↔ id = "" ∨ id ∈ snapshot.hosts.map RemoteHost.id ∨ id = host
  choices : w.choices = offeredBy snapshot host

lemma Rebuilt.congr {snapshot : NetworkSnapshot} {host : String} (h : Rebuilt snapshot host w)
    (hs : scene w' = scene w) : Rebuilt snapshot host w' := by
  simp only [scene, Prod.mk.injEq] at hs
  obtain ⟨-, hhosts, hindex, hchoices, -⟩ := hs
  refine ⟨?_, ?_, hchoices.trans h.choices⟩
  · rw [← h.current, currentData, currentData, hhosts, hindex]
  · rw [hhosts]
    exact h.hosts

lemma findData_get {hosts : List String} {host : String} {i : ℕ} (h : findData hosts host = some i) :
    hosts[i]? = some host := by
  obtain ⟨hi, hp, -⟩ := List.findIdx?_eq_some_iff_getElem.mp h
  rw [List.getElem?_eq_getElem hi, of_decide_eq_true hp]

lemma rebuildHosts_spec : currentData (rebuildHosts w) = w.hostSelected ∧
    ∀ id, id ∈ (rebuildHosts w).hosts ↔
      id = "" ∨ id ∈ w.snapshot.hosts.map RemoteHost.id ∨ id = w.hostSelected := by
  unfold rebuildHosts
  simp only
  split
  · rename_i i hi
    have hget := findData_get hi
    have hmem := List.mem_of_getElem? hget
    refine ⟨by simp [currentData, hget], fun id => ?_⟩
    rw [List.mem_cons] at hmem ⊢
    constructor
    · rintro (rfl | hid)
      · exact .inl rfl
      · exact .inr (.inl hid)
    · rintro (rfl | hid | rfl)
      · exact .inl rfl
      · exact .inr hid
      · exact hmem
  · refine ⟨by simp [currentData], fun id => ?_⟩
    rw [List.mem_append, List.mem_cons, List.mem_singleton, or_assoc]

lemma populatePage_fields (page : Page) : (populatePage w page).choices = (listed w page).choices ∧
    (populatePage w page).snapshot = w.snapshot ∧ (populatePage w page).hostSelected = w.hostSelected ∧
      (populatePage w page).hosts = w.hosts ∧ (populatePage w page).hostIndex = w.hostIndex ∧
        (populatePage w page).question = w.question ∧ (populatePage w page).fault = w.fault := by
  rw [populatePage_eq]
  split_ifs <;> exact ⟨rfl, rfl, rfl, rfl, rfl, rfl, rfl⟩

lemma populate_fields : (populate w).choices = offeredBy w.snapshot w.hostSelected ∧
    (populate w).hostSelected = w.hostSelected ∧ (populate w).hosts = w.hosts ∧
      (populate w).hostIndex = w.hostIndex ∧ (populate w).question = w.question ∧
      (populate w).fault = w.fault := by
  have hfold : ∀ (pages : List Page) (v : Workspace), v.snapshot = w.snapshot →
    v.hostSelected = w.hostSelected →
      let v' := pages.foldl populatePage v
      (∀ page, v'.choices page =
        if page ∈ pages then offeredBy w.snapshot w.hostSelected page else v.choices page) ∧
      v'.hostSelected = v.hostSelected ∧ v'.hosts = v.hosts ∧ v'.hostIndex = v.hostIndex ∧
        v'.question = v.question ∧ v'.fault = v.fault := by
    intro pages
    induction pages with
    | nil => exact fun v _ _ => ⟨fun _ => by simp, rfl, rfl, rfl, rfl, rfl⟩
    | cons first pages ih =>
      intro v hsnapshot hhost
      obtain ⟨hchoices, hs, hh, hhosts, hindex, hquestion, hfault⟩ := populatePage_fields (w := v) first
      obtain ⟨hall, hh', hhosts', hindex', hquestion', hfault'⟩ :=
        ih (populatePage v first) (hs.trans hsnapshot) (hh.trans hhost)
      refine ⟨fun page => ?_, hh'.trans hh, hhosts'.trans hhosts, hindex'.trans hindex,
        hquestion'.trans hquestion, hfault'.trans hfault⟩
      have hoffered : offered v first = offeredBy w.snapshot w.hostSelected first := by
        rw [← hsnapshot, ← hhost]
        rfl
      rw [List.foldl_cons, hall page, hchoices]
      by_cases hp : page = first
      · subst hp
        simp [listed, hoffered]
      · simp [listed, hp]
  obtain ⟨hchoices, hrest⟩ := hfold Page.all w rfl rfl
  refine ⟨funext fun page => ?_, hrest⟩
  have hpage : page ∈ Page.all := by cases page <;> simp [Page.all]
  exact (hchoices page).trans (if_pos hpage)

lemma rebuildHosts_fields : (rebuildHosts w).snapshot = w.snapshot ∧
    (rebuildHosts w).hostSelected = w.hostSelected ∧ (rebuildHosts w).question = w.question ∧
      (rebuildHosts w).fault = w.fault := by
  unfold rebuildHosts
  simp only
  split <;> exact ⟨rfl, rfl, rfl, rfl⟩

lemma observed_fields : (countTick (observe w input)).snapshot = input.snapshot ∧
    (countTick (observe w input)).ticks = w.ticks + 1 := by
  have hactivity : ∀ v : Workspace, (showActivity v).snapshot = v.snapshot ∧
    (showActivity v).ticks = v.ticks := by
    intro v
    unfold showActivity
    split
    · exact ⟨rfl, rfl⟩
    · split <;> exact ⟨rfl, rfl⟩
  unfold countTick observe
  simp only
  split_ifs
  · exact ⟨rfl, rfl⟩
  · exact ⟨(hactivity _).1, congrArg (· + 1) (hactivity _).2⟩

lemma tick_kept (h : ¬ Rebuilds w input) : scene (tick w input) = scene w := by
  by_cases hr : Replies w input
  · have hticks : ¬ (countTick (observe (configured w input) input)).ticks % 5 = 0 := by
      have hconfigured : (configured w input).ticks = w.ticks := by
        unfold configured
        split_ifs <;> rfl
      rw [observed_fields.2, hconfigured]
      exact fun hc => h ⟨hr, hc⟩
    rw [scene_tick hr, refresh]
    simp only [if_neg hticks]
    exact scene_observe.trans scene_configured
  · exact scene_tick_closing hr

lemma tick_rebuilt (h : Rebuilds w input) : Rebuilt input.snapshot w.hostSelected (tick w input) ∧
    (tick w input).hostSelected = w.hostSelected ∧ (tick w input).question = w.question ∧
      (tick w input).fault = w.fault := by
  obtain ⟨hr, ht⟩ := h
  have hticks : (countTick (observe (configured w input) input)).ticks % 5 = 0 := by
    have hconfigured : (configured w input).ticks = w.ticks := by
      unfold configured
      split_ifs <;> rfl
    rw [observed_fields.2, hconfigured]
    exact ht
  have hscene := scene_tick hr
  rw [refresh] at hscene
  simp only [if_pos hticks] at hscene
  have hobserved : scene (countTick (observe (configured w input) input)) = scene w :=
    scene_observe.trans scene_configured
  have hsnapshot : (countTick (observe (configured w input) input)).snapshot = input.snapshot :=
    observed_fields.1
  generalize countTick (observe (configured w input) input) = v at hscene hobserved hsnapshot
  obtain ⟨hcurrent, hhosts⟩ := rebuildHosts_spec (w := v)
  obtain ⟨hs, hh, hq, hf⟩ := rebuildHosts_fields (w := v)
  obtain ⟨hchoices, hh', hhosts', hindex', hq', hf'⟩ := populate_fields (w := rebuildHosts v)
  simp only [scene, Prod.mk.injEq] at hobserved
  obtain ⟨hhost, -, -, -, hquestion, hfault⟩ := hobserved
  have hrebuilt : Rebuilt input.snapshot w.hostSelected (populate (rebuildHosts v)) := by
    refine ⟨?_, fun id => ?_, ?_⟩
    · rw [← hhost, ← hcurrent, currentData, currentData, hhosts', hindex']
    · rw [hhosts', hhosts, hsnapshot, hhost]
    · rw [hchoices, hs, hh, hsnapshot, hhost]
  refine ⟨hrebuilt.congr hscene, ?_⟩
  simp only [scene, Prod.mk.injEq] at hscene
  obtain ⟨hhost'', -, -, -, hq'', hf''⟩ := hscene
  exact ⟨hhost''.trans (hh'.trans (hh.trans hhost)), hq''.trans (hq'.trans (hq.trans hquestion)),
    hf''.trans (hf'.trans (hf.trans hfault))⟩

/-- The snapshot from which the selector and the lists were last rebuilt. -/
def lastRebuild : Workspace → List TickInput → Option NetworkSnapshot
  | _, [] => none
  | w, input :: gap =>
    (lastRebuild (tick w input) gap).or (if Rebuilds w input then some input.snapshot else none)

/-- What the ticks of a gap leave. -/
structure Gap (w w' : Workspace) (rebuilt : Option NetworkSnapshot) : Prop where
  host : w'.hostSelected = w.hostSelected
  question : w'.question = w.question
  fault : w'.fault = w.fault
  kept : rebuilt = none → w'.hosts = w.hosts ∧ w'.hostIndex = w.hostIndex ∧ w'.choices = w.choices
  rebuilt : ∀ snapshot, rebuilt = some snapshot → Rebuilt snapshot w.hostSelected w'

lemma gap_ticks (w : Workspace) (gap : List TickInput) : Gap w (gap.foldl tick w) (lastRebuild w gap) := by
  induction gap generalizing w with
  | nil => exact ⟨rfl, rfl, rfl, fun _ => ⟨rfl, rfl, rfl⟩, fun _ h => by cases h⟩
  | cons input gap ih =>
    have hgap := ih (tick w input)
    rw [List.foldl_cons, lastRebuild]
    by_cases hr : Rebuilds w input
    · obtain ⟨hrebuilt, hhost, hquestion, hfault⟩ := tick_rebuilt hr
      refine ⟨hgap.host.trans hhost, hgap.question.trans hquestion, hgap.fault.trans hfault, ?_, ?_⟩
      · rw [if_pos hr]
        cases lastRebuild (tick w input) gap <;> exact fun h => by cases h
      · intro snapshot hs
        cases hl : lastRebuild (tick w input) gap with
        | some later =>
          rw [hl] at hs
          obtain rfl := Option.some.inj hs
          rw [← hhost]
          exact hgap.rebuilt _ hl
        | none =>
          rw [hl, if_pos hr] at hs
          obtain rfl := Option.some.inj hs
          obtain ⟨hhosts, hindex, hchoices⟩ := hgap.kept hl
          refine ⟨?_, hhosts ▸ hrebuilt.hosts, hchoices.trans hrebuilt.choices⟩
          rw [currentData, hhosts, hindex]
          exact hrebuilt.current
    · have hscene := tick_kept hr
      simp only [scene, Prod.mk.injEq] at hscene
      obtain ⟨hhost, hhosts, hindex, hchoices, hquestion, hfault⟩ := hscene
      rw [if_neg hr, Option.or_none]
      refine ⟨hgap.host.trans hhost, hgap.question.trans hquestion, hgap.fault.trans hfault, fun h => ?_,
        fun snapshot hs => hhost ▸ hgap.rebuilt snapshot hs⟩
      obtain ⟨hhosts', hindex', hchoices'⟩ := hgap.kept h
      exact ⟨hhosts'.trans hhosts, hindex'.trans hindex, hchoices'.trans hchoices⟩

end Scene

section Picks

/-- A host in the selector, or a row of a page's list. -/
inductive Pick
  | hostAt (index : ℕ)
  | rowAt (page : Page) (row : ℕ)

def Pick.event : Pick → Event
  | .hostAt index => .pickHost index
  | .rowAt page row => .pickRow page row

def Pick.question : Pick → Question
  | .hostAt _ => .host none
  | .rowAt page row => .select page row

/-- The pick opens its discard question; nothing has been read outside of the choices so far. -/
structure Asks (w : Workspace) (pick : Pick) : Prop where
  free : w.question = none
  asked : (step w pick.event).question = some pick.question
  fault : w.fault = false

/-- The selected host, the selected endpoints and the edits are the same. -/
def SameSelection (w w' : Workspace) : Prop :=
  w'.hostSelected = w.hostSelected ∧ ∀ page, (w'.panels page).selected = (w.panels page).selected ∧
    (w'.panels page).input = (w.panels page).input

/-- What Yes does with the pick: `offering` is the workspace at the answer, `w'` the one after it. -/
def TakesEffect (w : Workspace) (pick : Pick) (offering w' : Workspace) : Prop :=
  match pick with
  | .hostAt index => ∀ host, w.hosts[index]? = some host → w'.hostSelected = host ∨ host ∉ offering.hosts
  | .rowAt page row => ∀ e, (w.choices page)[row]? = some e → w'.fault = false ∧
    ((∃ e' ∈ offering.choices page, key e' = key e) → key (w'.panels page).selected = key e) ∧
    ((∀ e' ∈ offering.choices page, key e' ≠ key e) → (w'.panels page).selected = {})

/-- Ticks run between the question and its answer. -/
def Honoured (w : Workspace) (pick : Pick) (gap : List TickInput) : Prop :=
  let ticks := gap.map Event.tick
  let asked := run (step w pick.event) ticks
  TakesEffect w pick asked (step asked (.answer true)) ∧
    SameSelection (run w ticks) (step asked (.answer false))

/-- No tick of the gap rebuilds what was picked from, or the last one that does no longer offers the host,
or has the endpoint in the same row. -/
def Undisplaced (w : Workspace) (pick : Pick) (gap : List TickInput) : Prop :=
  ∀ snapshot, lastRebuild (step w pick.event) gap = some snapshot →
    match pick with
    | .hostAt index => ∀ host, w.hosts[index]? = some host →
      host ≠ "" ∧ host ∉ snapshot.hosts.map RemoteHost.id
    | .rowAt page row =>
      ((offeredBy snapshot w.hostSelected page)[row]?).map key = ((w.choices page)[row]?).map key

variable {w w' : Workspace} {gap : List TickInput} {page : Page} {row index : ℕ}

lemma run_ticks (w : Workspace) (gap : List TickInput) : run w (gap.map Event.tick) = gap.foldl tick w := by
  rw [run, List.foldl_map]
  congr 1

lemma SameBehind.run_ticks (h : SameBehind w w') (gap : List TickInput) :
    SameBehind (run w (gap.map Event.tick)) (run w' (gap.map Event.tick)) := by
  rw [RemoteWorkspace.run_ticks, RemoteWorkspace.run_ticks]
  exact SameBehind.foldl SameBehind.tick gap h

lemma step_answer {q : Question} (hq : w.question = some q) (yes : Bool) :
    step w (.answer yes) = answer w q yes := by
  unfold step
  rw [hq]

variable (page) in
lemma request_question (operation : RemoteOperation) : (request w page operation).question = w.question ∨
    (request w page operation).question = some (.request page operation) := by
  unfold request requestConfirmed
  simp only
  split_ifs
  · exact .inl rfl
  · exact .inr rfl
  · exact .inl rfl
  · exact .inl rfl

variable (page) in
lemma request_keeps (operation : RemoteOperation) (page' : Page) :
    ((request w page operation).panels page').selected = (w.panels page').selected ∧
      (request w page operation).fault = w.fault := by
  unfold request requestConfirmed
  simp only
  split_ifs
  · exact ⟨rfl, rfl⟩
  · exact ⟨rfl, rfl⟩
  · exact ⟨rfl, rfl⟩
  · refine ⟨?_, rfl⟩
    rw [submit_panels]
    split_ifs with hp
    · rw [hp]
    · rfl

lemma release_choices : (release w page).choices = w.choices ∧ (release w page).fault = w.fault := by
  unfold release
  simp only
  split_ifs <;> exact ⟨rfl, rfl⟩

/-- A selection after its question: the endpoint in the row, or a read outside of the choices. -/
lemma selectConfirmed_spec (w : Workspace) (page : Page) (row : ℕ) :
    (w.question = none → (selectConfirmed w page row).question ≠ some (.select page row)) ∧
    match (w.choices page)[row]? with
    | none => (selectConfirmed w page row).fault = true
    | some e => (selectConfirmed w page row).fault = w.fault ∧
      ((selectConfirmed w page row).panels page).selected = e := by
  have hchoices : (clear (release w page) page .selected).choices = w.choices := release_choices.1
  have hfault : (clear (release w page) page .selected).fault = w.fault := release_choices.2
  have hquestion : (clear (release w page) page .selected).question = w.question := release_question page
  unfold selectConfirmed
  simp only [hchoices]
  cases (w.choices page)[row]? with
  | none => exact ⟨fun hq => by rw [hquestion.trans hq]; simp, rfl⟩
  | some e =>
    simp only
    generalize hv : (clear (release w page) page .selected).setPanel page
      { (clear (release w page) page .selected).panels page with selected := e } = v
    have hvq : v.question = w.question := hv ▸ hquestion
    have hvf : v.fault = w.fault := hv ▸ hfault
    have hve : (v.panels page).selected = e := by rw [← hv, setPanel_panels_self]
    have hrequest : ∀ operation,
        (w.question = none → (request v page operation).question ≠ some (.select page row)) ∧
        (request v page operation).fault = w.fault ∧ ((request v page operation).panels page).selected = e := by
      intro operation
      obtain ⟨hselected, hf⟩ := request_keeps (w := v) page operation page
      refine ⟨fun hnone => ?_, hf.trans hvf, hselected.trans hve⟩
      rcases request_question (w := v) page operation with hq | hq
      · rw [hq, hvq, hnone]
        simp
      · rw [hq]
        simp
    split_ifs
    · exact hrequest _
    · exact hrequest _
    · exact ⟨fun hnone => by rw [hvq, hnone]; simp, hvf, hve⟩

lemma step_pickHost (hq : w.question = none) :
    step w (.pickHost index) = if index < w.hosts.length then setHostIndex w index none else w := by
  unfold step
  rw [hq]

lemma step_pickRow (hq : w.question = none) :
    step w (.pickRow page row) = if row < (w.choices page).length then setCurrentRow w page row else w := by
  unfold step
  rw [hq]

lemma asks_host (h : Asks w (.hostAt index)) : ∃ host, w.hosts[index]? = some host ∧ w.hostSelected ≠ host ∧
    step w (.pickHost index) = ({ w with hostIndex := some index }).ask (.host none) := by
  have hasked : (step w (.pickHost index)).question = some (.host none) := h.asked
  have hfree : ∀ v : Workspace, v.question = none → v.question ≠ some (.host none) := by
    intro v hv
    rw [hv]
    simp
  rw [step_pickHost h.free] at hasked ⊢
  by_cases hi : index < w.hosts.length
  · rw [if_pos hi] at hasked ⊢
    have hget : w.hosts[index]? = some w.hosts[index] := List.getElem?_eq_getElem hi
    have hcurrent : currentData { w with hostIndex := some index } = w.hosts[index] := by
      rw [currentData, Option.bind_some, hget, Option.getD_some]
    unfold setHostIndex hostChanged at hasked ⊢
    rw [hcurrent] at hasked ⊢
    split_ifs at hasked ⊢ with hsame hhost hdirty
    · exact absurd hasked (hfree w h.free)
    · exact absurd hasked (hfree { w with hostIndex := some index } h.free)
    · exact ⟨_, hget, hhost, rfl⟩
    · exact absurd hasked (hfree _ (hostConfirmed_question.trans h.free))
  · rw [if_neg hi] at hasked
    exact absurd hasked (hfree w h.free)

lemma asks_row (h : Asks w (.rowAt page row)) : ∃ e, (w.choices page)[row]? = some e ∧
    step w (.pickRow page row) =
      ({ w with rows := Function.update w.rows page (some row) }).ask (.select page row) := by
  have hasked : (step w (.pickRow page row)).question = some (.select page row) := h.asked
  have hfree : w.question ≠ some (.select page row) := by
    rw [h.free]
    simp
  rw [step_pickRow h.free] at hasked ⊢
  by_cases hi : row < (w.choices page).length
  · rw [if_pos hi] at hasked ⊢
    refine ⟨_, List.getElem?_eq_getElem hi, ?_⟩
    unfold setCurrentRow select at hasked ⊢
    split_ifs at hasked ⊢
    · exact absurd hasked hfree
    · exact absurd hasked hfree
    · rfl
    · exact absurd hasked ((selectConfirmed_spec _ page row).1 h.free)
  · rw [if_neg hi] at hasked
    exact absurd hasked hfree

lemma hostConfirmed_host : (hostConfirmed w).hostSelected = currentData w := by
  have hleave : ∀ (v : Workspace) page, (leavePage v page).hostSelected = v.hostSelected := by
    intro v page
    unfold leavePage release
    simp only
    split_ifs <;> rfl
  unfold hostConfirmed
  exact populate_fields.2.1.trans (foldl_keeps hleave Page.all _)

/-- After No, only the indices and the history are not those of a workspace without the pick. -/
lemma refused_sameSelection (pick : Pick) (hq : w'.question = some pick.question) (h : SameBehind w w') :
    SameSelection w (step w' (.answer false)) := by
  rw [step_answer hq]
  obtain ⟨i, rows, q, log, rfl⟩ := h
  cases pick with
  | hostAt index => exact ⟨rfl, fun _ => ⟨rfl, rfl⟩⟩
  | rowAt page row =>
    change SameSelection w (selectRefused _ page)
    unfold selectRefused
    split <;> exact ⟨rfl, fun _ => ⟨rfl, rfl⟩⟩

lemma host_takesEffect (h : Asks w (.hostAt index)) (hg : Gap (step w (.pickHost index)) w'
    (lastRebuild (step w (.pickHost index)) gap)) :
    TakesEffect w (.hostAt index) w' (answer w' (.host none) true) ↔ Undisplaced w (.hostAt index) gap := by
  obtain ⟨host, hget, hne, hstep⟩ := asks_host h
  have hselected : (answer w' (.host none) true).hostSelected = currentData w' := by
    change (hostConfirmed (Workspace.note { w' with question := none }
      (.confirmed (.host none)))).hostSelected = _
    rw [hostConfirmed_host]
    rfl
  have hone : ∀ {P : String → Prop}, (∀ host, w.hosts[index]? = some host → P host) ↔ P host := by
    intro P
    rw [hget]
    exact ⟨fun hp => hp host rfl, fun hp _ he => Option.some.inj he ▸ hp⟩
  unfold TakesEffect Undisplaced Pick.event
  simp only [hone, hselected]
  have hstepHost : (step w (.pickHost index)).hostSelected = w.hostSelected := by
    rw [hstep]
    rfl
  cases hl : lastRebuild (step w (.pickHost index)) gap with
  | none =>
    obtain ⟨hhosts, hindex, -⟩ := hg.kept hl
    have hcurrent : currentData w' = host := by
      rw [currentData, hindex, hhosts, hstep]
      change (w.hosts[index]?).getD "" = host
      rw [hget, Option.getD_some]
    simp [hcurrent]
  | some snapshot =>
    have hrebuilt := hg.rebuilt snapshot hl
    rw [hrebuilt.current, hrebuilt.hosts, hstepHost]
    simp only [Option.some.injEq, forall_eq']
    constructor
    · rintro (heq | hgone)
      · exact absurd heq hne
      · rw [not_or, not_or] at hgone
        exact ⟨hgone.1, hgone.2.1⟩
    · rintro ⟨hlocal, hgone⟩
      refine .inr ?_
      rw [not_or, not_or]
      exact ⟨hlocal, hgone, Ne.symm hne⟩

lemma row_takesEffect (h : Asks w (.rowAt page row)) (hg : Gap (step w (.pickRow page row)) w'
    (lastRebuild (step w (.pickRow page row)) gap)) :
    TakesEffect w (.rowAt page row) w' (answer w' (.select page row) true) ↔
      Undisplaced w (.rowAt page row) gap := by
  obtain ⟨e, hget, hstep⟩ := asks_row h
  have hspec := (selectConfirmed_spec (Workspace.note { w' with question := none }
    (.confirmed (.select page row))) page row).2
  have hanswer : answer w' (.select page row) true = selectConfirmed (Workspace.note
    { w' with question := none } (.confirmed (.select page row))) page row := rfl
  have hchoices : (Workspace.note { w' with question := none } (.confirmed (.select page row))).choices =
    w'.choices := rfl
  have hfault :
      (Workspace.note { w' with question := none } (.confirmed (.select page row))).fault = false := by
    have hstepFault : (step w (.pickRow page row)).fault = w.fault := by
      rw [hstep]
      rfl
    exact hg.fault.trans (hstepFault.trans h.fault)
  rw [hchoices, hfault, ← hanswer] at hspec
  clear hanswer hchoices hfault
  unfold TakesEffect Undisplaced Pick.event
  simp only [hget, Option.map_some]
  generalize answer w' (.select page row) true = w'' at hspec
  have hfound : ∀ e', (w'.choices page)[row]? = some e' → key e' = key e → w''.fault = false ∧
      ((∃ e' ∈ w'.choices page, key e' = key e) → key (w''.panels page).selected = key e) ∧
      ((∀ e' ∈ w'.choices page, key e' ≠ key e) → (w''.panels page).selected = {}) := by
    intro e' he' hkey
    rw [he'] at hspec
    obtain ⟨hf, hselected⟩ := hspec
    refine ⟨hf, fun _ => hselected ▸ hkey, fun hgone => ?_⟩
    exact absurd hkey (hgone e' (List.mem_of_getElem? he'))
  cases hl : lastRebuild (step w (.pickRow page row)) gap with
  | none =>
    obtain ⟨-, -, hchoices⟩ := hg.kept hl
    have hkept : (w'.choices page)[row]? = some e := by
      rw [hchoices, hstep]
      exact hget
    simpa using hfound e hkept rfl
  | some snapshot =>
    have hstepHost : (step w (.pickRow page row)).hostSelected = w.hostSelected := by
      rw [hstep]
      rfl
    have hlist : w'.choices page = offeredBy snapshot w.hostSelected page := by
      rw [(hg.rebuilt snapshot hl).choices, hstepHost]
    simp only [Option.some.injEq, forall_eq']
    rw [← hlist]
    constructor
    · rintro ⟨hf, hthere, hgone⟩
      cases he' : (w'.choices page)[row]? with
      | none =>
        rw [he'] at hspec
        simp only at hspec
        rw [hf] at hspec
        cases hspec
      | some e' =>
        rw [he'] at hspec
        obtain ⟨-, hselected⟩ := hspec
        by_cases hmem : ∃ e'' ∈ w'.choices page, key e'' = key e
        · rw [Option.map_some, ← hselected, hthere hmem]
        · have hempty := hgone (by simpa using hmem)
          have hkind : e'.kind = page.kind := by
            have hmem' := List.mem_of_getElem? he'
            rw [hlist] at hmem'
            exact offered_kind hmem'
          rw [← hselected, hempty] at hkind
          cases page <;> simp [Page.kind] at hkind
    · intro hkey
      cases he' : (w'.choices page)[row]? with
      | none =>
        rw [he'] at hkey
        cases hkey
      | some e' =>
        rw [he', Option.map_some, Option.some.injEq] at hkey
        exact hfound e' he' hkey

/-- A confirmed pick takes effect on what was picked exactly if no tick of the gap displaces it; a refused
pick leaves the selections and the edits as they are without it. -/
theorem picks_honoured (input : TickInput) (events : List Event) (pick : Pick) (gap : List TickInput)
    (h : Asks (run (start input) events) pick) :
    Honoured (run (start input) events) pick gap ↔ Undisplaced (run (start input) events) pick gap := by
  generalize run (start input) events = w at h ⊢
  have hbehind : SameBehind w (step w pick.event) := by
    cases pick with
    | hostAt index =>
      obtain ⟨_, _, _, hstep⟩ := asks_host h
      rw [Pick.event, hstep]
      exact ⟨_, _, _, _, rfl⟩
    | rowAt page row =>
      obtain ⟨_, _, hstep⟩ := asks_row h
      rw [Pick.event, hstep]
      exact ⟨_, _, _, _, rfl⟩
  have hgap := gap_ticks (step w pick.event) gap
  have hquestion : (gap.foldl tick (step w pick.event)).question = some pick.question :=
    hgap.question.trans h.asked
  have hno : SameSelection (run w (gap.map Event.tick))
      (step (run (step w pick.event) (gap.map Event.tick)) (.answer false)) := by
    have hasked := hbehind.run_ticks gap
    rw [run_ticks (step w pick.event)] at hasked ⊢
    exact refused_sameSelection pick hquestion hasked
  unfold Honoured
  simp only [hno, and_true]
  rw [run_ticks, step_answer hquestion]
  cases pick with
  | hostAt index => exact host_takesEffect h hgap
  | rowAt page row => exact row_takesEffect h hgap

/-- An edit of the robot's parameter; the next tick but three rebuilds the selector. -/
def editedRobot : List Event :=
  [quietTick, quietTick, quietTick, quietTick, .pickHost 1, .pickRow .parameter 0, tickWith 1 "3",
    .edit .parameter 0 "5"]

def quietGap (n : ℕ) : List TickInput := List.replicate n { snapshot := robotNetwork }

lemma editedRobot_asks : Asks (run (start { snapshot := robotNetwork }) editedRobot) (.hostAt 0) where
  free := by decide +kernel
  asked := by decide +kernel
  fault := by decide +kernel

theorem picks_honoured_sample :
    Honoured (run (start { snapshot := robotNetwork }) editedRobot) (.hostAt 0) (quietGap 3) := by
  refine (picks_honoured _ _ _ _ editedRobot_asks).mpr fun snapshot hs => ?_
  have hnone : (lastRebuild (step (run (start { snapshot := robotNetwork }) editedRobot)
    (Pick.hostAt 0).event) (quietGap 3)).isNone := by decide +kernel
  rw [hs] at hnone
  cases hnone

/-- The fourth tick sets the selector back, and Yes leaves the robot selected. -/
theorem host_pick_lost : ¬ ∀ (input : TickInput) (events : List Event) (pick : Pick) (gap : List TickInput),
    Asks (run (start input) events) pick → Honoured (run (start input) events) pick gap := by
  intro h
  obtain ⟨heffect, -⟩ := h { snapshot := robotNetwork } editedRobot (.hostAt 0) (quietGap 4) editedRobot_asks
  have hlocal : (run (start { snapshot := robotNetwork }) editedRobot).hosts[0]? = some "" := by decide +kernel
  have hkept : ¬ ((step (run (step (run (start { snapshot := robotNetwork }) editedRobot) (.pickHost 0))
      ((quietGap 4).map Event.tick)) (.answer true)).hostSelected = "" ∨
      "" ∉ (run (step (run (start { snapshot := robotNetwork }) editedRobot) (.pickHost 0))
        ((quietGap 4).map Event.tick)).hosts) := by decide +kernel
  exact hkept (heffect "" hlocal)

end Picks

end KcfTools.RemoteWorkspace
