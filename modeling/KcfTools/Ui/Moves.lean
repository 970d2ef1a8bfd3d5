import KcfTools.Lib.Transitions
import KcfTools.Ui.RemoteWorkspace

/-! Every event of the workspace is a chain of a few moves on its panels, requests and history. -/

namespace KcfTools.RemoteWorkspace

open Relation Transitions

/-- The parts of a panel that requests and replies work with. -/
def Panel.work (p : Panel) : RemoteEndpoint × ℕ × ℕ × Bool × Form :=
  (p.selected, p.revision, p.subscription, p.busy, p.input)

structure SameWork (w w' : Workspace) : Prop where
  epoch : w'.epoch = w.epoch
  pending : w'.pending = w.pending
  sent : w'.sent = w.sent
  log : w'.log = w.log
  question : w'.question = w.question ∨ w'.question = none
  panels : ∀ page, (w'.panels page).work = (w.panels page).work
  choices : ∀ page, ∀ e ∈ w'.choices page, e ∈ w.choices page ∨ e.kind = page.kind

lemma SameWork.refl (w : Workspace) : SameWork w w :=
  ⟨rfl, rfl, rfl, rfl, .inl rfl, fun _ => rfl, fun _ _ => .inl⟩

def Question.covers : Question → Page → Bool
  | .host _, _ => true
  | .select page _, page' => page = page'
  | .request page _, page' => page = page'
  | .configure _, _ => true
  | .close, _ => true

/-- The question is open: nothing was edited since it was asked. -/
def Posed (q : Question) (log : List Notice) : Prop :=
  ∃ recent earlier, log = recent ++ .asked q :: earlier ∧ ∀ page row text, .edited page row text ∉ recent

/-- A discard question about the page was asked and confirmed after the page's last edit. -/
def Confirmed (page : Page) (log : List Notice) : Prop :=
  ∃ recent q earlier, log = recent ++ .asked q :: earlier ∧ .confirmed q ∈ recent ∧ q.covers page ∧
    ∀ row text, .edited page row text ∉ recent

/-- The page holds no edit that the user has not given up. -/
def Safe (w : Workspace) (page : Page) : Prop :=
  (w.panels page).input.dirty = false ∨ Confirmed page w.log

/-- What is known when a page sends a command. -/
structure Request (w : Workspace) (page : Page) (c : RemoteCommand) : Prop where
  question : w.question = none
  idle : (w.panels page).busy = false
  safe : c.operation = .get ∨ c.operation = .prepare → Safe w page
  source : c.operation = .cancel ∨ c.endpoint = (w.panels page).selected ∧
    c.input = (w.panels page).input.edited ∧ c.handle = (w.panels page).subscription
  topic : c.operation = .subscribe ∨ c.operation = .unsubscribe → page = .topic
  unsubscribed : c.operation = .subscribe → (w.panels page).subscription = 0

def pick (w : Workspace) (page : Page) (e : RemoteEndpoint) : Workspace :=
  let w := clear w page .selected
  w.setPanel page { w.panels page with selected := e }

def reconfigure (w : Workspace) : Workspace := Page.all.foldl detachPage { w with epoch := w.epoch + 1 }

/-- `ok` restricts the states in which a reply is received. -/
inductive Move (ok : Pending → RemoteReply → Workspace → Prop) : Workspace → Workspace → Prop
  | view {w w'} (h : SameWork w w') : Move ok w w'
  | ask {w q} (h : ∀ page operation, q = .request page operation →
      (w.panels page).busy = false ∧ (operation = .get ∨ operation = .prepare)) : Move ok w (w.ask q)
  | confirm {w q} (h : Posed q w.log) : Move ok w (w.note (.confirmed q))
  | edit {w page row text} (h : w.question = none) : Move ok w (editCell w page row text)
  | clear {w page reason} (h : reason = .invalidated ∨ reason ≠ .reconfigured ∧ Safe w page) :
      Move ok w (clear w page reason)
  | pick {w page e} (h : Safe w page) (hs : (w.panels page).subscription = 0) : Move ok w (pick w page e)
  | release {w page} : Move ok w (release w page)
  | submit {w page c} (h : Request w page c) : Move ok w (submit w page c)
  | receive {w entry r} (hp : entry ∈ w.pending) (h : ok entry r w) : Move ok w (receive w entry r)
  | reconfigure {w} : Move ok w (reconfigure w)
  | poll {w} : Move ok w (submitRemote w { operation := .poll })

abbrev Moves (ok : Pending → RemoteReply → Workspace → Prop) := ReflTransGen (Move ok)

section Fields

variable {w : Workspace} {entry : Pending} {r : RemoteReply}

/-- The workspace when the panel takes the reply. -/
def answered (w : Workspace) (entry : Pending) (r : RemoteReply) : Workspace :=
  dropStale (recordGoal (settle w entry) entry r) entry r

def staleCommands (w : Workspace) (entry : Pending) (r : RemoteReply) : List RemoteCommand :=
  if entry.epoch = w.epoch ∧ entry.revision ≠ (w.panels entry.page).revision ∧
      entry.command.operation = .subscribe ∧ r.handle ≠ 0 then [unsubscribeCommand r.handle] else []

lemma settle_panels_self : (settle w entry).panels entry.page = { w.panels entry.page with busy := false } :=
  Function.update_self ..

lemma recordGoal_cases (v : Workspace) :
    ∃ activities, recordGoal v entry r = { v with activities := activities } := by
  unfold recordGoal
  split_ifs
  · exact ⟨_, rfl⟩
  · exact ⟨v.activities, rfl⟩

lemma answered_cases : ∃ activities, answered w entry r =
    { settle w entry with activities := activities, sent := w.sent ++ staleCommands w entry r } := by
  obtain ⟨activities, h⟩ := @recordGoal_cases entry r (settle w entry)
  have hrevision : ((settle w entry).panels entry.page).revision = (w.panels entry.page).revision := by
    rw [settle_panels_self]
  have hepoch : (settle w entry).epoch = w.epoch := rfl
  refine ⟨activities, ?_⟩
  unfold answered dropStale staleCommands
  rw [h]
  simp only [hrevision, hepoch]
  split_ifs
  · rfl
  · rw [List.append_nil]
    rfl

@[simp] lemma receive_pending : (receive w entry r).pending = w.pending.erase entry := by
  obtain ⟨activities, h⟩ := @answered_cases w entry r
  have ha : (answered w entry r).pending = w.pending.erase entry := by rw [h]; rfl
  unfold receive
  simp only
  split_ifs <;> exact ha

end Fields

section View

variable {ok : Pending → RemoteReply → Workspace → Prop} {w w' : Workspace}

lemma moves_view (h : SameWork w w') : Moves ok w w' := .single (.view h)

@[simp] lemma setPanel_panels_self (page : Page) (p : Panel) : (w.setPanel page p).panels page = p :=
  Function.update_self ..

lemma setPanel_panels_of_ne {page page' : Page} (h : page' ≠ page) (p : Panel) :
    (w.setPanel page p).panels page' = w.panels page' :=
  Function.update_of_ne h ..

lemma sameWork_setPanel {page : Page} {p : Panel} (h : p.work = (w.panels page).work) :
    SameWork w (w.setPanel page p) := by
  refine ⟨rfl, rfl, rfl, rfl, .inl rfl, fun page' => ?_, fun _ _ => .inl⟩
  by_cases hp : page' = page
  · subst hp
    rw [setPanel_panels_self, h]
  · rw [setPanel_panels_of_ne hp]

lemma sameWork_showActivity : SameWork w (showActivity w) := by
  unfold showActivity
  split
  · exact ⟨rfl, rfl, rfl, rfl, .inl rfl, fun _ => rfl, fun _ _ => .inl⟩
  · split
    · exact .refl _
    · exact ⟨rfl, rfl, rfl, rfl, .inl rfl, fun _ => rfl, fun _ _ => .inl⟩

lemma moves_foldl {α : Type} {f : Workspace → α → Workspace} (hf : ∀ w a, Moves ok w (f w a)) (l : List α)
    (w : Workspace) : Moves ok w (l.foldl f w) := by
  induction l generalizing w with
  | nil => exact .refl
  | cons a l ih => exact (hf w a).trans (ih (f w a))

lemma offered_kind {page : Page} {e : RemoteEndpoint} (h : e ∈ offered w page) : e.kind = page.kind := by
  unfold offered at h
  split at h
  · exact of_decide_eq_true (List.mem_filter.mp h).2
  · cases h

lemma moves_populatePage (page : Page) : Moves ok w (populatePage w page) := by
  have hview : SameWork w { w with
      choices := Function.update w.choices page (offered w page)
      rows := Function.update w.rows page (rowOf (offered w page) (key (w.panels page).selected)) } := by
    refine ⟨rfl, rfl, rfl, rfl, .inl rfl, fun _ => rfl, fun page' e he => ?_⟩
    by_cases hp : page' = page
    · subst hp
      simp only [Function.update_self] at he
      exact .inr (offered_kind he)
    · simp only [Function.update_of_ne hp] at he
      exact .inl he
  unfold populatePage
  simp only
  split_ifs
  · exact .head (.view hview) (.single (.clear (.inl rfl)))
  · exact moves_view hview

lemma moves_populate : Moves ok w (populate w) := moves_foldl (fun _ _ => moves_populatePage _) _ w

end View

section Ticks

variable {ok : Pending → RemoteReply → Workspace → Prop} {w : Workspace} {input : TickInput}

lemma moves_rebuildHosts : Moves ok w (rebuildHosts w) := by
  unfold rebuildHosts
  simp only
  split
  · exact moves_view ⟨rfl, rfl, rfl, rfl, .inl rfl, fun _ => rfl, fun _ _ => .inl⟩
  · exact moves_view ⟨rfl, rfl, rfl, rfl, .inl rfl, fun _ => rfl, fun _ _ => .inl⟩

lemma sameWork_observe : SameWork w (observe w input) := by
  have h : ∀ v : Workspace, SameWork v (if v.activity = none then v else showActivity v) := fun v => by
    split_ifs
    · exact .refl v
    · exact sameWork_showActivity
  obtain ⟨he, hp, hs, hl, hq, hpanels, hc⟩ := h { w with snapshot := input.snapshot }
  exact ⟨he, hp, hs, hl, hq, hpanels, hc⟩

lemma moves_refresh : Moves ok w (refresh w input) := by
  have hcount : Moves ok w (countTick (observe w input)) :=
    (moves_view sameWork_observe).trans
      (moves_view ⟨rfl, rfl, rfl, rfl, .inl rfl, fun _ => rfl, fun _ _ => .inl⟩)
  unfold refresh
  simp only
  split_ifs
  · exact hcount.trans (moves_rebuildHosts.trans moves_populate)
  · exact hcount

/-- The states in which a tick receives the replies. -/
def Handles (w : Workspace) (input : TickInput) (entry : Pending) (r : RemoteReply) (s : Workspace) : Prop :=
  ∃ before later, (refresh w input).pending = before ++ entry :: later ∧ input.ready entry.ticket = some r ∧
    s = before.foldl (receiveReady input.ready) (refresh w input)

/-- After some of the replies, the other requests are still pending. -/
lemma moves_received (h : ∀ entry r s, Handles w input entry r s → ok entry r s) (before later : List Pending)
    (hp : (refresh w input).pending = before ++ later) :
    Moves ok (refresh w input) (before.foldl (receiveReady input.ready) (refresh w input)) ∧
      later.Sublist (before.foldl (receiveReady input.ready) (refresh w input)).pending := by
  induction before using List.reverseRecOn generalizing later with
  | nil =>
    have hl : (refresh w input).pending = later := hp
    exact ⟨.refl, hl ▸ List.Sublist.refl _⟩
  | append_singleton before entry ih =>
    obtain ⟨hmoves, hs⟩ := ih (entry :: later) (by simp [hp])
    rw [List.foldl_append, List.foldl_cons, List.foldl_nil]
    cases hr : input.ready entry.ticket with
    | none =>
      simp only [receiveReady, hr]
      exact ⟨hmoves, List.sublist_of_cons_sublist hs⟩
    | some r =>
      simp only [receiveReady, hr]
      refine ⟨hmoves.tail (.receive (hs.mem List.mem_cons_self)
        (h entry r _ ⟨before, later, by simp [hp], hr, rfl⟩)), ?_⟩
      rw [receive_pending]
      simpa using hs.erase entry

lemma moves_replies (h : ∀ entry r s, Handles w input entry r s → ok entry r s) :
    Moves ok (refresh w input) (replies (refresh w input) input.ready) :=
  (moves_received h _ [] (List.append_nil _).symm).1

lemma moves_measured (a : RemoteActivity) : Moves ok w (measured w a) := by
  unfold measured
  split_ifs
  · exact moves_view ⟨rfl, rfl, rfl, rfl, .inl rfl, fun _ => rfl, fun _ _ => .inl⟩
  · exact moves_view ⟨rfl, rfl, rfl, rfl, .inl rfl, fun _ => rfl, fun _ _ => .inl⟩

lemma measured_panels (a : RemoteActivity) : (measured w a).panels = w.panels := by
  unfold measured
  split_ifs <;> rfl

lemma moves_reportTopic (a : RemoteActivity) : Moves ok w (reportTopic w a) := by
  unfold reportTopic
  simp only
  split_ifs
  · exact .refl
  · refine (moves_measured a).trans (moves_view (sameWork_setPanel ?_))
    rw [measured_panels]
    rfl
  · refine (moves_measured a).trans (.head (.view ?_) (moves_view (sameWork_setPanel ?_)))
    · exact ⟨rfl, rfl, rfl, rfl, .inl rfl, fun _ => rfl, fun _ _ => .inl⟩
    · rw [measured_panels]
      rfl
  · exact moves_measured a

lemma moves_report (a : RemoteActivity) : Moves ok w (report w a) := by
  unfold report
  split_ifs
  · exact moves_reportTopic a
  · exact moves_view ⟨rfl, rfl, rfl, rfl, .inl rfl, fun _ => rfl, fun _ _ => .inl⟩

lemma moves_listActivities : Moves ok w (listActivities w) := by
  unfold listActivities
  refine .head (.view ?_) (moves_view sameWork_showActivity)
  exact ⟨rfl, rfl, rfl, rfl, .inl rfl, fun _ => rfl, fun _ _ => .inl⟩

/-- The states in which a tick reads the activities of a poll. -/
def Polls (w : Workspace) (input : TickInput) (a : RemoteActivity) (s : Workspace) : Prop :=
  let w := replies (refresh w input) input.ready
  ∃ r before later, w.polling.bind input.ready = some r ∧
    (w.pollEpoch = w.epoch ∧ ¬ w.configuring ∧ ¬ w.closing) ∧
    r.activities = before ++ a :: later ∧ s = before.foldl report { w with polling := none }

lemma moves_pollReply (ready : ℕ → Option RemoteReply) : Moves ok w (pollReply w ready) := by
  unfold pollReply
  cases w.polling.bind ready with
  | none => exact .refl
  | some r =>
    let v : Workspace := { w with polling := none }
    have hv : Moves ok w v := moves_view ⟨rfl, rfl, rfl, rfl, .inl rfl, fun _ => rfl, fun _ _ => .inl⟩
    have hr : Moves ok v (if v.pollEpoch = v.epoch ∧ ¬ v.configuring ∧ ¬ v.closing then
        r.activities.foldl report v else v) := by
      split_ifs
      · exact moves_foldl (fun _ a => moves_report a) _ _
      · exact .refl
    exact hv.trans (hr.trans moves_listActivities)

lemma moves_poll : Moves ok w (poll w) := by
  unfold poll
  split_ifs
  · refine .head (.view ?_) (.single .poll)
    exact ⟨rfl, rfl, rfl, rfl, .inl rfl, fun _ => rfl, fun _ _ => .inl⟩
  · exact .refl

lemma enableButtons_work (page : Page) (p : Panel) : (enableButtons w page p).work = p.work := by
  unfold enableButtons
  simp only
  split_ifs <;> rfl

lemma moves_enable : Moves ok w (enable w) :=
  moves_view ⟨rfl, rfl, rfl, rfl, .inl rfl, fun page => enableButtons_work page _, fun _ _ => .inl⟩

lemma moves_detach (v : Workspace) (shutdown : Bool) :
    Moves ok v { v with activities := v.activities.map detach, configurationShutdown := shutdown
                        configuring := true } :=
  moves_view ⟨rfl, rfl, rfl, rfl, .inl rfl, fun _ => rfl, fun _ _ => .inl⟩

lemma moves_configureConfirmed (shutdown : Bool) (hostId : String) :
    Moves ok w (configureConfirmed w shutdown hostId) := by
  unfold configureConfirmed
  split_ifs
  · exact .refl
  · exact .head .reconfigure (moves_detach _ shutdown)

lemma moves_configure (shutdown : Bool) (hostId : String) : Moves ok w (configure w shutdown hostId) := by
  unfold configure
  split_ifs
  · exact .refl
  · exact .single (.ask fun _ _ hq => by cases hq)
  · exact moves_configureConfirmed shutdown hostId

lemma moves_configured : Moves ok w (configured w input) := by
  unfold configured
  split_ifs
  · exact moves_view ⟨rfl, rfl, rfl, rfl, .inl rfl, fun _ => rfl, fun _ _ => .inl⟩
  · exact .refl

lemma moves_handles {entry : Pending} {r : RemoteReply} {s : Workspace}
    (hs : Handles (configured w input) input entry r s) :
    Moves (fun _ _ _ => True) w s ∧ entry ∈ s.pending := by
  obtain ⟨before, later, hp, -, rfl⟩ := hs
  obtain ⟨hmoves, hsub⟩ := moves_received (fun _ _ _ _ => trivial) before (entry :: later) hp
  exact ⟨moves_configured.trans (moves_refresh.trans hmoves), hsub.mem List.mem_cons_self⟩

lemma moves_polls {a : RemoteActivity} {s : Workspace} (hs : Polls (configured w input) input a s) :
    Moves (fun _ _ _ => True) w s := by
  obtain ⟨r, before, later, -, -, -, rfl⟩ := hs
  have hreplies : Moves (fun _ _ _ => True) w (replies (refresh (configured w input) input) input.ready) :=
    moves_configured.trans (moves_refresh.trans (moves_replies fun _ _ _ _ => trivial))
  refine hreplies.trans (.head (.view ?_) (moves_foldl (fun _ a => moves_report a) before _))
  exact ⟨rfl, rfl, rfl, rfl, .inl rfl, fun _ => rfl, fun _ _ => .inl⟩

/-- The tick gets as far as the replies. -/
def Replies (w : Workspace) (input : TickInput) : Prop := ¬ (w.configuring ∧ input.configured ∧ w.closing)

lemma moves_tick (h : Replies w input → ∀ entry r s, Handles (configured w input) input entry r s →
    ok entry r s) :
    Moves ok w (tick w input) := by
  have hclosed : ∀ v : Workspace, Moves ok v { v with closed := true } := fun v =>
    moves_view ⟨rfl, rfl, rfl, rfl, .inl rfl, fun _ => rfl, fun _ _ => .inl⟩
  unfold tick
  split_ifs with hc hs
  · exact moves_configured.trans (hclosed (configured w input))
  · exact moves_configured.trans (moves_configure true "")
  · exact moves_configured.trans (moves_refresh.trans ((moves_replies (h hc)).trans
      ((moves_pollReply _).trans (moves_poll.trans moves_enable))))

end Ticks

section Clicks

variable {ok : Pending → RemoteReply → Workspace → Prop} {w : Workspace}

lemma moves_release (page : Page) : Moves ok w (release w page) := .single .release

lemma release_panels {page page' : Page} :
    (release w page).panels page' =
      if page' = page then { w.panels page with subscription := 0 } else w.panels page' := by
  unfold release
  simp only
  split_ifs with hs hp hp
  · subst hp
    exact setPanel_panels_self ..
  · exact setPanel_panels_of_ne hp _
  · subst hp
    rw [not_not] at hs
    rw [← hs]
  · rfl

lemma release_input (page page' : Page) :
    ((release w page).panels page').input = (w.panels page').input := by
  rw [release_panels]
  split_ifs with hp
  · rw [hp]
  · rfl

lemma release_log (page : Page) : (release w page).log = w.log := by
  unfold release
  simp only
  split_ifs <;> rfl

lemma Safe.release {page : Page} (h : Safe w page) (page' : Page) : Safe (release w page') page := by
  unfold Safe
  rw [release_input, release_log]
  exact h

lemma Confirmed.cons {page : Page} {log : List Notice} {n : Notice} (h : Confirmed page log)
    (hn : ∀ row text, n ≠ .edited page row text) : Confirmed page (n :: log) := by
  obtain ⟨recent, q, earlier, rfl, hm, hc, hl⟩ := h
  refine ⟨n :: recent, q, earlier, rfl, List.mem_cons_of_mem _ hm, hc, fun row text he => ?_⟩
  rcases List.mem_cons.mp he with he | he
  · exact hn row text he.symm
  · exact hl row text he

lemma Posed.confirmed {q : Question} {log : List Notice} (h : Posed q log) {page : Page} (hc : q.covers page) :
    Confirmed page (.confirmed q :: log) := by
  obtain ⟨recent, earlier, rfl, hl⟩ := h
  exact ⟨.confirmed q :: recent, q, earlier, rfl, List.mem_cons_self, hc, by simpa using hl page⟩

lemma Safe.clear {page : Page} (h : Safe w page) (page' : Page) (reason : Reason) :
    Safe (clear w page' reason) page := by
  rcases h with h | h
  · refine .inl ?_
    by_cases hp : page = page'
    · subst hp
      simp [RemoteWorkspace.clear, Workspace.note, Panel.clear, render]
    · simpa [RemoteWorkspace.clear, Workspace.note, setPanel_panels_of_ne hp] using h
  · exact .inr (h.cons fun row text hn => by cases hn)

lemma moves_leavePage (page : Page) (h : Safe w page) : Moves ok w (leavePage w page) :=
  (moves_release page).tail (.clear (.inr ⟨by simp, h.release page⟩))

lemma release_question (page : Page) : (release w page).question = w.question := by
  unfold release
  simp only
  split_ifs <;> rfl

lemma hostConfirmed_question : (hostConfirmed w).question = w.question := by
  have hleave : ∀ (v : Workspace) page, (leavePage v page).question = v.question := fun _ page =>
    release_question page
  have hpopulate : ∀ (v : Workspace) page, (populatePage v page).question = v.question := fun v page => by
    unfold populatePage
    simp only
    split_ifs <;> rfl
  unfold hostConfirmed populate
  rw [foldl_keeps hpopulate, foldl_keeps hleave]

lemma moves_hostConfirmed (h : ∀ page, Safe w page) : Moves ok w (hostConfirmed w) := by
  have hrun : ∀ (l : List Page) (v : Workspace), (∀ page, Safe v page) → Moves ok v (l.foldl leavePage v) := by
    intro l
    induction l with
    | nil => exact fun _ _ => .refl
    | cons page l ih =>
      intro v hv
      exact (moves_leavePage page (hv page)).trans
        (ih _ fun page' => ((hv page').release page).clear page .hostChanged)
  let v : Workspace := { w with hostSelected := currentData w }
  have hv : Moves ok w v := moves_view ⟨rfl, rfl, rfl, rfl, .inl rfl, fun _ => rfl, fun _ _ => .inl⟩
  exact hv.trans ((hrun Page.all v h).trans moves_populate)

/-- The page has a button for the operation. -/
def Offers (page : Page) (operation : RemoteOperation) : Prop :=
  operation = page.operations.1 ∨ operation = page.operations.2

lemma Offers.topic {page : Page} {operation : RemoteOperation} (h : Offers page operation) :
    operation = .subscribe ∨ operation = .unsubscribe → page = .topic := by
  intro ht
  cases page <;> rcases h with rfl | rfl <;> simp [Page.operations] at ht ⊢

lemma moves_requestConfirmed {page : Page} {operation : RemoteOperation} (hq : w.question = none)
    (hb : (w.panels page).busy = false)
    (ht : operation = .subscribe ∨ operation = .unsubscribe → page = .topic)
    (hs : operation = .get ∨ operation = .prepare → Safe w page) :
    Moves ok w (requestConfirmed w page operation) := by
  unfold requestConfirmed
  simp only
  split_ifs with hc
  · exact .refl
  · refine .single (.submit ⟨hq, hb, hs, .inr ⟨rfl, rfl, rfl⟩, ht, fun hsub => ?_⟩)
    by_contra hn
    exact hc ⟨hsub, hn⟩

lemma moves_request {page : Page} {operation : RemoteOperation} (hq : w.question = none)
    (ho : Offers page operation) : Moves ok w (request w page operation) := by
  unfold request
  split_ifs with hb hd
  · exact .refl
  · refine .single (.ask fun page' operation' he => ?_)
    cases he
    exact ⟨by simpa using hb, hd.1⟩
  · refine moves_requestConfirmed hq (by simpa using hb) ho.topic fun hg => .inl ?_
    by_contra hn
    exact hd ⟨hg, by simpa using hn⟩

lemma moves_selectConfirmed {page : Page} (row : ℕ) (hq : w.question = none) (hs : Safe w page) :
    Moves ok w (selectConfirmed w page row) := by
  have hrelease : Moves ok w (release w page) := moves_release page
  have hq' : (release w page).question = none := (release_question page).trans hq
  unfold selectConfirmed
  simp only
  split
  · have hclear : Moves ok w (clear (release w page) page .selected) :=
      hrelease.tail (.clear (.inr ⟨by simp, hs.release page⟩))
    exact hclear.trans (moves_view ⟨rfl, rfl, rfl, rfl, .inl rfl, fun _ => rfl, fun _ _ => .inl⟩)
  · rename_i e _
    have hpick : Moves ok w (pick (release w page) page e) := hrelease.tail
      (.pick (hs.release page) (by rw [release_panels, if_pos rfl]))
    have hq'' : (pick (release w page) page e).question = none := hq'
    change Moves ok w (if page ≠ .topic ∧ current (pick (release w page) page e) e ∧
        (pick (release w page) page e).snapshot.remoteControlAvailable ∧ e.scope = "REMOTE" then
      request (pick (release w page) page e) page (if page = .parameter then .get else .prepare)
      else pick (release w page) page e)
    split_ifs with hc hp
    · exact hpick.trans (moves_request hq'' (by subst hp; exact .inl rfl))
    · refine hpick.trans (moves_request hq'' ?_)
      cases page <;> simp_all [Offers, Page.operations]
    · exact hpick

lemma moves_select (page : Page) (row : ℕ) (hq : w.question = none) : Moves ok w (select w page row) := by
  unfold select
  split_ifs with hl hd
  · exact .refl
  · exact .single (.ask fun _ _ he => by cases he)
  · exact moves_selectConfirmed row hq (.inl (by simpa using hd))

lemma moves_setCurrentRow (page : Page) (row : ℕ) (hq : w.question = none) :
    Moves ok w (setCurrentRow w page row) := by
  unfold setCurrentRow
  split_ifs
  · exact .refl
  · refine .head (.view ?_) (moves_select page row ?_)
    · exact ⟨rfl, rfl, rfl, rfl, .inl rfl, fun _ => rfl, fun _ _ => .inl⟩
    · exact hq

lemma moves_navigate (id : String) (hq : w.question = none) : Moves ok w (navigate w id) := by
  unfold navigate
  split
  · exact .refl
  · exact moves_setCurrentRow _ _ hq

lemma moves_resume (next : Option (String × String)) (hq : w.question = none) : Moves ok w (resume w next) := by
  unfold resume
  split
  · exact .refl
  · split_ifs
    · exact .refl
    · exact moves_navigate _ hq

lemma moves_hostChanged (next : Option (String × String)) (hq : w.question = none) :
    Moves ok w (hostChanged w next) := by
  unfold hostChanged
  split_ifs with hs hd
  · exact moves_resume next hq
  · exact .single (.ask fun _ _ he => by cases he)
  · have hsafe : ∀ page, Safe w page := fun page => .inl (by
      have hpage : page ∈ Page.all := by cases page <;> simp [Page.all]
      by_contra hn
      exact hd (List.any_eq_true.mpr ⟨page, hpage, by simpa using hn⟩))
    exact (moves_hostConfirmed hsafe).trans (moves_resume next (hostConfirmed_question.trans hq))

lemma moves_setHostIndex (index : ℕ) (next : Option (String × String)) (hq : w.question = none) :
    Moves ok w (setHostIndex w index next) := by
  unfold setHostIndex
  split_ifs
  · exact moves_resume next hq
  · refine .head (.view ?_) (moves_hostChanged next ?_)
    · exact ⟨rfl, rfl, rfl, rfl, .inl rfl, fun _ => rfl, fun _ _ => .inl⟩
    · exact hq

lemma moves_openRemote (host : String) (endpoint : Option String) (hq : w.question = none) :
    Moves ok w (openRemote w host endpoint) := by
  unfold openRemote
  split
  · exact .refl
  · exact moves_setHostIndex _ _ hq

lemma moves_closeConfirmed : Moves ok w (closeConfirmed w) := by
  refine .head (.view ?_) (moves_configure true "")
  exact ⟨rfl, rfl, rfl, rfl, .inl rfl, fun _ => rfl, fun _ _ => .inl⟩

lemma moves_beginClose : Moves ok w (beginClose w) := by
  unfold beginClose
  split_ifs
  · exact .refl
  · exact .refl
  · exact .single (.ask fun _ _ he => by cases he)
  · exact moves_closeConfirmed

lemma moves_cancelSelected (hq : w.question = none) : Moves ok w (cancelSelected w) := by
  unfold cancelSelected
  split_ifs with hb
  · exact .refl
  split
  · exact .refl
  split_ifs
  · exact .refl
  · exact .single (.submit ⟨hq, by simpa using hb, by simp, .inl rfl, by simp, by simp⟩)

lemma moves_press (page : Page) (second : Bool) (hq : w.question = none) :
    Moves ok w (press w page second) := by
  unfold press
  split_ifs
  · exact moves_request hq (.inr rfl)
  · exact .refl
  · exact moves_request hq (.inl rfl)
  · exact .refl

/-- What is known while a question is open. -/
def Asked (w : Workspace) : Prop :=
  ∀ q, w.question = some q → Posed q w.log ∧ ∀ page operation, q = .request page operation →
    (w.panels page).busy = false ∧ (operation = .get ∨ operation = .prepare)

lemma moves_answer {q : Question} (yes : Bool) (hq : w.question = some q) (ha : Asked w) :
    Moves ok w (answer w q yes) := by
  let v : Workspace := { w with question := none }
  have hv : Moves ok w v := moves_view ⟨rfl, rfl, rfl, rfl, .inr rfl, fun _ => rfl, fun _ _ => .inl⟩
  obtain ⟨hposed, ha⟩ := ha q hq
  unfold answer
  cases yes with
  | true =>
    have hc : Moves ok w (v.note (.confirmed q)) := hv.tail (.confirm hposed)
    have hsafe : ∀ page, q.covers page → Safe (v.note (.confirmed q)) page := fun page hp =>
      .inr (hposed.confirmed hp)
    apply hc.trans
    cases q with
    | host next =>
      exact (moves_hostConfirmed fun page => hsafe page rfl).trans
        (moves_resume next hostConfirmed_question)
    | select page row => exact moves_selectConfirmed row rfl (hsafe page (by simp [Question.covers]))
    | request page operation =>
      obtain ⟨hb, ho⟩ := ha page operation rfl
      refine moves_requestConfirmed rfl hb (fun ht => ?_) fun _ => hsafe page (by simp [Question.covers])
      rcases ho with rfl | rfl <;> simp at ht
    | configure hostId => exact moves_configureConfirmed false hostId
    | close => exact moves_closeConfirmed
  | false =>
    have hrows : ∀ (u : Workspace) rows, Moves ok u { u with rows := rows } := fun u _ =>
      moves_view ⟨rfl, rfl, rfl, rfl, .inl rfl, fun _ => rfl, fun _ _ => .inl⟩
    have hindex : ∀ (u : Workspace), Moves ok u (hostRefused u) := fun u =>
      moves_view ⟨rfl, rfl, rfl, rfl, .inl rfl, fun _ => rfl, fun _ _ => .inl⟩
    apply hv.trans
    cases q with
    | host next => exact (hindex v).trans (moves_resume next rfl)
    | select page row =>
      change Moves ok v (selectRefused v page)
      unfold selectRefused
      split
      · exact .refl
      · exact hrows v _
    | request page operation => exact .refl
    | configure hostId => exact .refl
    | close => exact .refl

/-- An event receives the replies of its tick in the states where `ok` holds. -/
def Receives (ok : Pending → RemoteReply → Workspace → Prop) (w : Workspace) : Event → Prop
  | .tick input => Replies w input → ∀ entry r s, Handles (configured w input) input entry r s → ok entry r s
  | _ => True

/-- Every event of the run receives its replies in states where `ok` holds. -/
def Runs (ok : Pending → RemoteReply → Workspace → Prop) : Workspace → List Event → Prop
  | _, [] => True
  | w, e :: events => Receives ok w e ∧ Runs ok (step w e) events

theorem moves_step {e : Event} (ha : Asked w) (h : Receives ok w e) : Moves ok w (step w e) := by
  unfold step
  split
  · exact moves_tick h
  · rename_i q yes hq
    exact moves_answer yes hq ha
  · exact .refl
  all_goals rename_i hq
  · exact .refl
  · split_ifs
    · exact moves_setHostIndex _ none hq
    · exact .refl
  · split_ifs
    · exact moves_setCurrentRow _ _ hq
    · exact .refl
  · exact moves_navigate _ hq
  · exact moves_openRemote _ _ hq
  · exact moves_press _ _ hq
  · split_ifs
    · exact moves_cancelSelected hq
    · exact .refl
  · split_ifs
    · refine .head (.view ?_) (moves_view sameWork_showActivity)
      exact ⟨rfl, rfl, rfl, rfl, .inl rfl, fun _ => rfl, fun _ _ => .inl⟩
    · exact .refl
  · exact .single (.edit hq)
  · exact moves_view ⟨rfl, rfl, rfl, rfl, .inl rfl, fun _ => rfl, fun _ _ => .inl⟩
  · exact moves_configure _ _
  · exact moves_beginClose

end Clicks

end KcfTools.RemoteWorkspace
