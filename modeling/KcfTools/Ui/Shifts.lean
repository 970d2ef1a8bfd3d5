import KcfTools.Lib.Transitions
import KcfTools.Ui.RemoteWorkspace

/-! Every event of the workspace is a chain of a few shifts of its network settings and its activities. -/

namespace KcfTools.RemoteWorkspace

open Relation Transitions

/-- The network settings may be changed, unless the window is about to close. -/
def Free (w : Workspace) : Prop := ¬ w.configuring ∧ (w.closing → w.closed)

/-- What holds while a question is open. -/
def Allowed (w : Workspace) : Question → Prop
  | .configure _ => Free w
  | .request _ operation => operation ≠ .cancel
  | _ => True

/-- The network settings stay as they are. -/
structure Unchanged (w w' : Workspace) : Prop where
  epoch : w'.epoch = w.epoch
  configuring : w'.configuring = w.configuring
  closing : w'.closing = w.closing
  closed : w'.closed = w.closed
  shutdown : w'.configurationShutdown = w.configurationShutdown
  question : w'.question = w.question ∨ ∀ q, w'.question = some q → Allowed w q

/-- The activities stay as well, and nothing is cancelled. -/
structure Still (w w' : Workspace) : Prop extends Unchanged w w' where
  activities : w'.activities = w.activities
  activityItems : w'.activityItems = w.activityItems
  activity : w'.activity = w.activity
  polling : w'.polling = w.polling
  sent : ∃ new, w'.sent = w.sent ++ new ∧ ∀ c ∈ new, c.operation ≠ .cancel

def begun (w : Workspace) (shutdown : Bool) : Workspace :=
  { Page.all.foldl detachPage { w with epoch := w.epoch + 1 } with
    activities := w.activities.map detach, configurationShutdown := shutdown, configuring := true }

def cancelCommand (w : Workspace) (h : ℕ) (a : RemoteActivity) : RemoteCommand :=
  { operation := .cancel, endpoint := a.endpoint, handle := h, timeoutMs := w.timeoutMs }

/-- `ok` restricts what is entered into the table of activities, `lists` whether it may be trimmed. -/
inductive Shift (ok : ℕ → RemoteEndpoint → Prop) (lists : Prop) : Workspace → Workspace → Prop
  | still {w w'} (h : Still w w') : Shift ok lists w w'
  | shown {w} : Shift ok lists w (showActivity w)
  | entered {w} {a : RemoteActivity} (h : ok a.handle a.endpoint) :
      Shift ok lists w { w with activities := w.activities.insert a.handle a }
  | listed {w} (hl : lists) : Shift ok lists w (listActivities w)
  | polled {w} : Shift ok lists w
      (submitRemote { w with pollEpoch := w.epoch, polling := some w.sent.length } { operation := .poll })
  | collected {w} : Shift ok lists w { w with polling := none }
  | picked {w h} (hi : h ∈ w.activityItems) : Shift ok lists w { w with activity := some h }
  | cancelled {w h a} (hs : w.activity = some h) (ha : w.activities[h]? = some a) (hl : ¬ a.communicationLost)
      (ht : ¬ a.terminal) : Shift ok lists w (submit w .action (cancelCommand w h a))

abbrev Shifts (ok : ℕ → RemoteEndpoint → Prop) (lists : Prop) := ReflTransGen (Shift ok lists)

/-- The network settings are put into force, or the window begins to close. -/
inductive Begins : Workspace → Workspace → Prop
  | begun {w} (hq : w.question = none) (hf : Free w) : Begins w (begun w false)
  | closes {w} (hq : w.question = none) : Begins w (closeConfirmed w)

/-- A configuration of the network has come to its end. -/
inductive Completes : Workspace → Workspace → Prop
  | done {w} (hc : w.configuring) (hn : ¬ w.closing) : Completes w { w with configuring := false }
  | ended {w} (hc : w.configuring) (hn : w.closing) (hs : w.configurationShutdown) :
      Completes w { w with configuring := false, closed := true }
  | again {w} (hc : w.configuring) (hn : w.closing) (hs : ¬ w.configurationShutdown) :
      Completes w (begun { w with configuring := false } true)

/-- Any event but a tick. -/
def Clicks (ok : ℕ → RemoteEndpoint → Prop) (lists : Prop) (w w' : Workspace) : Prop :=
  ∃ v, Shifts ok lists w v ∧ (w' = v ∨ Begins v w')

section Still

variable {w w' w'' : Workspace}

lemma Unchanged.refl (w : Workspace) : Unchanged w w := ⟨rfl, rfl, rfl, rfl, rfl, .inl rfl⟩

lemma Unchanged.trans (h : Unchanged w w') (h' : Unchanged w' w'') : Unchanged w w'' where
  epoch := h'.epoch.trans h.epoch
  configuring := h'.configuring.trans h.configuring
  closing := h'.closing.trans h.closing
  closed := h'.closed.trans h.closed
  shutdown := h'.shutdown.trans h.shutdown
  question := by
    have hallowed : ∀ q, Allowed w' q → Allowed w q := fun q hq => by
      cases q with
      | configure hostId =>
        change ¬ w'.configuring ∧ (w'.closing → w'.closed) at hq
        rwa [h.configuring, h.closing, h.closed] at hq
      | request page operation => exact hq
      | _ => trivial
    rcases h'.question with hq' | hq'
    · exact h.question.imp hq'.trans fun hq q he => hq q (hq' ▸ he)
    · exact .inr fun q he => hallowed q (hq' q he)

lemma still_fields {snapshot hostSelected hosts hostIndex panels choices rows pending pollEpoch cancelEnabled
    rates timeoutMs trackingMs ticks fault log} :
    Still w { w with
      snapshot := snapshot, hostSelected := hostSelected, hosts := hosts, hostIndex := hostIndex
      panels := panels, choices := choices, rows := rows, pending := pending
      pollEpoch := pollEpoch, cancelEnabled := cancelEnabled, rates := rates, timeoutMs := timeoutMs
      trackingMs := trackingMs, ticks := ticks, fault := fault, log := log } :=
  ⟨⟨rfl, rfl, rfl, rfl, rfl, .inl rfl⟩, rfl, rfl, rfl, rfl, [], (List.append_nil _).symm, by simp⟩

lemma Still.refl (w : Workspace) : Still w w := still_fields

lemma Still.trans (h : Still w w') (h' : Still w' w'') : Still w w'' where
  toUnchanged := h.toUnchanged.trans h'.toUnchanged
  activities := h'.activities.trans h.activities
  activityItems := h'.activityItems.trans h.activityItems
  activity := h'.activity.trans h.activity
  polling := h'.polling.trans h.polling
  sent := by
    obtain ⟨new, hs, hn⟩ := h.sent
    obtain ⟨new', hs', hn'⟩ := h'.sent
    refine ⟨new ++ new', by rw [hs', hs, List.append_assoc], fun c hc => ?_⟩
    exact (List.mem_append.mp hc).elim (hn c) (hn' c)

lemma still_foldl {α : Type} {f : Workspace → α → Workspace} (hf : ∀ w a, Still w (f w a)) (l : List α)
    (w : Workspace) : Still w (l.foldl f w) := by
  induction l generalizing w with
  | nil => exact .refl w
  | cons a l ih => exact (hf w a).trans (ih _)

lemma still_setPanel (page : Page) (p : Panel) : Still w (w.setPanel page p) := still_fields

lemma still_clear (page : Page) (reason : Reason) : Still w (clear w page reason) := still_fields

lemma still_ask {q : Question} (hq : Allowed w q) : Still w (w.ask q) :=
  ⟨⟨rfl, rfl, rfl, rfl, rfl, .inr fun _ he => Option.some.inj he ▸ hq⟩, rfl, rfl, rfl, rfl, [],
    (List.append_nil _).symm, by simp⟩

lemma still_submitRemote {c : RemoteCommand} (hc : c.operation ≠ .cancel) : Still w (submitRemote w c) :=
  ⟨⟨rfl, rfl, rfl, rfl, rfl, .inl rfl⟩, rfl, rfl, rfl, rfl, [c], rfl, by simpa using hc⟩

lemma still_submit (page : Page) {c : RemoteCommand} (hc : c.operation ≠ .cancel) : Still w (submit w page c) :=
  (still_submitRemote hc).trans still_fields

lemma still_release (page : Page) : Still w (release w page) := by
  unfold release
  simp only
  split_ifs
  · exact (still_submitRemote (by simp [unsubscribeCommand])).trans (still_setPanel _ _)
  · exact .refl w

lemma still_populatePage (page : Page) : Still w (populatePage w page) := by
  unfold populatePage
  simp only
  split_ifs
  · exact still_fields.trans (still_clear page .invalidated)
  · exact still_fields

lemma still_populate : Still w (populate w) := still_foldl (fun _ page => still_populatePage page) Page.all w

lemma still_rebuildHosts : Still w (rebuildHosts w) := by
  unfold rebuildHosts
  simp only
  split <;> exact still_fields

lemma still_dropStale (entry : Pending) (r : RemoteReply) : Still w (dropStale w entry r) := by
  unfold dropStale
  split_ifs
  · exact still_submitRemote (by simp [unsubscribeCommand])
  · exact .refl w

lemma still_measured (a : RemoteActivity) : Still w (measured w a) := by
  unfold measured
  split_ifs <;> exact still_fields

lemma still_reportTopic (a : RemoteActivity) : Still w (reportTopic w a) := by
  unfold reportTopic
  simp only
  split_ifs
  · exact .refl w
  · exact (still_measured a).trans (still_setPanel _ _)
  · exact (still_measured a).trans still_fields
  · exact still_measured a

lemma still_enable : Still w (enable w) := still_fields

lemma still_requestConfirmed (page : Page) {operation : RemoteOperation} (ho : operation ≠ .cancel) :
    Still w (requestConfirmed w page operation) := by
  unfold requestConfirmed
  simp only
  split_ifs
  · exact .refl w
  · exact still_submit page ho

lemma still_request (page : Page) {operation : RemoteOperation} (ho : operation ≠ .cancel) :
    Still w (request w page operation) := by
  unfold request
  split_ifs
  · exact .refl w
  · exact still_ask ho
  · exact still_requestConfirmed page ho

lemma still_selectConfirmed (page : Page) (row : ℕ) : Still w (selectConfirmed w page row) := by
  have hclear : Still w (clear (release w page) page .selected) :=
    (still_release page).trans (still_clear page .selected)
  unfold selectConfirmed
  simp only
  split
  · exact hclear.trans still_fields
  · rename_i e _
    have hpick := hclear.trans (still_setPanel page
      { (clear (release w page) page .selected).panels page with selected := e })
    split_ifs
    · exact hpick.trans (still_request page (by simp))
    · exact hpick.trans (still_request page (by simp))
    · exact hpick

lemma still_select (page : Page) (row : ℕ) : Still w (select w page row) := by
  unfold select
  split_ifs
  · exact .refl w
  · exact still_ask trivial
  · exact still_selectConfirmed page row

lemma still_selectRefused (page : Page) : Still w (selectRefused w page) := by
  unfold selectRefused
  split <;> exact still_fields

lemma still_setCurrentRow (page : Page) (row : ℕ) : Still w (setCurrentRow w page row) := by
  unfold setCurrentRow
  split_ifs
  · exact .refl w
  · exact still_fields.trans (still_select page row)

lemma still_navigate (id : String) : Still w (navigate w id) := by
  unfold navigate
  split
  · exact .refl w
  · exact still_setCurrentRow _ _

lemma still_resume (next : Option (String × String)) : Still w (resume w next) := by
  unfold resume
  split
  · exact .refl w
  · split_ifs
    · exact .refl w
    · exact still_navigate _

lemma still_hostConfirmed : Still w (hostConfirmed w) := by
  have hleave : ∀ (v : Workspace) page, Still v (leavePage v page) := fun v page =>
    (still_release page).trans (still_clear page .hostChanged)
  exact still_fields.trans ((still_foldl hleave Page.all _).trans still_populate)

lemma still_hostChanged (next : Option (String × String)) : Still w (hostChanged w next) := by
  unfold hostChanged
  split_ifs
  · exact still_resume next
  · exact still_ask trivial
  · exact still_hostConfirmed.trans (still_resume next)

lemma still_setHostIndex (index : ℕ) (next : Option (String × String)) :
    Still w (setHostIndex w index next) := by
  unfold setHostIndex
  split_ifs
  · exact still_resume next
  · exact still_fields.trans (still_hostChanged next)

lemma still_openRemote (host : String) (endpoint : Option String) : Still w (openRemote w host endpoint) := by
  unfold openRemote
  split
  · exact .refl w
  · exact still_setHostIndex _ _

lemma still_editCell (page : Page) (row : ℕ) (text : String) : Still w (editCell w page row text) := by
  unfold editCell
  simp only
  split_ifs
  · exact .refl w
  · exact still_fields

lemma still_press (page : Page) (second : Bool) : Still w (press w page second) := by
  have ho : ∀ page : Page, page.operations.1 ≠ .cancel ∧ page.operations.2 ≠ .cancel := fun page => by
    cases page <;> simp [Page.operations]
  unfold press
  split_ifs
  · exact still_request page (ho page).2
  · exact .refl w
  · exact still_request page (ho page).1
  · exact .refl w

end Still

section Shifts

variable {ok : ℕ → RemoteEndpoint → Prop} {lists : Prop} {w w' : Workspace} {entry : Pending} {r : RemoteReply}
  {input : TickInput}

lemma shifts_still (h : Still w w') : Shifts ok lists w w' := .single (.still h)

lemma shifts_foldl {α : Type} {f : Workspace → α → Workspace} {l : List α}
    (hf : ∀ w, ∀ a ∈ l, Shifts ok lists w (f w a)) (w : Workspace) : Shifts ok lists w (l.foldl f w) := by
  induction l generalizing w with
  | nil => exact .refl
  | cons a l ih =>
    exact (hf w a List.mem_cons_self).trans (ih (fun v b hb => hf v b (List.mem_cons_of_mem a hb)) _)

/-- What a reply enters. -/
def Records (w : Workspace) (entry : Pending) (r : RemoteReply) : Prop :=
  entry.epoch = w.epoch ∧ entry.command.operation = .goal ∧ r.handle ≠ 0

lemma shifts_receive (h : Records w entry r → ok r.handle entry.command.endpoint) :
    Shifts ok lists w (receive w entry r) := by
  have hsettle : Shifts ok lists w (settle w entry) := shifts_still still_fields
  have hrecord : Shifts ok lists (settle w entry) (recordGoal (settle w entry) entry r) := by
    unfold recordGoal
    split_ifs with hr
    · exact .single (Shift.entered (a := startedActivity entry r) (h hr))
    · exact .refl
  have hdrop : Shifts ok lists (recordGoal (settle w entry) entry r)
      (dropStale (recordGoal (settle w entry) entry r) entry r) := shifts_still (still_dropStale entry r)
  unfold receive
  simp only
  split_ifs
  · exact hsettle.trans (hrecord.trans (hdrop.trans (shifts_still still_fields)))
  · exact hsettle.trans (hrecord.trans hdrop)

lemma shifts_report {a : RemoteActivity} (h : a.topic = false → ok a.handle a.endpoint) :
    Shifts ok lists w (report w a) := by
  unfold report
  split_ifs with ht
  · exact shifts_still (still_reportTopic a)
  · exact .single (.entered (h (by simpa using ht)))

/-- The workspace when the activities of a poll's reply are in the table. -/
def noted (w : Workspace) (r : RemoteReply) : Workspace :=
  let w := { w with polling := none }
  if w.pollEpoch = w.epoch ∧ ¬ w.configuring ∧ ¬ w.closing then r.activities.foldl report w else w

lemma pollReply_eq (ready : ℕ → Option RemoteReply) : pollReply w ready =
    match w.polling.bind ready with
    | none => w
    | some r => listActivities (noted w r) := rfl

lemma shifts_noted (h : ∀ a ∈ r.activities, a.topic = false → ok a.handle a.endpoint) :
    Shifts ok lists w (noted w r) := by
  refine ReflTransGen.head .collected ?_
  unfold noted
  simp only
  split_ifs
  · exact shifts_foldl (fun v a ha => shifts_report (h a ha)) _
  · exact .refl

lemma shifts_pollReply (hl : lists) {ready : ℕ → Option RemoteReply}
    (h : ∀ t r, w.polling = some t → ready t = some r → ∀ a ∈ r.activities, a.topic = false →
      ok a.handle a.endpoint) : Shifts ok lists w (pollReply w ready) := by
  rw [pollReply_eq]
  cases hr : w.polling.bind ready with
  | none => exact .refl
  | some r =>
    obtain ⟨t, ht, hready⟩ := Option.bind_eq_some_iff.mp hr
    exact (shifts_noted (h t r ht hready)).tail (.listed hl)

lemma shifts_poll : Shifts ok lists w (poll w) := by
  unfold poll
  split_ifs
  · exact .single .polled
  · exact .refl

lemma shifts_refresh : Shifts ok lists w (refresh w input) := by
  have hobserve : Shifts ok lists w (observe w input) := by
    have hseen : Shifts ok lists w { w with snapshot := input.snapshot } := shifts_still still_fields
    refine hseen.trans ?_
    unfold observe
    simp only
    split_ifs
    · exact .refl
    · exact .single .shown
  have hcount : Shifts ok lists w (countTick (observe w input)) := hobserve.trans (shifts_still still_fields)
  unfold refresh
  simp only
  split_ifs
  · exact hcount.trans (shifts_still (still_rebuildHosts.trans still_populate))
  · exact hcount

lemma configureConfirmed_cases (shutdown : Bool) (hostId : String) :
    configureConfirmed w shutdown hostId = w ∨
      configureConfirmed w shutdown hostId = begun w shutdown := by
  unfold configureConfirmed
  split_ifs
  · exact .inl rfl
  · exact .inr rfl

lemma configure_shutdown (hc : ¬ w.configuring) : configure w true "" = begun w true := by
  unfold configure
  rw [if_neg hc, if_neg (by simp)]
  unfold configureConfirmed
  rw [if_neg (by simp)]
  rfl

lemma configured_cases (hn : ¬ (w.configuring ∧ input.configured ∧ w.closing)) :
    ¬ (w.configuring ∧ input.configured) ∧ configured w input = w ∨
      w.configuring ∧ input.configured ∧ Completes w (configured w input) := by
  unfold configured
  split_ifs with hc
  · exact .inr ⟨hc.1, hc.2, .done hc.1 fun h => hn ⟨hc.1, hc.2, h⟩⟩
  · exact .inl ⟨hc, rfl⟩

/-- A configuration that ends while the window closes. -/
lemma completes_closing (hc : w.configuring ∧ input.configured ∧ w.closing) : Completes w (tick w input) := by
  have hdone : configured w input = { w with configuring := false } := if_pos ⟨hc.1, hc.2.1⟩
  unfold tick
  rw [if_pos hc, hdone]
  split_ifs with hs
  · exact .ended hc.1 hc.2.2 hs
  · rw [configure_shutdown (by simp)]
    exact .again hc.1 hc.2.2 hs

lemma shifts_replies (hall : ∀ h e, ok h e) (ready : ℕ → Option RemoteReply) :
    Shifts ok lists w (replies w ready) := by
  refine shifts_foldl (fun v entry _ => ?_) w
  unfold receiveReady
  split
  · exact .refl
  · exact shifts_receive fun _ => hall _ _

lemma shifts_cancelSelected : Shifts ok lists w (cancelSelected w) := by
  unfold cancelSelected
  split_ifs
  · exact .refl
  split
  · exact .refl
  · rename_i h a hselected
    obtain ⟨h', hs, hfound⟩ := Option.bind_eq_some_iff.mp hselected
    obtain ⟨a', ha, he⟩ := Option.map_eq_some_iff.mp hfound
    cases he
    split_ifs with hl
    · exact .refl
    · rw [not_or] at hl
      exact .single (.cancelled hs ha hl.1 hl.2)

lemma Shifts.clicks (h : Shifts ok lists w w') : Clicks ok lists w w' := ⟨w', h, .inl rfl⟩

lemma Clicks.head {v : Workspace} (h : Clicks ok lists v w') (hs : Shifts ok lists w v) :
    Clicks ok lists w w' := by
  obtain ⟨u, hu, hb⟩ := h
  exact ⟨u, hs.trans hu, hb⟩

lemma Begins.clicks (h : Begins w w') : Clicks ok lists w w' := ⟨w, .refl, .inr h⟩

lemma clicks_still (h : Still w w') : Clicks ok lists w w' := (shifts_still h).clicks

lemma clicks_configureConfirmed (hq : w.question = none) (hf : Free w) (hostId : String) :
    Clicks ok lists w (configureConfirmed w false hostId) := by
  rcases @configureConfirmed_cases w false hostId with h | h <;> rw [h]
  · exact Shifts.clicks .refl
  · exact (Begins.begun hq hf).clicks

def Permitted (w : Workspace) : Prop := ∀ q, w.question = some q → Allowed w q

lemma clicks_answer {q : Question} (yes : Bool) (hq : w.question = some q) (hh : Permitted w) :
    Clicks ok lists w (answer w q yes) := by
  have hallowed := hh q hq
  have hnone : ∀ log, Still w { w with question := none, log := log } := fun log =>
    ⟨⟨rfl, rfl, rfl, rfl, rfl, .inr (by simp)⟩, rfl, rfl, rfl, rfl, [], (List.append_nil _).symm, by simp⟩
  unfold answer
  cases yes with
  | true =>
    refine Clicks.head ?_ (shifts_still (hnone (.confirmed q :: w.log)))
    cases q with
    | host next => exact clicks_still (still_hostConfirmed.trans (still_resume next))
    | select page row => exact clicks_still (still_selectConfirmed page row)
    | request page operation => exact clicks_still (still_requestConfirmed page hallowed)
    | configure hostId =>
      have hfree : Free { w with question := none, log := .confirmed (.configure hostId) :: w.log } := hallowed
      exact clicks_configureConfirmed rfl hfree hostId
    | close => exact (Begins.closes rfl).clicks
  | false =>
    refine Clicks.head ?_ (shifts_still (hnone w.log))
    cases q with
    | host next => exact clicks_still (still_fields.trans (still_resume next))
    | select page row => exact clicks_still (still_selectRefused page)
    | request page operation => exact Shifts.clicks .refl
    | configure hostId => exact Shifts.clicks .refl
    | close => exact Shifts.clicks .refl

/-- A window that is about to close waits for a configuration. -/
def Ending (w : Workspace) : Prop := w.closing → ¬ w.closed → w.configuring

lemma clicks_configure (hq : w.question = none) (hf : Ending w) (hostId : String) :
    Clicks ok lists w (configure w false hostId) := by
  have hfree : ¬ w.configuring → Free w := fun hc => ⟨hc, fun hn => by
    by_contra hd
    exact hc (hf hn hd)⟩
  unfold configure
  split_ifs with hc hd
  · exact Shifts.clicks .refl
  · exact clicks_still (still_ask (hfree hc))
  · exact clicks_configureConfirmed hq (hfree hc) hostId

lemma clicks_beginClose (hq : w.question = none) : Clicks ok lists w (beginClose w) := by
  unfold beginClose
  split_ifs
  · exact Shifts.clicks .refl
  · exact Shifts.clicks .refl
  · exact clicks_still (still_ask trivial)
  · exact (Begins.closes hq).clicks

lemma clicks_step {e : Event} (he : ¬ e.isTick) (hh : Permitted w) (hf : Ending w) :
    Clicks ok lists w (step w e) := by
  unfold step
  split
  · exact absurd rfl he
  · rename_i q yes hq
    exact clicks_answer yes hq hh
  · exact Shifts.clicks .refl
  all_goals rename_i hq
  · exact Shifts.clicks .refl
  · split_ifs
    · exact clicks_still (still_setHostIndex _ none)
    · exact Shifts.clicks .refl
  · split_ifs
    · exact clicks_still (still_setCurrentRow _ _)
    · exact Shifts.clicks .refl
  · exact clicks_still (still_navigate _)
  · exact clicks_still (still_openRemote _ _)
  · exact clicks_still (still_press _ _)
  · split_ifs
    · exact shifts_cancelSelected.clicks
    · exact Shifts.clicks .refl
  · split_ifs with hi
    · exact Shifts.clicks (.head (.picked hi.1) (.single .shown))
    · exact Shifts.clicks .refl
  · exact clicks_still (still_editCell _ _ _)
  · exact clicks_still still_fields
  · exact clicks_configure hq hf _
  · exact clicks_beginClose hq

end Shifts

section Runs

variable {ok : ℕ → RemoteEndpoint → Prop} {lists : Prop} {w w' : Workspace}

lemma showActivity_cases (w : Workspace) : ∃ activities enabled,
    showActivity w = { w with activities := activities, cancelEnabled := enabled } := by
  unfold showActivity
  split
  · exact ⟨w.activities, false, rfl⟩
  · split
    · exact ⟨w.activities, w.cancelEnabled, rfl⟩
    · exact ⟨_, _, rfl⟩

lemma unchanged_shift (h : Shift ok lists w w') : Unchanged w w' := by
  cases h with
  | still hs => exact hs.toUnchanged
  | shown =>
    obtain ⟨activities, enabled, he⟩ := showActivity_cases w
    rw [he]
    exact ⟨rfl, rfl, rfl, rfl, rfl, .inl rfl⟩
  | listed _ =>
    obtain ⟨activities, enabled, he⟩ := showActivity_cases
      { w with
        activities := trim w.activities, activityItems := (trim w.activities).keys
        activity := w.activity.filter fun h => h ∈ (trim w.activities).keys }
    unfold listActivities
    simp only [he]
    exact ⟨rfl, rfl, rfl, rfl, rfl, .inl rfl⟩
  | _ => exact ⟨rfl, rfl, rfl, rfl, rfl, .inl rfl⟩

lemma unchanged_shifts (h : Shifts ok lists w w') : Unchanged w w' := by
  induction h with
  | refl => exact .refl w
  | tail _ hs ih => exact ih.trans (unchanged_shift hs)

lemma closeConfirmed_cases (w : Workspace) :
    w.configuring = true ∧ closeConfirmed w = { w with closing := true } ∨
      w.configuring = false ∧ closeConfirmed w = begun { w with closing := true } true := by
  unfold closeConfirmed
  by_cases hc : w.configuring = true
  · exact .inl ⟨hc, if_pos hc⟩
  · exact .inr ⟨by simpa using hc, configure_shutdown (w := { w with closing := true }) hc⟩

/-- What holds of the settings between two events. -/
structure Settled (w : Workspace) : Prop where
  ending : Ending w
  closed : w.closed → w.closing
  permitted : Permitted w

lemma Settled.unchanged (hw : Settled w) (h : Unchanged w w') : Settled w' where
  ending := by
    unfold Ending
    rw [h.configuring, h.closing, h.closed]
    exact hw.ending
  closed := by
    rw [h.closing, h.closed]
    exact hw.closed
  permitted q hq := by
    have hallowed : Allowed w q := h.question.elim (fun he => hw.permitted q (he ▸ hq)) fun he => he q hq
    cases q with
    | configure hostId =>
      change ¬ w'.configuring ∧ (w'.closing → w'.closed)
      rwa [h.configuring, h.closing, h.closed]
    | request page operation => exact hallowed
    | _ => trivial

lemma Settled.begins (hw : Settled w) (h : Begins w w') : Settled w' := by
  have hnone : ∀ v : Workspace, w.question = none → v.question = w.question → Permitted v := fun v hq he q hv =>
    absurd ((he.trans hq).symm.trans hv) (by simp)
  cases h with
  | begun hq hf => exact ⟨fun _ _ => rfl, hw.closed, hnone _ hq rfl⟩
  | closes hq =>
    rcases closeConfirmed_cases w with ⟨hc, he⟩ | ⟨_, he⟩ <;> rw [he]
    · exact ⟨fun _ _ => hc, fun _ => rfl, hnone _ hq rfl⟩
    · exact ⟨fun _ _ => rfl, fun _ => rfl, hnone _ hq rfl⟩

/-- A question about the settings is not open while a configuration runs. -/
lemma Permitted.configuring (h : Permitted w) (hc : w.configuring) {q : Question} (hq : w.question = some q) :
    ∀ v, Allowed v q := by
  have hallowed := h q hq
  cases q with
  | configure hostId => exact absurd hc hallowed.1
  | request page operation => exact fun _ => hallowed
  | _ => exact fun _ => trivial

lemma Settled.completes (hw : Settled w) (h : Completes w w') : Settled w' := by
  cases h with
  | done hc hn => exact ⟨fun h => absurd h hn, hw.closed, fun q hq => hw.permitted.configuring hc hq _⟩
  | ended hc hn _ => exact ⟨fun _ h => absurd rfl h, fun _ => hn, fun q hq => hw.permitted.configuring hc hq _⟩
  | again hc hn _ => exact ⟨fun _ _ => rfl, fun _ => hn, fun q hq => hw.permitted.configuring hc hq _⟩

lemma Settled.clicks (hw : Settled w) (h : Clicks ok lists w w') : Settled w' := by
  obtain ⟨v, hs, rfl | hb⟩ := h
  · exact hw.unchanged (unchanged_shifts hs)
  · exact (hw.unchanged (unchanged_shifts hs)).begins hb

lemma settled_blank : Settled {} := ⟨by simp [Ending], by simp, by simp [Permitted]⟩

/-- A new epoch is a new configuration. -/
lemma Clicks.epoch (h : Clicks ok lists w w') :
    w'.epoch = w.epoch ∧ w'.configuring = w.configuring ∧ w'.closed = w.closed ∧
        w'.configurationShutdown = w.configurationShutdown ∨
      w'.epoch = w.epoch + 1 ∧ w.configuring = false ∧ w'.configuring = true ∧ w'.closed = w.closed := by
  obtain ⟨v, hs, hb⟩ := h
  have hv := unchanged_shifts hs
  rcases hb with rfl | hb
  · exact .inl ⟨hv.epoch, hv.configuring, hv.closed, hv.shutdown⟩
  have hbegun : ∀ u shutdown, u.epoch = v.epoch → u.closed = v.closed → v.configuring = false →
      (begun u shutdown).epoch = w.epoch + 1 ∧ w.configuring = false ∧ (begun u shutdown).configuring = true ∧
        (begun u shutdown).closed = w.closed := fun u shutdown he hc hf =>
    ⟨congrArg (· + 1) (he.trans hv.epoch), hv.configuring ▸ hf, rfl, hc.trans hv.closed⟩
  cases hb with
  | begun _ hf => exact .inr (hbegun v false rfl rfl (by simpa using hf.1))
  | closes _ =>
    rcases closeConfirmed_cases v with ⟨_, he⟩ | ⟨hc, he⟩ <;> rw [he]
    · exact .inl ⟨hv.epoch, hv.configuring, hv.closed, hv.shutdown⟩
    · exact .inr (hbegun { v with closing := true } true rfl rfl hc)

end Runs

end KcfTools.RemoteWorkspace
