import KcfTools.Ui.Moves

/-! What each move leaves of the panels, the requests and the history. -/

namespace KcfTools.RemoteWorkspace

open Relation Transitions

variable {w w' : Workspace} {page page' : Page} {reason : Reason} {e : RemoteEndpoint} {c : RemoteCommand}
  {entry : Pending} {r : RemoteReply}

section SameWork

variable (h : SameWork w w')

include h

lemma SameWork.selected (page : Page) : (w'.panels page).selected = (w.panels page).selected :=
  congrArg (fun p => p.1) (h.panels page)

lemma SameWork.revision (page : Page) : (w'.panels page).revision = (w.panels page).revision :=
  congrArg (fun p => p.2.1) (h.panels page)

lemma SameWork.subscription (page : Page) : (w'.panels page).subscription = (w.panels page).subscription :=
  congrArg (fun p => p.2.2.1) (h.panels page)

lemma SameWork.busy (page : Page) : (w'.panels page).busy = (w.panels page).busy :=
  congrArg (fun p => p.2.2.2.1) (h.panels page)

lemma SameWork.input (page : Page) : (w'.panels page).input = (w.panels page).input :=
  congrArg (fun p => p.2.2.2.2) (h.panels page)

end SameWork

lemma setPanel_panels (p : Panel) :
    (w.setPanel page p).panels page' = if page' = page then p else w.panels page' := by
  split_ifs with h
  · rw [h, setPanel_panels_self]
  · exact setPanel_panels_of_ne h p

@[simp] lemma note_panels (n : Notice) : (w.note n).panels = w.panels := rfl

lemma clear_panels :
    (clear w page reason).panels page' = if page' = page then (w.panels page).clear else w.panels page' :=
  setPanel_panels _

lemma pick_panels : (pick w page e).panels page' =
    if page' = page then { (w.panels page).clear with selected := e } else w.panels page' := by
  unfold pick
  simp only [setPanel_panels, clear_panels, if_true]
  split_ifs <;> rfl

lemma submit_panels : (submit w page c).panels page' =
    if page' = page then { w.panels page with busy := true } else w.panels page' :=
  setPanel_panels _

lemma release_pending : (release w page).pending = w.pending := by
  unfold release
  simp only
  split_ifs <;> rfl

lemma release_epoch : (release w page).epoch = w.epoch := by
  unfold release
  simp only
  split_ifs <;> rfl

lemma release_sent : (release w page).sent = w.sent ++
    if (w.panels page).subscription ≠ 0 then [unsubscribeCommand (w.panels page).subscription] else [] := by
  unfold release
  simp only
  split_ifs
  · rfl
  · rw [List.append_nil]

section Receive

lemma answered_panels : (answered w entry r).panels = (settle w entry).panels := by
  obtain ⟨activities, h⟩ := @answered_cases w entry r
  rw [h]

lemma answered_epoch : (answered w entry r).epoch = w.epoch := by
  obtain ⟨activities, h⟩ := @answered_cases w entry r
  rw [h]
  rfl

lemma answered_log : (answered w entry r).log = w.log := by
  obtain ⟨activities, h⟩ := @answered_cases w entry r
  rw [h]
  rfl

lemma answered_sent : (answered w entry r).sent = w.sent ++ staleCommands w entry r := by
  obtain ⟨activities, h⟩ := @answered_cases w entry r
  rw [h]

lemma answered_question : (answered w entry r).question = w.question := by
  obtain ⟨activities, h⟩ := @answered_cases w entry r
  rw [h]
  rfl

lemma applies_answered : applies (answered w entry r) entry r = applies w entry r := by
  have hsnapshot : (answered w entry r).snapshot = w.snapshot := by
    obtain ⟨activities, h⟩ := @answered_cases w entry r
    rw [h]
    rfl
  unfold applies current
  rw [answered_panels, settle_panels_self, answered_epoch, hsnapshot]

/-- The panel of the request, with the reply. -/
def repliedPanel (w : Workspace) (entry : Pending) (r : RemoteReply) : Panel :=
  let p := { w.panels entry.page with busy := false }
  if applies w entry r then applyReply entry.command.operation r p else p

lemma receive_eq : receive w entry r =
    if applies w entry r then
      ((answered w entry r).setPanel entry.page (repliedPanel w entry r)).note
        (.applied entry r (w.panels entry.page).selected w.epoch)
    else answered w entry r := by
  have hpanel : (answered w entry r).panels entry.page = { w.panels entry.page with busy := false } := by
    rw [answered_panels, settle_panels_self]
  change (if applies (answered w entry r) entry r then
    ((answered w entry r).setPanel entry.page
      (applyReply entry.command.operation r ((answered w entry r).panels entry.page))).note
        (.applied entry r ((answered w entry r).panels entry.page).selected (answered w entry r).epoch)
    else answered w entry r) = _
  rw [applies_answered, hpanel, answered_epoch]
  split_ifs with ha
  · rw [repliedPanel, if_pos ha]
  · rfl

lemma receive_panels : (receive w entry r).panels page' =
    if page' = entry.page then repliedPanel w entry r else w.panels page' := by
  rw [receive_eq]
  split_ifs with ha hp hp
  · rw [note_panels, hp, setPanel_panels_self]
  · rw [note_panels, setPanel_panels_of_ne hp, answered_panels]
    exact setPanel_panels_of_ne hp _
  · rw [answered_panels, hp, settle_panels_self, repliedPanel, if_neg ha]
  · rw [answered_panels]
    exact setPanel_panels_of_ne hp _

lemma receive_epoch : (receive w entry r).epoch = w.epoch := by
  rw [receive_eq]
  split_ifs <;> exact answered_epoch

lemma receive_question : (receive w entry r).question = w.question := by
  rw [receive_eq]
  split_ifs <;> exact answered_question

lemma receive_sent : (receive w entry r).sent = w.sent ++ staleCommands w entry r := by
  rw [receive_eq]
  split_ifs <;> exact answered_sent

lemma receive_log : (receive w entry r).log =
    if applies w entry r then .applied entry r (w.panels entry.page).selected w.epoch :: w.log else w.log := by
  rw [receive_eq]
  split_ifs
  · exact congrArg _ answered_log
  · exact answered_log

end Receive

section Reconfigure

lemma detachPage_panels : (detachPage w page).panels page' =
    if page' = page then { (w.panels page).clear with subscription := 0 } else w.panels page' := by
  unfold detachPage
  simp only [setPanel_panels, clear_panels, if_true]
  split_ifs <;> rfl

lemma reconfigure_panels (page : Page) :
    (reconfigure w).panels page = { (w.panels page).clear with subscription := 0 } := by
  unfold reconfigure Page.all
  simp only [List.foldl_cons, List.foldl_nil, detachPage_panels]
  cases page <;> simp

lemma reconfigure_pending : (reconfigure w).pending = w.pending :=
  foldl_keeps (fun _ _ => rfl) Page.all _

lemma reconfigure_sent : (reconfigure w).sent = w.sent := foldl_keeps (fun _ _ => rfl) Page.all _

lemma reconfigure_question : (reconfigure w).question = w.question := foldl_keeps (fun _ _ => rfl) Page.all _

def reconfigureNotices : List Notice :=
  [.cleared .action .reconfigured, .cleared .service .reconfigured, .cleared .parameter .reconfigured,
    .cleared .topic .reconfigured]

lemma reconfigure_log : (reconfigure w).log = reconfigureNotices ++ w.log := rfl

end Reconfigure

section Refresh

lemma populate_pending : (populate w).pending = w.pending := by
  refine foldl_keeps (fun v page => ?_) Page.all w
  unfold populatePage
  simp only
  split_ifs <;> rfl

lemma rebuildHosts_pending : (rebuildHosts w).pending = w.pending := by
  unfold rebuildHosts
  simp only
  split <;> rfl

lemma configured_pending (input : TickInput) : (configured w input).pending = w.pending := by
  unfold configured
  split_ifs <;> rfl

lemma refresh_pending (input : TickInput) : (refresh w input).pending = w.pending := by
  have hcount : (countTick (observe w input)).pending = w.pending := sameWork_observe.pending
  unfold refresh
  simp only
  split_ifs
  · exact populate_pending.trans (rebuildHosts_pending.trans hcount)
  · exact hcount

end Refresh

section Edit

lemma editCell_cases (row : ℕ) (text : String) :
    editCell w page row text = w ∨ row < (w.panels page).input.texts.length ∧
      editCell w page row text = (w.setPanel page { w.panels page with
        input := { (w.panels page).input with
          texts := (w.panels page).input.texts.set row text, dirty := true } }).note
          (.edited page row text) := by
  unfold editCell
  simp only
  split_ifs with h
  · exact .inl rfl
  · simp only [not_or, not_not, not_le] at h
    exact .inr ⟨h.2.1, rfl⟩

end Edit

end KcfTools.RemoteWorkspace
