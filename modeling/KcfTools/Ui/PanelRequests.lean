import KcfTools.Ui.Forms
import KcfTools.Ui.MoveFields

/-! Requests, replies and values stay with the endpoint that the panel had selected. -/

namespace KcfTools.RemoteWorkspace

open Relation Transitions

/-- One request for each busy page, none for the others. -/
structure Counted (w : Workspace) : Prop where
  asked : Asked w
  busy : ∀ page, w.pending.countP (fun entry => entry.page = page) = if (w.panels page).busy then 1 else 0

/-- The page has neither been selected again nor cleared since the request. -/
def Since (entry : Pending) (log : List Notice) : Prop :=
  ∃ later earlier, log = later ++ .submitted entry :: earlier ∧ ∀ reason, .cleared entry.page reason ∉ later

lemma Since.cons {entry : Pending} {log : List Notice} {n : Notice} (h : Since entry log)
    (hn : ∀ reason, n ≠ .cleared entry.page reason) : Since entry (n :: log) := by
  obtain ⟨later, earlier, rfl, hl⟩ := h
  refine ⟨n :: later, earlier, rfl, fun reason hm => ?_⟩
  rcases List.mem_cons.mp hm with he | he
  · exact hn reason he.symm
  · exact hl reason he

/-- What a request of the current revision says about its panel. -/
structure Live (w : Workspace) (entry : Pending) : Prop where
  selected : entry.command.operation ≠ .cancel → (w.panels entry.page).selected = entry.command.endpoint
  epoch : entry.epoch = w.epoch
  since : Since entry w.log

def Linked (w : Workspace) : Prop :=
  ∀ entry ∈ w.pending, entry.revision ≤ (w.panels entry.page).revision ∧
    (entry.revision = (w.panels entry.page).revision → Live w entry)

section Panels

variable {w w' : Workspace} {entry : Pending} {r : RemoteReply} {p : Panel}

lemma applyReply_selected (o : RemoteOperation) : (applyReply o r p).selected = p.selected := by
  unfold applyReply
  split <;> first | rfl | (split_ifs <;> rfl)

lemma applyReply_revision (o : RemoteOperation) : (applyReply o r p).revision = p.revision := by
  unfold applyReply
  split <;> first | rfl | (split_ifs <;> rfl)

lemma applyReply_busy (o : RemoteOperation) : (applyReply o r p).busy = p.busy := by
  unfold applyReply
  split <;> first | rfl | (split_ifs <;> rfl)

lemma repliedPanel_selected : (repliedPanel w entry r).selected = (w.panels entry.page).selected := by
  unfold repliedPanel
  split_ifs
  · exact applyReply_selected _
  · rfl

lemma repliedPanel_revision : (repliedPanel w entry r).revision = (w.panels entry.page).revision := by
  unfold repliedPanel
  split_ifs
  · exact applyReply_revision _
  · rfl

lemma repliedPanel_busy : (repliedPanel w entry r).busy = false := by
  unfold repliedPanel
  split_ifs
  · exact applyReply_busy _
  · rfl

end Panels

section Busy

variable {ok : Pending → RemoteReply → Workspace → Prop} {w w' : Workspace}

lemma Posed.append {q : Question} {log : List Notice} (h : Posed q log) (new : List Notice)
    (hn : ∀ page row text, .edited page row text ∉ new) : Posed q (new ++ log) := by
  obtain ⟨recent, earlier, rfl, hl⟩ := h
  refine ⟨new ++ recent, earlier, (List.append_assoc ..).symm, fun page row text hm => ?_⟩
  rcases List.mem_append.mp hm with hm | hm
  · exact hn page row text hm
  · exact hl page row text hm

lemma Counted.keep (h : Counted w) (new : List Notice) (hq : w'.question = w.question ∨ w'.question = none)
    (hp : w'.pending = w.pending) (hl : w'.log = new ++ w.log)
    (hn : w.question = none ∨ ∀ page row text, .edited page row text ∉ new)
    (hb : ∀ page, (w'.panels page).busy = (w.panels page).busy) : Counted w' := by
  refine ⟨fun q ha => ?_, fun page => ?_⟩
  · have ha' : w.question = some q := by
      rcases hq with hq | hq
      · exact hq ▸ ha
      · rw [hq] at ha
        cases ha
    obtain ⟨hposed, hr⟩ := h.asked q ha'
    refine ⟨?_, fun page operation he => by rw [hb]; exact hr page operation he⟩
    rcases hn with hn | hn
    · rw [hn] at ha'
      cases ha'
    · rw [hl]
      exact hposed.append new hn
  · rw [hp, hb]
    exact h.busy page

lemma counted_move (hm : Move ok w w') (h : Counted w) : Counted w' := by
  cases hm with
  | view hv => exact h.keep [] hv.question hv.pending hv.log (.inr (by simp)) hv.busy
  | @ask q hq =>
    refine ⟨fun q' ha => ?_, h.busy⟩
    obtain rfl : q = q' := Option.some_inj.mp ha
    exact ⟨⟨[], w.log, rfl, by simp⟩, hq⟩
  | @confirm q _ => exact h.keep [.confirmed q] (.inl rfl) rfl rfl (.inr (by simp)) fun _ => rfl
  | @edit page row text hq =>
    rcases @editCell_cases w page row text with he | ⟨-, he⟩ <;> rw [he]
    · exact h
    · refine h.keep [.edited page row text] (.inl rfl) rfl rfl (.inl hq) fun page' => ?_
      rw [note_panels, setPanel_panels]
      split_ifs with hp
      · rw [hp]
      · rfl
  | @clear page reason _ =>
    refine h.keep [.cleared page reason] (.inl rfl) rfl rfl (.inr (by simp)) fun page' => ?_
    rw [clear_panels]
    split_ifs with hp
    · rw [hp]
      rfl
    · rfl
  | @pick page e _ _ =>
    refine h.keep [.cleared page .selected] (.inl rfl) rfl rfl (.inr (by simp)) fun page' => ?_
    rw [pick_panels]
    split_ifs with hp
    · rw [hp]
      rfl
    · rfl
  | @release page =>
    refine h.keep [] (.inl (release_question page)) release_pending (release_log page) (.inr (by simp))
      fun page' => ?_
    rw [release_panels]
    split_ifs with hp
    · rw [hp]
    · rfl
  | @submit page c hr =>
    refine ⟨fun q ha => ?_, fun page' => ?_⟩
    · have hn : w.question = some q := ha
      rw [hr.question] at hn
      cases hn
    · have hcount : (submit w page c).pending.countP (fun entry => entry.page = page') =
          w.pending.countP (fun entry => entry.page = page') + if page = page' then 1 else 0 := by
        simp [submit, Workspace.note, Workspace.setPanel, submitRemote, List.countP_append,
          List.countP_singleton]
      rw [hcount, h.busy page', submit_panels]
      by_cases hp : page' = page
      · subst hp
        simp [hr.idle]
      · simp [hp, Ne.symm hp]
  | @receive entry r he _ =>
    refine ⟨fun q ha => ?_, fun page => ?_⟩
    · obtain ⟨hposed, hq⟩ := h.asked q (receive_question ▸ ha)
      refine ⟨?_, fun page operation hr => ?_⟩
      · rw [receive_log]
        split_ifs
        · exact hposed.append [_] (by simp)
        · exact hposed
      · obtain ⟨hb, ho⟩ := hq page operation hr
        rw [receive_panels]
        split_ifs
        · exact ⟨repliedPanel_busy, ho⟩
        · exact ⟨hb, ho⟩
    · have hcount := h.busy page
      rw [receive_pending, receive_panels, List.countP_erase]
      by_cases hp : page = entry.page
      · subst hp
        have hpos : 0 < w.pending.countP (fun it => it.page = entry.page) :=
          List.countP_pos_iff.mpr ⟨entry, he, by simp⟩
        rw [hcount] at hpos ⊢
        rw [if_pos rfl, repliedPanel_busy]
        split_ifs at hpos ⊢ <;> simp_all
      · simp [hp, Ne.symm hp, hcount]
  | reconfigure =>
    refine h.keep reconfigureNotices (.inl reconfigure_question) reconfigure_pending reconfigure_log
      (.inr (by simp [reconfigureNotices])) fun page => ?_
    rw [reconfigure_panels]
    rfl
  | poll => exact h.keep [] (.inl rfl) rfl rfl (.inr (by simp)) fun _ => rfl

end Busy

section Live

variable {ok : Pending → RemoteReply → Workspace → Prop} {w w' : Workspace}

lemma Live.keep {entry : Pending} (h : Live w entry)
    (hs : (w'.panels entry.page).selected = (w.panels entry.page).selected) (he : w'.epoch = w.epoch)
    (hl : Since entry w.log → Since entry w'.log) : Live w' entry :=
  ⟨fun ho => hs.trans (h.selected ho), h.epoch.trans he.symm, hl h.since⟩

lemma Linked.keep (h : Linked w) (hp : ∀ entry ∈ w'.pending, entry ∈ w.pending)
    (hr : ∀ page, (w'.panels page).revision = (w.panels page).revision)
    (hs : ∀ page, (w'.panels page).selected = (w.panels page).selected) (he : w'.epoch = w.epoch)
    (hl : ∀ entry, Since entry w.log → Since entry w'.log) : Linked w' := by
  intro entry hm
  rw [hr]
  obtain ⟨hle, hlive⟩ := h entry (hp entry hm)
  exact ⟨hle, fun heq => (hlive heq).keep (hs _) he (hl entry)⟩

/-- A cleared page has no request of its new revision. -/
lemma Linked.clear {page : Page} (h : Linked w) (hp : w'.pending = w.pending)
    (hr : (w'.panels page).revision = (w.panels page).revision + 1)
    (ho : ∀ page', page' ≠ page → w'.panels page' = w.panels page') (he : w'.epoch = w.epoch)
    (hl : ∃ reason, w'.log = .cleared page reason :: w.log) : Linked w' := by
  intro entry hm
  rw [hp] at hm
  obtain ⟨hle, hlive⟩ := h entry hm
  by_cases hpage : entry.page = page
  · rw [hpage] at hle ⊢
    rw [hr]
    exact ⟨by omega, fun heq => by omega⟩
  · rw [ho _ hpage]
    refine ⟨hle, fun heq => (hlive heq).keep (by rw [ho _ hpage]) he fun hsince => ?_⟩
    obtain ⟨reason, hlog⟩ := hl
    rw [hlog]
    exact hsince.cons fun reason' hn => hpage (by cases hn; rfl)

lemma linked_move (hm : Move ok w w') (h : Linked w) : Linked w' := by
  cases hm with
  | view hv =>
    exact h.keep (fun _ hm => hv.pending ▸ hm) hv.revision hv.selected hv.epoch fun _ hs => hv.log ▸ hs
  | ask _ =>
    exact h.keep (fun _ hm => hm) (fun _ => rfl) (fun _ => rfl) rfl fun _ hs => hs.cons fun _ hn => by cases hn
  | confirm _ =>
    exact h.keep (fun _ hm => hm) (fun _ => rfl) (fun _ => rfl) rfl fun _ hs => hs.cons fun _ hn => by cases hn
  | @edit page row text _ =>
    rcases @editCell_cases w page row text with he | ⟨-, he⟩ <;> rw [he]
    · exact h
    · refine h.keep (fun _ hm => hm) (fun page' => ?_) (fun page' => ?_) rfl
        fun _ hs => hs.cons fun _ hn => by cases hn
      all_goals
        rw [note_panels, setPanel_panels]
        split_ifs with hp
        · rw [hp]
        · rfl
  | @clear page reason _ =>
    exact h.clear rfl (by rw [clear_panels, if_pos rfl]; rfl) (fun _ hp => by rw [clear_panels, if_neg hp]) rfl
      ⟨reason, rfl⟩
  | @pick page e _ _ =>
    exact h.clear rfl (by rw [pick_panels, if_pos rfl]; rfl) (fun _ hp => by rw [pick_panels, if_neg hp]) rfl
      ⟨.selected, rfl⟩
  | @release page =>
    refine h.keep (fun _ hm => release_pending ▸ hm) (fun page' => ?_) (fun page' => ?_) release_epoch
      fun _ hs => by rwa [release_log]
    all_goals
      rw [release_panels]
      split_ifs with hp
      · rw [hp]
      · rfl
  | @submit page c hr =>
    intro entry hm
    have hpanel : ∀ page', ((submit w page c).panels page').selected = (w.panels page').selected ∧
        ((submit w page c).panels page').revision = (w.panels page').revision := fun page' => by
      rw [submit_panels]
      split_ifs with hp
      · rw [hp]
        exact ⟨rfl, rfl⟩
      · exact ⟨rfl, rfl⟩
    rw [(hpanel _).2]
    rcases List.mem_append.mp hm with hm | hm
    · obtain ⟨hle, hlive⟩ := h entry hm
      exact ⟨hle, fun heq => (hlive heq).keep (hpanel _).1 rfl fun hs => hs.cons fun _ hn => by cases hn⟩
    · obtain rfl := List.mem_singleton.mp hm
      refine ⟨le_rfl, fun _ => ⟨fun ho => ?_, rfl, [], _, rfl, by simp⟩⟩
      rw [(hpanel _).1]
      exact (hr.source.resolve_left ho).1.symm
  | @receive entry r he _ =>
    refine h.keep (fun it hm => List.mem_of_mem_erase (receive_pending ▸ hm)) (fun page => ?_) (fun page => ?_)
      receive_epoch fun it hs => ?_
    · rw [receive_panels]
      split_ifs with hp
      · rw [hp, repliedPanel_revision]
      · rfl
    · rw [receive_panels]
      split_ifs with hp
      · rw [hp, repliedPanel_selected]
      · rfl
    · rw [receive_log]
      split_ifs
      · exact hs.cons fun _ hn => by cases hn
      · exact hs
  | reconfigure =>
    intro entry hm
    obtain ⟨hle, -⟩ := h entry (reconfigure_pending ▸ hm)
    rw [reconfigure_panels]
    change entry.revision ≤ (w.panels entry.page).revision + 1 ∧ (_ = (w.panels entry.page).revision + 1 → _)
    exact ⟨by omega, fun heq => by omega⟩
  | poll => exact h.keep (fun _ hm => hm) (fun _ => rfl) (fun _ => rfl) rfl fun _ hs => hs

end Live

section Templates

/-- The reply's value becomes the input of its panel. -/
def Renders (operation : RemoteOperation) (r : RemoteReply) : Prop :=
  operation = .prepare ∨ operation = .get ∨ operation = .set ∧ r.readbackError = 0

/-- The fields come from a reply to a command on the endpoint, in the epoch. -/
def Template (log : List Notice) (page : Page) (e : RemoteEndpoint) (epoch : ℕ) (d : DataSnapshot) : Prop :=
  ∃ entry r selected, .applied entry r selected epoch ∈ log ∧ entry.page = page ∧
    Renders entry.command.operation r ∧ entry.command.endpoint = e ∧ entry.epoch = epoch ∧ SameShape r.value d

def Templated (w : Workspace) : Prop :=
  ∀ page, (w.panels page).input.data.fields = [] ∨
    Template w.log page (w.panels page).selected w.epoch (w.panels page).input.data

variable {ok : Pending → RemoteReply → Workspace → Prop} {w w' : Workspace}

lemma Template.mono {log log' : List Notice} {page : Page} {e : RemoteEndpoint} {epoch : ℕ} {d : DataSnapshot}
    (h : Template log page e epoch d) (hl : ∀ n ∈ log, n ∈ log') : Template log' page e epoch d := by
  obtain ⟨entry, r, selected, hm, h⟩ := h
  exact ⟨entry, r, selected, hl _ hm, h⟩

lemma applyReply_data (o : RemoteOperation) (r : RemoteReply) (p : Panel) :
    Renders o r ∧ (applyReply o r p).input.data = r.value ∨ (applyReply o r p).input.data.fields = [] ∨
      (applyReply o r p).input.data = p.input.data := by
  cases o with
  | prepare => exact .inl ⟨.inl rfl, rfl⟩
  | get => exact .inl ⟨.inr (.inl rfl), rfl⟩
  | set =>
    unfold applyReply
    simp only
    split_ifs with hr
    · exact .inl ⟨.inr (.inr ⟨rfl, hr⟩), rfl⟩
    · exact .inr (.inl rfl)
  | _ => exact .inr (.inr rfl)

lemma repliedPanel_data {entry : Pending} {r : RemoteReply} :
    applies w entry r ∧ Renders entry.command.operation r ∧ (repliedPanel w entry r).input.data = r.value ∨
      (repliedPanel w entry r).input.data.fields = [] ∨
        (repliedPanel w entry r).input.data = (w.panels entry.page).input.data := by
  by_cases ha : applies w entry r
  · have hpanel : repliedPanel w entry r =
        applyReply entry.command.operation r { w.panels entry.page with busy := false } := if_pos ha
    rw [hpanel]
    exact (applyReply_data _ r _).imp_left fun h => ⟨ha, h⟩
  · have hpanel : repliedPanel w entry r = { w.panels entry.page with busy := false } := if_neg ha
    rw [hpanel]
    exact .inr (.inr rfl)

lemma Templated.keep {page : Page} (h : Templated w)
    (hd : (w'.panels page).input.data = (w.panels page).input.data)
    (hs : (w'.panels page).selected = (w.panels page).selected) (he : w'.epoch = w.epoch)
    (hl : ∀ n ∈ w.log, n ∈ w'.log) :
    (w'.panels page).input.data.fields = [] ∨
      Template w'.log page (w'.panels page).selected w'.epoch (w'.panels page).input.data := by
  rw [hd, hs, he]
  exact (h page).imp_right fun ht => ht.mono hl

lemma applies_live {entry : Pending} {r : RemoteReply} (ha : applies w entry r) (hl : Linked w)
    (he : entry ∈ w.pending) : Live w entry := by
  have hrevision : entry.revision = (w.panels entry.page).revision := by
    simp only [applies, decide_eq_true_eq] at ha
    exact ha.2.1
  exact (hl entry he).2 hrevision

lemma templated_move (hm : Move ok w w') (hl : Linked w) (h : Templated w) : Templated w' := by
  intro page'
  cases hm with
  | view hv =>
    exact h.keep (congrArg _ (hv.input page')) (hv.selected page') hv.epoch fun _ hn => hv.log ▸ hn
  | ask _ => exact h.keep rfl rfl rfl fun _ hn => List.mem_cons_of_mem _ hn
  | confirm _ => exact h.keep rfl rfl rfl fun _ hn => List.mem_cons_of_mem _ hn
  | @edit page row text _ =>
    rcases @editCell_cases w page row text with he | ⟨-, he⟩ <;> rw [he]
    · exact h page'
    · have hpanel : ((w.setPanel page { w.panels page with input := { (w.panels page).input with
          texts := (w.panels page).input.texts.set row text, dirty := true } }).panels page').input.data =
            (w.panels page').input.data ∧
          ((w.setPanel page { w.panels page with input := { (w.panels page).input with
            texts := (w.panels page).input.texts.set row text, dirty := true } }).panels page').selected =
              (w.panels page').selected := by
        rw [setPanel_panels]
        split_ifs with hp
        · rw [hp]
          exact ⟨rfl, rfl⟩
        · exact ⟨rfl, rfl⟩
      exact h.keep hpanel.1 hpanel.2 rfl fun _ hn => List.mem_cons_of_mem _ hn
  | @clear page reason _ =>
    by_cases hp : page' = page
    · exact .inl (by rw [clear_panels, if_pos hp]; rfl)
    · exact h.keep (by rw [clear_panels, if_neg hp]) (by rw [clear_panels, if_neg hp]) rfl
        fun _ hn => List.mem_cons_of_mem _ hn
  | @pick page e _ _ =>
    by_cases hp : page' = page
    · exact .inl (by rw [pick_panels, if_pos hp]; rfl)
    · exact h.keep (by rw [pick_panels, if_neg hp]) (by rw [pick_panels, if_neg hp]) rfl
        fun _ hn => List.mem_cons_of_mem _ hn
  | @release page =>
    have hs : ((release w page).panels page').selected = (w.panels page').selected := by
      rw [release_panels]
      split_ifs with hp
      · rw [hp]
      · rfl
    exact h.keep (congrArg _ (release_input page page')) hs release_epoch fun _ hn => by rwa [release_log]
  | @submit page c hr =>
    have hpanel : ((submit w page c).panels page').input = (w.panels page').input ∧
        ((submit w page c).panels page').selected = (w.panels page').selected := by
      rw [submit_panels]
      split_ifs with hp
      · rw [hp]
        exact ⟨rfl, rfl⟩
      · exact ⟨rfl, rfl⟩
    exact h.keep (congrArg _ hpanel.1) hpanel.2 rfl fun _ hn => List.mem_cons_of_mem _ hn
  | @receive entry r he _ =>
    have hlog : ∀ n ∈ w.log, n ∈ (receive w entry r).log := fun n hn => by
      rw [receive_log]
      split_ifs
      · exact List.mem_cons_of_mem _ hn
      · exact hn
    by_cases hp : page' = entry.page
    · subst hp
      have hselected : ((receive w entry r).panels entry.page).selected = (w.panels entry.page).selected := by
        rw [receive_panels, if_pos rfl, repliedPanel_selected]
      rcases @repliedPanel_data w entry r with ⟨ha, hr, hd⟩ | hd | hd
      · right
        have hlive := applies_live ha hl he
        have ho : entry.command.operation ≠ .cancel := by
          rcases hr with hr | hr | ⟨hr, -⟩ <;> simp [hr]
        rw [receive_epoch, receive_log, if_pos ha, hselected]
        refine ⟨entry, r, _, List.mem_cons_self, rfl, hr, (hlive.selected ho).symm, hlive.epoch, ?_⟩
        rw [receive_panels, if_pos rfl, hd]
        exact .refl _
      · exact .inl (by rw [receive_panels, if_pos rfl, hd])
      · exact h.keep (by rw [receive_panels, if_pos rfl, hd]) hselected receive_epoch hlog
    · exact h.keep (by rw [receive_panels, if_neg hp]) (by rw [receive_panels, if_neg hp]) receive_epoch hlog
  | reconfigure => exact .inl (by rw [reconfigure_panels]; rfl)
  | poll => exact h.keep rfl rfl rfl fun _ hn => hn

end Templates

section Commands

variable {ok : Pending → RemoteReply → Workspace → Prop} {w w' : Workspace}

def Writes (operation : RemoteOperation) : Prop :=
  operation = .set ∨ operation = .call ∨ operation = .goal

/-- A writing command has the fields of a template, or none. -/
def Filled (entry : Pending) (log : List Notice) : Prop :=
  Writes entry.command.operation → entry.command.input.fields = [] ∨
    Template log entry.page entry.command.endpoint entry.epoch entry.command.input

structure Commanded (w : Workspace) : Prop where
  filled : ∀ entry earlier, .submitted entry :: earlier <:+ w.log → Filled entry earlier
  noted : ∀ c ∈ w.sent, Writes c.operation → ∃ entry earlier, .submitted entry :: earlier <:+ w.log ∧
    entry.command = c

lemma Commanded.keep (h : Commanded w) (new : List Notice) (hl : w'.log = new ++ w.log)
    (hn : ∀ entry, .submitted entry ∉ new) (hs : ∀ c ∈ w'.sent, c ∈ w.sent ∨ ¬ Writes c.operation) :
    Commanded w' := by
  refine ⟨fun entry earlier hsuffix => ?_, fun c hc hw => ?_⟩
  · rw [hl] at hsuffix
    clear hl
    induction new with
    | nil => exact h.filled entry earlier hsuffix
    | cons n new ih =>
      rcases List.suffix_cons_iff.mp hsuffix with he | hsuffix
      · injection he with he
        exact (hn entry (he ▸ List.mem_cons_self)).elim
      · exact ih (fun it hm => hn it (List.mem_cons_of_mem _ hm)) hsuffix
  · obtain ⟨entry, earlier, hsuffix, he⟩ := h.noted c ((hs c hc).resolve_right (not_not.mpr hw)) hw
    exact ⟨entry, earlier, hsuffix.trans (hl ▸ List.suffix_append new w.log), he⟩

lemma commanded_move (hm : Move ok w w') (ht : Templated w) (h : Commanded w) : Commanded w' := by
  cases hm with
  | view hv => exact h.keep [] hv.log (by simp) fun c hc => .inl (hv.sent ▸ hc)
  | @ask q _ => exact h.keep [.asked q] rfl (by simp) fun c hc => .inl hc
  | @confirm q _ => exact h.keep [.confirmed q] rfl (by simp) fun c hc => .inl hc
  | @edit page row text _ =>
    rcases @editCell_cases w page row text with he | ⟨-, he⟩ <;> rw [he]
    · exact h
    · exact h.keep [.edited page row text] rfl (by simp) fun c hc => .inl hc
  | @clear page reason _ => exact h.keep [.cleared page reason] rfl (by simp) fun c hc => .inl hc
  | @pick page e _ _ => exact h.keep [.cleared page .selected] rfl (by simp) fun c hc => .inl hc
  | @release page =>
    refine h.keep [] (release_log page) (by simp) fun c hc => ?_
    rw [release_sent] at hc
    split_ifs at hc
    · refine (List.mem_append.mp hc).imp_right fun hc => ?_
      rw [List.mem_singleton.mp hc]
      simp [unsubscribeCommand, Writes]
    · exact .inl (by simpa using hc)
  | @submit page c hr =>
    refine ⟨fun entry earlier hsuffix => ?_, fun c' hc hw => ?_⟩
    · rcases List.suffix_cons_iff.mp hsuffix with he | hsuffix
      · injection he with he hearlier
        injection he with he
        subst he hearlier
        intro hw
        have ho : c.operation ≠ .cancel := fun ho => by rcases hw with hw | hw | hw <;> simp [ho] at hw
        obtain ⟨hendpoint, hinput, -⟩ := hr.source.resolve_left ho
        have hshape := edited_shape (w.panels page).input
        rw [← hinput] at hshape
        rcases ht page with hempty | htemplate
        · left
          have hfields := hshape.fields
          rw [hempty] at hfields
          simpa using hfields
        · right
          obtain ⟨it, r, s, hit, hp, hrenders, he, hepoch, hd⟩ := htemplate
          exact ⟨it, r, s, hit, hp, hrenders, he.trans hendpoint.symm, hepoch, hd.trans hshape⟩
      · exact h.filled entry earlier hsuffix
    · rcases List.mem_append.mp hc with hc | hc
      · obtain ⟨entry, earlier, hsuffix, he⟩ := h.noted c' hc hw
        exact ⟨entry, earlier, hsuffix.trans (List.suffix_cons _ _), he⟩
      · obtain rfl := List.mem_singleton.mp hc
        exact ⟨_, w.log, List.suffix_refl _, rfl⟩
  | @receive entry r he _ =>
    have hsent : ∀ c ∈ (receive w entry r).sent, c ∈ w.sent ∨ ¬ Writes c.operation := fun c hc => by
      rw [receive_sent] at hc
      refine (List.mem_append.mp hc).imp_right fun hc => ?_
      unfold staleCommands at hc
      split_ifs at hc
      · rw [List.mem_singleton.mp hc]
        simp [unsubscribeCommand, Writes]
      · cases hc
    by_cases ha : applies w entry r
    · exact h.keep [.applied entry r (w.panels entry.page).selected w.epoch]
        (by rw [receive_log, if_pos ha]; rfl) (by simp) hsent
    · exact h.keep [] (by rw [receive_log, if_neg ha]; rfl) (by simp) hsent
  | reconfigure =>
    exact h.keep reconfigureNotices reconfigure_log (by simp [reconfigureNotices])
      fun c hc => .inl (reconfigure_sent ▸ hc)
  | poll =>
    refine h.keep [] rfl (by simp) fun c hc => (List.mem_append.mp hc).imp_right fun hc => ?_
    rw [List.mem_singleton.mp hc]
    simp [Writes]

end Commands

section Handles

variable {ok : Pending → RemoteReply → Workspace → Prop} {w w' : Workspace} {entry : Pending} {r : RemoteReply}

/-- The latest Subscribe that the topic page has taken a handle from. -/
def Granted (log : List Notice) (handle : ℕ) (entry : Pending) : Prop :=
  ∃ later r e epoch earlier, log = later ++ .applied entry r e epoch :: earlier ∧ entry.page = .topic ∧
    entry.command.operation = .subscribe ∧ r.handle = handle ∧
      ∀ it r e epoch, .applied it r e epoch ∈ later → it.page = .topic → it.command.operation ≠ .subscribe

/-- The page has not taken another handle. -/
def Untaken (n : Notice) : Prop :=
  ∀ it r e epoch, n = .applied it r e epoch → it.page = .topic → it.command.operation ≠ .subscribe

lemma Granted.cons {log : List Notice} {handle : ℕ} {n : Notice} (h : Granted log handle entry)
    (hn : Untaken n) : Granted (n :: log) handle entry := by
  obtain ⟨later, r, e, epoch, earlier, rfl, hp, ho, hh, hl⟩ := h
  refine ⟨n :: later, r, e, epoch, earlier, rfl, hp, ho, hh, fun it r e epoch hm => ?_⟩
  rcases List.mem_cons.mp hm with he | hm
  · exact hn it r e epoch he.symm
  · exact hl it r e epoch hm

/-- The page has the endpoint of its handle selected since the request, or it was cleared. -/
def Attached (w : Workspace) : Prop :=
  (w.panels .topic).subscription ≠ 0 → ∃ entry, Granted w.log (w.panels .topic).subscription entry ∧
    (Live w entry ∨ (w.panels .topic).selected = {})

lemma Attached.keep (h : Attached w)
    (hh : (w'.panels .topic).subscription ≠ 0 →
      (w'.panels .topic).subscription = (w.panels .topic).subscription)
    (hs : (w'.panels .topic).selected = (w.panels .topic).selected) (he : w'.epoch = w.epoch)
    (hl : w'.log = w.log ∨ ∃ n, w'.log = n :: w.log ∧ Untaken n ∧ ∀ reason, n ≠ .cleared .topic reason) :
    Attached w' := by
  intro h0
  have hheld := hh h0
  obtain ⟨entry, hgranted, hlive⟩ := h (hheld ▸ h0)
  obtain ⟨_, _, _, _, _, -, hpage, -⟩ := id hgranted
  rw [hheld]
  rcases hl with hl | ⟨n, hl, htaken, hcleared⟩
  · refine ⟨entry, hl ▸ hgranted, ?_⟩
    refine hlive.imp (fun hlive => hlive.keep (by rw [hpage, hs]) he fun hn => ?_) hs.trans
    exact hl ▸ hn
  · refine ⟨entry, hl ▸ hgranted.cons htaken,
      hlive.imp (fun hlive => hlive.keep (by rw [hpage, hs]) he fun hn => ?_) hs.trans⟩
    rw [hl]
    exact hn.cons fun reason => hpage ▸ hcleared reason

lemma applyReply_handle (o : RemoteOperation) (ho : o ≠ .subscribe) (p : Panel)
    (h0 : (applyReply o r p).subscription ≠ 0) : (applyReply o r p).subscription = p.subscription := by
  cases o with
  | subscribe => exact absurd rfl ho
  | unsubscribe => exact absurd rfl h0
  | set =>
    unfold applyReply
    simp only
    split_ifs <;> rfl
  | _ => rfl

/-- A page that takes a handle has the endpoint selected. -/
lemma attached_receive (hl : Linked w) (h : Attached w) (he : entry ∈ w.pending) :
    Attached (receive w entry r) := by
  have hselected : ((receive w entry r).panels .topic).selected = (w.panels .topic).selected := by
    rw [receive_panels]
    split_ifs with hp
    · rw [repliedPanel_selected, hp]
    · rfl
  by_cases ha : applies w entry r
  · have hlog : (receive w entry r).log = .applied entry r (w.panels entry.page).selected w.epoch :: w.log := by
      rw [receive_log, if_pos ha]
    by_cases ho : entry.page = .topic ∧ entry.command.operation = .subscribe
    · obtain ⟨hp, ho⟩ := ho
      have hhandle : ((receive w entry r).panels .topic).subscription = r.handle := by
        rw [receive_panels, if_pos hp.symm, repliedPanel, if_pos ha, ho]
        rfl
      intro _
      rw [hhandle]
      refine ⟨entry, ⟨[], r, _, _, w.log, hlog, hp, ho, rfl, fun _ _ _ _ hm => absurd hm List.not_mem_nil⟩,
        .inl ?_⟩
      refine (applies_live ha hl he).keep (by rw [hp, hselected]) receive_epoch fun hs => ?_
      rw [hlog]
      exact hs.cons fun _ hn => by cases hn
    · refine h.keep (fun h0 => ?_) hselected receive_epoch (.inr ⟨_, hlog, ?_, fun _ hn => by cases hn⟩)
      · rw [receive_panels] at h0 ⊢
        split_ifs at h0 ⊢ with hp
        · rw [repliedPanel, if_pos ha] at h0 ⊢
          exact (applyReply_handle _ (fun hs => ho ⟨hp.symm, hs⟩) _ h0).trans (by rw [hp])
        · rfl
      · rintro it _ _ _ ⟨⟩ hp hs
        exact ho ⟨hp, hs⟩
  · refine h.keep (fun _ => ?_) hselected receive_epoch (.inl (by rw [receive_log, if_neg ha]))
    rw [receive_panels]
    split_ifs with hp
    · rw [repliedPanel, if_neg ha, hp]
    · rfl

lemma attached_move (hm : Move ok w w') (hl : Linked w) (h : Attached w) : Attached w' := by
  cases hm with
  | view hv => exact h.keep (fun _ => hv.subscription _) (hv.selected _) hv.epoch (.inl hv.log)
  | @ask q _ =>
    exact h.keep (fun _ => rfl) rfl rfl
      (.inr ⟨.asked q, rfl, (fun _ _ _ _ hn => by cases hn), fun _ hn => by cases hn⟩)
  | @confirm q _ =>
    exact h.keep (fun _ => rfl) rfl rfl
      (.inr ⟨.confirmed q, rfl, (fun _ _ _ _ hn => by cases hn), fun _ hn => by cases hn⟩)
  | @edit page row text _ =>
    rcases @editCell_cases w page row text with he | ⟨-, he⟩ <;> rw [he]
    · exact h
    · refine h.keep (fun _ => ?_) ?_ rfl
        (.inr ⟨.edited page row text, rfl, (fun _ _ _ _ hn => by cases hn), fun _ hn => by cases hn⟩)
      all_goals
        rw [note_panels, setPanel_panels]
        split_ifs with hp
        · rw [hp]
        · rfl
  | @clear page reason _ =>
    by_cases hp : Page.topic = page
    · subst hp
      intro h0
      have hheld : ((clear w .topic reason).panels .topic).subscription = (w.panels .topic).subscription := by
        rw [clear_panels, if_pos rfl]
        rfl
      rw [hheld] at h0 ⊢
      obtain ⟨entry, hgranted, -⟩ := h h0
      refine ⟨entry, hgranted.cons fun _ _ _ _ hn => (by cases hn), .inr ?_⟩
      rw [clear_panels, if_pos rfl]
      rfl
    · refine h.keep (fun _ => by rw [clear_panels, if_neg hp]) (by rw [clear_panels, if_neg hp]) rfl
        (.inr ⟨.cleared page reason, rfl, (fun _ _ _ _ hn => by cases hn), fun _ hn => ?_⟩)
      cases hn
      exact hp rfl
  | @pick page e _ hunheld =>
    by_cases hp : Page.topic = page
    · subst hp
      intro h0
      rw [pick_panels, if_pos rfl] at h0
      exact absurd hunheld h0
    · refine h.keep (fun _ => by rw [pick_panels, if_neg hp]) (by rw [pick_panels, if_neg hp]) rfl
        (.inr ⟨.cleared page .selected, rfl, (fun _ _ _ _ hn => by cases hn), fun _ hn => ?_⟩)
      cases hn
      exact hp rfl
  | @release page =>
    refine h.keep (fun h0 => ?_) ?_ release_epoch (.inl (release_log page))
    · rw [release_panels] at h0 ⊢
      split_ifs at h0 ⊢ with hp
      · exact absurd rfl h0
      · rfl
    · rw [release_panels]
      split_ifs with hp
      · rw [hp]
      · rfl
  | @submit page c _ =>
    refine h.keep (fun _ => ?_) ?_ rfl
      (.inr ⟨_, rfl, (fun _ _ _ _ hn => by cases hn), fun _ hn => by cases hn⟩)
    all_goals
      rw [submit_panels]
      split_ifs with hp
      · rw [hp]
      · rfl
  | receive he _ => exact attached_receive hl h he
  | reconfigure =>
    intro h0
    rw [reconfigure_panels] at h0
    exact absurd rfl h0
  | poll => exact h.keep (fun _ => rfl) rfl rfl (.inl rfl)

/-- The poll brings a value for the handle that the topic page holds. -/
def Values (s : Workspace) (a : RemoteActivity) : Prop :=
  a.topic ∧ a.hasValue ∧ (s.panels .topic).subscription = a.handle

lemma report_panels (s : Workspace) (a : RemoteActivity) (hv : ¬ Values s a) (page : Page) :
    (report s a).panels page = s.panels page ∨
      page = .topic ∧ (report s a).panels page = { s.panels page with output := render {} false } := by
  unfold report reportTopic
  simp only
  split_ifs with ht hh hvalue hlost
  · exact .inl rfl
  · exact absurd ⟨ht, hvalue, not_not.mp hh⟩ hv
  · rw [setPanel_panels]
    split_ifs with hp
    · exact .inr ⟨hp, by rw [hp]⟩
    · exact .inl (by rw [measured_panels])
  · exact .inl (by rw [measured_panels])
  · exact .inl rfl

end Handles

section Runs

structure Sound (w : Workspace) : Prop where
  counted : Counted w
  linked : Linked w
  templated : Templated w
  commanded : Commanded w
  attached : Attached w

variable {ok : Pending → RemoteReply → Workspace → Prop} {w w' : Workspace}

lemma sound_blank : Sound {} :=
  ⟨⟨fun _ h => (nomatch h), fun _ => rfl⟩, fun _ h => (nomatch h), fun _ => .inl rfl,
    ⟨fun _ _ h => (nomatch List.suffix_nil.mp h), fun _ h => (nomatch h)⟩, fun h => absurd rfl h⟩

lemma sound_move (hm : Move ok w w') (h : Sound w) : Sound w' :=
  ⟨counted_move hm h.counted, linked_move hm h.linked, templated_move hm h.linked h.templated,
    commanded_move hm h.templated h.commanded, attached_move hm h.linked h.attached⟩

lemma sound_moves (hm : Moves ok w w') (h : Sound w) : Sound w' :=
  chain_invariant (I := Sound) (fun _ _ hstep hs => sound_move hstep hs) hm h

lemma receives_any (w : Workspace) (e : Event) : Receives (fun _ _ _ => True) w e := by
  cases e with
  | tick input => exact fun _ _ _ _ _ => trivial
  | _ => trivial

lemma sound_step (e : Event) (h : Sound w) : Sound (step w e) :=
  sound_moves (moves_step h.counted.asked (receives_any w e)) h

lemma sound_start (input : TickInput) : Sound (start input) := sound_step (.tick input) sound_blank

lemma sound_run (input : TickInput) (events : List Event) : Sound (run (start input) events) :=
  foldl_invariant (fun _ e => sound_step e) events _ (sound_start input)

/-- The endpoint of the request is selected, in its epoch, and has been since. -/
def Standing (w : Workspace) (entry : Pending) : Prop :=
  (w.panels entry.page).selected = entry.command.endpoint ∧ w.epoch = entry.epoch ∧ Since entry w.log

/-- A busy page has one request; a reply, and the value of a poll, change a panel only while the endpoint of
their request stands; a writing command has the fields of a template or none. -/
structure Unmixed (w : Workspace) (input : TickInput) : Prop where
  busy : ∀ page, w.pending.countP (fun entry => entry.page = page) = if (w.panels page).busy then 1 else 0
  replied : ∀ entry r s, Handles (configured w input) input entry r s → ∀ page,
    (receive s entry r).panels page = s.panels page ∨ page = entry.page ∧
      ((receive s entry r).panels page = { s.panels page with busy := false } ∨ Standing s entry)
  valued : ∀ a s, Polls (configured w input) input a s → Values s a →
    ∃ entry, Granted s.log a.handle entry ∧ Standing s entry
  unvalued : ∀ a s, Polls (configured w input) input a s → ¬ Values s a → ∀ page,
    (report s a).panels page = s.panels page ∨
      page = .topic ∧ (report s a).panels page = { s.panels page with output := render {} false }
  written : ∀ c ∈ w.sent, Writes c.operation → c.input.fields = [] ∨
    ∃ entry earlier, .submitted entry :: earlier <:+ w.log ∧ entry.command = c ∧
      Template earlier entry.page c.endpoint entry.epoch c.input

/-- The topic page has a handle, and an endpoint selected. -/
def Chosen (s : Workspace) : Prop :=
  (s.panels .topic).subscription ≠ 0 ∧ (s.panels .topic).selected ≠ {}

theorem requests_keep_endpoint (input : TickInput) (events : List Event) (tick : TickInput)
    (h : ∀ a s, Polls (configured (run (start input) events) tick) tick a s → Values s a → Chosen s) :
    Unmixed (run (start input) events) tick := by
  have hsound := sound_run input events
  refine ⟨hsound.counted.busy, fun entry r s hs page => ?_, fun a s hs hv => ?_,
    fun a s _ hv => report_panels s a hv, fun c hc hw => ?_⟩
  · obtain ⟨hmoves, he⟩ := moves_handles hs
    have hlinked := (sound_moves hmoves hsound).linked
    rw [receive_panels]
    split_ifs with hp
    · refine .inr ⟨hp, ?_⟩
      subst hp
      by_cases ha : applies s entry r
      · have hlive := applies_live ha hlinked he
        by_cases ho : entry.command.operation = .cancel
        · left
          rw [repliedPanel, if_pos ha, ho]
          rfl
        · exact .inr ⟨hlive.selected ho, hlive.epoch.symm, hlive.since⟩
      · left
        rw [repliedPanel, if_neg ha]
    · exact .inl rfl
  · obtain ⟨hheld, hselected⟩ := h a s hs hv
    obtain ⟨entry, hgranted, hlive⟩ := (sound_moves (moves_polls hs) hsound).attached hheld
    have hlive := hlive.resolve_right hselected
    obtain ⟨_, _, _, _, _, -, -, ho, -⟩ := id hgranted
    exact ⟨entry, hv.2.2 ▸ hgranted, hlive.selected (by simp [ho]), hlive.epoch.symm, hlive.since⟩
  · obtain ⟨entry, earlier, hsuffix, rfl⟩ := hsound.commanded.noted c hc hw
    exact (hsound.commanded.filled entry earlier hsuffix hw).imp_right fun ht =>
      ⟨entry, earlier, hsuffix, rfl, ht⟩

end Runs

section Odometer

def odometer : RemoteEndpoint :=
  { identity := { hostId := "000102030405060708090a0b0c0d0e0f", bootId := "101112131415161718191a1b1c1d1e1f" }
    session := 4, id := "odometer", name := "odometer", kind := "T", role := "PUBLISHER", scope := "REMOTE" }

def odometerHost : RemoteHost :=
  { id := "000102030405060708090a0b0c0d0e0f", bootId := "101112131415161718191a1b1c1d1e1f", state := "ONLINE"
    compatibility := "COMPATIBLE", session := 4, metadataReady := true, endpoints := [odometer] }

def odometerNetwork : NetworkSnapshot :=
  { networkClientAvailable := true, status := "Network discovery running (manual Refresh)"
    hosts := [odometerHost] }

/-- The Subscribe is the second command of the workspace, between two polls. -/
def odometerReplies : ℕ → Option RemoteReply
  | 0 => some {}
  | 1 => some { handle := 1 }
  | _ => none

def reading : RemoteActivity :=
  { handle := 1, topic := true, hasValue := true, feedback := { typeName := "odometer" } }

def odometerTick : Event := .tick { snapshot := odometerNetwork, ready := odometerReplies }

/-- The odometer is selected and subscribed to, and the second poll is on its way. -/
def subscribeOdometer : List Event :=
  List.replicate 4 odometerTick ++ [.pickHost 1, .pickRow .topic 0, odometerTick, .press .topic false] ++
    List.replicate 8 odometerTick

/-- The tick that finds the reply to the second poll. -/
def readingTick (snapshot : NetworkSnapshot) : TickInput :=
  { snapshot := snapshot
    ready := fun t => if t = 2 then some { activities := [reading] } else odometerReplies t }

def lostNetwork : NetworkSnapshot := { odometerNetwork with hosts := [{ odometerHost with state := "LOST" }] }

def subscribed : Workspace := run (start {}) subscribeOdometer

/-- The workspace when the tick reads the second poll. -/
def beforeReading (snapshot : NetworkSnapshot) : Workspace :=
  let input := readingTick snapshot
  { replies (refresh (configured subscribed input) input) input.ready with polling := none }

lemma polls_reading {snapshot : NetworkSnapshot} {a : RemoteActivity} {s : Workspace}
    (hp : (replies (refresh (configured subscribed (readingTick snapshot)) (readingTick snapshot))
      (readingTick snapshot).ready).polling = some 2)
    (hs : Polls (configured subscribed (readingTick snapshot)) (readingTick snapshot) a s) :
    s = beforeReading snapshot := by
  obtain ⟨r, before, later, hr, -, ha, rfl⟩ := hs
  rw [hp] at hr
  obtain rfl : { activities := [reading] } = r := Option.some.inj hr
  cases before with
  | nil => rfl
  | cons b before => simp at ha

theorem requests_keep_endpoint_reading : Unmixed subscribed (readingTick odometerNetwork) :=
  requests_keep_endpoint {} subscribeOdometer (readingTick odometerNetwork) fun _ _ hs _ => by
    rw [polls_reading (by decide +kernel) hs]
    exact ⟨by decide +kernel, by decide +kernel⟩

/-- The peer is lost and the page cleared, and the poll's value is shown on it. -/
theorem value_after_clear : ¬ ∀ input events tick, Unmixed (run (start input) events) tick := by
  intro h
  have hpolls : Polls (configured subscribed (readingTick lostNetwork)) (readingTick lostNetwork) reading
      (beforeReading lostNetwork) :=
    ⟨{ activities := [reading] }, [], [], by decide +kernel, by decide +kernel, rfl, rfl⟩
  have hvalues : Values (beforeReading lostNetwork) reading := by
    unfold Values
    decide +kernel
  obtain ⟨entry, ⟨_, _, _, _, _, -, hpage, -⟩, -, -, hsince⟩ :=
    (h {} subscribeOdometer (readingTick lostNetwork)).valued reading _ hpolls hvalues
  obtain ⟨earlier, hlog⟩ : ∃ earlier, (beforeReading lostNetwork).log =
    .cleared .topic .invalidated :: earlier :=
    ⟨(beforeReading lostNetwork).log.tail, by decide +kernel⟩
  rw [hlog] at hsince
  obtain ⟨later, _, hsplit, hcleared⟩ := hsince
  cases later with
  | nil => cases hsplit
  | cons n later =>
    obtain ⟨rfl, -⟩ := List.cons.inj hsplit
    exact hcleared .invalidated (hpage ▸ List.mem_cons_self)

end Odometer

end KcfTools.RemoteWorkspace
