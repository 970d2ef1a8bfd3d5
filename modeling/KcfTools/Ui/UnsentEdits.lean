import KcfTools.Ui.PanelRequests

/-! What happens to the texts that the user has typed and not sent. -/

namespace KcfTools.RemoteWorkspace

open Relation Transitions

/-- A reply to the operation replaces its panel's input or clears the input's mark. -/
def TakesInput (operation : RemoteOperation) : Prop :=
  operation = .get ∨ operation = .prepare ∨ Writes operation

def Touches (page : Page) : Notice → Prop
  | .cleared page' _ => page' = page
  | .applied entry _ _ _ => entry.page = page ∧ TakesInput entry.command.operation
  | _ => False

/-- The log holds an edit that nothing has touched since; `between` is what was noted after it. -/
def Unsent (page : Page) (row : ℕ) (text : String) (between log : List Notice) : Prop :=
  ∃ earlier, log = between ++ .edited page row text :: earlier ∧ ∀ n ∈ between, ¬ Touches page n

/-- The user was asked about the page and gave the edits up. -/
def Discarded (page : Page) (between : List Notice) : Prop :=
  ∃ recent q earlier, between = recent ++ .asked q :: earlier ∧ .confirmed q ∈ recent ∧ q.covers page

/-- The writing command was sent with the edit, or with a later text of the same cell. -/
def Carries (entry : Pending) (row : ℕ) (text : String) (between : List Notice) : Prop :=
  Writes entry.command.operation ∧ ∃ after before, between = after ++ .submitted entry :: before ∧
    ((∀ text', .edited entry.page row text' ∉ before) →
      ((cells entry.command.input.fields).map Prod.snd)[row]? = some text)

def Excused (page : Page) (row : ℕ) (text : String) (between : List Notice) (x : Notice) : Prop :=
  Discarded page between ∨
    (∃ reason, x = .cleared page reason ∧ (reason = .invalidated ∨ reason = .reconfigured)) ∨
    ∃ entry r selected epoch, x = .applied entry r selected epoch ∧ Carries entry row text between

def Protected (log : List Notice) : Prop :=
  ∀ x rest page row text between, x :: rest <:+ log → Touches page x → Unsent page row text between rest →
    Excused page row text between x

/-- An edit that nothing has touched is still in the form, which is marked. -/
def Held (w : Workspace) : Prop :=
  ∀ page row text between, Unsent page row text between w.log → (w.panels page).input.dirty = true ∧
    ((∀ text', .edited page row text' ∉ between) → (w.panels page).input.texts[row]? = some text)

/-- The reply does not reach an input that was edited after the request was sent. -/
def Undisturbed (entry : Pending) (r : RemoteReply) (s : Workspace) : Prop :=
  applies s entry r → TakesInput entry.command.operation → ∀ row text between,
    Unsent entry.page row text between s.log → .submitted entry ∉ between → Discarded entry.page between

def Backed (w : Workspace) : Prop :=
  ∀ entry ∈ w.pending, entry.command.operation = .get ∨ entry.command.operation = .prepare →
    ∀ row text between, Unsent entry.page row text between w.log → .submitted entry ∈ between →
      Discarded entry.page between

def Carried (log : List Notice) : Prop :=
  ∀ entry earlier, .submitted entry :: earlier <:+ log → Writes entry.command.operation →
    ∀ row text between, Unsent entry.page row text between earlier →
      (∀ text', .edited entry.page row text' ∉ between) →
        ((cells entry.command.input.fields).map Prod.snd)[row]? = some text

section Logs

variable {page : Page} {row : ℕ} {text : String} {between log new : List Notice}

lemma Unsent.split (h : Unsent page row text between (new ++ log)) (hn : .edited page row text ∉ new) :
    ∃ between', between = new ++ between' ∧ Unsent page row text between' log ∧
      ∀ n ∈ new, ¬ Touches page n := by
  obtain ⟨earlier, he, ht⟩ := h
  rcases List.append_eq_append_iff.mp he with ⟨a, rfl, ha⟩ | ⟨a, ha, hb⟩
  · exact ⟨a, rfl, ⟨earlier, ha, fun n hm => ht n (List.mem_append_right _ hm)⟩,
      fun n hm => ht n (List.mem_append_left _ hm)⟩
  · cases a with
    | nil =>
      simp only [List.append_nil, List.nil_append] at ha hb
      exact ⟨[], by simp [ha], ⟨earlier, hb.symm, by simp⟩, fun n hm => ht n (ha ▸ hm)⟩
    | cons n a =>
      injection hb with hb
      exact (hn (ha ▸ hb ▸ by simp)).elim

lemma Discarded.append (h : Discarded page between) (new : List Notice) : Discarded page (new ++ between) := by
  obtain ⟨recent, q, earlier, rfl, hm, hc⟩ := h
  exact ⟨new ++ recent, q, earlier, by simp, List.mem_append_right _ hm, hc⟩

/-- An edit before the question is among those given up. -/
lemma Confirmed.discarded (h : Confirmed page log) (hu : Unsent page row text between log) :
    Discarded page between := by
  obtain ⟨recent, q, earlier, rfl, hm, hc, hn⟩ := h
  obtain ⟨between', rfl, hu', -⟩ := hu.split (hn row text)
  have hu'' : Unsent page row text between' ([.asked q] ++ earlier) := hu'
  obtain ⟨between'', rfl, -, -⟩ := hu''.split (by simp)
  exact ⟨recent, q, between'', rfl, hm, hc⟩

lemma Protected.cons {n : Notice} (h : Protected log)
    (hn : ∀ page row text between, Touches page n → Unsent page row text between log →
      Excused page row text between n) : Protected (n :: log) := by
  intro x rest page row text between hs ht hu
  rcases List.suffix_cons_iff.mp hs with he | hs
  · injection he with hx hrest
    subst hx hrest
    exact hn page row text between ht hu
  · exact h x rest page row text between hs ht hu

lemma Carried.append (h : Carried log) (hn : ∀ entry, .submitted entry ∉ new) : Carried (new ++ log) := by
  induction new with
  | nil => exact h
  | cons n new ih =>
    intro entry earlier hs
    rcases List.suffix_cons_iff.mp hs with he | hs
    · injection he with he
      exact (hn entry (he ▸ List.mem_cons_self)).elim
    · exact ih (fun it hm => hn it (List.mem_cons_of_mem _ hm)) entry earlier hs

end Logs

section Moves

variable {ok : Pending → RemoteReply → Workspace → Prop} {w w' : Workspace}

lemma Held.extend (h : Held w) (new : List Notice) (hl : w'.log = new ++ w.log)
    (hn : ∀ page row text, .edited page row text ∉ new)
    (hi : ∀ page, (∃ n ∈ new, Touches page n) ∨ (w'.panels page).input = (w.panels page).input) : Held w' := by
  intro page row text between hu
  rw [hl] at hu
  obtain ⟨between', rfl, hu', ht⟩ := hu.split (hn page row text)
  rcases hi page with ⟨n, hm, hn⟩ | hi
  · exact (ht n hm hn).elim
  · rw [hi]
    obtain ⟨hd, htexts⟩ := h page row text between' hu'
    exact ⟨hd, fun hlater => htexts fun text' hm => hlater text' (List.mem_append_right _ hm)⟩

lemma Backed.extend (h : Backed w) (new : List Notice) (hl : w'.log = new ++ w.log)
    (hn : ∀ page row text, .edited page row text ∉ new) (hs : ∀ entry, .submitted entry ∉ new)
    (hp : ∀ entry ∈ w'.pending, entry ∈ w.pending) : Backed w' := by
  intro entry he ho row text between hu hm
  rw [hl] at hu
  obtain ⟨between', rfl, hu', -⟩ := hu.split (hn _ row text)
  have hm' : .submitted entry ∈ between' := (List.mem_append.mp hm).resolve_left (hs entry)
  exact (h entry (hp entry he) ho row text between' hu' hm').append new

lemma Safe.discarded {page : Page} {row : ℕ} {text : String} {between : List Notice} (h : Safe w page)
    (hh : Held w) (hu : Unsent page row text between w.log) : Discarded page between := by
  rcases h with hd | hc
  · have hdirty := (hh page row text between hu).1
    rw [hd] at hdirty
    cases hdirty
  · exact hc.discarded hu

lemma applyReply_input (o : RemoteOperation) (r : RemoteReply) (p : Panel) :
    TakesInput o ∨ (applyReply o r p).input = p.input := by
  cases o <;> simp [TakesInput, Writes, applyReply]

lemma applyReply_shown (o : RemoteOperation) (r : RemoteReply) {p : Panel} (h : p.input.Shown) :
    (applyReply o r p).input.Shown := by
  have hunmarked : ({ p.input with dirty := false } : Form).Shown := ⟨h.rows, h.texts⟩
  unfold applyReply
  split <;> try split_ifs
  all_goals first | exact shown_render _ _ | exact h | exact hunmarked

structure EditSound (w : Workspace) : Prop where
  held : Held w
  shown : ∀ page, (w.panels page).input.Shown
  backed : Backed w
  carried : Carried w.log
  safe : Protected w.log

lemma EditSound.quiet (h : EditSound w) (new : List Notice) (hl : w'.log = new ++ w.log)
    (hn : ∀ page row text, .edited page row text ∉ new) (hs : ∀ entry, .submitted entry ∉ new)
    (ht : ∀ n ∈ new, ∀ page, ¬ Touches page n) (hi : ∀ page, (w'.panels page).input = (w.panels page).input)
    (hp : ∀ entry ∈ w'.pending, entry ∈ w.pending) : EditSound w' := by
  refine ⟨h.held.extend new hl hn fun page => .inr (hi page), fun page => hi page ▸ h.shown page,
    h.backed.extend new hl hn hs hp, hl ▸ h.carried.append hs, ?_⟩
  rw [hl]
  clear hl hn hs
  induction new with
  | nil => exact h.safe
  | cons n new ih =>
    exact (ih fun m hm => ht m (List.mem_cons_of_mem _ hm)).cons fun page _ _ _ htouch =>
      (ht n List.mem_cons_self page htouch).elim

lemma EditSound.touch {page : Page} {n : Notice} (h : EditSound w) (hl : w'.log = n :: w.log)
    (hn : ∀ page row text, n ≠ .edited page row text) (hs : ∀ entry, n ≠ .submitted entry)
    (ht : ∀ page', Touches page' n ↔ page' = page)
    (hi : ∀ page', page' ≠ page → (w'.panels page').input = (w.panels page').input)
    (hshown : (w'.panels page).input.Shown) (hp : ∀ entry ∈ w'.pending, entry ∈ w.pending)
    (hx : ∀ row text between, Unsent page row text between w.log → Excused page row text between n) :
    EditSound w' := by
  have hn' : ∀ page row text, .edited page row text ∉ [n] := fun page row text hm =>
    hn page row text (List.mem_singleton.mp hm).symm
  have hs' : ∀ entry, .submitted entry ∉ [n] := fun entry hm => hs entry (List.mem_singleton.mp hm).symm
  refine ⟨h.held.extend [n] hl hn' fun page' => ?_, fun page' => ?_, h.backed.extend [n] hl hn' hs' hp, ?_, ?_⟩
  · by_cases hpage : page' = page
    · exact .inl ⟨n, List.mem_singleton_self n, (ht page').mpr hpage⟩
    · exact .inr (hi page' hpage)
  · by_cases hpage : page' = page
    · exact hpage ▸ hshown
    · exact hi page' hpage ▸ h.shown page'
  · have hcarried : Carried ([n] ++ w.log) := h.carried.append hs'
    exact hl ▸ hcarried
  · rw [hl]
    refine h.safe.cons fun page' row text between htouch hu => ?_
    obtain rfl := (ht page').mp htouch
    exact hx row text between hu

lemma editSound_edit {page : Page} {row : ℕ} {text : String} (h : EditSound w) :
    EditSound (editCell w page row text) := by
  rcases @editCell_cases w page row text with he | ⟨hrow, he⟩ <;> rw [he]
  · exact h
  let p : Panel := { w.panels page with
    input := { (w.panels page).input with texts := (w.panels page).input.texts.set row text, dirty := true } }
  have hpanels : ∀ page', ((w.setPanel page p).note (.edited page row text)).panels page' =
      if page' = page then p else w.panels page' := fun page' => setPanel_panels p
  refine ⟨fun page' row' text' between hu => ?_, fun page' => ?_,
    fun entry hm ho row' text' between hu hs => ?_,
    ?_, ?_⟩
  · rw [hpanels]
    obtain ⟨earlier, hl, ht⟩ := hu
    cases between with
    | nil =>
      injection hl with hl
      injection hl with hpage hrow' htext
      subst hpage hrow' htext
      rw [if_pos rfl]
      exact ⟨rfl, fun _ => by simp [p, hrow]⟩
    | cons n between =>
      injection hl with hn hl
      subst hn
      obtain ⟨hd, htexts⟩ := h.held page' row' text' between
        ⟨earlier, hl, fun n hm => ht n (List.mem_cons_of_mem _ hm)⟩
      by_cases hpage : page' = page
      · subst hpage
        rw [if_pos rfl]
        refine ⟨rfl, fun hlater => ?_⟩
        have hne : row ≠ row' := fun hr => hlater text (hr ▸ List.mem_cons_self)
        change ((w.panels page').input.texts.set row text)[row']? = _
        rw [List.getElem?_set_ne hne]
        exact htexts fun text'' hm => hlater text'' (List.mem_cons_of_mem _ hm)
      · rw [if_neg hpage]
        exact ⟨hd, fun hlater => htexts fun text'' hm => hlater text'' (List.mem_cons_of_mem _ hm)⟩
  · rw [hpanels]
    split_ifs with hpage
    · exact ⟨(h.shown page).rows, by simpa [p] using (h.shown page).texts⟩
    · exact h.shown page'
  · obtain ⟨earlier, hl, ht⟩ := hu
    cases between with
    | nil => cases hs
    | cons n between =>
      injection hl with hn hl
      subst hn
      have hs' : .submitted entry ∈ between := (List.mem_cons.mp hs).resolve_left (by simp)
      exact (h.backed entry hm ho row' text' between
        ⟨earlier, hl, fun n hm => ht n (List.mem_cons_of_mem _ hm)⟩ hs').append [_]
  · have hcarried : Carried ([.edited page row text] ++ w.log) := h.carried.append (by simp)
    exact hcarried
  · exact h.safe.cons fun _ _ _ _ htouch => htouch.elim

lemma editSound_submit {page : Page} {c : RemoteCommand} (hr : Request w page c) (h : EditSound w) :
    EditSound (submit w page c) := by
  have hinput : ∀ page', ((submit w page c).panels page').input = (w.panels page').input := fun page' => by
    rw [submit_panels]
    split_ifs with hp
    · rw [hp]
    · rfl
  let entry : Pending := ⟨w.sent.length, c, page, w.epoch, (w.panels page).revision⟩
  have hlog : (submit w page c).log = [.submitted entry] ++ w.log := rfl
  refine ⟨h.held.extend _ hlog (by simp) fun page' => .inr (hinput page'),
    fun page' => hinput page' ▸ h.shown page',
    fun it hm ho row text between hu hs => ?_, ?_, h.safe.cons fun _ _ _ _ htouch => htouch.elim⟩
  · rw [hlog] at hu
    obtain ⟨between', rfl, hu', -⟩ := hu.split (by simp)
    rcases List.mem_append.mp hm with hm | hm
    · by_cases hs' : .submitted it ∈ between'
      · exact (h.backed it hm ho row text between' hu' hs').append _
      · have he : it = entry := by simpa [hs'] using hs
        subst he
        exact ((hr.safe ho).discarded h.held hu').append _
    · obtain rfl := List.mem_singleton.mp hm
      exact ((hr.safe ho).discarded h.held hu').append _
  · intro it earlier hs hw row text between hu hlater
    rcases List.suffix_cons_iff.mp hs with he | hs
    · injection he with he hearlier
      injection he with he
      subst he hearlier
      have ho : c.operation ≠ .cancel := fun ho => by rcases hw with hw | hw | hw <;> simp [ho] at hw
      have hcells := cells_edited _ (h.shown page)
      rw [← (hr.source.resolve_left ho).2.1] at hcells
      rw [hcells]
      exact (h.held page row text between hu).2 hlater
    · exact h.carried it earlier hs hw row text between hu hlater

lemma editSound_receive {entry : Pending} {r : RemoteReply} (he : entry ∈ w.pending)
    (hok : Undisturbed entry r w) (h : EditSound w) : EditSound (receive w entry r) := by
  have hpending : ∀ it ∈ (receive w entry r).pending, it ∈ w.pending := fun it hm =>
    List.mem_of_mem_erase (receive_pending ▸ hm)
  by_cases ha : applies w entry r
  · have hpanel : repliedPanel w entry r =
        applyReply entry.command.operation r { w.panels entry.page with busy := false } := if_pos ha
    have hlog : (receive w entry r).log =
        [.applied entry r (w.panels entry.page).selected w.epoch] ++ w.log := by
      rw [receive_log, if_pos ha]
      rfl
    by_cases ht : TakesInput entry.command.operation
    · refine h.touch hlog (by simp) (by simp)
        (fun page' => ⟨fun htouch => htouch.1.symm, fun hp => ⟨hp.symm, ht⟩⟩)
        (fun page' hp => by rw [receive_panels, if_neg hp]) ?_ hpending fun row text between hu => ?_
      · rw [receive_panels, if_pos rfl, hpanel]
        exact applyReply_shown _ r (h.shown entry.page)
      · by_cases hs : .submitted entry ∈ between
        · rcases or_assoc.mpr ht with hget | hwrite
          · exact .inl (h.backed entry he hget row text between hu hs)
          · obtain ⟨after, before, rfl⟩ := List.append_of_mem hs
            obtain ⟨earlier, hl, htouch⟩ := hu
            refine .inr (.inr ⟨entry, r, _, _, rfl, hwrite, after, before, rfl, fun hlater => ?_⟩)
            refine h.carried entry (before ++ .edited entry.page row text :: earlier) ?_ hwrite row text before
              ⟨earlier, rfl, fun n hm => htouch n (by simp [hm])⟩ hlater
            exact ⟨after, by rw [hl]; simp⟩
        · exact .inl (hok ha ht row text between hu hs)
    · refine h.quiet _ hlog (by simp) (by simp) (fun n hn page htouch => ?_) (fun page => ?_) hpending
      · rw [List.mem_singleton.mp hn] at htouch
        exact ht htouch.2
      · rw [receive_panels]
        split_ifs with hp
        · rw [hpanel, hp]
          exact (applyReply_input _ r _).resolve_left ht
        · rfl
  · have hpanel : repliedPanel w entry r = { w.panels entry.page with busy := false } := if_neg ha
    refine h.quiet [] (by rw [receive_log, if_neg ha]; rfl) (by simp) (by simp) (by simp)
      (fun page => ?_) hpending
    rw [receive_panels]
    split_ifs with hp
    · rw [hpanel, hp]
    · rfl

lemma editSound_reconfigure (h : EditSound w) : EditSound (reconfigure w) := by
  have hnew : ∀ page, .cleared page .reconfigured ∈ reconfigureNotices := fun page => by
    cases page <;> simp [reconfigureNotices]
  have hedit : ∀ page row text, .edited page row text ∉ reconfigureNotices := by simp [reconfigureNotices]
  have hsubmit : ∀ entry, .submitted entry ∉ reconfigureNotices := by simp [reconfigureNotices]
  have hcons : ∀ page log, Protected log → Protected (.cleared page .reconfigured :: log) := fun page log hl =>
    hl.cons fun page' _ _ _ htouch _ =>
      .inr (.inl ⟨.reconfigured, by rw [show page = page' from htouch], .inr rfl⟩)
  refine ⟨h.held.extend _ reconfigure_log hedit fun page => .inl ⟨_, hnew page, rfl⟩, fun page => ?_,
    h.backed.extend _ reconfigure_log hedit hsubmit fun _ hm => reconfigure_pending ▸ hm, ?_, ?_⟩
  · rw [reconfigure_panels]
    exact shown_render _ _
  · exact reconfigure_log ▸ h.carried.append hsubmit
  · rw [reconfigure_log]
    exact hcons _ _ (hcons _ _ (hcons _ _ (hcons _ _ h.safe)))

lemma editSound_move (hm : Move Undisturbed w w') (h : EditSound w) : EditSound w' := by
  cases hm with
  | view hv =>
    exact h.quiet [] hv.log (by simp) (by simp) (by simp) hv.input fun _ hm => hv.pending ▸ hm
  | @ask q _ =>
    exact h.quiet [.asked q] rfl (by simp) (by simp) (by simp [Touches]) (fun _ => rfl) fun _ hm => hm
  | @confirm q _ =>
    exact h.quiet [.confirmed q] rfl (by simp) (by simp) (by simp [Touches]) (fun _ => rfl) fun _ hm => hm
  | edit _ => exact editSound_edit h
  | @clear page reason hc =>
    refine h.touch rfl (by simp) (by simp) (fun page' => eq_comm)
      (fun page' hp => by rw [clear_panels, if_neg hp])
      ?_ (fun _ hm => hm) fun row text between hu => ?_
    · rw [clear_panels, if_pos rfl]
      exact shown_render _ _
    · rcases hc with rfl | ⟨-, hsafe⟩
      · exact .inr (.inl ⟨.invalidated, rfl, .inl rfl⟩)
      · exact .inl (hsafe.discarded h.held hu)
  | @pick page e hsafe _ =>
    have hlog : (pick w page e).log = .cleared page .selected :: w.log := rfl
    refine h.touch hlog (by simp) (by simp) (fun page' => eq_comm)
      (fun page' hp => by rw [pick_panels, if_neg hp]) ?_ (fun _ hm => hm)
        fun row text between hu => .inl (hsafe.discarded h.held hu)
    rw [pick_panels, if_pos rfl]
    exact shown_render _ _
  | @release page =>
    exact h.quiet [] (release_log page) (by simp) (by simp) (by simp) (release_input page)
      fun _ hm => release_pending ▸ hm
  | submit hr => exact editSound_submit hr h
  | receive he hok => exact editSound_receive he hok h
  | reconfigure => exact editSound_reconfigure h
  | poll => exact h.quiet [] rfl (by simp) (by simp) (by simp) (fun _ => rfl) fun _ hm => hm

end Moves

section Suffixes

variable {ok : Pending → RemoteReply → Workspace → Prop} {w w' : Workspace}

lemma log_move (hm : Move ok w w') : w.log <:+ w'.log := by
  cases hm with
  | view hv => rw [hv.log]
  | ask _ => exact List.suffix_cons _ _
  | confirm _ => exact List.suffix_cons _ _
  | @edit page row text _ =>
    rcases @editCell_cases w page row text with he | ⟨-, he⟩ <;> rw [he]
    exact List.suffix_cons _ _
  | clear _ => exact List.suffix_cons _ _
  | pick _ => exact List.suffix_cons _ _
  | @release page => rw [release_log]
  | submit _ => exact List.suffix_cons _ _
  | @receive entry r _ _ =>
    rw [receive_log]
    split_ifs
    · exact List.suffix_cons _ _
    · exact List.suffix_rfl
  | reconfigure =>
    rw [reconfigure_log]
    exact List.suffix_append _ _
  | poll => exact List.suffix_rfl

lemma log_moves (hm : Moves ok w w') : w.log <:+ w'.log := by
  induction hm with
  | refl => exact List.suffix_rfl
  | tail _ hstep ih => exact ih.trans (log_move hstep)

lemma log_receiveReady (ready : ℕ → Option RemoteReply) (later : List Pending) (w : Workspace) :
    w.log <:+ (later.foldl (receiveReady ready) w).log := by
  refine foldl_invariant (I := fun v => w.log <:+ v.log) (fun v entry hv => hv.trans ?_) later w List.suffix_rfl
  unfold receiveReady
  split
  · exact List.suffix_rfl
  · rw [receive_log]
    split_ifs
    · exact List.suffix_cons _ _
    · exact List.suffix_rfl

/-- What a reply notes during a tick is still there at the end of the tick. -/
lemma log_handles {input : TickInput} {entry : Pending} {r : RemoteReply} {s : Workspace} (hc : Replies w input)
    (hs : Handles (configured w input) input entry r s) : (receive s entry r).log <:+ (tick w input).log := by
  obtain ⟨before, later, hp, hr, rfl⟩ := hs
  have hreplies : (receive (before.foldl (receiveReady input.ready)
    (refresh (configured w input) input)) entry r).log
      <:+ (replies (refresh (configured w input) input) input.ready).log := by
    unfold replies
    rw [hp, List.foldl_append, List.foldl_cons]
    conv_rhs => rw [receiveReady, hr]
    exact log_receiveReady _ _ _
  have hrest : ∀ v : Workspace, v.log <:+ (enable (poll (pollReply v input.ready))).log := fun v => by
    have hm : Moves (fun _ _ _ => True) v (enable (poll (pollReply v input.ready))) :=
      (moves_pollReply _).trans (moves_poll.trans moves_enable)
    exact log_moves hm
  unfold tick
  rw [if_neg hc]
  exact hreplies.trans (hrest _)

end Suffixes

section Runs

variable {w : Workspace}

lemma editSound_blank : EditSound {} :=
  ⟨fun _ _ _ _ hu => (nomatch (List.append_eq_nil_iff.mp hu.choose_spec.1.symm).2), fun _ => ⟨rfl, rfl⟩,
    fun _ h => (nomatch h), fun _ _ h => (nomatch List.suffix_nil.mp h),
    fun _ _ _ _ _ _ h => (nomatch List.suffix_nil.mp h)⟩

lemma editSound_step {e : Event} (hr : Receives Undisturbed w e) (hc : Asked w) (h : EditSound w) :
    EditSound (step w e) :=
  chain_invariant (I := EditSound) (fun _ _ hm hs => editSound_move hm hs) (moves_step hc hr) h

lemma editSound_run {events : List Event} (hr : Runs Undisturbed w events) (hs : Sound w) (h : EditSound w) :
    EditSound (run w events) := by
  induction events generalizing w with
  | nil => exact h
  | cons e events ih =>
    exact ih hr.2 (sound_step e hs) (editSound_step hr.1 hs.counted.asked h)

lemma log_run (hs : Sound w) (events : List Event) : w.log <:+ (run w events).log := by
  induction events generalizing w with
  | nil => exact List.suffix_rfl
  | cons e events ih =>
    exact (log_moves (moves_step hs.counted.asked (receives_any w e))).trans (ih (sound_step e hs))

lemma runs_of_protected {events : List Event} (hs : Sound w) (h : Protected (run w events).log) :
    Runs Undisturbed w events := by
  induction events generalizing w with
  | nil => trivial
  | cons e events ih =>
    refine ⟨?_, ih (sound_step e hs) h⟩
    cases e with
    | tick input =>
      intro hc entry r s hhandles ha ht row text between hu hsubmit
      have hsuffix := (log_handles hc hhandles).trans (log_run (sound_step (.tick input) hs) events)
      rw [receive_log, if_pos ha] at hsuffix
      rcases h _ _ entry.page row text between hsuffix ⟨rfl, ht⟩ hu with hd | ⟨_, hx, -⟩ |
        ⟨it, _, _, _, hx, hcarries⟩
      · exact hd
      · cases hx
      · injection hx with hx
        obtain ⟨-, after, before, rfl, -⟩ := hcarries
        exact (hsubmit (hx ▸ by simp)).elim
    | _ => trivial

lemma receives_start (ok : Pending → RemoteReply → Workspace → Prop) (input : TickInput) :
    Receives ok {} (.tick input) := by
  rintro - entry r s ⟨before, later, hp, -⟩
  rw [refresh_pending, configured_pending] at hp
  exact absurd hp.symm (by simp)

/-- Unsent edits are protected in exactly the runs in which no applied reply meets an edit that was made
after its request. -/
theorem edits_protected (input : TickInput) (events : List Event) :
    Held (run (start input) events) ∧ Protected (run (start input) events).log ↔
      Runs Undisturbed (start input) events := by
  constructor
  · rintro ⟨-, h⟩
    exact runs_of_protected (sound_start input) h
  · intro h
    have hstart : EditSound (start input) :=
      editSound_step (receives_start _ input) sound_blank.counted.asked editSound_blank
    have hrun := editSound_run h (sound_start input) hstart
    exact ⟨hrun.held, hrun.safe⟩

end Runs

section EditInFlight

def speed : RemoteEndpoint :=
  { identity := { hostId := "000102030405060708090a0b0c0d0e0f", bootId := "101112131415161718191a1b1c1d1e1f" }
    session := 4, id := "speed", name := "speed", kind := "P", role := "OWNER", scope := "REMOTE" }

def robot : RemoteHost :=
  { id := "000102030405060708090a0b0c0d0e0f", bootId := "101112131415161718191a1b1c1d1e1f", state := "ONLINE"
    compatibility := "COMPATIBLE", session := 4, metadataReady := true, endpoints := [speed] }

def robotNetwork : NetworkSnapshot :=
  { remoteControlAvailable := true, networkClientAvailable := true
    status := "Network discovery running (manual Refresh)", hosts := [robot] }

def speedValue (text : String) : DataSnapshot :=
  { typeName := "Speed", typeId := 7
    fields := [{ name := "rpm", typeName := "int32", value := text, kind := .signedInteger }] }

/-- A tick that finds the reply of one request. -/
def tickWith (ticket : ℕ) (text : String) : Event :=
  .tick { snapshot := robotNetwork
          ready := fun t => if t = ticket then some { responseReceived := true, value := speedValue text }
            else none }

def quietTick : Event := .tick { snapshot := robotNetwork }

/-- The cell is changed to 7 while the Set of 5 is in flight. -/
def editInFlight : List Event :=
  [quietTick, quietTick, quietTick, quietTick, .pickHost 1, .pickRow .parameter 0, tickWith 1 "3",
    .edit .parameter 0 "5", .press .parameter true, .edit .parameter 0 "7", tickWith 2 "5"]

/-- The latest notices are a reply to a Set and an edit of the parameter page just before it. -/
def setAfterEdit : List Notice → Bool
  | .applied entry _ _ _ :: .edited page _ _ :: _ =>
    entry.page = .parameter ∧ entry.command.operation = .set ∧ page = .parameter
  | _ => false

/-- The reply to the Set replaces the later text. -/
theorem edit_lost : ¬ (Held (run (start { snapshot := robotNetwork }) editInFlight) ∧
    Protected (run (start { snapshot := robotNetwork }) editInFlight).log) := by
  have hlog : setAfterEdit (run (start { snapshot := robotNetwork }) editInFlight).log := by decide +kernel
  rintro ⟨-, h⟩
  unfold setAfterEdit at hlog
  split at hlog
  · rename_i entry r selected epoch page row text earlier hl
    obtain ⟨hpage, ho, rfl⟩ := of_decide_eq_true hlog
    rw [hl] at h
    have htouch : Touches .parameter (.applied entry r selected epoch) :=
      ⟨hpage, .inr (.inr (.inl ho))⟩
    rcases h _ _ .parameter row text [] List.suffix_rfl htouch ⟨earlier, rfl, by simp⟩ with
      ⟨recent, q, before, hd, -⟩ | ⟨_, hx, -⟩ | ⟨it, _, _, _, -, -, after, before, hc, -⟩
    · simp at hd
    · cases hx
    · simp at hc
  · cases hlog

end EditInFlight

end KcfTools.RemoteWorkspace
