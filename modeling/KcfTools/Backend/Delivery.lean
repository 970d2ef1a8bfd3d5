import KcfTools.Backend.RemoteExecutor
import KcfTools.Lib.Transitions

/-! Every call of `Submit` is answered once: a job is in the queue, in the worker's hands or answered. -/

namespace KcfTools.RemoteExecutor

open Transitions

def Worker.jobs : Worker → List Job
  | .holding job => [job]
  | .executing job => [job]
  | .waiting => []
  | .ended => []

def Worker.held : Worker → List Job
  | .holding job => [job]
  | .executing _ => []
  | .waiting => []
  | .ended => []

def Notice.ticket? : Notice → Option ℕ
  | .answered t _ => some t
  | _ => none

def Notice.accepted? : Notice → Option Job
  | .submitted job stopping queued => if ¬ stopping ∧ queued < 32 then some job else none
  | _ => none

def Notice.started? : Notice → Option Job
  | .started job => some job
  | _ => none

def Notice.left : Notice → List Job
  | .stopSeen left => left
  | _ => []

attribute [simp] Worker.jobs Worker.held Notice.ticket? Notice.accepted? Notice.started? Notice.left

def answers (log : List Notice) : List ℕ := log.filterMap Notice.ticket?

def accepted (log : List Notice) : List Job := log.filterMap Notice.accepted?

def started (log : List Notice) : List Job := log.filterMap Notice.started?

def abandoned (log : List Notice) : List Job := log.flatMap Notice.left

/-- Why a call may be answered in this way. -/
inductive Justified (log : List Notice) (t : ℕ) : RemoteReply → Prop
  | executed {c r} : .finished ⟨t, c⟩ (some r) ∈ log → Justified log t r
  | threw {c} : .finished ⟨t, c⟩ none ∈ log → Justified log t (remoteUnavailable eio)
  | late {c n} : .submitted ⟨t, c⟩ true n ∈ log → Justified log t (remoteUnavailable ecanceled)
  | left {c l} : .stopSeen l ∈ log → ⟨t, c⟩ ∈ l → Justified log t (remoteUnavailable ecanceled)
  | full {c} : .submitted ⟨t, c⟩ false 32 ∈ log → Justified log t (remoteUnavailable eagain)

structure Sound (e : RemoteExecutor) : Prop where
  places : (answers e.log ++ (e.worker.jobs ++ e.queue).map Job.ticket).Perm (List.range e.tickets)
  order : accepted e.log = started e.log ++ e.worker.held ++ e.queue ++ abandoned e.log
  increasing : (accepted e.log).Pairwise fun a b => a.ticket < b.ticket
  known : ∀ job ∈ accepted e.log, job.ticket < e.tickets
  room : e.queue.length ≤ 32
  ended : e.worker = .ended → e.stopping ∧ e.queue = []
  unseen : e.worker ≠ .ended → ∀ l, .stopSeen l ∉ e.log
  silent : e.log.Pairwise fun a b => ∀ l job, a = .stopSeen l → b ≠ .started job
  justified : ∀ t r, .answered t r ∈ e.log → Justified e.log t r

section Log

variable {log new : List Notice}


@[simp] lemma answers_nil : answers [] = [] := rfl

@[simp] lemma accepted_nil : accepted [] = [] := rfl

@[simp] lemma started_nil : started [] = [] := rfl

@[simp] lemma abandoned_nil : abandoned [] = [] := rfl

@[simp] lemma answers_cons (n : Notice) : answers (n :: log) = n.ticket?.toList ++ answers log := by
  rw [answers, List.filterMap_cons]
  cases n.ticket? <;> rfl

@[simp] lemma accepted_cons (n : Notice) : accepted (n :: log) = n.accepted?.toList ++ accepted log := by
  rw [accepted, List.filterMap_cons]
  cases n.accepted? <;> rfl

@[simp] lemma started_cons (n : Notice) : started (n :: log) = n.started?.toList ++ started log := by
  rw [started, List.filterMap_cons]
  cases n.started? <;> rfl

@[simp] lemma abandoned_cons (n : Notice) : abandoned (n :: log) = n.left ++ abandoned log := rfl

@[simp] lemma answers_append : answers (log ++ new) = answers log ++ answers new :=
  List.filterMap_append

@[simp] lemma accepted_append : accepted (log ++ new) = accepted log ++ accepted new :=
  List.filterMap_append

@[simp] lemma started_append : started (log ++ new) = started log ++ started new :=
  List.filterMap_append

@[simp] lemma abandoned_append : abandoned (log ++ new) = abandoned log ++ abandoned new :=
  List.flatMap_append

lemma mem_answers {t : ℕ} : t ∈ answers log ↔ ∃ r, .answered t r ∈ log := by
  constructor
  · intro h
    obtain ⟨n, hn, ht⟩ := List.mem_filterMap.mp h
    cases n with
    | answered t' r =>
      obtain rfl := Option.some.inj ht
      exact ⟨r, hn⟩
    | submitted => cases ht
    | started => cases ht
    | finished => cases ht
    | stopSeen => cases ht
  · rintro ⟨r, hr⟩
    exact List.mem_filterMap.mpr ⟨_, hr, rfl⟩

lemma Justified.append {t : ℕ} {r : RemoteReply} (h : Justified log t r) : Justified (log ++ new) t r := by
  cases h with
  | executed h => exact .executed (List.mem_append_left new h)
  | threw h => exact .threw (List.mem_append_left new h)
  | late h => exact .late (List.mem_append_left new h)
  | left h hj => exact .left (List.mem_append_left new h) hj
  | full h => exact .full (List.mem_append_left new h)

lemma abandoned_eq_nil (h : ∀ l, .stopSeen l ∉ log) : abandoned log = [] := by
  refine List.flatMap_eq_nil_iff.mpr fun n hn => ?_
  cases n with
  | stopSeen l => exact absurd hn (h l)
  | submitted => rfl
  | started => rfl
  | finished => rfl
  | answered => rfl

@[simp] lemma answers_refusals (jobs : List Job) (r : RemoteReply) :
    answers (jobs.map fun job => .answered job.ticket r) = jobs.map Job.ticket := by
  induction jobs with
  | nil => rfl
  | cons job jobs ih => simp [ih]

@[simp] lemma accepted_refusals (jobs : List Job) (r : RemoteReply) :
    accepted (jobs.map fun job => .answered job.ticket r) = [] := by
  induction jobs with
  | nil => rfl
  | cons job jobs ih => simp [ih]

@[simp] lemma started_refusals (jobs : List Job) (r : RemoteReply) :
    started (jobs.map fun job => .answered job.ticket r) = [] := by
  induction jobs with
  | nil => rfl
  | cons job jobs ih => simp [ih]

@[simp] lemma abandoned_refusals (jobs : List Job) (r : RemoteReply) :
    abandoned (jobs.map fun job => .answered job.ticket r) = [] := by
  induction jobs with
  | nil => rfl
  | cons job jobs ih => simp [ih]

/-- Notices that name no start keep the order of starts and stops. -/
lemma silent_more (h : log.Pairwise fun a b => ∀ l job, a = .stopSeen l → b ≠ .started job)
    (hm : ∀ n ∈ new, ∀ job, n ≠ .started job) :
    (log ++ new).Pairwise fun a b => ∀ l job, a = .stopSeen l → b ≠ .started job := by
  refine List.pairwise_append.mpr ⟨h, ?_, fun _ _ b hb _ job _ => hm b hb job⟩
  exact List.pairwise_of_forall_mem_list fun _ _ b hb _ job _ => hm b hb job

lemma justified_more (h : ∀ t r, .answered t r ∈ log → Justified log t r)
    (hm : ∀ t r, .answered t r ∈ new → Justified (log ++ new) t r) :
    ∀ t r, .answered t r ∈ log ++ new → Justified (log ++ new) t r := by
  intro t r hr
  rcases List.mem_append.mp hr with hr | hr
  · exact (h t r hr).append
  · exact hm t r hr

end Log

lemma sound_start (error : ℤ) : Sound (start error) where
  places := .refl _
  order := rfl
  increasing := .nil
  known _ h := nomatch h
  room := Nat.zero_le _
  ended h := nomatch h
  unseen _ _ h := nomatch h
  silent := .nil
  justified _ _ h := nomatch h

section Steps

variable {e : RemoteExecutor} (h : Sound e)

include h

lemma Sound.submit_refused (c : RemoteCommand) {r : RemoteReply} (hr : e.stopping ∨ e.queue.length = 32)
    (hj : Justified [.submitted ⟨e.tickets, c⟩ e.stopping e.queue.length] e.tickets r) :
    Sound { e with
      tickets := e.tickets + 1
      log := e.log ++ [.submitted ⟨e.tickets, c⟩ e.stopping e.queue.length, .answered e.tickets r] } := by
  have hacc : accepted [.submitted ⟨e.tickets, c⟩ e.stopping e.queue.length, .answered e.tickets r] = [] := by
    have hno : ¬ (¬ e.stopping ∧ e.queue.length < 32) := by
      rcases hr with hs | hl
      · exact fun hc => hc.1 hs
      · omega
    simp only [accepted_cons, Notice.accepted?, if_neg hno]
    rfl
  refine ⟨?_, ?_, ?_, ?_, h.room, h.ended, ?_, ?_, ?_⟩
  · have hp := h.places.append_right [e.tickets]
    rw [List.range_succ]
    refine List.Perm.trans ?_ hp
    simp only [answers_append, List.append_assoc]
    exact (List.perm_append_comm).append_left _
  · rw [accepted_append, hacc, List.append_nil, h.order]
    simp
  · rw [accepted_append, hacc, List.append_nil]
    exact h.increasing
  · rw [accepted_append, hacc, List.append_nil]
    exact fun job hm => Nat.lt_succ_of_lt (h.known job hm)
  · intro hw l hl
    rcases List.mem_append.mp hl with hl | hl
    · exact h.unseen hw l hl
    · simp at hl
  · exact silent_more h.silent (by simp)
  · refine justified_more h.justified fun t r' ht => ?_
    obtain ⟨rfl, rfl⟩ : t = e.tickets ∧ r' = r := by simpa using ht
    have hin : Justified _ e.tickets r' := @Justified.append _ [.answered e.tickets r'] _ _ hj
    cases hin with
    | executed hm => simp at hm
    | threw hm => simp at hm
    | late hm => exact .late (List.mem_append_right _ hm)
    | left hm _ => simp at hm
    | full hm => exact .full (List.mem_append_right _ hm)

lemma Sound.submit (c : RemoteCommand) : Sound (submit e c) := by
  unfold RemoteExecutor.submit note
  simp only
  split_ifs with hs hl
  · rw [List.append_assoc]
    exact h.submit_refused c (.inl hs) (.late (c := c) (n := e.queue.length) (by simp [hs]))
  · have hfull : e.queue.length = 32 := le_antisymm h.room hl
    rw [List.append_assoc]
    exact h.submit_refused c (.inr hfull) (.full (c := c) (by simp [hs, hfull]))
  · have hopen : e.worker ≠ .ended := fun hw => hs (h.ended hw).1
    have hnew : accepted [.submitted ⟨e.tickets, c⟩ e.stopping e.queue.length] = [⟨e.tickets, c⟩] := by
      simp [hs, Nat.lt_of_not_le hl]
    refine ⟨?_, ?_, ?_, ?_, ?_, fun hw => absurd hw hopen, ?_, ?_, ?_⟩
    · rw [List.range_succ]
      have hp := h.places.append_right [e.tickets]
      simpa using hp
    · rw [accepted_append, hnew, h.order, abandoned_append, abandoned_eq_nil (h.unseen hopen)]
      simp
    · rw [accepted_append, hnew]
      refine List.pairwise_append.mpr ⟨h.increasing, List.pairwise_singleton _ _, ?_⟩
      intro a ha b hb
      rw [List.mem_singleton.mp hb]
      exact h.known a ha
    · rw [accepted_append, hnew]
      intro job hm
      rcases List.mem_append.mp hm with hm | hm
      · exact Nat.lt_succ_of_lt (h.known job hm)
      · rw [List.mem_singleton.mp hm]
        exact Nat.lt_succ_self _
    · rw [List.length_append, List.length_singleton]
      omega
    · intro hw l hm
      rcases List.mem_append.mp hm with hm | hm
      · exact h.unseen hw l hm
      · simp at hm
    · exact silent_more h.silent (by simp)
    · exact justified_more h.justified (by simp)

lemma Sound.stop : Sound (stop e) :=
  ⟨h.places, h.order, h.increasing, h.known, h.room, fun hw => ⟨rfl, (h.ended hw).2⟩, h.unseen,
    h.silent, h.justified⟩

lemma Sound.take_stopping (hw : e.worker = .waiting) (hs : e.stopping) : Sound (take e) := by
  have hopen : e.worker ≠ .ended := by simp [hw]
  have htail : ∀ n ∈ Notice.stopSeen e.queue ::
      e.queue.map (fun job => Notice.answered job.ticket (remoteUnavailable ecanceled)),
      ∀ job, n ≠ .started job := by
    intro n hn job
    rcases List.mem_cons.mp hn with rfl | hn
    · simp
    · obtain ⟨_, _, rfl⟩ := List.mem_map.mp hn
      simp
  unfold take note
  rw [if_pos hs]
  refine ⟨?_, ?_, ?_, ?_, Nat.zero_le _, fun _ => ⟨hs, rfl⟩, fun hc => absurd rfl hc, ?_, ?_⟩
  · have hp := h.places
    rw [hw] at hp
    simpa using hp
  · simpa [hw, abandoned_eq_nil (h.unseen hopen)] using h.order
  · simpa using h.increasing
  · simpa using h.known
  · exact silent_more h.silent htail
  · refine justified_more h.justified fun t r hr => ?_
    rcases List.mem_cons.mp hr with hr | hr
    · cases hr
    · obtain ⟨job, hj, he⟩ := List.mem_map.mp hr
      cases he
      exact .left (List.mem_append_right _ List.mem_cons_self) hj

lemma Sound.take (hw : e.worker = .waiting) : Sound (take e) := by
  by_cases hs : e.stopping
  · exact h.take_stopping hw hs
  · unfold RemoteExecutor.take
    rw [if_neg hs]
    cases hq : e.queue with
    | nil => exact h
    | cons job queue =>
      have hopen : e.worker ≠ .ended := by simp [hw]
      refine ⟨?_, ?_, h.increasing, h.known, ?_, (nomatch ·), fun _ => h.unseen hopen, h.silent,
        h.justified⟩
      · simpa [hw, hq] using h.places
      · rw [h.order]
        simp [hw, hq]
      · have hr := h.room
        rw [hq, List.length_cons] at hr
        exact Nat.le_of_succ_le hr

lemma Sound.begin {job : Job} (hw : e.worker = .holding job) :
    Sound { note e [.started job] with worker := .executing job } := by
  have hopen : e.worker ≠ .ended := by simp [hw]
  refine ⟨?_, ?_, ?_, ?_, h.room, (nomatch ·), ?_, ?_, ?_⟩
  · simpa [note, hw] using h.places
  · simpa [note, hw] using h.order
  · simpa [note] using h.increasing
  · simpa [note] using h.known
  · simpa [note] using h.unseen hopen
  · refine List.pairwise_append.mpr ⟨h.silent, List.pairwise_singleton _ _, ?_⟩
    rintro a ha b _ l _ rfl
    exact absurd ha (h.unseen hopen l)
  · exact justified_more h.justified (by simp)

lemma Sound.finish (texts : ValueCodec.Texts) {job : Job} (f : RemoteRuntime.Framework)
    (hw : e.worker = .executing job) : Sound (finish texts e job f) := by
  have hopen : e.worker ≠ .ended := by simp [hw]
  unfold RemoteExecutor.finish note
  simp only
  generalize RemoteRuntime.execute texts job.command f e.runtime = out
  refine ⟨?_, ?_, ?_, ?_, h.room, (nomatch ·), ?_, ?_, ?_⟩
  · simpa [hw] using h.places
  · simpa [hw] using h.order
  · simpa using h.increasing
  · simpa using h.known
  · simpa using h.unseen hopen
  · exact silent_more h.silent (by simp)
  · refine justified_more h.justified fun t r hr => ?_
    obtain ⟨rfl, rfl⟩ : t = job.ticket ∧ r = out.1.getD (remoteUnavailable eio) := by simpa using hr
    cases ho : out.1 with
    | none => exact .threw (c := job.command) (by simp)
    | some r => exact .executed (c := job.command) (by simp)

lemma Sound.work (texts : ValueCodec.Texts) (f : RemoteRuntime.Framework) : Sound (work texts e f) := by
  unfold RemoteExecutor.work
  cases hw : e.worker with
  | waiting => exact h.take hw
  | holding job => exact h.begin hw
  | executing job => exact h.finish texts f hw
  | ended => exact h

lemma Sound.step (texts : ValueCodec.Texts) (event : Event) : Sound (step texts e event) := by
  cases event with
  | submit c => exact h.submit c
  | stop => exact h.stop
  | work f => exact h.work texts f

end Steps

lemma sound_run (texts : ValueCodec.Texts) (error : ℤ) (events : List Event) :
    Sound (run texts error events) :=
  foldl_invariant (fun _ event hs => hs.step texts event) events _ (sound_start error)

section Progress

def phase : Worker → ℕ
  | .holding _ => 2
  | .executing _ => 1
  | .waiting => 0
  | .ended => 0

/-- The call waits for its answer. -/
def Pending (e : RemoteExecutor) (t : ℕ) : Prop := t ∈ (e.worker.jobs ++ e.queue).map Job.ticket

/-- How many turns of the worker the answer is away, if nothing stops it. -/
def turns (e : RemoteExecutor) (t : ℕ) : ℕ :=
  phase e.worker + if t ∈ e.worker.jobs.map Job.ticket then 0
    else 3 * ((e.queue.map Job.ticket).idxOf t + 1)

variable (texts : ValueCodec.Texts) {e : RemoteExecutor} {t : ℕ}

lemma Sound.pending_or_answered (h : Sound e) (ht : t < e.tickets) : Pending e t ∨ t ∈ answers e.log := by
  have hm := h.places.mem_iff.mpr (List.mem_range.mpr ht)
  exact (List.mem_append.mp hm).symm

/-- The executor before event `n` of an endless run. -/
def state (error : ℤ) (events : ℕ → Event) : ℕ → RemoteExecutor
  | 0 => start error
  | n + 1 => step texts (state error events n) (events n)

variable {texts} {error : ℤ} {events : ℕ → Event}

end Progress

structure DeliversOnce (e : RemoteExecutor) : Prop where
  once : ∀ t, (answers e.log).count t ≤ 1
  justified : ∀ t r, .answered t r ∈ e.log → t < e.tickets ∧ Justified e.log t r
  kept : ∀ t < e.tickets, t ∉ answers e.log → Pending e t
  executedOnce : (started e.log).Nodup
  inOrder : started e.log <+: accepted e.log
  ascending : (accepted e.log).Pairwise fun a b => a.ticket < b.ticket
  silent : ∀ before left after job, e.log = before ++ .stopSeen left :: after → .started job ∉ after
  ended : e.worker = .ended → e.queue = [] ∧ ∀ t < e.tickets, (answers e.log).count t = 1

lemma Sound.nodup {e : RemoteExecutor} (h : Sound e) : (answers e.log).Nodup :=
  (List.nodup_append.mp (h.places.nodup_iff.mpr List.nodup_range)).1

lemma Sound.delivers {e : RemoteExecutor} (h : Sound e) : DeliversOnce e where
  once := List.nodup_iff_count_le_one.mp h.nodup
  justified t r hr := by
    have hm : t ∈ answers e.log := mem_answers.mpr ⟨r, hr⟩
    exact ⟨List.mem_range.mp (h.places.mem_iff.mp (List.mem_append_left _ hm)), h.justified t r hr⟩
  kept t ht hn := (h.pending_or_answered ht).resolve_right hn
  executedOnce := by
    have hs : started e.log <+: accepted e.log := by
      rw [h.order, List.append_assoc, List.append_assoc]
      exact List.prefix_append _ _
    have hd : (accepted e.log).Nodup := h.increasing.imp fun hlt he => hlt.ne (congrArg Job.ticket he)
    exact hd.sublist hs.sublist
  inOrder := by
    rw [h.order, List.append_assoc, List.append_assoc]
    exact List.prefix_append _ _
  ascending := h.increasing
  silent before left after job he := by
    have hs := h.silent
    rw [he] at hs
    have hcons := (List.pairwise_append.mp hs).2.1
    exact fun hm => (List.pairwise_cons.mp hcons).1 _ hm left job rfl rfl
  ended hw := by
    have hq := (h.ended hw).2
    refine ⟨hq, fun t ht => ?_⟩
    have hm : t ∈ answers e.log := by
      rcases h.pending_or_answered ht with hp | ha
      · simp [Pending, hw, hq] at hp
      · exact ha
    exact List.count_eq_one_of_mem h.nodup hm

def Event.isWork : Event → Bool
  | .work _ => true
  | _ => false

section Stops

/-- `Stop` found the executor `e`; `after` is what has happened since. The queue is not executed any more, it
is answered when the worker comes back to it, and later calls are answered at once. -/
structure Stopped (e : RemoteExecutor) (after : List Event) (e' : RemoteExecutor) : Prop where
  stopping : e'.stopping
  accepted : accepted e'.log = accepted e.log
  late : ∀ t, e.tickets ≤ t → t < e'.tickets → .answered t (remoteUnavailable ecanceled) ∈ e'.log
  queue : e'.worker ≠ .ended → e'.queue = e.queue
  cancelled : e'.worker = .ended → ∀ job ∈ e.queue, .answered job.ticket (remoteUnavailable ecanceled) ∈ e'.log
  started : ∀ job, .started job ∈ e'.log → .started job ∈ e.log ∨ job ∈ e.worker.held
  holding : ∀ job ∈ e'.worker.held, job ∈ e.worker.held
  held : ∀ job ∈ e.worker.jobs, job ∈ e'.worker.jobs ∨ ∃ r, .finished job r ∈ e'.log
  ended : e'.worker = .ended ∨ after.countP Event.isWork + phase e'.worker ≤ phase e.worker

variable {e e' : RemoteExecutor} {after : List Event}

/-- What is only noted keeps the record of the stop. -/
lemma Stopped.submit (h : Stopped e after e') (c : RemoteCommand) :
    Stopped e (after ++ [.submit c]) (submit e' c) := by
  have hs := h.stopping
  unfold RemoteExecutor.submit note
  simp only [if_pos hs, List.append_assoc]
  have hmem : ∀ n ∈ e'.log, n ∈ e'.log ++ ([.submitted ⟨e'.tickets, c⟩ e'.stopping e'.queue.length] ++
      [Notice.answered e'.tickets (remoteUnavailable ecanceled)]) := fun _ hn => List.mem_append_left _ hn
  refine ⟨hs, ?_, fun t hle hlt => ?_, h.queue, fun hw job hj => hmem _ (h.cancelled hw job hj),
    fun job hj => ?_,
    h.holding, fun job hj => (h.held job hj).imp_right fun ⟨r, hr⟩ => ⟨r, hmem _ hr⟩, ?_⟩
  · rw [accepted_append, h.accepted]
    simp [hs]
  · by_cases ht : t = e'.tickets
    · simp [ht]
    · exact hmem _ (h.late t hle (lt_of_le_of_ne (Nat.lt_succ_iff.mp hlt) ht))
  · exact h.started job (by simpa using hj)
  · rw [List.countP_append]
    exact h.ended

lemma Stopped.take (h : Stopped e after e') (hw : e'.worker = .waiting) (f : RemoteRuntime.Framework) :
    Stopped e (after ++ [.work f]) (take e') := by
  have hq : e'.queue = e.queue := h.queue (by simp [hw])
  unfold RemoteExecutor.take note
  rw [if_pos h.stopping]
  have hmem : ∀ n ∈ e'.log, n ∈ e'.log ++ (.stopSeen e'.queue ::
      e'.queue.map fun job => Notice.answered job.ticket (remoteUnavailable ecanceled)) :=
    fun _ hn => List.mem_append_left _ hn
  refine ⟨h.stopping, ?_, fun t hle hlt => hmem _ (h.late t hle hlt), fun hn => absurd rfl hn,
    fun _ job hj => ?_, fun job hj => ?_, (fun _ hj => absurd hj List.not_mem_nil), fun job hj => ?_, .inl rfl⟩
  · simpa using h.accepted
  · refine List.mem_append_right _ (List.mem_cons_of_mem _ (List.mem_map.mpr ⟨job, ?_, rfl⟩))
    rwa [hq]
  · exact h.started job (by simpa using hj)
  · rcases h.held job hj with hj | ⟨r, hr⟩
    · simp [hw] at hj
    · exact .inr ⟨r, hmem _ hr⟩

lemma Stopped.begin (h : Stopped e after e') {job : Job} (hw : e'.worker = .holding job)
    (f : RemoteRuntime.Framework) :
    Stopped e (after ++ [.work f]) { note e' [.started job] with worker := .executing job } := by
  have hopen : e'.worker ≠ .ended := by simp [hw]
  have hmem : ∀ n ∈ e'.log, n ∈ e'.log ++ [Notice.started job] := fun _ hn => List.mem_append_left _ hn
  refine ⟨h.stopping, ?_, fun t hle hlt => hmem _ (h.late t hle hlt), fun _ => h.queue hopen,
    (fun hc => by cases hc), fun job' hj => ?_, (fun _ hj => absurd hj List.not_mem_nil), fun job' hj => ?_,
    .inr ?_⟩
  · simpa [note] using h.accepted
  · rcases List.mem_append.mp hj with hj | hj
    · exact h.started job' hj
    · cases List.mem_singleton.mp hj
      exact .inr (h.holding job (by simp [hw]))
  · rcases h.held job' hj with hj | ⟨r, hr⟩
    · rw [hw] at hj
      exact .inl hj
    · exact .inr ⟨r, hmem _ hr⟩
  · have hle := h.ended.resolve_left hopen
    rw [hw] at hle
    simp only [List.countP_append, List.countP_singleton, Event.isWork, phase, if_true] at hle ⊢
    omega

lemma Stopped.finish (h : Stopped e after e') (texts : ValueCodec.Texts) {job : Job}
    (hw : e'.worker = .executing job) (f : RemoteRuntime.Framework) :
    Stopped e (after ++ [.work f]) (finish texts e' job f) := by
  have hopen : e'.worker ≠ .ended := by simp [hw]
  unfold RemoteExecutor.finish note
  simp only
  generalize RemoteRuntime.execute texts job.command f e'.runtime = out
  have hmem : ∀ n ∈ e'.log, n ∈ e'.log ++ [Notice.finished job out.1,
      .answered job.ticket (out.1.getD (remoteUnavailable eio))] := fun _ hn => List.mem_append_left _ hn
  refine ⟨h.stopping, ?_, fun t hle hlt => hmem _ (h.late t hle hlt), fun _ => h.queue hopen,
    (fun hc => by cases hc), fun job' hj => ?_, (fun _ hj => absurd hj List.not_mem_nil), fun job' hj => ?_,
    .inr ?_⟩
  · simpa using h.accepted
  · exact h.started job' (by simpa using hj)
  · rcases h.held job' hj with hj | ⟨r, hr⟩
    · obtain rfl : job' = job := by simpa [hw] using hj
      exact .inr ⟨out.1, by simp⟩
    · exact .inr ⟨r, hmem _ hr⟩
  · have hle := h.ended.resolve_left hopen
    rw [hw] at hle
    simp only [List.countP_append, List.countP_singleton, Event.isWork, phase, if_true] at hle ⊢
    omega

lemma Stopped.idle (h : Stopped e after e') (event : Event) (hw : e'.worker = .ended) :
    Stopped e (after ++ [event]) e' :=
  { h with ended := .inl hw }

lemma Stopped.step (h : Stopped e after e') (texts : ValueCodec.Texts) (event : Event) :
    Stopped e (after ++ [event]) (step texts e' event) := by
  cases event with
  | submit c => exact h.submit c
  | stop =>
    have he : stop e' = e' := by
      unfold RemoteExecutor.stop
      rw [← h.stopping]
    refine { (he.symm ▸ h : Stopped e after (RemoteExecutor.stop e')) with ended := ?_ }
    rw [List.countP_append]
    exact h.ended
  | work f =>
    simp only [RemoteExecutor.step, work]
    cases hw : e'.worker with
    | waiting => exact h.take hw f
    | holding job => exact h.begin hw f
    | executing job => exact h.finish texts hw f
    | ended => exact h.idle _ hw

/-- What `Stop` has found in the queue is answered and never started. -/
lemma Stopped.dropped (h : Stopped e after e') (hs : Sound e) {job : Job} (hj : job ∈ e.queue) :
    .started job ∉ e'.log := by
  intro hstarted
  have hnodup : (RemoteExecutor.accepted e.log).Nodup :=
    hs.increasing.imp fun hlt he => hlt.ne (congrArg Job.ticket he)
  rw [hs.order] at hnodup
  have hapart := (List.nodup_append.mp (List.nodup_append.mp hnodup).1).2.2
  refine hapart job (List.mem_append.mpr ?_) job hj rfl
  exact (h.started job hstarted).imp_left fun hm => List.mem_filterMap.mpr ⟨_, hm, rfl⟩

end Stops

end KcfTools.RemoteExecutor
