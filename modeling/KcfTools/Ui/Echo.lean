import KcfTools.Lib.SlidingWindow
import KcfTools.Ui.RemoteWorkspace

/-! The echo of a local topic: its buttons, its timer, and the frequency over a window of recent samples. -/

namespace KcfTools.EchoView

open RemoteWorkspace (seconds)

structure ShownTopic where
  info : TopicInfo := {}
  frequencyAvailable : Bool := false
  frequencyHz : ℚ := 0
  sequenceAvailable : Bool := false
  sequence : UInt64 := 0

structure Sample where
  time : ℤ
  sequence : UInt64
deriving DecidableEq

inductive Frequency
  | blank | unavailable | reported (hz : ℚ) | measuring | measured (hz : ℚ)
deriving DecidableEq

inductive Status
  | stopped | typeUnavailable | noPublisher | refreshFirst | unavailable (result : ℤ) | failed (result : ℤ)
  | waiting | running (sequence : UInt64)
deriving DecidableEq

/-- The history of the echo, for the statements about runs. -/
inductive Notice
  | started (id : EndpointIdentity) | stopped | sampled (s : Sample)
deriving DecidableEq

/-- `log` starts with the latest notice. After `fault` the code has looked at the front of an empty window. -/
structure View where
  serviceBusy : Bool := false
  topics : List ShownTopic := []
  row : Option ℕ := none
  startEnabled : Bool := true
  stopEnabled : Bool := true
  timer : Bool := false
  requiresRefresh : Bool := false
  history : List Sample := []
  frequency : Frequency := .blank
  sequence : Option UInt64 := none
  status : Status := .stopped
  table : List (String × String × String) := []
  fault : Bool := false
  log : List Notice := []

def estale : ℤ := -116
def eagain : ℤ := -11

variable (v : View)

def View.note (n : Notice) : View := { v with log := n :: v.log }

def topic : Option ShownTopic := v.row.bind fun i => v.topics[i]?

def topicFrequency (t : Option ShownTopic) : Frequency :=
  match t with
  | none => .unavailable
  | some t => if t.frequencyAvailable then .reported t.frequencyHz else .unavailable

def stopEcho : View :=
  View.note
    { v with
      timer := false
      history := []
      frequency := topicFrequency (topic v)
      startEnabled := v.stopEnabled || v.startEnabled
      status := if v.stopEnabled then .stopped else v.status
      stopEnabled := false } .stopped

/-- Both failures of the echo end it until the next Refresh. -/
def failEcho (result : ℤ) : View :=
  { stopEcho v with requiresRefresh := true, startEnabled := false, status := .failed result }

def elementName (f : FieldValue) (i : ℕ) : String := f.name ++ "[" ++ toString i ++ "]"

def fieldRows (f : FieldValue) : List (String × String × String) :=
  if f.arrayValues = [] then [(f.name, f.typeName, f.value)]
  else f.arrayValues.mapIdx fun i value => (elementName f i, f.typeName, value)

/-- More than sixteen samples, or a front sample that is more than a second old. -/
def Stale (now : ℤ) (size : ℕ) (s : Sample) : Prop := 16 < size ∨ 1000000000 < now - s.time

instance (now : ℤ) (size : ℕ) (s : Sample) : Decidable (Stale now size s) :=
  inferInstanceAs (Decidable (16 < size ∨ 1000000000 < now - s.time))

/-- The window before the trimming. -/
def extend (history : List Sample) (s : Sample) : List Sample :=
  (if history.getLast?.any fun last => s.sequence < last.sequence then [] else history) ++ [s]

/-- The frequency over a window from its front sample. -/
def windowFrequency (front : Sample) (size : ℕ) (s : Sample) : Frequency :=
  let elapsed := seconds (s.time - front.time)
  if 2 ≤ size ∧ 1 / 2 ≤ elapsed then .measured ((s.sequence - front.sequence).toNat / elapsed) else .measuring

def display (s : Sample) (fields : List FieldValue) (window : List Sample) (frequency : Frequency) : View :=
  View.note
    { v with
      history := window
      frequency := frequency
      table := fields.flatMap fieldRows
      sequence := some s.sequence
      status := .running s.sequence } (.sampled s)

def showSample (snapshot : DataSnapshot) (now : ℤ) : View :=
  let s : Sample := ⟨now, snapshot.sequence⟩
  match SlidingWindow.trim (Stale now) (extend v.history s) with
  | some (front :: rest) =>
    display v s snapshot.fields (front :: rest) (windowFrequency front (rest.length + 1) s)
  | _ => { v with fault := true }

/-- `read` is what the backend returns, `now` the clock after it. -/
def pollEcho (read : ℤ × DataSnapshot) (now : ℤ) : View :=
  if v.serviceBusy then v
  else if ¬ v.timer then v
  else if read.1 = eagain then { v with status := .waiting }
  else if read.1 ≠ 0 then failEcho v read.1
  else showSample v read.2 now

def beginEcho (t : ShownTopic) : View :=
  View.note
    { v with
      startEnabled := false
      stopEnabled := true
      history := []
      frequency := .measuring
      timer := true } (.started t.info.identity)

def startEcho (result : ℤ) (read : ℤ × DataSnapshot) (now : ℤ) : View :=
  if v.serviceBusy then v
  else match topic v with
  | none => v
  | some t =>
    if ¬ v.startEnabled then v
    else if result ≠ 0 then failEcho v result
    else pollEcho (beginEcho v t) read now

/-- `result` is that of a trial start. -/
def showTopic (result : ℤ) : View :=
  if v.serviceBusy then v
  else
    let v := { stopEcho v with
      startEnabled := false, table := [], status := .stopped, frequency := .blank, sequence := none }
    match topic v with
    | none => v
    | some t =>
      let v := { v with
        frequency := topicFrequency (some t)
        sequence := if t.sequenceAvailable then some t.sequence else none }
      if t.info.typeId = 0 then { v with status := .typeUnavailable }
      else if t.info.role ≠ "PUBLISHER" ∨ t.info.publishers = [] then { v with status := .noPublisher }
      else if v.requiresRefresh then { v with status := .refreshFirst }
      else if result ≠ 0 then { v with status := .unavailable result }
      else { v with startEnabled := true }

/-- The events of the echo; `refresh` brings new topics and `call` begins a service call. -/
inductive Event
  | start (result : ℤ) (read : ℤ × DataSnapshot) (now : ℤ)
  | stop
  | poll (read : ℤ × DataSnapshot) (now : ℤ)
  | pick (row : Option ℕ) (result : ℤ)
  | refresh (topics : List ShownTopic) (row : Option ℕ) (result : ℤ)
  | call
  | finished

def step (e : Event) : View :=
  match e with
  | .start result read now => startEcho v result read now
  | .stop => stopEcho v
  | .poll read now => pollEcho v read now
  | .pick row result => showTopic { v with row := row } result
  | .refresh topics row result =>
    if v.serviceBusy then v
    else showTopic { stopEcho v with requiresRefresh := false, topics := topics, row := row } result
  | .call => { stopEcho v with serviceBusy := true }
  | .finished => { v with serviceBusy := false }

def run (events : List Event) : View := events.foldl step v

section Windows

/-- The samples since the last start, stop, error or decrease of the sequence, in their order. -/
def Recent (log : List Notice) (l : List Sample) : Prop :=
  ∃ earlier, log = (l.map Notice.sampled).reverse ++ earlier ∧ l.Pairwise (fun a b => a.sequence ≤ b.sequence) ∧
    ∀ s, earlier.head? = some (.sampled s) → ∀ first ∈ l.head?, first.sequence < s.sequence

/-- The window and the frequency that a sample leaves. -/
structure Windowed (v : View) (s : Sample) : Prop where
  recent : ∃ l, Recent v.log l ∧ v.history <:+ l
  last : v.history.getLast? = some s
  times : v.history.Pairwise fun a b => a.time ≤ b.time
  sequences : v.history.Pairwise fun a b => a.sequence ≤ b.sequence
  count : v.history.length ≤ 16
  span : ∀ front ∈ v.history.head?, s.time - front.time ≤ 1000000000
  numeric : (∃ hz, v.frequency = .measured hz) ↔
    2 ≤ v.history.length ∧ ∀ front ∈ v.history.head?, 1 / 2 ≤ seconds (s.time - front.time)
  value : ∀ hz, v.frequency = .measured hz → ∀ front ∈ v.history.head?, front.sequence ≤ s.sequence ∧
    0 < seconds (s.time - front.time) ∧
    hz = ((s.sequence.toNat : ℚ) - front.sequence.toNat) / seconds (s.time - front.time)
  otherwise : (∀ hz, v.frequency ≠ .measured hz) → v.frequency = .measuring

/-- The window of a view is at the end of its recent samples, which are all before the times to come. -/
structure Tracks (v : View) (future : List ℤ) (l : List Sample) : Prop where
  recent : Recent v.log l
  complete : l = [] → ∀ s, v.log.head? ≠ some (.sampled s)
  suffix : v.history <:+ l
  kept : v.history = [] → l = []
  times : l.Pairwise fun a b => a.time ≤ b.time
  past : ∀ s ∈ l, ∀ t ∈ future, s.time ≤ t

structure Inv (v : View) (future : List ℤ) : Prop where
  fault : v.fault = false
  tracks : ∃ l, Tracks v future l
  shown : ∀ s, v.log.head? = some (.sampled s) → Windowed v s

instance : IsTrans Sample fun a b => a.time ≤ b.time := ⟨fun _ _ _ h h' => le_trans h h'⟩

instance : IsTrans Sample fun a b => a.sequence ≤ b.sequence := ⟨fun _ _ _ h h' => UInt64.le_trans h h'⟩

variable {v v' : View} {future : List ℤ} {s : Sample}

/-- A view that shows the same window as another. -/
structure SameWindow (v v' : View) : Prop where
  log : v'.log = v.log
  history : v'.history = v.history
  frequency : v'.frequency = v.frequency
  fault : v'.fault = v.fault

lemma Inv.same (h : Inv v future) (hsame : SameWindow v v') : Inv v' future := by
  obtain ⟨hlog, hhistory, hfrequency, hfault⟩ := hsame
  refine ⟨hfault.trans h.fault, ?_, fun s hs => ?_⟩
  · obtain ⟨l, hl⟩ := h.tracks
    exact ⟨l, hlog ▸ hl.recent, hlog ▸ hl.complete, hhistory ▸ hl.suffix, hhistory ▸ hl.kept, hl.times, hl.past⟩
  · have hw := h.shown s (hlog ▸ hs)
    exact ⟨hlog ▸ hhistory ▸ hw.recent, hhistory ▸ hw.last, hhistory ▸ hw.times, hhistory ▸ hw.sequences,
      hhistory ▸ hw.count, hhistory ▸ hw.span, hfrequency ▸ hhistory ▸ hw.numeric,
      hfrequency ▸ hhistory ▸ hw.value, hfrequency ▸ hw.otherwise⟩

lemma Inv.reset {n : Notice} {log : List Notice} (hfault : v.fault = false) (hlog : v.log = n :: log)
    (hn : ∀ s, n ≠ .sampled s) (hhistory : v.history = []) : Inv v future := by
  have hhead : ∀ s, v.log.head? ≠ some (.sampled s) := by
    intro s hs
    rw [hlog] at hs
    exact hn s (Option.some.inj hs)
  refine ⟨hfault, ⟨[], ⟨v.log, rfl, .nil, by simp⟩, fun _ => hhead, ?_, fun _ => rfl, .nil, by simp⟩, ?_⟩
  · rw [hhistory]
  · exact fun s hs => absurd hs (hhead s)

lemma Inv.later {future' : List ℤ} (h : Inv v future) (hsub : future' ⊆ future) : Inv v future' := by
  obtain ⟨l, hl⟩ := h.tracks
  exact ⟨h.fault, ⟨l, hl.recent, hl.complete, hl.suffix, hl.kept, hl.times, fun s hs t ht =>
    hl.past s hs t (hsub ht)⟩, h.shown⟩

section Extend

variable {history l : List Sample} {log : List Notice}

lemma extend_cases (l : List Sample) (s : Sample) :
    (∃ last, l.getLast? = some last ∧ s.sequence < last.sequence ∧ extend l s = [s]) ∨
    (∀ last ∈ l.getLast?, last.sequence ≤ s.sequence) ∧ extend l s = l ++ [s] := by
  unfold extend
  cases hl : l.getLast? with
  | none => exact .inr ⟨fun _ h => (nomatch h), rfl⟩
  | some last =>
    by_cases h : s.sequence < last.sequence
    · exact .inl ⟨last, rfl, h, by simp [h]⟩
    · refine .inr ⟨fun last' hlast => ?_, by simp [h]⟩
      obtain rfl := Option.some.inj hlast
      exact UInt64.not_lt.mp h

lemma extend_last (l : List Sample) (s : Sample) : ∃ before, extend l s = before ++ [s] := ⟨_, rfl⟩

lemma extend_suffix (h : history <:+ l) (hkept : history = [] → l = []) : extend history s <:+ extend l s := by
  cases history with
  | nil => rw [hkept rfl]
  | cons a rest =>
    have hlast := SlidingWindow.suffix_getLast? h
    unfold extend
    rw [hlast]
    split_ifs
    · exact List.suffix_rfl
    · exact SlidingWindow.suffix_append h s

lemma extend_times (h : l.Pairwise fun a b => a.time ≤ b.time) (hs : ∀ a ∈ l, a.time ≤ s.time) :
    (extend l s).Pairwise fun a b => a.time ≤ b.time := by
  rcases extend_cases l s with ⟨last, _, _, heq⟩ | ⟨_, heq⟩
  · rw [heq]
    exact List.pairwise_singleton _ s
  · rw [heq]
    exact SlidingWindow.pairwise_append_last h fun last hlast => hs last (List.mem_of_getLast? hlast)

lemma extend_mem {a : Sample} (h : a ∈ extend l s) : a ∈ l ∨ a = s := by
  rcases extend_cases l s with ⟨last, _, _, heq⟩ | ⟨_, heq⟩
  · rw [heq] at h
    exact .inr (List.mem_singleton.mp h)
  · rw [heq] at h
    exact (List.mem_append.mp h).imp_right List.mem_singleton.mp

lemma extend_recent (h : Recent log l) (hcomplete : l = [] → ∀ s, log.head? ≠ some (.sampled s)) :
    Recent (.sampled s :: log) (extend l s) := by
  obtain ⟨earlier, hlog, hsorted, hbreak⟩ := h
  rcases extend_cases l s with ⟨last, hlast, hlt, heq⟩ | ⟨hle, heq⟩
  · have hhead : log.head? = some (.sampled last) := by
      rw [hlog, List.head?_append, List.head?_reverse, List.getLast?_map, hlast]
      rfl
    refine ⟨log, by rw [heq]; rfl, by rw [heq]; exact List.pairwise_singleton _ s, fun x hx first hfirst => ?_⟩
    rw [heq] at hfirst
    obtain rfl := Option.some.inj hfirst
    obtain rfl := Notice.sampled.inj (Option.some.inj (hhead.symm.trans hx))
    exact hlt
  · refine ⟨earlier, by rw [heq, hlog]; simp, ?_, fun x hx first hfirst => ?_⟩
    · rw [heq]
      exact SlidingWindow.pairwise_append_last hsorted hle
    · cases l with
      | nil =>
        obtain rfl : log = earlier := hlog
        exact absurd hx (hcomplete rfl x)
      | cons a rest =>
        rw [heq] at hfirst
        exact hbreak x hx first hfirst

end Extend

lemma seconds_pos {dt : ℤ} (h : 1 / 2 ≤ seconds dt) : 0 < seconds dt := lt_of_lt_of_le (by norm_num) h

/-- The trimmed window of a sample, and its frequency. -/
lemma windowed_display {fields : List FieldValue} {l rest : List Sample} {front : Sample} (v : View)
    (hrecent : Recent (.sampled s :: v.log) l) (hsuffix : front :: rest <:+ l) (hlast : l.getLast? = some s)
    (htimes : l.Pairwise fun a b => a.time ≤ b.time) (hfresh : ¬ Stale s.time (rest.length + 1) front) :
    Windowed (display v s fields (front :: rest) (windowFrequency front (rest.length + 1) s)) s := by
  obtain ⟨earlier, _, hsorted, _⟩ := id hrecent
  have hend : (front :: rest).getLast? = some s := (SlidingWindow.suffix_getLast? hsuffix).trans hlast
  obtain ⟨hcount, hspan⟩ := not_or.mp hfresh
  have hsequences := hsorted.sublist hsuffix.sublist
  have hle : front.sequence ≤ s.sequence := by
    rcases List.mem_cons.mp (List.mem_of_getLast? hend) with rfl | hmem
    · exact UInt64.le_refl _
    · exact (List.pairwise_cons.mp hsequences).1 s hmem
  have hfrequency : ∀ hz, windowFrequency front (rest.length + 1) s = .measured hz ↔
      (2 ≤ rest.length + 1 ∧ 1 / 2 ≤ seconds (s.time - front.time)) ∧
        (s.sequence - front.sequence).toNat / seconds (s.time - front.time) = hz := by
    intro hz
    unfold windowFrequency
    dsimp only
    split_ifs with hc
    · rw [and_iff_right hc, Frequency.measured.injEq]
    · exact ⟨fun h => (nomatch h), fun h => absurd h.1 hc⟩
  have hnat : front.sequence.toNat ≤ s.sequence.toNat := UInt64.le_iff_toNat_le.mp hle
  refine ⟨⟨l, hrecent, hsuffix⟩, hend, htimes.sublist hsuffix.sublist, hsequences, not_lt.mp hcount,
    ?_, ?_, ?_, ?_⟩
  · intro x hx
    obtain rfl := Option.some.inj hx
    exact not_lt.mp hspan
  · constructor
    · rintro ⟨hz, hf⟩
      refine ⟨((hfrequency hz).mp hf).1.1, fun x hx => ?_⟩
      obtain rfl := Option.some.inj hx
      exact ((hfrequency hz).mp hf).1.2
    · rintro ⟨htwo, hhalf⟩
      exact ⟨_, (hfrequency _).mpr ⟨⟨htwo, hhalf front rfl⟩, rfl⟩⟩
  · intro hz hf x hx
    obtain rfl := Option.some.inj hx
    obtain ⟨⟨_, hhalf⟩, rfl⟩ := (hfrequency hz).mp hf
    refine ⟨hle, seconds_pos hhalf, ?_⟩
    rw [UInt64.toNat_sub_of_le _ _ hle, Nat.cast_sub hnat]
  · intro hno
    change windowFrequency front (rest.length + 1) s = .measuring
    unfold windowFrequency
    dsimp only
    exact if_neg fun hc => hno _ ((hfrequency _).mpr ⟨hc, rfl⟩)

lemma showSample_inv {snapshot : DataSnapshot} {now : ℤ} (h : Inv v (now :: future))
    (hfuture : ∀ t ∈ future, now ≤ t) : Inv (showSample v snapshot now) future := by
  obtain ⟨l, hl⟩ := h.tracks
  have hfresh : ¬ Stale now 1 (⟨now, snapshot.sequence⟩ : Sample) := by simp [Stale]
  obtain ⟨before, hbefore⟩ := extend_last v.history ⟨now, snapshot.sequence⟩
  obtain ⟨front, rest, htrim, hsuffix, hfront⟩ := SlidingWindow.trim_append before hfresh
  rw [← hbefore] at htrim hsuffix
  have hshow : showSample v snapshot now = display v ⟨now, snapshot.sequence⟩ snapshot.fields (front :: rest)
      (windowFrequency front (rest.length + 1) ⟨now, snapshot.sequence⟩) := by
    simp only [showSample, htrim]
  have hsuffix' := hsuffix.trans (extend_suffix hl.suffix hl.kept)
  have hrecent := extend_recent hl.recent hl.complete (s := ⟨now, snapshot.sequence⟩)
  have htimes := extend_times (s := ⟨now, snapshot.sequence⟩) hl.times fun a ha =>
    hl.past a ha now List.mem_cons_self
  have hne : extend l ⟨now, snapshot.sequence⟩ ≠ [] := by simp [extend]
  rw [hshow]
  refine ⟨h.fault, ⟨_, hrecent, fun hnil => absurd hnil hne, hsuffix', fun hnil => (nomatch hnil), htimes, ?_⟩,
    ?_⟩
  · intro a ha t ht
    rcases extend_mem ha with ha | rfl
    · exact hl.past a ha t (List.mem_cons_of_mem _ ht)
    · exact hfuture t ht
  · intro s hs
    obtain rfl := Notice.sampled.inj (Option.some.inj hs)
    obtain ⟨before', hbefore'⟩ := extend_last l ⟨now, snapshot.sequence⟩
    exact windowed_display v hrecent hsuffix' (by rw [hbefore']; simp) htimes hfront

lemma stopEcho_inv (h : v.fault = false) : Inv (stopEcho v) future :=
  Inv.reset h rfl (fun _ hs => nomatch hs) rfl

lemma failEcho_inv (h : v.fault = false) (result : ℤ) : Inv (failEcho v result) future :=
  Inv.reset h rfl (fun _ hs => nomatch hs) rfl

lemma pollEcho_inv {read : ℤ × DataSnapshot} {now : ℤ} (h : Inv v (now :: future))
    (hfuture : ∀ t ∈ future, now ≤ t) : Inv (pollEcho v read now) future := by
  have hlater : Inv v future := h.later (List.subset_cons_self now future)
  unfold pollEcho
  split_ifs
  · exact hlater
  · exact hlater.same ⟨rfl, rfl, rfl, rfl⟩
  · exact failEcho_inv h.fault read.1
  · exact showSample_inv h hfuture
  · exact hlater

lemma startEcho_inv {result : ℤ} {read : ℤ × DataSnapshot} {now : ℤ} (h : Inv v (now :: future))
    (hfuture : ∀ t ∈ future, now ≤ t) : Inv (startEcho v result read now) future := by
  have hlater : Inv v future := h.later (List.subset_cons_self now future)
  unfold startEcho
  split
  · exact hlater
  split
  · exact hlater
  · split_ifs
    · exact failEcho_inv h.fault result
    · exact pollEcho_inv (Inv.reset h.fault rfl (fun _ hs => nomatch hs) rfl) hfuture
    · exact hlater

lemma showTopic_inv (h : Inv v future) (result : ℤ) : Inv (showTopic v result) future := by
  have hreset : ∀ v' : View, v'.fault = v.fault → v'.log = .stopped :: v.log → v'.history = [] →
      Inv v' future :=
    fun v' hf hl hh => Inv.reset (hf.trans h.fault) hl (fun _ hs => nomatch hs) hh
  unfold showTopic
  split
  · exact h
  dsimp only
  split
  · exact hreset _ rfl rfl rfl
  · split_ifs <;> exact hreset _ rfl rfl rfl

/-- The times that an event reads from the clock. -/
def Event.times : Event → List ℤ
  | .start _ _ now => [now]
  | .poll _ now => [now]
  | _ => []

lemma step_inv {e : Event} (h : Inv v (e.times ++ future)) (hsorted : (e.times ++ future).Pairwise (· ≤ ·)) :
    Inv (step v e) future := by
  have hlater : Inv v future := h.later (List.subset_append_right e.times future)
  cases e with
  | start result read now => exact startEcho_inv h (List.pairwise_cons.mp hsorted).1
  | stop => exact stopEcho_inv h.fault
  | poll read now => exact pollEcho_inv h (List.pairwise_cons.mp hsorted).1
  | pick row result =>
    have hrow : Inv { v with row := row } future := hlater.same ⟨rfl, rfl, rfl, rfl⟩
    exact showTopic_inv hrow result
  | refresh topics row result =>
    change Inv (if v.serviceBusy then v else _) future
    split_ifs
    · exact hlater
    · have hlists : Inv { stopEcho v with requiresRefresh := false, topics := topics, row := row } future :=
        Inv.same (stopEcho_inv h.fault) ⟨rfl, rfl, rfl, rfl⟩
      exact showTopic_inv hlists result
  | call => exact Inv.same (stopEcho_inv h.fault) ⟨rfl, rfl, rfl, rfl⟩
  | finished => exact hlater.same ⟨rfl, rfl, rfl, rfl⟩

lemma run_inv (events : List Event) (h : Inv v (events.flatMap Event.times))
    (hsorted : (events.flatMap Event.times).Pairwise (· ≤ ·)) : Inv (run v events) [] := by
  induction events generalizing v with
  | nil => exact h
  | cons e events ih =>
    rw [List.flatMap_cons] at h hsorted
    exact ih (step_inv h hsorted) (List.pairwise_append.mp hsorted).2.1

/-- A poll of a running echo reads a sample. -/
def Polls (v : View) (read : ℤ × DataSnapshot) : Prop := v.serviceBusy = false ∧ v.timer ∧ read.1 = 0

/-- The event ends with a successful poll; a start polls at once. -/
def Samples (v : View) : Event → Sample → Prop
  | .poll read now, s => Polls v read ∧ s = ⟨now, read.2.sequence⟩
  | .start result read now, s => v.serviceBusy = false ∧ (topic v).isSome ∧ v.startEnabled ∧ result = 0 ∧
    read.1 = 0 ∧ s = ⟨now, read.2.sequence⟩
  | _, _ => False

lemma pollEcho_samples {read : ℤ × DataSnapshot} (h : Polls v read) (now : ℤ) :
    (pollEcho v read now).fault = true ∨
      (pollEcho v read now).log.head? = some (.sampled ⟨now, read.2.sequence⟩) := by
  obtain ⟨hbusy, htimer, hread⟩ := h
  have hpoll : pollEcho v read now = showSample v read.2 now := by
    simp [pollEcho, hbusy, htimer, hread, eagain]
  rw [hpoll, showSample]
  split
  · exact .inr rfl
  · exact .inl rfl

lemma step_samples {e : Event} (h : Samples v e s) :
    (step v e).fault = true ∨ (step v e).log.head? = some (.sampled s) := by
  cases e with
  | start result read now =>
    obtain ⟨hbusy, htopic, hstart, hresult, hread, rfl⟩ := h
    obtain ⟨t, ht⟩ := Option.isSome_iff_exists.mp htopic
    have hstep : step v (.start result read now) = pollEcho (beginEcho v t) read now := by
      simp [step, startEcho, hbusy, ht, hstart, hresult]
    have hpolls : Polls (beginEcho v t) read := ⟨hbusy, rfl, hread⟩
    rw [hstep]
    exact pollEcho_samples hpolls now
  | poll read now =>
    obtain ⟨hpolls, rfl⟩ := h
    exact pollEcho_samples hpolls now
  | _ => exact h.elim

lemma start_inv : Inv {} future where
  fault := rfl
  tracks := ⟨[], ⟨[], rfl, .nil, fun _ h => nomatch h⟩, fun _ _ h => (nomatch h), List.suffix_rfl, fun _ => rfl,
    .nil, fun _ h => (nomatch h)⟩
  shown _ h := (nomatch h)

/-- Whatever the clock and the backend do, the trimming stops before the window is empty, and a successful poll
leaves the newest of the recent samples and their frequency. -/
theorem echo_window (events : List Event) (h : (events.flatMap Event.times).Pairwise (· ≤ ·)) :
    (run {} events).fault = false ∧
    ∀ front e s, events = front ++ [e] → Samples (run {} front) e s → Windowed (run {} events) s := by
  have hinv := run_inv events start_inv h
  refine ⟨hinv.fault, fun front e s heq hsamples => hinv.shown s ?_⟩
  have hrun : run {} events = step (run {} front) e := by simp [heq, run]
  rw [hrun]
  rcases step_samples hsamples with hfault | hhead
  · have hno := hinv.fault
    rw [hrun, hfault] at hno
    cases hno
  · exact hhead

def imuTopic : ShownTopic where
  info := { name := "/imu", role := "PUBLISHER", typeId := 1, publishers := ["imu"] }

/-- Two samples six tenths of a second apart. -/
theorem echo_window_two : Windowed (run {} [.refresh [imuTopic] (some 0) 0, .start 0 (0, { sequence := 5 }) 0,
    .poll (0, { sequence := 11 }) 600000000]) ⟨600000000, 11⟩ :=
  (echo_window _ (by decide)).2 [_, _] _ _ rfl ⟨⟨rfl, rfl, rfl⟩, rfl⟩

end Windows

end KcfTools.EchoView
