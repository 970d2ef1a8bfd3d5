import KcfTools.Lib.Sessions
import KcfTools.Backend.Refresh
import KcfTools.Backend.Registration

/-! The echo session of both backends. The one keeps an open reader inside its cache, the other a flag and an
identity; both are simulated by the same automaton of sessions. -/

namespace KcfTools.EchoSessions

open Traced ValueCodec KcfBackend

def eagain : ℤ := -11
def ebadf : Failure := ⟨-9, by decide⟩

/-- The calls of a backend, an output variable with its value before the call. -/
inductive EchoCall
  | startTopicEcho (id : EndpointIdentity)
  | prepareTopicRead (id : EndpointIdentity)
  | readTopicEcho (output : DataSnapshot)
  | stopTopicEcho
  | closeTopicRead
  | refresh
  | readTopicLatest (id : EndpointIdentity) (output : DataSnapshot)
  | readTopicLatestByName (name : String) (output : DataSnapshot)

abbrev Seen := Sessions.Event EndpointIdentity String DataSnapshot
abbrev Automaton := Sessions.State EndpointIdentity String

def started (id : EndpointIdentity) (listed : Option String) (code : ℤ) : Seen where
  call := .start id
  listed := listed
  code := code
  given := {}
  output := {}

def stopped : Seen where
  call := .stop
  given := {}
  output := {}

def refreshed (code : ℤ) : Seen where
  call := .refresh
  code := code
  given := {}
  output := {}

def echoed (given : DataSnapshot) (r : ℤ × DataSnapshot) (accesses : List (ℕ × String)) : Seen where
  call := .read
  code := r.1
  given := given
  output := r.2
  accesses := accesses

def readOnce (given : DataSnapshot) (r : ℤ × DataSnapshot) : Seen where
  call := .once
  code := r.1
  given := given
  output := r.2

section Kcf

/-- The open reader of a prepared topic and the handle of its process: the start that opened them, and the
name of the topic. -/
structure Reader where
  opening : ℕ := 0
  name : String := ""
deriving DecidableEq

/-- What the framework answers during one call. -/
structure Framework where
  world : World
  /-- Whether the process of the reader has exited. -/
  poll : Reader → Except Failure Bool
  readLatest : Reader → Outcome DynamicPayload
  /-- What is thrown while a payload is decoded. -/
  decoding : Outcome Unit := .ok ()

/-- The backend between two calls; the reader belongs to the prepared topic of the cache. -/
structure Kcf where
  impl : Impl := {}
  reader : Reader := {}
  starts : ℕ := 0

def topicName (topics : List (Record TopicInfo)) (id : EndpointIdentity) : Option String :=
  (find TopicInfo.identity topics id).map fun r => r.model.name

variable (texts : Texts) (f : Framework)

namespace Kcf

def stopTopicEcho (b : Kcf) : Kcf := { b with impl := { b.impl with prepared := none } }

def startTopicEcho (b : Kcf) (id : EndpointIdentity) : ℤ × Kcf :=
  let r := KcfBackend.startTopicEcho texts f.world b.impl.topics id
  (r.1,
    { impl := { b.impl with prepared := r.2 }
      reader := if r.2.isSome then ⟨b.starts, (topicName b.impl.topics id).getD ""⟩ else b.reader
      starts := b.starts + 1 })

def readSession (prepared : PreparedTopic) (reader : Reader) : Outcome DataSnapshot × List Reader :=
  match f.poll reader with
  | .error e => (.error (.code e), [reader])
  | .ok true => (.error estale, [reader])
  | .ok false =>
    (do
      let bytes ← f.readLatest reader
      f.decoding
      (decode texts prepared.descriptor bytes).mapError .code, [reader, reader])

def latest (b : Kcf) : Outcome DataSnapshot × List Reader :=
  match b.impl.prepared with
  | none => (.error (.code ebadf), [])
  | some prepared => readSession texts f prepared b.reader

def readTopicEcho (b : Kcf) (output : DataSnapshot) : (ℤ × DataSnapshot) × List Reader × Kcf :=
  let r := b.latest texts f
  let result := withOutput r.1 output
  (result, r.2, if result.1 ≠ 0 ∧ result.1 ≠ eagain then b.stopTopicEcho else b)

def refresh (b : Kcf) : ℤ × Kcf :=
  let r := KcfBackend.refresh texts f.world b.stopTopicEcho.impl
  (r.1, { b with impl := r.2 })

def readTopicLatest (b : Kcf) (id : EndpointIdentity) (output : DataSnapshot) : ℤ × DataSnapshot :=
  KcfBackend.readTopicLatest texts f.world b.impl.topics id output

def readTopicLatestByName (b : Kcf) (name : String) (output : DataSnapshot) : ℤ × DataSnapshot :=
  let s := NameResolution.select b.impl.topics name "PUBLISHER" {}
  if s.1 ≠ 0 then (s.1, output) else b.readTopicLatest texts f s.2 output

def start (b : Kcf) (id : EndpointIdentity) : Seen × Kcf :=
  let r := b.startTopicEcho texts f id
  (started id (topicName b.impl.topics id) r.1, r.2)

def call (b : Kcf) : EchoCall → Seen × Kcf
  | .startTopicEcho id => b.start texts f id
  | .prepareTopicRead id => b.start texts f id
  | .readTopicEcho output =>
    let r := b.readTopicEcho texts f output
    (echoed output r.1 (r.2.1.map fun reader => (reader.opening, reader.name)), r.2.2)
  | .stopTopicEcho => (stopped, b.stopTopicEcho)
  | .closeTopicRead => (stopped, b.stopTopicEcho)
  | .refresh => (refreshed (b.refresh texts f).1, (b.refresh texts f).2)
  | .readTopicLatest id output => (readOnce output (b.readTopicLatest texts f id output), b)
  | .readTopicLatestByName name output => (readOnce output (b.readTopicLatestByName texts f name output), b)

def automaton (b : Kcf) : Automaton where
  session := b.impl.prepared.map fun p => ⟨p.identity, b.reader.name, b.reader.opening⟩
  starts := b.starts

end Kcf

end Kcf

section Mock

structure MockTopic where
  info : TopicInfo
  sequence : UInt64
deriving DecidableEq

def mockTopic (i : ℕ) (name typeName : String) (payloadSize : UInt64) (publishers subscribers : List String)
    (sequence : UInt64) : MockTopic where
  info :=
    { name := name, typeName := typeName, payloadSize := payloadSize, publishers := publishers
      subscribers := subscribers, identity := ⟨⟨12001 + Int32.ofNat i, 1⟩, UInt64.ofNat i + 1⟩
      role := "PUBLISHER", typeId := 0x4d4f434b0000 + UInt64.ofNat i + 1 }
  sequence := sequence

def mockElement (name : String) (pid : Int32) (executable : String) : ElementInfo where
  name := name
  pid := pid
  executable := executable
  mode := "SUPERVISED"
  state := "RUNNING"
  identity := ⟨pid, 1⟩
  supervisor := ⟨12000, 1⟩
  applicationName := "mecanum"
  heartbeatAvailable := true

/-- The simulated backend. The opening is the number of the start that set the identity. -/
structure Mock where
  echoActive : Bool := false
  echoIdentity : EndpointIdentity := {}
  elements : List ElementInfo :=
    [mockElement "motor" 12001 "kcf_mecanum_motor", mockElement "imu" 12002 "kcf_mecanum_imu",
      mockElement "lidar" 12003 "kcf_mecanum_lidar"]
  topics : List MockTopic :=
    [mockTopic 0 "/kcf_mecanum_motor_command" "mecanum::VelocityCommand" 24 ["navigation"] ["motor"] 1000,
      mockTopic 1 "/kcf_mecanum_motor_odometry" "mecanum::OdometryData" 64 ["motor"] ["localization"] 10452,
      mockTopic 2 "/kcf_mecanum_imu" "mecanum::ImuData" 48 ["imu"] [] 2000]
  opening : ℕ := 0
  starts : ℕ := 0

def sample (t : MockTopic) : DataSnapshot where
  typeId := t.info.typeId
  typeName := t.info.typeName
  sequence := t.sequence
  fields :=
    [⟨"sequence", "uint64", toString t.sequence, .unsignedInteger, []⟩,
      ⟨"x", "float32", toString t.info.identity.registrationId ++ ".25", .floatingPoint, []⟩,
      ⟨"values", "float32", "", .floatingPoint, ["2", "4", "6", "8"]⟩]

/-- The first topic of the identity is sampled, and its sequence counted up. -/
def sampleTopic (id : EndpointIdentity) : List MockTopic → Option (DataSnapshot × String) × List MockTopic
  | [] => (none, [])
  | t :: topics =>
    if t.info.identity = id then
      let t := { t with sequence := t.sequence + 1 }
      (some (sample t, t.info.name), t :: topics)
    else ((sampleTopic id topics).1, t :: (sampleTopic id topics).2)

namespace Mock

def topicName (b : Mock) (id : EndpointIdentity) : Option String :=
  (b.topics.find? fun t => t.info.identity = id).map fun t => t.info.name

def stopTopicEcho (b : Mock) : Mock := { b with echoActive := false, echoIdentity := {} }

def startTopicEcho (b : Mock) (id : EndpointIdentity) : ℤ × Mock :=
  let c := { b.stopTopicEcho with starts := b.starts + 1 }
  if b.topics.any fun t => t.info.identity = id then
    (0, { c with echoIdentity := id, echoActive := true, opening := b.starts })
  else (-2, c)

/-- The code and the output, the topic that was read, and the backend afterwards. -/
def readTopicLatest (b : Mock) (id : EndpointIdentity) (output : DataSnapshot) :
    (ℤ × DataSnapshot) × Option String × Mock :=
  let r := sampleTopic id b.topics
  match r.1 with
  | some (value, name) => ((0, value), some name, { b with topics := r.2 })
  | none => ((-2, output), none, { b with topics := r.2 })

def readTopicLatestByName (b : Mock) (name : String) (output : DataSnapshot) : (ℤ × DataSnapshot) × Mock :=
  match b.topics.find? fun t => t.info.name = name with
  | some t => ((b.readTopicLatest t.info.identity output).1, (b.readTopicLatest t.info.identity output).2.2)
  | none => ((-2, output), b)

def readTopicEcho (b : Mock) (output : DataSnapshot) : (ℤ × DataSnapshot) × Option String × Mock :=
  if ¬ b.echoActive then ((ebadf.val, output), none, b)
  else b.readTopicLatest b.echoIdentity output

def refresh (b : Mock) : Mock :=
  let b := b.stopTopicEcho
  { b with
    elements := b.elements.map fun e =>
      if e.state = "RUNNING" then { e with heartbeat := e.heartbeat + 1 } else e }

def start (b : Mock) (id : EndpointIdentity) : Seen × Mock :=
  (started id (b.topicName id) (b.startTopicEcho id).1, (b.startTopicEcho id).2)

def call (b : Mock) : EchoCall → Seen × Mock
  | .startTopicEcho id => b.start id
  | .prepareTopicRead id => b.start id
  | .readTopicEcho output =>
    let r := b.readTopicEcho output
    (echoed output r.1 (r.2.1.toList.map fun name => (b.opening, name)), r.2.2)
  | .stopTopicEcho => (stopped, b.stopTopicEcho)
  | .closeTopicRead => (stopped, b.stopTopicEcho)
  | .refresh => (refreshed 0, b.refresh)
  | .readTopicLatest id output =>
    (readOnce output (b.readTopicLatest id output).1, (b.readTopicLatest id output).2.2)
  | .readTopicLatestByName name output =>
    (readOnce output (b.readTopicLatestByName name output).1, (b.readTopicLatestByName name output).2)

def automaton (b : Mock) : Automaton where
  session := if b.echoActive then
      (b.topicName b.echoIdentity).map fun name => ⟨b.echoIdentity, name, b.opening⟩
    else none
  starts := b.starts

end Mock

end Mock

section Simulation

variable {texts : Texts} {f : Framework}

lemma withOutput_unchanged {r : Outcome DataSnapshot} {output : DataSnapshot}
    (h : (withOutput r output).1 ≠ 0) : (withOutput r output).2 = output := by
  cases r with
  | ok value => exact absurd rfl h
  | error e => rfl

lemma once_permitted {s : Automaton} {given : DataSnapshot} {r : ℤ × DataSnapshot}
    (h : r.1 ≠ 0 → r.2 = given) : Sessions.Permitted ebadf.val s (readOnce given r) where
  started _ hx := (nomatch hx)
  refused hx := (nomatch hx)
  accesses _ ha := (nomatch ha)
  unchanged := h

lemma stopped_permitted {s : Automaton} : Sessions.Permitted ebadf.val s stopped where
  started _ hx := (nomatch hx)
  refused hx := (nomatch hx)
  accesses _ ha := (nomatch ha)
  unchanged _ := rfl

lemma refreshed_permitted {s : Automaton} {code : ℤ} : Sessions.Permitted ebadf.val s (refreshed code) where
  started _ hx := (nomatch hx)
  refused hx := (nomatch hx)
  accesses _ ha := (nomatch ha)
  unchanged _ := rfl

lemma started_permitted {s : Automaton} {id : EndpointIdentity} {listed : Option String} {code : ℤ}
    (h : code = 0 → listed ≠ none) : Sessions.Permitted ebadf.val s (started id listed code) where
  started _ _ := h
  refused hx := (nomatch hx)
  accesses _ ha := (nomatch ha)
  unchanged _ := rfl

lemma prepareTopic_identity (topics : List (Record TopicInfo)) (id : EndpointIdentity) :
    Yields (fun p => p.identity = id) (prepareTopic texts topics id) := by
  unfold prepareTopic
  split
  · exact fun w s a s' h => (nomatch congrArg Prod.fst h)
  · split_ifs
    · exact fun w s a s' h => (nomatch congrArg Prod.fst h)
    · exact (Yields.any _).bind fun _ _ => (Yields.any _).bind fun _ _ => (Yields.any _).bind fun _ _ =>
        (Yields.any _).bind fun _ _ => (Yields.any _).bind fun _ _ => Yields.pure rfl

lemma prepareTopic_listed {topics : List (Record TopicInfo)} {id : EndpointIdentity} {w : World}
    {p : PreparedTopic} (h : (prepareTopic texts topics id w []).1 = .ok p) : topicName topics id ≠ none := by
  unfold prepareTopic at h
  unfold topicName
  cases hf : find TopicInfo.identity topics id with
  | none =>
    rw [hf] at h
    cases h
  | some r => exact Option.some_ne_none _

lemma startTopicEcho_cases (texts : Texts) (w : World) (topics : List (Record TopicInfo))
    (id : EndpointIdentity) :
    (∃ p name, KcfBackend.startTopicEcho texts w topics id = (0, some p) ∧ p.identity = id ∧
      topicName topics id = some name) ∨
    ∃ c : Failure, KcfBackend.startTopicEcho texts w topics id = (c.val, none) := by
  unfold KcfBackend.startTopicEcho
  rcases hr : prepareTopic texts topics id w [] with ⟨e | p, l⟩
  · exact .inr ⟨e.guard, rfl⟩
  · obtain ⟨name, hn⟩ := Option.ne_none_iff_exists'.mp (prepareTopic_listed (congrArg Prod.fst hr))
    exact .inl ⟨p, name, rfl, prepareTopic_identity topics id w [] p l hr, hn⟩

namespace Kcf

lemma start_step (b : Kcf) (id : EndpointIdentity) :
    Sessions.Permitted ebadf.val b.automaton (b.start texts f id).1 ∧
    (b.start texts f id).2.automaton = b.automaton.next eagain (b.start texts f id).1 := by
  rcases startTopicEcho_cases texts f.world b.impl.topics id with
    ⟨p, name, hr, hid, hn⟩ | ⟨c, hr⟩
  · refine ⟨started_permitted fun _ => by simp [hn], ?_⟩
    simp [start, startTopicEcho, automaton, Sessions.State.next, started, hr, hid, hn]
  · have hc : c.val ≠ 0 := c.property
    refine ⟨started_permitted fun h => ?_, ?_⟩
    · simp only [startTopicEcho, hr] at h
      exact absurd h hc
    · simp [start, startTopicEcho, automaton, Sessions.State.next, started, hr, hc]

lemma readSession_accesses (prepared : PreparedTopic) (reader : Reader) :
    ∀ r ∈ (readSession texts f prepared reader).2, r = reader := by
  unfold readSession
  split <;> simp

lemma latest_accesses (b : Kcf) : ∀ r ∈ (b.latest texts f).2, r = b.reader ∧ b.impl.prepared ≠ none := by
  unfold latest
  split
  · simp
  · rename_i prepared hp
    intro r hr
    exact ⟨readSession_accesses prepared b.reader r hr, by simp [hp]⟩

lemma read_step (b : Kcf) (output : DataSnapshot) :
    Sessions.Permitted ebadf.val b.automaton (b.call texts f (.readTopicEcho output)).1 ∧
    (b.call texts f (.readTopicEcho output)).2.automaton =
      b.automaton.next eagain (b.call texts f (.readTopicEcho output)).1 := by
  refine ⟨⟨fun x hx => (nomatch hx), fun _ hs => ?_, fun a ha => ?_, withOutput_unchanged⟩, ?_⟩
  · have hp : b.impl.prepared = none := Option.map_eq_none_iff.mp hs
    simp [call, echoed, readTopicEcho, latest, hp, withOutput, Fault.guard]
  · obtain ⟨reader, hr, rfl⟩ := List.mem_map.mp ha
    obtain ⟨rfl, hp⟩ := b.latest_accesses reader hr
    obtain ⟨p, hp⟩ := Option.ne_none_iff_exists'.mp hp
    exact ⟨rfl, p.identity, by simp [automaton, hp]⟩
  · by_cases hc : (withOutput (b.latest texts f).1 output).1 = 0 ∨
        (withOutput (b.latest texts f).1 output).1 = eagain
    · have hkept : (b.call texts f (.readTopicEcho output)).2 = b := if_neg (by rwa [← not_or, not_not])
      rw [hkept]
      exact (Sessions.next_harmless (.inr ⟨rfl, hc⟩)).symm
    · have hlost : (b.call texts f (.readTopicEcho output)).2 = b.stopTopicEcho := if_pos (not_or.mp hc)
      rw [hlost]
      exact (if_neg hc).symm

lemma scanEndpoint_prepared (runtime : RuntimeInfo) (e : ElementInfo) (next : Impl) (endpoint : EndpointInfo)
    (h : next.prepared = none) :
    Yields (fun c => c.prepared = none) (scanEndpoint texts runtime e next endpoint) := by
  unfold scanEndpoint
  split
  · exact Yields.pure h
  · exact (Yields.any _).bind fun _ _ => Yields.pure h
  · exact Yields.pure h

lemma scanRuntime_prepared (supervisors : List SupervisorInfo) (next : Impl) (runtime : RuntimeInfo)
    (h : next.prepared = none) :
    Yields (fun c => c.prepared = none) (scanRuntime texts supervisors next runtime) := by
  unfold scanRuntime
  refine (Yields.any _).bind fun endpoints _ => ?_
  exact (Yields.foldlM (P := fun c => c.prepared = none) _
    (fun c x _ hc => scanEndpoint_prepared runtime _ c x hc) h).bind fun c hc =>
    (Yields.any _).bind fun _ _ => Yields.pure hc

lemma discover_prepared : Yields (fun c => c.prepared = none) (discover texts) := by
  unfold discover
  refine (Yields.any _).bind fun supervisors _ => (Yields.any _).bind fun runtimes _ => ?_
  exact (Yields.foldlM (P := fun c => c.prepared = none) _
    (fun c x _ hc => scanRuntime_prepared supervisors c x hc) rfl).bind fun c hc =>
    (Yields.any _).bind fun _ _ => (Yields.any _).bind fun _ _ => Yields.pure hc

lemma refresh_prepared (w : World) (impl : Impl) : (KcfBackend.refresh texts w impl).2.prepared = none := by
  unfold KcfBackend.refresh
  rcases hr : discover texts w [] with ⟨e | next, l⟩
  · rfl
  · exact discover_prepared w [] next l hr

lemma refresh_automaton (b : Kcf) :
    (b.refresh texts f).2.automaton = { b.automaton with session := none } := by
  have hp : (b.refresh texts f).2.impl.prepared = none := refresh_prepared _ _
  unfold automaton
  rw [hp]
  rfl

lemma once_unchanged (b : Kcf) (id : EndpointIdentity) (output : DataSnapshot) :
    (b.readTopicLatest texts f id output).1 ≠ 0 → (b.readTopicLatest texts f id output).2 = output :=
  withOutput_unchanged

lemma onceByName_unchanged (b : Kcf) (name : String) (output : DataSnapshot) :
    (b.readTopicLatestByName texts f name output).1 ≠ 0 →
      (b.readTopicLatestByName texts f name output).2 = output := by
  unfold readTopicLatestByName
  simp only
  split_ifs
  · exact fun _ => rfl
  · exact withOutput_unchanged

lemma step (b : Kcf) (c : EchoCall) : Sessions.Permitted ebadf.val b.automaton (b.call texts f c).1 ∧
    (b.call texts f c).2.automaton = b.automaton.next eagain (b.call texts f c).1 := by
  cases c with
  | startTopicEcho id => exact b.start_step id
  | prepareTopicRead id => exact b.start_step id
  | readTopicEcho output => exact b.read_step output
  | stopTopicEcho => exact ⟨stopped_permitted, rfl⟩
  | closeTopicRead => exact ⟨stopped_permitted, rfl⟩
  | refresh => exact ⟨refreshed_permitted, b.refresh_automaton⟩
  | readTopicLatest id output => exact ⟨once_permitted (b.once_unchanged id output), rfl⟩
  | readTopicLatestByName name output => exact ⟨once_permitted (b.onceByName_unchanged name output), rfl⟩

end Kcf

namespace Mock

lemma sampleTopic_infos (id : EndpointIdentity) (topics : List MockTopic) :
    (sampleTopic id topics).2.map MockTopic.info = topics.map MockTopic.info := by
  induction topics with
  | nil => rfl
  | cons t topics ih =>
    unfold sampleTopic
    split_ifs with h
    · rfl
    · simp only [List.map_cons, ih]

lemma sampleTopic_name (id : EndpointIdentity) (topics : List MockTopic) :
    (sampleTopic id topics).1.map Prod.snd =
      (topics.find? fun t => t.info.identity = id).map fun t => t.info.name := by
  induction topics with
  | nil => rfl
  | cons t topics ih =>
    unfold sampleTopic
    by_cases h : t.info.identity = id
    · simp [h]
    · simpa [h] using ih

lemma topicName_infos {b c : Mock} (h : b.topics.map MockTopic.info = c.topics.map MockTopic.info)
    (id : EndpointIdentity) : b.topicName id = c.topicName id := by
  have heq : ∀ m : Mock, m.topicName id =
      ((m.topics.map MockTopic.info).find? fun t => t.identity = id).map TopicInfo.name := fun m => by
    rw [List.find?_map, Option.map_map]
    rfl
  rw [heq, heq, h]

/-- An active echo is of a topic that the backend has. -/
def Sound (b : Mock) : Prop := b.echoActive → b.topicName b.echoIdentity ≠ none

lemma readTopicLatest_cases (b : Mock) (id : EndpointIdentity) (output : DataSnapshot) :
    (∃ value name, b.topicName id = some name ∧
      b.readTopicLatest id output = ((0, value), some name, { b with topics := (sampleTopic id b.topics).2 })) ∨
    b.topicName id = none ∧
      b.readTopicLatest id output = ((-2, output), none, { b with topics := (sampleTopic id b.topics).2 }) := by
  have hn : (sampleTopic id b.topics).1.map Prod.snd = b.topicName id := sampleTopic_name id b.topics
  rcases hr : (sampleTopic id b.topics).1 with _ | ⟨value, name⟩
  · exact .inr ⟨by rw [← hn, hr]; rfl, by simp only [readTopicLatest, hr]⟩
  · exact .inl ⟨value, name, by rw [← hn, hr]; rfl, by simp only [readTopicLatest, hr]⟩

lemma sampled (b : Mock) (id : EndpointIdentity) (h : b.Sound) :
    ({ b with topics := (sampleTopic id b.topics).2 } : Mock).automaton = b.automaton ∧
    ({ b with topics := (sampleTopic id b.topics).2 } : Mock).Sound := by
  have hn : ∀ x, ({ b with topics := (sampleTopic id b.topics).2 } : Mock).topicName x = b.topicName x :=
    topicName_infos (sampleTopic_infos id b.topics)
  refine ⟨?_, fun ha => ?_⟩
  · simp only [automaton, hn]
  · rw [hn]
    exact h ha

lemma once_step (b : Mock) (id : EndpointIdentity) (output : DataSnapshot) (h : b.Sound) :
    Sessions.Permitted ebadf.val b.automaton (readOnce output (b.readTopicLatest id output).1) ∧
    (b.readTopicLatest id output).2.2.automaton = b.automaton ∧ (b.readTopicLatest id output).2.2.Sound := by
  rcases b.readTopicLatest_cases id output with ⟨value, name, _, hr⟩ | ⟨_, hr⟩
  · rw [hr]
    exact ⟨once_permitted fun hc => absurd rfl hc, b.sampled id h⟩
  · rw [hr]
    exact ⟨once_permitted fun _ => rfl, b.sampled id h⟩

lemma onceByName_step (b : Mock) (name : String) (output : DataSnapshot) (h : b.Sound) :
    Sessions.Permitted ebadf.val b.automaton (readOnce output (b.readTopicLatestByName name output).1) ∧
    (b.readTopicLatestByName name output).2.automaton = b.automaton ∧
    (b.readTopicLatestByName name output).2.Sound := by
  unfold readTopicLatestByName
  split
  · exact b.once_step _ output h
  · exact ⟨once_permitted fun _ => rfl, rfl, h⟩

lemma read_step (b : Mock) (output : DataSnapshot) (h : b.Sound) :
    Sessions.Permitted ebadf.val b.automaton (b.call (.readTopicEcho output)).1 ∧
    (b.call (.readTopicEcho output)).2.automaton =
      b.automaton.next eagain (b.call (.readTopicEcho output)).1 ∧
    (b.call (.readTopicEcho output)).2.Sound := by
  by_cases ha : b.echoActive
  · have hr : b.readTopicEcho output = b.readTopicLatest b.echoIdentity output := if_neg (not_not.mpr ha)
    rcases b.readTopicLatest_cases b.echoIdentity output with ⟨value, name, hn, hl⟩ | ⟨hn, _⟩
    · have hs : b.automaton.session = some ⟨b.echoIdentity, name, b.opening⟩ := by simp [automaton, ha, hn]
      have hcall : b.call (.readTopicEcho output) = (echoed output (0, value) [(b.opening, name)],
          { b with topics := (sampleTopic b.echoIdentity b.topics).2 }) := by
        simp only [call, hr, hl]
        rfl
      rw [hcall]
      obtain ⟨hkept, hsound⟩ := b.sampled b.echoIdentity h
      refine ⟨⟨fun _ hx => (nomatch hx), fun _ hx => ?_, fun a hx => ?_, fun hx => absurd rfl hx⟩, ?_, hsound⟩
      · rw [hs] at hx
        cases hx
      · obtain rfl := List.mem_singleton.mp hx
        exact ⟨rfl, _, hs⟩
      · rw [Sessions.next_harmless (.inr ⟨rfl, .inl rfl⟩)]
        exact hkept
    · exact absurd hn (h ha)
  · have hr : b.readTopicEcho output = ((ebadf.val, output), none, b) := if_pos ha
    have hcall : b.call (.readTopicEcho output) = (echoed output (ebadf.val, output) [], b) := by
      simp only [call, hr]
      rfl
    rw [hcall]
    have hs : b.automaton.session = none := if_neg ha
    refine ⟨⟨fun _ hx => (nomatch hx), fun _ _ => rfl, fun _ hx => (nomatch hx), fun _ => rfl⟩, ?_, h⟩
    have hne : ¬ (ebadf.val = 0 ∨ ebadf.val = eagain) := by decide
    change b.automaton = if ebadf.val = 0 ∨ ebadf.val = eagain then b.automaton else
      { b.automaton with session := none }
    rw [if_neg hne, ← hs]

lemma startTopicEcho_cases (b : Mock) (id : EndpointIdentity) :
    (∃ name, b.topicName id = some name ∧ b.startTopicEcho id = (0, { b with
      echoIdentity := id, echoActive := true, opening := b.starts, starts := b.starts + 1 })) ∨
    b.topicName id = none ∧ b.startTopicEcho id = (-2, { b.stopTopicEcho with starts := b.starts + 1 }) := by
  unfold topicName
  cases hf : b.topics.find? fun t => t.info.identity = id with
  | none =>
    have hany : (b.topics.any fun t => t.info.identity = id) = false :=
      List.any_eq_false.mpr fun t ht => List.find?_eq_none.mp hf t ht
    exact .inr ⟨rfl, if_neg (by rw [hany]; exact Bool.false_ne_true)⟩
  | some t =>
    have ht := List.find?_some hf
    have hany : (b.topics.any fun t => t.info.identity = id) = true :=
      List.any_eq_true.mpr ⟨t, List.mem_of_find?_eq_some hf, ht⟩
    exact .inl ⟨t.info.name, rfl, if_pos hany⟩

lemma start_step (b : Mock) (id : EndpointIdentity) :
    Sessions.Permitted ebadf.val b.automaton (b.start id).1 ∧
    (b.start id).2.automaton = b.automaton.next eagain (b.start id).1 ∧ (b.start id).2.Sound := by
  unfold start
  rcases b.startTopicEcho_cases id with ⟨name, hn, hr⟩ | ⟨hn, hr⟩
  · rw [hr, hn]
    have hlisted : topicName { b with
        echoIdentity := id, echoActive := true, opening := b.starts, starts := b.starts + 1 } id =
        some name := hn
    refine ⟨started_permitted fun _ => Option.some_ne_none _, ?_, fun _ => ?_⟩
    · simp [automaton, Sessions.State.next, started, hlisted]
    · rw [hlisted]
      exact Option.some_ne_none _
  · rw [hr]
    have hne : (-2 : ℤ) ≠ 0 := by decide
    exact ⟨started_permitted fun hc => absurd hc hne, rfl, fun ha => absurd ha Bool.false_ne_true⟩

lemma step (b : Mock) (c : EchoCall) (h : b.Sound) :
    Sessions.Permitted ebadf.val b.automaton (b.call c).1 ∧
    (b.call c).2.automaton = b.automaton.next eagain (b.call c).1 ∧ (b.call c).2.Sound := by
  cases c with
  | startTopicEcho id => exact b.start_step id
  | prepareTopicRead id => exact b.start_step id
  | readTopicEcho output => exact b.read_step output h
  | stopTopicEcho => exact ⟨stopped_permitted, rfl, fun ha => (nomatch ha)⟩
  | closeTopicRead => exact ⟨stopped_permitted, rfl, fun ha => (nomatch ha)⟩
  | refresh => exact ⟨refreshed_permitted, rfl, fun ha => (nomatch ha)⟩
  | readTopicLatest id output => exact b.once_step id output h
  | readTopicLatestByName name output => exact b.onceByName_step name output h

end Mock

/-- Every complete run of the program has made the log entry. -/
def Logs {α : Type} (k : Action) (x : Op α) : Prop := ∀ w l a l', x w l = (.ok a, l') → k ∈ l'

lemma Logs.ask {α : Type} (run : World → ℕ → Outcome α) (k : Action) : Logs k (ask run k) := by
  intro w l a l' h
  obtain rfl := (Prod.mk.inj h).2
  exact List.mem_append_right _ List.mem_cons_self

lemma Logs.after {α β : Type} {k : Action} {x : Op α} {g : α → Op β} (h : ∀ a, Logs k (g a)) :
    Logs k (x >>= g) := by
  intro w l b l' hr
  obtain ⟨a, l₁, _, hg⟩ := bind_inv hr
  exact h a w l₁ b l' hg

lemma Logs.before {α β : Type} {k : Action} {x : Op α} {g : α → Op β} (h : Logs k x)
    (hg : ∀ a, Emits (fun _ => True) (g a)) : Logs k (x >>= g) := by
  intro w l b l' hr
  obtain ⟨a, l₁, hx, hb⟩ := bind_inv hr
  obtain ⟨new, rfl, _⟩ := (hg a).run hb
  exact List.mem_append_left _ (h w l a l₁ hx)

lemma emits_validateTopic (record : Record TopicInfo) : Emits (fun _ => True) (validateTopic record) := by
  unfold validateTopic
  split_ifs
  · exact Emits.fail _
  · exact emits_validateEndpoint fun _ => trivial

/-- A complete preparation has opened the process and the reader of the topic that it found. -/
lemma prepareTopic_opens (texts : Texts) {topics : List (Record TopicInfo)} {id : EndpointIdentity}
    {record : Record TopicInfo} (h : find TopicInfo.identity topics id = some record) :
    Logs (.pidfdOpen id.runtime.pid) (prepareTopic texts topics id) ∧
      Logs (.openTopic record.model.name) (prepareTopic texts topics id) := by
  unfold prepareTopic
  rw [h]
  dsimp only
  split_ifs
  · exact ⟨fun w l a l' h => (nomatch congrArg Prod.fst h), fun w l a l' h => (nomatch congrArg Prod.fst h)⟩
  · have hend : ∀ p : PreparedTopic, Emits (fun _ => True) (validateTopic record >>= fun _ => pure p) :=
      fun p => Emits.bind (emits_validateTopic record) fun _ => Emits.pure p
    refine ⟨Logs.after fun _ => Logs.before (Logs.ask _ _) fun _ => ?_,
      Logs.after fun _ => Logs.after fun _ => Logs.after fun d => Logs.before (Logs.ask _ _) fun _ => hend _⟩
    exact Emits.bind (emits_type texts _ _ _ trivial) fun d =>
      Emits.bind (emits_ask _ trivial) fun _ => hend _

end Simulation

/-- The events and the final state of a new backend. -/
def kcfRun (texts : Texts) (calls : List (Framework × EchoCall)) : List Seen × Kcf :=
  Sessions.observe (fun b i => b.call texts i.1 i.2) {} calls

def mockRun (calls : List EchoCall) : List Seen × Mock := Sessions.observe Mock.call {} calls

/-- The automaton accepts the events and ends in the backend's state. -/
structure Simulated (es : List Seen) (last : Automaton) : Prop where
  steps : Sessions.Steps eagain ebadf.val {} es last
  law : Sessions.Law eagain ebadf.val es last.session

/-- The session that a start leaves reads the topic that the cache lists for its identity, and the start has
opened that topic's reader. -/
def OpensListed (texts : Texts) (f : Framework) (b : Kcf) (id : EndpointIdentity) : Prop :=
  ∃ name, topicName b.impl.topics id = some name ∧
    (b.startTopicEcho texts f id).2.automaton.session = some ⟨id, name, b.starts⟩ ∧
    .pidfdOpen id.runtime.pid ∈ (prepareTopic texts b.impl.topics id f.world []).2 ∧
    .openTopic name ∈ (prepareTopic texts b.impl.topics id f.world []).2

lemma startTopicEcho_opens {texts : Texts} {f : Framework} {b : Kcf} {id : EndpointIdentity}
    (h : (b.startTopicEcho texts f id).1 = 0) : OpensListed texts f b id := by
  rcases hr : prepareTopic texts b.impl.topics id f.world [] with ⟨e | p, l⟩
  · have hc : (b.startTopicEcho texts f id).1 = e.guard.val := by
      simp [Kcf.startTopicEcho, KcfBackend.startTopicEcho, hr, withCode]
    exact absurd (hc.symm.trans h) e.guard.property
  · obtain ⟨record, hf⟩ : ∃ record, find TopicInfo.identity b.impl.topics id = some record := by
      refine Option.ne_none_iff_exists'.mp fun hn => prepareTopic_listed (congrArg Prod.fst hr) ?_
      rw [topicName, hn]
      rfl
    have hid : p.identity = id := prepareTopic_identity b.impl.topics id f.world [] p l hr
    obtain ⟨hpid, hopen⟩ := prepareTopic_opens texts hf
    refine ⟨record.model.name, by rw [topicName, hf]; rfl, ?_, ?_, ?_⟩
    · simp [Kcf.startTopicEcho, KcfBackend.startTopicEcho, hr, Kcf.automaton, Except.toOption, topicName, hf,
        hid]
    · rw [hr]
      exact hpid f.world [] p l hr
    · rw [hr]
      exact hopen f.world [] p l hr

lemma kcfRun_simulated (texts : Texts) (calls : List (Framework × EchoCall)) :
    Simulated (kcfRun texts calls).1 (kcfRun texts calls).2.automaton := by
  have hstep : ∀ (b : Kcf) (i : Framework × EchoCall), True →
      Sessions.Permitted ebadf.val b.automaton (b.call texts i.1 i.2).1 ∧
      (b.call texts i.1 i.2).2.automaton = b.automaton.next eagain (b.call texts i.1 i.2).1 ∧ True :=
    fun b i _ => ⟨(b.step i.2).1, (b.step i.2).2, trivial⟩
  have h := (Sessions.simulated hstep (s := {}) trivial calls).1
  exact ⟨h, h.law⟩

lemma mockRun_simulated (calls : List EchoCall) :
    Simulated (mockRun calls).1 (mockRun calls).2.automaton := by
  have hinit : Mock.Sound {} := fun ha => nomatch ha
  have h := (Sessions.simulated Mock.step hinit calls).1
  exact ⟨h, h.law⟩

/-- Both backends are simulated by the automaton of sessions over every run. -/
theorem echo_automaton (texts : Texts) :
    (∀ calls, Simulated (kcfRun texts calls).1 (kcfRun texts calls).2.automaton) ∧
    (∀ calls, Simulated (mockRun calls).1 (mockRun calls).2.automaton) ∧
    ∀ f b id, (b.startTopicEcho texts f id).1 = 0 → OpensListed texts f b id :=
  ⟨kcfRun_simulated texts, mockRun_simulated, fun _ _ _ h => startTopicEcho_opens h⟩

end KcfTools.EchoSessions
