import KcfTools.Backend.RuntimeEffects

/-! When the outcome of an action is reported before the runtime forgets the action. -/

namespace KcfTools.RemoteRuntime

open Std Traced Discovery ValueCodec

/-- The tables may have changed in the framework's hands before each command. -/
structure Step where
  command : RemoteCommand
  framework : Framework

section Runs

variable (texts : Texts) (error : ℤ) (issued : ℕ) (steps : ℕ → Step)

/-- The tables before step `n` of a runtime that starts when `issued` handles are given out. -/
def runtime : ℕ → Runtime
  | 0 => { error := error, nextHandle := issued }
  | n + 1 => (execute texts (steps n).command (steps n).framework (runtime n)).2

def reply (n : ℕ) : Option RemoteReply :=
  (execute texts (steps n).command (steps n).framework (runtime texts error issued steps n)).1

/-- Step `n` is a goal whose reply carries the handle. -/
def Returned (n h : ℕ) : Prop :=
  (steps n).command.operation = .goal ∧ h ≠ 0 ∧ ∃ r ∈ reply texts error issued steps n, r.handle = h

/-- The activity of step `n` shows the result: nothing if there are no bytes, else what they decode to. -/
def Carries (n : ℕ) (v : RemoteActivity) (bytes : List UInt8) : Prop :=
  bytes ≠ [] → v.communicationLost = false ∧
    ∃ a, (runtime texts error issued steps n).actions[v.handle]? = some a ∧
      ((steps n).framework.actionSnapshot a.handle).result = bytes ∧
        decodeValue texts (steps n).framework a.result bytes = .ok v.result

/-- Step `n` is a poll whose reply shows the action at its end, and its result. -/
def Reported (n h : ℕ) (bytes : List UInt8) : Prop :=
  (steps n).command.operation = .poll ∧
    ∃ r ∈ reply texts error issued steps n, ∃ v ∈ r.activities, v.topic = false ∧ v.handle = h ∧ v.terminal ∧
      Carries texts error issued steps n v bytes

/-- The result that the framework has when the action leaves the table was reported before. -/
def OutcomesSeen : Prop :=
  ∀ h m n a, Returned texts error issued steps m h →
    (runtime texts error issued steps n).actions[h]? = some a →
      h ∉ (runtime texts error issued steps (n + 1)).actions →
        ∃ i < n, Reported texts error issued steps i h ((steps n).framework.actionSnapshot a.handle).result

/-- The action is in the table before step `n`, and the framework has it at its end. -/
def Ended (n h : ℕ) (a : RunningAction) : Prop :=
  (runtime texts error issued steps n).actions[h]? = some a ∧
    ((steps n).framework.actionSnapshot a.handle).terminal

def lost (f : Framework) (h : ℕ) (a : RunningAction) : Bool :=
  (f.actionSnapshot a.handle).communicationLost || !current a.endpoint (f.peersAt h)

/-- The framework has the result, the peer is current, and the bytes decode. -/
structure Readable (f : Framework) (h : ℕ) (a : RunningAction) (bytes : List UInt8) : Prop where
  connected : lost f h a = false
  result : (f.actionSnapshot a.handle).result = bytes
  decodes : ∃ value, decodeValue texts f a.result bytes = .ok value

/-- Whenever a goal gets as far as removing the ended actions, each of them was polled after its end, with the
result that it has now, if any, while its peer was current. -/
def PolledInTime : Prop :=
  ∀ h n a, Prunes texts (steps n).command (steps n).framework (runtime texts error issued steps n) →
    Ended texts error issued steps n h a →
      ∃ i < n, (steps i).command.operation = .poll ∧ ∃ b, Ended texts error issued steps i h b ∧
        (((steps n).framework.actionSnapshot a.handle).result ≠ [] →
          Readable texts (steps i).framework h b ((steps n).framework.actionSnapshot a.handle).result)

end Runs

section Effects

variable {texts : Texts} {command : RemoteCommand} {f : Framework} {rt rt' : Runtime}
  {reply : Option RemoteReply}

lemma Effect.error_eq (h : Effect texts command f rt reply rt') : rt'.error = rt.error := by
  cases h <;> rfl

lemma Effect.nextHandle_le (h : Effect texts command f rt reply rt') : rt.nextHandle ≤ rt'.nextHandle := by
  cases h <;> simp

lemma running_getElem? {actions : ExtTreeMap ℕ RunningAction} {h : ℕ} {a : RunningAction} :
    (running f actions)[h]? = some a ↔ actions[h]? = some a ∧ ¬ (f.actionSnapshot a.handle).terminal := by
  simp [running, ExtTreeMap.getElem?_filter]

lemma mem_running {actions : ExtTreeMap ℕ RunningAction} {h : ℕ} {a : RunningAction}
    (ha : actions[h]? = some a) : h ∈ running f actions ↔ ¬ (f.actionSnapshot a.handle).terminal := by
  constructor
  · intro hm
    obtain ⟨b, hb⟩ := Option.isSome_iff_exists.mp (ExtTreeMap.isSome_getElem?_iff_mem.mpr hm)
    obtain ⟨hab, ht⟩ := running_getElem?.mp hb
    rw [ha, Option.some_inj] at hab
    rwa [hab]
  · intro ht
    exact ExtTreeMap.isSome_getElem?_iff_mem.mp
      (Option.isSome_iff_exists.mpr ⟨a, running_getElem?.mpr ⟨ha, ht⟩⟩)

/-- An action of the new table was there before, or the reply carries its handle. -/
lemma Effect.mem_actions (h : Effect texts command f rt reply rt') {k : ℕ} (hk : k ∈ rt'.actions) :
    k ∈ rt.actions ∨ command.operation = .goal ∧ k = rt'.nextHandle ∧ k ≠ 0 ∧ ∃ r ∈ reply, r.handle = k := by
  cases h with
  | silent => exact .inl hk
  | unsubscribed => exact .inl hk
  | subscribed => exact .inl hk
  | pruned => exact .inl (ExtTreeMap.mem_of_mem_filter hk)
  | @started reply a hp hh =>
    rcases ExtTreeMap.mem_insertIfNew.mp hk with hk | hk
    · obtain rfl : rt.nextHandle + 1 = k := by simpa using hk
      exact .inr ⟨hp.1, rfl, by simp, reply, rfl, hh⟩
    · exact .inl (ExtTreeMap.mem_of_mem_filter hk)

/-- An action leaves the table only when a goal removes it after its end. -/
lemma Effect.not_mem_actions (h : Effect texts command f rt reply rt') {k : ℕ} {a : RunningAction}
    (hk : rt.actions[k]? = some a) (hn : k ≤ rt.nextHandle) :
    k ∉ rt'.actions ↔ Prunes texts command f rt ∧ (f.actionSnapshot a.handle).terminal := by
  have hm : k ∈ rt.actions := ExtTreeMap.isSome_getElem?_iff_mem.mp (by simp [hk])
  have hpop : ∀ {o : RemoteOperation}, command.operation = o → o ≠ .goal → ¬ Prunes texts command f rt :=
    fun ho hne hp => hne (ho.symm.trans hp.1)
  cases h with
  | silent hp => simp [hm, hp]
  | unsubscribed ho => simp [hm, hpop ho]
  | subscribed t ho => simp [hm, hpop ho]
  | pruned hp => simp [mem_running hk, hp]
  | started a hp =>
    have hne : rt.nextHandle + 1 ≠ k := by omega
    simp [mem_running hk, hp, hne]

lemma Prunes.error (h : Prunes texts command f rt) : rt.error = 0 := by
  obtain ⟨-, x, hx⟩ := h
  by_contra he
  unfold goalReady at hx
  rw [bind_ok (rfl : getState f rt = (.ok rt, rt)), if_pos he] at hx
  cases hx

lemma execute_poll (ho : command.operation = .poll) (he : rt.error = 0) :
    (execute texts command f rt).1 = some {
      activities := rt.actions.toList.map (fun a => actionActivity texts f a.1 a.2) ++
        rt.subscriptions.toList.map fun t => topicActivity texts f t.1 t.2 } := by
  unfold execute perform
  rw [bind_ok (rfl : getState f rt = (.ok rt, rt)), if_neg (not_not.mpr he), ho]
  rfl

lemma actionActivity_fields (h : ℕ) (a : RunningAction) :
    (actionActivity texts f h a).handle = h ∧ (actionActivity texts f h a).topic = false ∧
      (actionActivity texts f h a).terminal = (f.actionSnapshot a.handle).terminal ∧
      (actionActivity texts f h a).communicationLost = lost f h a := by
  unfold actionActivity
  simp only
  split_ifs <;> exact ⟨rfl, rfl, rfl, rfl⟩

lemma actionActivity_result {h : ℕ} {a : RunningAction} {value : DataSnapshot} {bytes : List UInt8}
    (hl : lost f h a = false) (hb : bytes ≠ []) (hr : (f.actionSnapshot a.handle).result = bytes)
    (hv : decodeValue texts f a.result bytes = .ok value) : (actionActivity texts f h a).result = value := by
  have hlost :
      ¬ ((f.actionSnapshot a.handle).communicationLost || !current a.endpoint (f.peersAt h)) = true := by
    rw [show (_ || _) = lost f h a from rfl, hl]
    exact Bool.false_ne_true
  unfold actionActivity
  simp only [if_neg hlost, hr, if_neg hb, decodeInto, hv]

lemma topicActivity_topic (h : ℕ) (t : SubscribedTopic) : (topicActivity texts f h t).topic = true := by
  unfold topicActivity
  simp only
  split_ifs <;> rfl

end Effects

section Runs

variable {texts : Texts} {error : ℤ} {issued : ℕ} {steps : ℕ → Step}

lemma effect_step (n : ℕ) :
    Effect texts (steps n).command (steps n).framework (runtime texts error issued steps n)
      (reply texts error issued steps n) (runtime texts error issued steps (n + 1)) :=
  execute_effect

lemma runtime_error (n : ℕ) : (runtime texts error issued steps n).error = error := by
  induction n with
  | zero => rfl
  | succ n ih => rw [(effect_step n).error_eq, ih]

lemma handle_le (n h : ℕ) (hh : h ∈ (runtime texts error issued steps n).actions) :
    h ≤ (runtime texts error issued steps n).nextHandle := by
  induction n with
  | zero => simp [runtime] at hh
  | succ n ih =>
    rcases (effect_step n).mem_actions hh with hh | ⟨-, rfl, -⟩
    · exact (ih hh).trans (effect_step n).nextHandle_le
    · exact le_rfl

lemma returned_of_mem (n h : ℕ) (hh : h ∈ (runtime texts error issued steps n).actions) :
    ∃ m, Returned texts error issued steps m h := by
  induction n with
  | zero => simp [runtime] at hh
  | succ n ih =>
    rcases (effect_step n).mem_actions hh with hh | ⟨ho, -, h0, hr⟩
    · exact ih hh
    · exact ⟨n, ho, h0, hr⟩

lemma forgets_iff (n h : ℕ) (a : RunningAction) :
    (runtime texts error issued steps n).actions[h]? = some a ∧
        h ∉ (runtime texts error issued steps (n + 1)).actions ↔
      Prunes texts (steps n).command (steps n).framework (runtime texts error issued steps n) ∧
        Ended texts error issued steps n h a := by
  have hle : (runtime texts error issued steps n).actions[h]? = some a →
      h ≤ (runtime texts error issued steps n).nextHandle := fun ha =>
    handle_le n h (ExtTreeMap.isSome_getElem?_iff_mem.mp (by simp [ha]))
  constructor
  · rintro ⟨ha, hn⟩
    obtain ⟨hp, ht⟩ := ((effect_step n).not_mem_actions ha (hle ha)).mp hn
    exact ⟨hp, ha, ht⟩
  · rintro ⟨hp, ha, ht⟩
    exact ⟨ha, ((effect_step n).not_mem_actions ha (hle ha)).mpr ⟨hp, ht⟩⟩

/-- A poll reports the actions of the table that have ended, and the results that it can read. -/
lemma reported_iff (he : error = 0) (n h : ℕ) (bytes : List UInt8) :
    Reported texts error issued steps n h bytes ↔
      (steps n).command.operation = .poll ∧ ∃ a, Ended texts error issued steps n h a ∧
        (bytes ≠ [] → Readable texts (steps n).framework h a bytes) := by
  refine and_congr_right fun ho => ?_
  have hr : reply texts error issued steps n = _ := execute_poll ho ((runtime_error n).trans he)
  rw [hr]
  constructor
  · rintro ⟨r, hr, v, hv, htopic, rfl, ht, hcarries⟩
    obtain rfl := Option.some_inj.mp hr
    rcases List.mem_append.mp hv with hv | hv
    · obtain ⟨⟨k, a⟩, hm, rfl⟩ := List.mem_map.mp hv
      obtain ⟨hk, -, hterm, hlost⟩ := @actionActivity_fields texts (steps n).framework k a
      have ha : (runtime texts error issued steps n).actions[k]? = some a :=
        ExtTreeMap.mem_toList_iff_getElem?_eq_some.mp hm
      simp only [hk]
      refine ⟨a, ⟨ha, hterm ▸ ht⟩, fun hb => ?_⟩
      obtain ⟨hconnected, a', ha', hresult, hdecodes⟩ := hcarries hb
      simp only [hk, ha, Option.some_inj] at ha'
      subst ha'
      exact ⟨hlost.symm.trans hconnected, hresult, _, hdecodes⟩
    · obtain ⟨⟨k, t⟩, -, rfl⟩ := List.mem_map.mp hv
      simp [topicActivity_topic] at htopic
  · rintro ⟨a, ⟨ha, ht⟩, hreadable⟩
    obtain ⟨hk, htopic, hterm, hlost⟩ := @actionActivity_fields texts (steps n).framework h a
    refine ⟨_, rfl, _, List.mem_append_left _ (List.mem_map.mpr
      ⟨(h, a), ExtTreeMap.mem_toList_iff_getElem?_eq_some.mpr ha, rfl⟩), htopic, hk, hterm.trans ht,
        fun hb => ?_⟩
    obtain ⟨hconnected, hresult, value, hvalue⟩ := hreadable hb
    simp only [hk, hlost, actionActivity_result hconnected hb hresult hvalue]
    exact ⟨hconnected, a, ha, hresult, hvalue⟩

/-- Every outcome is reported before it is forgotten in exactly the runs in which every pruning goal
comes after a poll of the ended actions and of their results. -/
theorem outcomesSeen_iff (texts : Texts) (error : ℤ) (issued : ℕ) (steps : ℕ → Step) :
    OutcomesSeen texts error issued steps ↔ PolledInTime texts error issued steps := by
  constructor
  · intro hs h n a hp hended
    obtain ⟨ha, hn⟩ := (forgets_iff n h a).mpr ⟨hp, hended⟩
    have hm : h ∈ (runtime texts error issued steps n).actions :=
      ExtTreeMap.isSome_getElem?_iff_mem.mp (by simp [ha])
    obtain ⟨m, hreturned⟩ := returned_of_mem n h hm
    obtain ⟨i, hi, hreported⟩ := hs h m n a hreturned ha hn
    exact ⟨i, hi, (reported_iff ((runtime_error n).symm.trans hp.error) i h _).mp hreported⟩
  · intro hpolled h m n a hreturned ha hn
    obtain ⟨hp, hended⟩ := (forgets_iff n h a).mp ⟨ha, hn⟩
    obtain ⟨i, hi, hpoll⟩ := hpolled h n a hp hended
    exact ⟨i, hi, (reported_iff ((runtime_error n).symm.trans hp.error) i h _).mpr hpoll⟩

end Runs

section LateGoal

def goalType : RemoteTypeIdentity := { typeId := 7, schemaId := 3, encodingId := 1, payloadSize := 4 }

def goalDescriptor : TypeDescriptor :=
  { typeName := "Target", typeId := 7, payloadSize := 4
    fields := [{ name := "x", elementSize := 4, arrayCount := 1, kind := .int32 }] }

def arm : RemoteEndpoint :=
  { identity := { hostId := "000102030405060708090a0b0c0d0e0f", bootId := "101112131415161718191a1b1c1d1e1f" }
    session := 4, requestType := goalType, responseType := goalType, feedbackType := goalType
    name := "arm", kind := "A", role := "SERVER", scope := "REMOTE" }

def moveArm : RemoteCommand :=
  { operation := .goal, endpoint := arm
    input := { typeName := "Target", typeId := 7
               fields := [{ name := "x", typeName := "int32", value := "5", kind := .signedInteger }] } }

def armPeer : PeerInfo :=
  { host := parseHost arm.identity.hostId, bootId := parseHost arm.identity.bootId, sessionId := 4
    metadataReady := true, endpoints := [{ identity := endpointIdentity arm, name := "arm", kind := .action }] }

/-- Every action ends after the first command. -/
def armFramework (n : ℕ) : Framework where
  peers := [armPeer]
  peersAt _ := [armPeer]
  observedAt _ := 0
  actionSnapshot _ := { accepted := true, terminal := 1 ≤ n, state := if 1 ≤ n then 3 else 2 }
  topicSnapshot _ := {}
  queryTypeDescriptor _ := some (0, goalDescriptor)
  parameterWireType _ := (0, typeIdentity goalType)
  decodeParameterValue d bytes := .ok { typeId := d.typeId, bytes := bytes }
  encodeParameterValue _ p := .ok p.bytes
  subscribe := none
  unsubscribe _ := none
  cancelAction _ := none
  getParameter := none
  setParameter _ := none
  readback := none
  callService _ := none
  startAction _ := some { responseReceived := true, accepted := true, handle := some n }

def armTexts : Texts where
  validateTypeDescriptor _ := true
  printFloat _ _ := ""
  readFloat _ _ := none

def goalsOnly (n : ℕ) : Step := ⟨moveArm, armFramework n⟩

/-- The second goal removes the first action, which ended after its start and was never polled. -/
theorem outcome_forgotten :
    (∀ n m h, n ≤ m → ((goalsOnly n).framework.actionSnapshot h).terminal →
      ((goalsOnly m).framework.actionSnapshot h).terminal) ∧
    ¬ OutcomesSeen armTexts 0 0 goalsOnly := by
  constructor
  · intro n m h hnm ht
    have hn : 1 ≤ n := of_decide_eq_true ht
    exact decide_eq_true (hn.trans hnm)
  · intro hs
    have hreturned : Returned armTexts 0 0 goalsOnly 0 1 :=
      ⟨rfl, by decide, by decide +kernel⟩
    have ha : ∃ a, (runtime armTexts 0 0 goalsOnly 1).actions[1]? = some a :=
      Option.isSome_iff_exists.mp (by decide +kernel)
    obtain ⟨a, ha⟩ := ha
    obtain ⟨i, -, ho, -⟩ := hs 1 0 1 a hreturned ha (by decide +kernel)
    cases ho

end LateGoal

end KcfTools.RemoteRuntime
