import KcfTools.Backend.CodecExactness
import KcfTools.Backend.Registration
import KcfTools.Lib.Preflights

/-! The checks of an input before it is sent: they agree with the calls that send it, and the template of a
request is the text of zeros. -/

namespace KcfTools.Preflight

open Traced ValueCodec KcfBackend

variable (texts : Texts)

section Source

def validateParameter (parameters : List (Record ParameterInfo)) (id : EndpointIdentity)
    (value : DataSnapshot) : Op Unit :=
  match find ParameterInfo.identity parameters id with
  | none => fail enoent
  | some record =>
    if record.model.typeId = 0 then fail (.code enotsup)
    else if ¬ record.model.writable then fail eperm
    else do
      let d ← parameterType texts record
      let _ ← lift (encode texts d value none)
      return ()

def validateService (services : List (Record ServiceInfo)) (id : EndpointIdentity) (request : DataSnapshot) :
    Op Unit :=
  match find ServiceInfo.identity services id with
  | none => fail enoent
  | some record => do
    let s := record.model
    let req ← type texts record.runtime s.requestTypeId s.requestSize.toNat
    let _ ← type texts record.runtime s.responseTypeId s.responseSize.toNat
    let _ ← lift (encode texts req request none)
    return ()

def zeros (d : TypeDescriptor) : DynamicPayload where
  typeId := d.typeId
  bytes := List.replicate d.payloadSize 0

def templateRuntime (identity : RuntimeIdentity) : RuntimeInfo where
  pid := identity.pid
  processStartTicks := identity.processStartTicks

def getTypeTemplate (elements : List ElementInfo) (identity : RuntimeIdentity) (typeId : UInt64) :
    Op DataSnapshot :=
  if typeId = 0 then fail (.code enotsup)
  else if elements.all fun e => e.identity ≠ identity then fail enoent
  else do
    let runtime := templateRuntime identity
    let d ← ask (fun w t => w.getType t runtime typeId) (.getType runtime typeId)
    lift (decode texts d (zeros d))

end Source

/-- Only a type descriptor is looked up. -/
def IsLookup : Action → Prop
  | .getType _ _ => True
  | _ => False

/-- The last call of a run has failed. -/
def Fails {α : Type} (call : World → ℕ → Outcome α) (action : Action) (w : World) (e : Fault)
    (log : List Action) : Prop :=
  ∃ l, log = l ++ [action] ∧ call w (w.moment l.length) = .error e

/-- The last call of a run has returned. -/
def Gives {α : Type} (call : World → ℕ → Outcome α) (action : Action) (w : World) (a : α)
    (log : List Action) : Prop :=
  ∃ l, log = l ++ [action] ∧ call w (w.moment l.length) = .ok a

/-- The last call of a run lists registrations, and it fails or does not show the cached one. -/
def Unlists {E : Type} (listing : World → ℕ → Outcome (List E)) (action : Outcome (List E) → Action)
    (registrationId : E → UInt64) (same : E → Bool) (id : UInt64) (w : World) (e : Fault)
    (log : List Action) : Prop :=
  ∃ l, log = l ++ [action (listing w (w.moment l.length))] ∧
    ((∃ e', listing w (w.moment l.length) = .error e' ∧ e = discoveryError e') ∨
      (∃ entries, listing w (w.moment l.length) = .ok entries) ∧ e = estale ∧
        ¬ Listed listing registrationId same id w (w.moment l.length))

/-- Why `SetParameter` fails with a value that was accepted: the record is of no live registration, or the
last call has failed or returned something else than was registered. -/
inductive SetFault (w : World) (record : Record ParameterInfo) (d : TypeDescriptor) (value : DataSnapshot)
    (e : Fault) (log : List Action) : Prop
  | record (h : record.model.role ≠ "OWNER" ∧ record.model.role ≠ "CLIENT" ∨
      ¬ sameRuntime record.model.identity.runtime record.runtime) (he : e = estale)
  | listing (h : Unlists (fun w t => w.listEndpoints t record.runtime) (.listEndpoints record.runtime)
      EndpointInfo.registrationId
      (sameEndpoint (parameterCached record) .parameter (parameterRole record.model.role))
      record.model.identity.registrationId w e log)
  | opening (h : Fails (fun w t => w.openParameter t record.model.name d)
      (.openParameter record.model.name) w e log)
  | getting (h : Fails (fun w t => w.getParameter t) .getParameter w e log)
  | seed {seed : DynamicPayload} (h : Gives (fun w t => w.getParameter t) .getParameter w seed log)
      (hs : ¬ Seeds d (some seed)) (he : e = .code eprototype)
  | setting {seed bytes : DynamicPayload} (h : encode texts d value (some seed) = .ok bytes)
      (hf : Fails (fun w t => w.setParameter t bytes) (.setParameter bytes) w e log)

/-- Why `CallService` fails with a request that was accepted. -/
inductive CallFault (w : World) (record : Record ServiceInfo) (req res : TypeDescriptor)
    (timeout retries : UInt32)
    (bytes : DynamicPayload) (e : Fault) (log : List Action) : Prop
  | record (h : ¬ sameRuntime record.model.identity.runtime record.runtime) (he : e = estale)
  | listing (h : Unlists (fun w t => w.listServices t record.runtime) (.listServices record.runtime)
      ListedService.registrationId (sameService record.model) record.model.identity.registrationId w e log)
  | opening (h : Fails
      (fun w t => w.openService t record.model.port record.model.serviceId req res timeout retries)
      (.openService record.model.port record.model.serviceId) w e log)
  | calling (h : Fails (fun w t => w.callService t bytes) (.callService bytes) w e log)
  | response {out : DynamicPayload} {c : Failure}
      (h : Gives (fun w t => w.callService t bytes) (.callService bytes) w out log)
      (hd : decode texts res out = .error c) (he : e = .code c)

variable {texts} {parameters : List (Record ParameterInfo)} {services : List (Record ServiceInfo)}
  {d : TypeDescriptor} {id : EndpointIdentity} {value : DataSnapshot}

section Calls

lemma raises_ask {α : Type} (call : World → ℕ → Outcome α) (action : Action) :
    Raises (Fails call action) (ask call action) :=
  Raises.act fun _ l _ he => ⟨l, rfl, he⟩

lemma gives_ask {α : Type} {call : World → ℕ → Outcome α} {action : Action} {w : World} {l l' : List Action}
    {a : α} (h : ask call action w l = (.ok a, l')) : Gives call action w a l' := by
  obtain ⟨ha, rfl⟩ := Prod.mk.inj h
  exact ⟨l, rfl, ha⟩

lemma ask_ok {α : Type} {call : World → ℕ → Outcome α} {action : Action} {w : World} {l l' : List Action}
    {a : α} (h : ask call action w l = (.ok a, l')) : call w (w.moment l.length) = .ok a ∧
    l' = l ++ [action] := by
  obtain ⟨ha, rfl⟩ := Prod.mk.inj h
  exact ⟨ha, rfl⟩

lemma lift_ok {α : Type} {r : Except Failure α} {w : World} {l l' : List Action} {a : α}
    (h : lift r w l = (.ok a, l')) : r = .ok a ∧ l' = l := by
  cases r with
  | ok b =>
    cases h
    exact ⟨rfl, rfl⟩
  | error c => cases h

lemma lift_error {α : Type} {r : Except Failure α} {w : World} {l l' : List Action} {e : Fault}
    (h : lift r w l = (.error e, l')) : (∃ c, r = .error c ∧ e = .code c) ∧ l' = l := by
  cases r with
  | ok b => cases h
  | error c =>
    cases h
    exact ⟨⟨c, rfl, rfl⟩, rfl⟩

lemma yields_type (runtime : RuntimeInfo) (typeId : UInt64) (size : ℕ) :
    Yields (fun d => texts.validateTypeDescriptor d = true) (type texts runtime typeId size) := by
  unfold type
  split_ifs
  · intro w s a s' h
    cases h
  · refine (Yields.any _).bind fun d _ => ?_
    split_ifs with hd
    · exact Yields.pure hd.2.2
    · intro w s a s' h
      cases h

lemma type_ok {runtime : RuntimeInfo} {typeId : UInt64} {size : ℕ} {w : World} {l l' : List Action}
    (h : type texts runtime typeId size w l = (.ok d, l')) :
    w.getType (w.moment l.length) runtime typeId = .ok d ∧ l' = l ++ [.getType runtime typeId] := by
  unfold type at h
  split_ifs at h
  · cases h
  · obtain ⟨d', l'', hd, h⟩ := bind_inv h
    split_ifs at h
    · cases h
      exact ask_ok hd
    · cases h

lemma raises_listingCheck {E : Type} (listing : World → ℕ → Outcome (List E)) (log : Outcome (List E) → Action)
    (registrationId : E → UInt64) (same : E → Bool) (id : UInt64) :
    Raises (Unlists listing log registrationId same id) (listingCheck listing log registrationId same id) := by
  rintro w l e m he
  unfold listingCheck at he
  cases hl : listing w (w.moment l.length) with
  | error e' =>
    rw [bind_error (e := discoveryError e') (by simp only [act, hl]; rfl)] at he
    cases he
    exact ⟨l, by rw [hl], .inl ⟨e', hl, rfl⟩⟩
  | ok entries =>
    rw [bind_ok (a := entries) (by simp only [act, hl]; rfl)] at he
    have hunlisted : (∀ x, (entries.find? fun x => registrationId x = id) = some x → same x = false) →
        Unlists listing log registrationId same id w estale (l ++ [log (.ok entries)]) := by
      refine fun hall => ⟨l, by rw [hl], .inr ⟨⟨entries, hl⟩, rfl, ?_⟩⟩
      rintro ⟨entries', x, hl', hx, hs⟩
      obtain rfl : entries = entries' := Except.ok.inj (hl.symm.trans hl')
      rw [hall x hx] at hs
      cases hs
    cases hf : entries.find? fun x => registrationId x = id with
    | none =>
      rw [hf] at he
      cases he
      exact hunlisted fun x hx => by cases hf.symm.trans hx
    | some x =>
      rw [hf] at he
      simp only at he
      split_ifs at he with hs
      · cases he
      · cases he
        refine hunlisted fun y hy => ?_
        obtain rfl := Option.some.inj (hf.symm.trans hy)
        simpa using hs

lemma raises_validateParameter (record : Record ParameterInfo) (d : TypeDescriptor) (value : DataSnapshot) :
    Raises (fun w e m => SetFault texts w record d value e m) (KcfBackend.validateParameter record) := by
  unfold KcfBackend.validateParameter validateEndpoint
  split_ifs with hrole hruntime
  · exact Raises.fail fun _ _ => .record (.inl hrole) rfl
  · exact (raises_listingCheck _ _ _ _ _).mono fun _ _ _ h => .listing h
  · exact Raises.fail fun _ _ => .record (.inr hruntime) rfl

lemma raises_validateService (record : Record ServiceInfo) (req res : TypeDescriptor) (timeout retries : UInt32)
    (bytes : DynamicPayload) :
    Raises (fun w e m => CallFault texts w record req res timeout retries bytes e m)
      (KcfBackend.validateService record) := by
  unfold KcfBackend.validateService
  split_ifs with hruntime
  · exact (raises_listingCheck _ _ _ _ _).mono fun _ _ _ h => .listing h
  · exact Raises.fail fun _ _ => .record hruntime rfl

end Calls

section Inputs

/-- An input that is accepted alone is only refused together with the payload of another type. -/
lemma encode_seeded (hd : WellFormed d) (haccepted : texts.validateTypeDescriptor d) {out p : DynamicPayload}
    {c : Failure} (h : encode texts d value none = .ok out) (hc : encode texts d value (some p) = .error c) :
    c = eprototype ∧ ¬ Seeds d (some p) := by
  have hnot : ¬ Seeds d (some p) := by
    intro hseed
    have hnone : Seeds d none := by
      intro s hs
      cases hs
    obtain ⟨hid, hname, a, ha, -⟩ := (encode_iff hd haccepted hnone).mp h
    have hok := (encode_iff hd haccepted hseed).mpr ⟨hid, hname, a, ha, rfl⟩
    rw [hok] at hc
    cases hc
  refine ⟨?_, hnot⟩
  rw [seeds_iff, not_not] at hnot
  unfold encode at h hc
  split_ifs at h hc
  cases hc
  rfl

/-- The descriptor is the one that the run itself has looked up. -/
def FailsToSet (texts : Texts) (parameters : List (Record ParameterInfo)) (id : EndpointIdentity)
    (value : DataSnapshot) (w : World) (l : List Action) (e : Fault) (m : List Action) : Prop :=
  ∃ record d, find ParameterInfo.identity parameters id = some record ∧
    w.getType (w.moment l.length) record.runtime record.model.typeId = .ok d ∧
      SetFault texts w record d value e m

def FailsToCall (texts : Texts) (services : List (Record ServiceInfo)) (id : EndpointIdentity)
    (request : DataSnapshot) (timeout retries : UInt32) (w : World) (l : List Action) (e : Fault)
    (m : List Action) : Prop :=
  ∃ record req res bytes, find ServiceInfo.identity services id = some record ∧
    w.getType (w.moment l.length) record.runtime record.model.requestTypeId = .ok req ∧
      w.getType (w.moment (l.length + 1)) record.runtime record.model.responseTypeId = .ok res ∧
        encode texts req request none = .ok bytes ∧
          CallFault texts w record req res timeout retries bytes e m

lemma setValue_guarded (hframework : ∀ d, texts.validateTypeDescriptor d → WellFormed d)
    (parameters : List (Record ParameterInfo)) (id : EndpointIdentity) (value : DataSnapshot) :
    Guards (FailsToSet texts parameters id value) (validateParameter texts parameters id value)
      (setValue texts parameters id value) := by
  unfold validateParameter setValue
  cases hfind : find ParameterInfo.identity parameters id with
  | none => exact .fail _
  | some record =>
    simp only
    split_ifs
    · exact .fail _
    · refine Guards.bind (Q := fun d w _ e m => SetFault texts w record d value e m) (yields_type _ _ _)
        (fun d hd => ?_) fun w l d _ e m hrun h => ⟨record, d, hfind, (type_ok hrun).1, h⟩
      refine Guards.bind (R := fun out => encode texts d value none = .ok out)
        (Q := fun _ w _ e m => SetFault texts w record d value e m) (fun _ _ _ _ h => (lift_ok h).1)
        (fun out hout => Guards.pure _ ?_) fun _ _ _ _ _ _ _ h => h
      have hraises : Raises (fun w e m => SetFault texts w record d value e m) (do
          KcfBackend.validateParameter record
          openParameter record.model.name d
          let seed ← ask (fun w t => w.getParameter t) .getParameter
          let bytes ← lift (encode texts d value (some seed))
          KcfBackend.validateParameter record
          ask (fun w t => w.setParameter t bytes) (.setParameter bytes)) := by
        refine (raises_validateParameter record d value).andThen fun _ => ?_
        refine ((raises_ask _ _).mono fun _ _ _ h => .opening h).andThen fun _ => ?_
        refine ((raises_ask _ _).mono fun _ _ _ h => .getting h).bind fun w l seed m e m' hseed he => ?_
        rcases hbytes : encode texts d value (some seed) with c | bytes
        · obtain ⟨rfl, hs⟩ := encode_seeded (hframework d hd) hd hout hbytes
          rw [hbytes] at he
          cases he
          exact .seed (gives_ask hseed) hs rfl
        · rw [hbytes] at he
          exact Raises.andThen (raises_validateParameter record d value)
            (fun _ => (raises_ask _ _).mono fun _ _ _ h => .setting hbytes h) w m e m' he
      exact hraises.mono fun _ _ _ h _ => h
    · exact .fail _

lemma callValue_guarded (services : List (Record ServiceInfo)) (id : EndpointIdentity) (request : DataSnapshot)
    (timeout retries : UInt32) :
    Guards (FailsToCall texts services id request timeout retries) (validateService texts services id request)
      (callValue texts services id request timeout retries) := by
  unfold validateService callValue
  cases hfind : find ServiceInfo.identity services id with
  | none => exact .fail _
  | some record =>
    simp only
    refine Guards.bind (Yields.any _)
      (Q := fun req w l e m => ∃ res bytes,
        w.getType (w.moment l.length) record.runtime record.model.responseTypeId = .ok res ∧
          encode texts req request none = .ok bytes ∧
            CallFault texts w record req res timeout retries bytes e m)
      (fun req _ => ?_) fun w l req l' e m hrun ⟨res, bytes, hres, hbytes, h⟩ => ?_
    · refine Guards.bind (Yields.any _)
        (Q := fun res w _ e m => ∃ bytes, encode texts req request none = .ok bytes ∧
          CallFault texts w record req res timeout retries bytes e m)
        (fun res _ => ?_)
        fun w l res l' e m hrun ⟨bytes, hbytes, h⟩ => ⟨res, bytes, (type_ok hrun).1, hbytes, h⟩
      refine Guards.bind (R := fun out => encode texts req request none = .ok out)
        (Q := fun bytes w _ e m => CallFault texts w record req res timeout retries bytes e m)
        (fun _ _ _ _ h => (lift_ok h).1) (fun bytes _ => Guards.pure _ ?_)
        fun w l bytes _ e m hrun h => ⟨bytes, (lift_ok hrun).1, h⟩
      have hraises : Raises (fun w e m => CallFault texts w record req res timeout retries bytes e m) (do
          KcfBackend.validateService record
          ask (fun w t => w.openService t record.model.port record.model.serviceId req res timeout retries)
            (.openService record.model.port record.model.serviceId)
          KcfBackend.validateService record
          let response ← ask (fun w t => w.callService t bytes) (.callService bytes)
          lift (decode texts res response)) := by
        have hvalidate := @raises_validateService texts record req res timeout retries bytes
        refine hvalidate.andThen fun _ => ?_
        refine ((raises_ask _ _).mono fun _ _ _ h => .opening h).andThen fun _ => ?_
        refine hvalidate.andThen fun _ => ?_
        refine ((raises_ask _ _).mono fun _ _ _ h => .calling h).bind fun w l out m e m' hout he => ?_
        obtain ⟨⟨c, hc, rfl⟩, rfl⟩ := lift_error he
        exact .response (gives_ask hout) hc rfl
      exact hraises.mono fun _ _ _ h _ => h
    · obtain ⟨hreq, rfl⟩ := type_ok hrun
      rw [List.length_append, List.length_singleton] at hres
      exact ⟨record, req, res, bytes, hfind, hreq, hres, hbytes, h⟩

end Inputs

section Zeros

lemma natOfBytes_zeros (n : ℕ) : natOfBytes (List.replicate n 0) = 0 := by
  induction n with
  | zero => rfl
  | succ n ih =>
    rw [List.replicate_succ, natOfBytes, ih]
    rfl

lemma finite_zeros (k : FieldValueKind) (n : ℕ) : finite k (List.replicate n 0) := by
  unfold finite
  rw [natOfBytes_zeros]
  cases k <;> decide

lemma represents_zeros {k : FieldValueKind} {width : ℕ} (h : k.width = some width) :
    ∃ v, Represents k (List.replicate width 0) v := by
  refine exists_represents h List.length_replicate fun _ => ?_
  cases width with
  | zero => exact (by decide : (0 : UInt8) ≤ 1)
  | succ n => exact (by decide : (0 : UInt8) ≤ 1)

lemma element_zeros (hd : WellFormed d) {f : TypeFieldInfo} (hf : f ∈ d.fields) {j : ℕ}
    (hj : j < f.arrayCount) : ValueCodec.element (zeros d).bytes f j = List.replicate f.elementSize 0 := by
  have hstop := (element_le_stop hj).trans (hd.inside f hf)
  unfold ValueCodec.element Splices.slice zeros
  rw [List.drop_replicate, List.take_replicate, min_eq_left (by omega)]

lemma holds_zeros (hd : WellFormed d) : ∃ a, Holds d (zeros d).bytes a := by
  have hvalue : ∀ f, ∃ v, f ∈ d.fields → Represents f.kind (List.replicate f.elementSize 0) v := by
    intro f
    by_cases hf : f ∈ d.fields
    · obtain ⟨v, hv⟩ := represents_zeros (hd.width f hf)
      exact ⟨v, fun _ => hv⟩
    · exact ⟨.bool false, fun h => absurd h hf⟩
  choose a ha using hvalue
  refine ⟨fun f _ => a f, fun f hf j hj => ?_⟩
  rw [element_zeros hd hf hj]
  exact ha f hf

lemma decode_zeros (hd : WellFormed d) (haccepted : texts.validateTypeDescriptor d) :
    ∃ v, decode texts d (zeros d) = .ok v := by
  obtain ⟨a, ha⟩ := holds_zeros hd
  exact ⟨_, (decode_iff hd haccepted).mpr ⟨rfl, List.length_replicate, a, ha, rfl⟩⟩

lemma accepted_of_decode {p : DynamicPayload} (h : decode texts d p = .ok value) :
    texts.validateTypeDescriptor d := by
  unfold decode at h
  by_contra hc
  rw [if_pos hc] at h
  cases h

lemma encode_zeros (hexact : Exact texts) (hd : WellFormed d) (haccepted : texts.validateTypeDescriptor d)
    (h : decode texts d (zeros d) = .ok value) : encode texts d value none = .ok (zeros d) := by
  obtain ⟨-, hlength, a, ha, rfl⟩ := (decode_iff hd haccepted).mp h
  have hnone : Seeds d none := by
    intro s hs
    cases hs
  refine (encode_canonical_iff hexact hd haccepted hnone ha _).mpr ⟨fun f hf _ j hj => ?_, ?_⟩
  · rw [element_zeros hd hf hj]
    exact finite_zeros _ _
  · calc zeros d = encoded d (some (zeros d)) a := (encoded_self hd rfl hlength ha).symm
      _ = encoded d none a := rfl

end Zeros

section Templates

variable {elements : List ElementInfo} {identity : RuntimeIdentity} {typeId : UInt64} {w : World}
  {l l' : List Action}

lemma template_ok (h : getTypeTemplate texts elements identity typeId w l = (.ok value, l')) :
    ∃ d, w.getType (w.moment l.length) (templateRuntime identity) typeId = .ok d ∧
      decode texts d (zeros d) = .ok value := by
  unfold getTypeTemplate at h
  split_ifs at h
  · cases h
  · cases h
  · obtain ⟨d, l'', hd, h⟩ := bind_inv h
    exact ⟨d, (ask_ok hd).1, (lift_ok h).1⟩

/-- There is no template only of an unknown type, or of one that the codec does not accept. -/
lemma template_error (hframework : ∀ d, texts.validateTypeDescriptor d → WellFormed d) {e : Fault}
    (h : (getTypeTemplate texts elements identity typeId w l).1 = .error e) :
    typeId = 0 ∨ (∀ e' ∈ elements, e'.identity ≠ identity) ∨
      w.getType (w.moment l.length) (templateRuntime identity) typeId = .error e ∨
        ∃ d, w.getType (w.moment l.length) (templateRuntime identity) typeId = .ok d ∧
          ¬ texts.validateTypeDescriptor d := by
  unfold getTypeTemplate at h
  split_ifs at h with hid helement
  · exact .inl hid
  · exact .inr (.inl (by simpa using helement))
  right
  right
  rcases hrun : ask (fun w t => w.getType t (templateRuntime identity) typeId)
    (.getType (templateRuntime identity) typeId) w l with ⟨e' | d, l'⟩
  · rw [bind_error hrun] at h
    obtain rfl := Except.error.inj h
    exact .inl (congrArg Prod.fst hrun)
  · rw [bind_ok hrun] at h
    refine .inr ⟨d, (ask_ok hrun).1, fun haccepted => ?_⟩
    obtain ⟨v, hv⟩ := decode_zeros (hframework d haccepted) haccepted
    rw [hv] at h
    cases h

/-- A request that can be encoded is refused only where every request is. -/
lemma refused_all {record : Record ServiceInfo} (hfind : find ServiceInfo.identity services id = some record)
    (htype : ∀ t, w.getType t record.runtime record.model.requestTypeId = .ok d) {out : DynamicPayload}
    (hout : encode texts d value none = .ok out) {e : Fault}
    (h : (validateService texts services id value w l).1 = .error e) (request : DataSnapshot) :
    (validateService texts services id request w l).1 = .error e := by
  unfold validateService at h ⊢
  simp only [hfind] at h ⊢
  rcases hreq : type texts record.runtime record.model.requestTypeId record.model.requestSize.toNat w l with
    ⟨e' | req, l₁⟩
  · rw [bind_error hreq] at h ⊢
    exact h
  rw [bind_ok hreq] at h ⊢
  rcases hres : type texts record.runtime record.model.responseTypeId record.model.responseSize.toNat w l₁ with
    ⟨e' | res, l₂⟩
  · rw [bind_error hres] at h ⊢
    exact h
  rw [bind_ok hres] at h
  obtain rfl : d = req := Except.ok.inj ((htype _).symm.trans (type_ok hreq).1)
  rw [hout] at h
  cases h

end Templates

section Lookups

lemma emits_validateParameter (parameters : List (Record ParameterInfo)) (id : EndpointIdentity)
    (value : DataSnapshot) : Emits IsLookup (validateParameter texts parameters id value) := by
  unfold validateParameter
  cases find ParameterInfo.identity parameters id with
  | none => exact Emits.fail _
  | some record =>
    simp only
    split_ifs
    · exact Emits.fail _
    · exact (emits_type texts _ _ _ trivial).bind fun _ => (emits_lift _).bind fun _ => Emits.pure _
    · exact Emits.fail _

lemma emits_validateService (services : List (Record ServiceInfo)) (id : EndpointIdentity)
    (request : DataSnapshot) : Emits IsLookup (validateService texts services id request) := by
  unfold validateService
  cases find ServiceInfo.identity services id with
  | none => exact Emits.fail _
  | some record =>
    exact (emits_type texts _ _ _ trivial).bind fun _ => (emits_type texts _ _ _ trivial).bind fun _ =>
      (emits_lift _).bind fun _ => Emits.pure _

lemma emits_getTypeTemplate (elements : List ElementInfo) (identity : RuntimeIdentity) (typeId : UInt64) :
    Emits IsLookup (getTypeTemplate texts elements identity typeId) := by
  unfold getTypeTemplate
  split_ifs
  · exact Emits.fail _
  · exact Emits.fail _
  · exact (emits_ask _ trivial).bind fun _ => emits_lift _

end Lookups

/-- A check only looks up descriptors, refuses exactly what the call refuses because of its input, and a
template of a request passes wherever some request does. -/
structure Preflights (texts : Texts) : Prop where
  parameter : ∀ parameters id value, Emits IsLookup (validateParameter texts parameters id value) ∧
    Guards (FailsToSet texts parameters id value) (validateParameter texts parameters id value)
      (setValue texts parameters id value)
  service : ∀ services id request timeout retries, Emits IsLookup (validateService texts services id request) ∧
    Guards (FailsToCall texts services id request timeout retries) (validateService texts services id request)
      (callValue texts services id request timeout retries)
  lookup : ∀ elements identity typeId, Emits IsLookup (getTypeTemplate texts elements identity typeId)
  missing : ∀ elements identity typeId w l e,
    (getTypeTemplate texts elements identity typeId w l).1 = .error e →
      typeId = 0 ∨ (∀ e' ∈ elements, e'.identity ≠ identity) ∨
        w.getType (w.moment l.length) (templateRuntime identity) typeId = .error e ∨
          ∃ d, w.getType (w.moment l.length) (templateRuntime identity) typeId = .ok d ∧
            ¬ texts.validateTypeDescriptor d
  template : ∀ elements identity typeId w l value l',
    getTypeTemplate texts elements identity typeId w l = (.ok value, l') →
      ∃ d, w.getType (w.moment l.length) (templateRuntime identity) typeId = .ok d ∧
        encode texts d value none = .ok (zeros d) ∧
          ∀ services id record, find ServiceInfo.identity services id = some record → ∀ w' m e,
            (∀ t, w'.getType t record.runtime record.model.requestTypeId = .ok d) →
              (validateService texts services id value w' m).1 = .error e → ∀ request,
                (validateService texts services id request w' m).1 = .error e

theorem preflights (hframework : ∀ d, texts.validateTypeDescriptor d → WellFormed d) (hexact : Exact texts) :
    Preflights texts where
  parameter parameters id value := ⟨emits_validateParameter _ _ _, setValue_guarded hframework _ _ _⟩
  service services id request timeout retries := ⟨emits_validateService _ _ _, callValue_guarded _ _ _ _ _⟩
  lookup elements identity typeId := emits_getTypeTemplate _ _ _
  missing elements identity typeId w l e := template_error hframework
  template elements identity typeId w l value l' h := by
    obtain ⟨d, hd, hdecode⟩ := template_ok h
    have haccepted := accepted_of_decode hdecode
    have hencode := encode_zeros hexact (hframework d haccepted) haccepted hdecode
    exact ⟨d, hd, hencode, fun services id record hfind w' m e htype hrefused request =>
      refused_all hfind htype hencode hrefused request⟩

theorem preflights_sample : Preflights sampleTexts := preflights sample_wellFormed sample_exact

end KcfTools.Preflight
