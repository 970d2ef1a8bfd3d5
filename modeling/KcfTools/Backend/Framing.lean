import KcfTools.Backend.GatewayCycles

/-! The frames of the Gateway's answers, as bytes that arrive in pieces. -/

namespace KcfTools.LocalGateway

open Traced

/-- What a pass of `Wait` meets: the flag, the clock, or the result of `poll`. -/
inductive Poll
  | stopped
  | expired
  | ready
  | idle
  | interrupted
  | failed (errno : ℕ+)
deriving DecidableEq

/-- What a pass of `Transfer` meets: the flag, the clock, or the result of its call, which moves at most a
number of bytes. -/
inductive Turn
  | stopped
  | expired
  | moved (most : ℕ+)
  | interrupted
  | again (polls : List Poll)
  | failed (errno : ℕ+)
deriving DecidableEq

/-- The bytes of the peer up to its close that have not been read, and the passes to come. -/
structure Socket where
  stream : List UInt8
  turns : List Turn

inductive Leave
  | waiting
  | raised (r : Raised)
deriving DecidableEq

abbrev Link := Prog Unit Socket Leave

def ecanceled : Leave := .raised (.failure ⟨-125, by decide⟩)
def etimedout : Leave := .raised (.failure ⟨-110, by decide⟩)
def econnreset : Raised := .failure ⟨-104, by decide⟩

def wait : List Poll → Except Leave Unit
  | [] => .error .waiting
  | .stopped :: _ => .error ecanceled
  | .expired :: _ => .error etimedout
  | .ready :: _ => .ok ()
  | .idle :: polls => wait polls
  | .interrupted :: polls => wait polls
  | .failed errno :: _ => .error (.raised (.failure (errnoCode errno)))

/-- A call that moves nothing has met the end of the stream. -/
def transferFrom (size : ℕ) : List Turn → List UInt8 → List UInt8 → Except Leave (List UInt8) × Socket
  | [], bytes, stream =>
    if size ≤ bytes.length then (.ok bytes, ⟨stream, []⟩) else (.error .waiting, ⟨stream, []⟩)
  | turn :: turns, bytes, stream =>
    if size ≤ bytes.length then (.ok bytes, ⟨stream, turn :: turns⟩)
    else match turn with
      | .stopped => (.error ecanceled, ⟨stream, turns⟩)
      | .expired => (.error etimedout, ⟨stream, turns⟩)
      | .moved most =>
        let n := min most.val (size - bytes.length)
        if stream = [] then (.error (.raised econnreset), ⟨[], turns⟩)
        else transferFrom size turns (bytes ++ stream.take n) (stream.drop n)
      | .interrupted => transferFrom size turns bytes stream
      | .again polls =>
        match wait polls with
        | .ok () => transferFrom size turns bytes stream
        | .error e => (.error e, ⟨stream, turns⟩)
      | .failed errno => (.error (.raised (.failure (errnoCode errno))), ⟨stream, turns⟩)

def recv (size : ℕ) : Link (List UInt8) := fun _ s => transferFrom size s.turns [] s.stream

def send (bytes : List UInt8) : Link Unit := fun _ s =>
  match transferFrom bytes.length s.turns [] bytes with
  | (.ok _, rest) => (.ok (), { s with turns := rest.turns })
  | (.error e, rest) => (.error e, { s with turns := rest.turns })

def u32 (bytes : List UInt8) : UInt32 := (bytes.take 4).foldl (fun v b => v <<< 8 ||| b.toUInt32) 0

def demand (b : Bool) : Link Unit := if b then pure () else fail (.raised eproto)

def request (op : UInt32) : List UInt8 :=
  [0, 0, 0, 0, 0x4b, 0x43, 0x46, 0x4c, 0, 1, 0, op.toUInt8, 0, 0, 0, 0]

/-- What `Query` does once it has the header of the answer. -/
def readBody (op : UInt32) (h : List UInt8) : Link (List UInt8) := do
  let length := u32 h
  demand (length ≤ maxBody ∧ u32 (h.drop 4) = 0x4b43464c ∧ h[8]? = some 0 ∧ h[9]? = some 1 ∧ h[10]? = some 0 ∧
    h[11]?.map UInt8.toUInt32 = some op)
  let result := u32 (h.drop 12)
  if result ≠ 0 then
    demand (0x80000000 ≤ result ∧ length = 0)
    fail (.raised (.failure (resultCode result)))
  else
    demand (0 < length)
    recv length.toNat

/-- The exchange on an open connection: the body that the parser gets. -/
def exchangeFrames (op : UInt32) : Link (List UInt8) := do
  send (request op)
  let h ← recv 16
  readBody op h

/-- What the parser makes of a body. -/
inductive Parsed
  | invalid
  | tooDeep
  | document (j : Json)

def Parsed.result : Parsed → Except Raised Json
  | .invalid => .error .other
  | .tooDeep => .error eproto
  | .document j => .ok j

variable (parser : List UInt8 → Parsed)

/-- `opened` is the error of the calls before the first transfer. -/
def queryFrames (path : String) (op : UInt32) (opened : Option ℕ+) : Link Json :=
  if path = "" ∨ 108 ≤ path.utf8ByteSize ∨ path.toList.contains (Char.ofNat 0) then fail (.raised einval)
  else match opened with
    | some errno => fail (.raised (.failure (errnoCode errno)))
    | none => do
      let body ← exchangeFrames op
      match (parser body).result with
      | .ok j => pure j
      | .error e => fail (.raised e)

section Frames

def bigEndian (bytes : List UInt8) : ℕ := bytes.foldl (fun n b => 256 * n + b.toNat) 0

def lengthWord (stream : List UInt8) : ℕ := bigEndian (stream.take 4)

def resultWord (stream : List UInt8) : ℕ := bigEndian ((stream.drop 12).take 4)

/-- A whole header with the magic, the version and the operation of the request. -/
def Echoes (op : UInt32) (stream : List UInt8) : Prop :=
  16 ≤ stream.length ∧ (stream.drop 4).take 8 = ((request op).drop 4).take 8 ∧ op.toNat < 256

def Success (op : UInt32) (stream : List UInt8) : Prop :=
  Echoes op stream ∧ resultWord stream = 0 ∧ 1 ≤ lengthWord stream ∧ lengthWord stream ≤ 1024 * 1024

def Negative (op : UInt32) (stream : List UInt8) : Prop :=
  Echoes op stream ∧ 2 ^ 31 ≤ resultWord stream ∧ lengthWord stream = 0

/-- What a whole stream amounts to, and how many of its bytes are read. -/
inductive Framed (op : UInt32) (stream : List UInt8) : Except Raised (List UInt8) → ℕ → Prop
  | short : stream.length < 16 → Framed op stream (.error econnreset) stream.length
  | cut : Success op stream → stream.length < 16 + lengthWord stream →
    Framed op stream (.error econnreset) stream.length
  | whole : Success op stream → 16 + lengthWord stream ≤ stream.length →
    Framed op stream (.ok ((stream.drop 16).take (lengthWord stream))) (16 + lengthWord stream)
  | negative (code : Code) : Negative op stream → code.val = (resultWord stream : ℤ) - 2 ^ 32 →
    Framed op stream (.error (.failure code)) 16
  | refused : 16 ≤ stream.length → ¬ Success op stream → ¬ Negative op stream →
    Framed op stream (.error eproto) 16

/-- Bytes move, or the call is made again. -/
def Calm : Turn → Prop
  | .moved _ => True
  | .interrupted => True
  | .again polls => wait polls = .ok ()
  | _ => False

def moves (turns : List Turn) : ℕ := turns.countP fun t => match t with
  | .moved _ => true
  | _ => false

end Frames

section Transfers

variable {size : ℕ} {bytes stream : List UInt8} {turns : List Turn}

lemma moves_moved (most : ℕ+) : moves (.moved most :: turns) = moves turns + 1 := List.countP_cons_of_pos rfl

lemma moves_interrupted : moves (.interrupted :: turns) = moves turns := List.countP_cons_of_neg (by simp)

lemma moves_again (polls : List Poll) : moves (.again polls :: turns) = moves turns :=
  List.countP_cons_of_neg (by simp)

lemma transferFrom_done (h : size ≤ bytes.length) :
    transferFrom size turns bytes stream = (.ok bytes, ⟨stream, turns⟩) := by
  cases turns with
  | nil => rw [transferFrom, if_pos h]
  | cons turn turns =>
    rw [transferFrom.eq_def]
    exact if_pos h

/-- What the transfer of the missing bytes comes to. -/
def Arrives (size : ℕ) (bytes stream : List UInt8) (turns : List Turn)
    (r : Except Leave (List UInt8) × Socket) : Prop :=
  ∃ rest, (∀ t ∈ rest, Calm t) ∧ moves turns ≤ moves rest + (size - bytes.length) ∧
    r = (if size - bytes.length ≤ stream.length then .ok (bytes ++ stream.take (size - bytes.length))
      else .error (.raised econnreset), ⟨stream.drop (size - bytes.length), rest⟩)

/-- A piece of at most the missing bytes brings the transfer to its rest. -/
lemma arrives_piece {most : ℕ+} {r : Except Leave (List UInt8) × Socket} (hsize : bytes.length < size)
    (hstream : stream ≠ [])
    (h : Arrives size (bytes ++ stream.take (min most.val (size - bytes.length)))
      (stream.drop (min most.val (size - bytes.length))) turns r) :
    Arrives size bytes stream (.moved most :: turns) r := by
  obtain ⟨rest, hcalm, hmoves, rfl⟩ := h
  have hlength := List.length_pos_of_ne_nil hstream
  have hmost := most.pos
  generalize hn : min most.val (size - bytes.length) = n at hmoves ⊢
  simp only [List.length_append, List.length_take, List.length_drop] at hmoves ⊢
  refine ⟨rest, hcalm, by rw [moves_moved]; omega, ?_⟩
  by_cases hall : n ≤ stream.length
  · have hneed : size - bytes.length = n + (size - (bytes.length + min n stream.length)) := by omega
    have hcond : (size - bytes.length ≤ stream.length) =
        (size - (bytes.length + min n stream.length) ≤ stream.length - n) := by
      rw [eq_iff_iff]
      omega
    simp only [hcond]
    rw [hneed, List.take_add, List.drop_drop, List.append_assoc]
  · rw [if_neg (by omega), if_neg (by omega), List.drop_drop,
      List.drop_eq_nil_of_le (by omega), List.drop_eq_nil_of_le (by omega)]

lemma transferFrom_calm (hcalm : ∀ t ∈ turns, Calm t) :
    ((transferFrom size turns bytes stream).1 = .error .waiting ∧ moves turns < size - bytes.length) ∨
      Arrives size bytes stream turns (transferFrom size turns bytes stream) := by
  induction turns generalizing bytes stream with
  | nil =>
    by_cases hsize : size ≤ bytes.length
    · rw [transferFrom_done hsize]
      refine .inr ⟨[], hcalm, Nat.zero_le _, ?_⟩
      simp [Nat.sub_eq_zero_of_le hsize]
    · rw [transferFrom, if_neg hsize]
      exact .inl ⟨rfl, by rw [moves, List.countP_nil]; omega⟩
  | cons turn turns ih =>
    by_cases hsize : size ≤ bytes.length
    · rw [transferFrom_done hsize]
      refine .inr ⟨turn :: turns, hcalm, Nat.le_add_right _ _, ?_⟩
      simp [Nat.sub_eq_zero_of_le hsize]
    · have hturn := hcalm turn List.mem_cons_self
      have hrest : ∀ t ∈ turns, Calm t := fun t ht => hcalm t (List.mem_cons_of_mem _ ht)
      rw [transferFrom.eq_def]
      dsimp only
      rw [if_neg hsize]
      cases turn with
      | moved most =>
        dsimp only
        split_ifs with hstream
        · refine .inr ⟨turns, hrest, by rw [moves_moved]; omega, ?_⟩
          subst hstream
          rw [if_neg (by simp; omega), List.drop_nil]
        · have hlength := List.length_pos_of_ne_nil hstream
          have hmost := most.pos
          rcases @ih (bytes ++ stream.take (min most.val (size - bytes.length)))
            (stream.drop (min most.val (size - bytes.length))) hrest with ⟨hwait, hfew⟩ | harrives
          · refine .inl ⟨hwait, ?_⟩
            rw [List.length_append, List.length_take] at hfew
            rw [moves_moved]
            omega
          · exact .inr (arrives_piece (by omega) hstream harrives)
      | interrupted =>
        rw [moves_interrupted, Arrives, moves_interrupted]
        exact ih hrest
      | again polls =>
        have hready : wait polls = .ok () := hturn
        rw [moves_again, Arrives, moves_again]
        simp only [hready]
        exact ih hrest
      | stopped | expired | failed => exact absurd hturn (by simp [Calm])

end Transfers

section Headers

variable {op : UInt32} {stream : List UInt8}

lemma u32_step {v : UInt32} (b : UInt8) (h : v.toNat < 2 ^ 24) :
    (v <<< 8 ||| b.toUInt32).toNat = 256 * v.toNat + b.toNat := by
  have hb := b.toNat_lt
  have hmod : v.toNat <<< 8 % 2 ^ 32 = v.toNat <<< 8 := by
    rw [Nat.shiftLeft_eq]
    omega
  rw [UInt32.toNat_or, UInt32.toNat_shiftLeft, UInt8.toNat_toUInt32]
  change v.toNat <<< 8 % 2 ^ 32 ||| b.toNat = _
  rw [hmod, ← Nat.shiftLeft_add_eq_or_of_lt hb, Nat.shiftLeft_eq, Nat.mul_comm]

lemma u32_toNat (a b c d : UInt8) (rest : List UInt8) :
    (u32 (a :: b :: c :: d :: rest)).toNat = bigEndian [a, b, c, d] := by
  have ha := a.toNat_lt
  have hb := b.toNat_lt
  have hc := c.toNat_lt
  have hzero : (0 : UInt32).toNat = 0 := rfl
  have h₁ : ((0 : UInt32) <<< 8 ||| a.toUInt32).toNat = a.toNat := by
    rw [u32_step a (by omega)]
    omega
  have h₂ : (((0 : UInt32) <<< 8 ||| a.toUInt32) <<< 8 ||| b.toUInt32).toNat = 256 * a.toNat + b.toNat := by
    rw [u32_step b (by omega), h₁]
  have h₃ : ((((0 : UInt32) <<< 8 ||| a.toUInt32) <<< 8 ||| b.toUInt32) <<< 8 ||| c.toUInt32).toNat =
      256 * (256 * a.toNat + b.toNat) + c.toNat := by
    rw [u32_step c (by omega), h₂]
  change (((((0 : UInt32) <<< 8 ||| a.toUInt32) <<< 8 ||| b.toUInt32) <<< 8 ||| c.toUInt32) <<< 8 |||
    d.toUInt32).toNat = _
  rw [u32_step d (by omega), h₃]
  simp [bigEndian]

lemma magic_iff (a b c d : UInt8) (rest : List UInt8) : u32 (a :: b :: c :: d :: rest) = 0x4b43464c ↔
    [a, b, c, d] = [0x4b, 0x43, 0x46, 0x4c] := by
  have ha := a.toNat_lt
  have hb := b.toNat_lt
  have hc := c.toNat_lt
  have hd := d.toNat_lt
  rw [← UInt32.toNat_inj, u32_toNat]
  simp only [bigEndian, List.foldl_cons, List.foldl_nil, List.cons.injEq, ← UInt8.toNat_inj, UInt32.reduceToNat,
    UInt8.reduceToNat, and_true]
  omega

lemma operation_iff (b : UInt8) : b.toUInt32 = op ↔ b = op.toUInt8 ∧ op.toNat < 256 := by
  have hb := b.toNat_lt
  rw [← UInt32.toNat_inj, ← UInt8.toNat_inj, UInt8.toNat_toUInt32, UInt32.toNat_toUInt8]
  omega

/-- The words of a whole header, and its checks. -/
lemma header_words (h : 16 ≤ stream.length) :
    (u32 (stream.take 16)).toNat = lengthWord stream ∧
      (u32 ((stream.take 16).drop 12)).toNat = resultWord stream ∧
      ((u32 ((stream.take 16).drop 4) = 0x4b43464c ∧ (stream.take 16)[8]? = some 0 ∧
        (stream.take 16)[9]? = some 1 ∧ (stream.take 16)[10]? = some 0 ∧
        (stream.take 16)[11]?.map UInt8.toUInt32 = some op) ↔ Echoes op stream) := by
  match stream, h with
  | a₀ :: a₁ :: a₂ :: a₃ :: m₀ :: m₁ :: m₂ :: m₃ :: v₀ :: v₁ :: o₀ :: o₁ :: r₀ :: r₁ :: r₂ :: r₃ :: rest, h =>
    refine ⟨u32_toNat a₀ a₁ a₂ a₃ _, u32_toNat r₀ r₁ r₂ r₃ _, ?_⟩
    have hmagic := magic_iff m₀ m₁ m₂ m₃ [v₀, v₁, o₀, o₁, r₀, r₁, r₂, r₃]
    have hop := @operation_iff op o₁
    simp only [List.cons.injEq, and_true] at hmagic
    simp [Echoes, request, hmagic, hop, and_assoc]

end Headers

section Exchange

variable {op : UInt32} {stream : List UInt8} {turns : List Turn}

lemma recv_calm (size : ℕ) (hcalm : ∀ t ∈ turns, Calm t) :
    ((∃ s, recv size () ⟨stream, turns⟩ = (.error .waiting, s)) ∧ moves turns < size) ∨
      ∃ rest, (∀ t ∈ rest, Calm t) ∧ moves turns ≤ moves rest + size ∧ recv size () ⟨stream, turns⟩ =
        (if size ≤ stream.length then .ok (stream.take size) else .error (.raised econnreset),
          ⟨stream.drop size, rest⟩) := by
  rcases @transferFrom_calm size [] stream turns hcalm with ⟨hwait, hfew⟩ | ⟨rest, hrest, hmoves, harrives⟩
  · exact .inl ⟨⟨_, Prod.ext hwait rfl⟩, hfew⟩
  · exact .inr ⟨rest, hrest, hmoves, harrives⟩

lemma send_calm (bytes : List UInt8) (hcalm : ∀ t ∈ turns, Calm t) :
    ((∃ s, send bytes () ⟨stream, turns⟩ = (.error .waiting, s)) ∧ moves turns < bytes.length) ∨
      ∃ rest, (∀ t ∈ rest, Calm t) ∧ moves turns ≤ moves rest + bytes.length ∧
        send bytes () ⟨stream, turns⟩ = (.ok (), ⟨stream, rest⟩) := by
  unfold send
  dsimp only
  rcases @recv_calm bytes turns bytes.length hcalm with ⟨⟨s, hwait⟩, hfew⟩ | ⟨rest, hrest, hmoves, harrives⟩
  · refine .inl ⟨⟨⟨stream, s.turns⟩, ?_⟩, hfew⟩
    rw [show transferFrom bytes.length turns [] bytes = (.error .waiting, s) from hwait]
  · refine .inr ⟨rest, hrest, hmoves, ?_⟩
    rw [if_pos le_rfl] at harrives
    rw [show transferFrom bytes.length turns [] bytes = _ from harrives]

lemma demand_true {b : Bool} (h : b = true) (s : Socket) : demand b () s = (.ok (), s) := by
  rw [demand, if_pos h]
  rfl

lemma demand_false {b : Bool} (h : b = false) (s : Socket) : demand b () s = (.error (.raised eproto), s) := by
  rw [demand, if_neg (by rw [h]; exact Bool.false_ne_true)]
  rfl

/-- The outcome that the frame of the stream has, or none yet. -/
def Comes (op : UInt32) (stream : List UInt8) (turns : List Turn) (need : ℕ)
    (r : Except Leave (List UInt8) × Socket) : Prop :=
  ((∃ s, r = (.error .waiting, s)) ∧ moves turns < need) ∨
    ∃ outcome n rest, Framed op stream outcome n ∧ r = (outcome.mapError .raised, ⟨stream.drop n, rest⟩)

lemma header_calm {h : List UInt8} (hlong : 16 ≤ stream.length) (hh : h = stream.take 16)
    {turns₂ : List Turn} (hmoves : moves turns ≤ moves turns₂ + 32) (hcalm : ∀ t ∈ turns₂, Calm t) :
    Comes op stream turns (1024 * 1024 + 32) (readBody op h () ⟨stream.drop 16, turns₂⟩) := by
  subst hh
  obtain ⟨hlength, hresult, hechoes⟩ := @header_words op stream hlong
  have hmax : u32 (stream.take 16) ≤ maxBody ↔ lengthWord stream ≤ 1024 * 1024 := by
    rw [UInt32.le_iff_toNat_le, hlength]
    rfl
  have hzero : u32 ((stream.take 16).drop 12) ≠ 0 ↔ resultWord stream ≠ 0 := by
    rw [← hresult, ne_eq, ← UInt32.toNat_inj]
    rfl
  have hnegative : (0x80000000 : UInt32) ≤ u32 ((stream.take 16).drop 12) ↔ 2 ^ 31 ≤ resultWord stream := by
    rw [UInt32.le_iff_toNat_le, hresult]
    rfl
  have hempty : u32 (stream.take 16) = 0 ↔ lengthWord stream = 0 := by
    rw [← hlength, ← UInt32.toNat_inj]
    rfl
  have hsome : (0 : UInt32) < u32 (stream.take 16) ↔ 0 < lengthWord stream := by
    rw [UInt32.lt_iff_toNat_lt, hlength]
    rfl
  have hrefused : ∀ r : Except Leave (List UInt8) × Socket, ¬ Success op stream → ¬ Negative op stream →
      r = (.error (.raised eproto), ⟨stream.drop 16, turns₂⟩) →
        Comes op stream turns (1024 * 1024 + 32) r :=
    fun r hs hn hr => .inr ⟨_, _, turns₂, .refused hlong hs hn, hr⟩
  unfold readBody
  dsimp only
  by_cases hvalid : lengthWord stream ≤ 1024 * 1024 ∧ Echoes op stream
  · rw [bind_ok (demand_true (decide_eq_true (and_congr hmax hechoes |>.mpr hvalid)) _)]
    split_ifs with hr
    · by_cases hcode : 2 ^ 31 ≤ resultWord stream ∧ lengthWord stream = 0
      · rw [bind_ok (demand_true (decide_eq_true (and_congr hnegative hempty |>.mpr hcode)) _)]
        refine .inr ⟨_, _, turns₂,
          .negative (resultCode (u32 ((stream.take 16).drop 12))) ⟨hvalid.2, hcode⟩ ?_, rfl⟩
        rw [← hresult]
        rfl
      · rw [bind_error (demand_false (decide_eq_false (mt (and_congr hnegative hempty).mp hcode)) _)]
        exact hrefused _ (fun hs => (hzero.mp hr) hs.2.1) (fun hn => hcode hn.2) rfl
    · have hr : resultWord stream = 0 := by_contra fun h => hr (hzero.mpr h)
      by_cases hbody : 0 < lengthWord stream
      · rw [bind_ok (demand_true (decide_eq_true (hsome.mpr hbody)) _), hlength]
        have hsuccess : Success op stream := ⟨hvalid.2, hr, hbody, hvalid.1⟩
        rcases @recv_calm (stream.drop 16) turns₂ (lengthWord stream) hcalm with
          ⟨⟨s, hwait⟩, hfew⟩ | ⟨rest, _, _, hrecv⟩
        · exact .inl ⟨⟨s, hwait⟩, by omega⟩
        · rw [hrecv, List.length_drop, List.drop_drop]
          refine .inr ?_
          split_ifs with hfits
          · exact ⟨_, _, rest, .whole hsuccess (by omega), rfl⟩
          · refine ⟨_, _, rest, .cut hsuccess (by omega), ?_⟩
            rw [List.drop_eq_nil_of_le (by omega), List.drop_eq_nil_of_le le_rfl]
            rfl
      · rw [bind_error (demand_false (decide_eq_false (mt hsome.mp hbody)) _)]
        exact hrefused _ (fun hs => hbody hs.2.2.1) (fun hn => by have := hn.2.1; omega) rfl
  · rw [bind_error (demand_false (decide_eq_false (mt (and_congr hmax hechoes).mp hvalid)) _)]
    refine hrefused _ (fun hs => hvalid ⟨hs.2.2.2, hs.1⟩) (fun hn => hvalid ⟨?_, hn.1⟩) rfl
    rw [hn.2.2]
    omega

lemma exchangeFrames_calm (hcalm : ∀ t ∈ turns, Calm t) :
    Comes op stream turns (1024 * 1024 + 32) (exchangeFrames op () ⟨stream, turns⟩) := by
  unfold exchangeFrames
  rcases send_calm (request op) hcalm with ⟨⟨s, hwait⟩, hfew⟩ | ⟨turns₁, hcalm₁, hmoves₁, hsend⟩
  · rw [bind_error hwait]
    refine .inl ⟨⟨s, rfl⟩, ?_⟩
    rw [show (request op).length = 16 from rfl] at hfew
    omega
  rw [bind_ok hsend]
  rw [show (request op).length = 16 from rfl] at hmoves₁
  rcases @recv_calm stream turns₁ 16 hcalm₁ with ⟨⟨s, hwait⟩, hfew⟩ | ⟨turns₂, hcalm₂, hmoves₂, hrecv⟩
  · rw [bind_error hwait]
    exact .inl ⟨⟨s, rfl⟩, by omega⟩
  by_cases hshort : stream.length < 16
  · rw [if_neg (by omega)] at hrecv
    rw [bind_error hrecv]
    refine .inr ⟨_, _, turns₂, .short hshort, ?_⟩
    rw [List.drop_eq_nil_of_le (by omega), List.drop_eq_nil_of_le le_rfl]
    rfl
  rw [if_pos (by omega)] at hrecv
  rw [bind_ok hrecv]
  exact header_calm (by omega) rfl (by omega) hcalm₂

end Exchange

section Outcomes

variable {op : UInt32} {stream : List UInt8} {outcome outcome' : Except Raised (List UInt8)} {n n' : ℕ}

lemma Success.not_negative (h : Success op stream) : ¬ Negative op stream := by
  intro hn
  have hsome := h.2.2.1
  have hnone := hn.2.2
  omega

lemma Framed.unique (h : Framed op stream outcome n) (h' : Framed op stream outcome' n') :
    outcome = outcome' ∧ n = n' := by
  have hsuccess : Success op stream → 16 ≤ stream.length := fun h => h.1.1
  have hnegative : Negative op stream → 16 ≤ stream.length := fun h => h.1.1
  have hboth : Success op stream → ¬ Negative op stream := Success.not_negative
  cases h with
  | short hs => cases h' <;> first | exact ⟨rfl, rfl⟩ | (exfalso; grind)
  | cut hs hl => cases h' <;> first | exact ⟨rfl, rfl⟩ | (exfalso; grind)
  | whole hs hl => cases h' <;> first | exact ⟨rfl, rfl⟩ | (exfalso; grind)
  | negative code hn hc =>
    cases h' with
    | negative code' _ hc' =>
      obtain rfl : code = code' := Subtype.ext (hc.trans hc'.symm)
      exact ⟨rfl, rfl⟩
    | short | cut | whole | refused => exfalso; grind
  | refused hl hs hn => cases h' <;> first | exact ⟨rfl, rfl⟩ | (exfalso; grind)

lemma exists_framed (op : UInt32) (stream : List UInt8) : ∃ outcome n, Framed op stream outcome n := by
  by_cases hshort : stream.length < 16
  · exact ⟨_, _, .short hshort⟩
  · by_cases hs : Success op stream
    · by_cases hl : stream.length < 16 + lengthWord stream
      · exact ⟨_, _, .cut hs hl⟩
      · exact ⟨_, _, .whole hs (by omega)⟩
    · by_cases hn : Negative op stream
      · obtain ⟨_, hresult, _⟩ := @header_words op stream (by omega)
        refine ⟨_, _, .negative (resultCode (u32 ((stream.take 16).drop 12))) hn ?_⟩
        rw [← hresult]
        rfl
      · exact ⟨_, _, .refused (by omega) hs hn⟩

lemma Framed.ok_iff (h : Framed op stream outcome n) :
    (∃ body, outcome = .ok body) ↔ Success op stream ∧ 16 + lengthWord stream ≤ stream.length := by
  cases h with
  | short hs => exact iff_of_false (fun ⟨_, h⟩ => nomatch h) fun h => by omega
  | cut hs hl => exact iff_of_false (fun ⟨_, h⟩ => nomatch h) fun h => by omega
  | whole hs hl => exact iff_of_true ⟨_, rfl⟩ ⟨hs, hl⟩
  | negative code hn _ => exact iff_of_false (fun ⟨_, h⟩ => nomatch h) fun h => h.1.not_negative hn
  | refused hl hs hn => exact iff_of_false (fun ⟨_, h⟩ => nomatch h) fun h => hs h.1

end Outcomes

section Query

variable {parser : List UInt8 → Parsed} {op : UInt32} {stream : List UInt8} {turns : List Turn} {path : String}

def ValidPath (path : String) : Prop :=
  path ≠ "" ∧ path.utf8ByteSize < 108 ∧ path.toList.contains (Char.ofNat 0) = false

lemma ValidPath.not_refused (h : ValidPath path) :
    ¬ (path = "" ∨ 108 ≤ path.utf8ByteSize ∨ path.toList.contains (Char.ofNat 0)) := by
  obtain ⟨hempty, hlong, hnul⟩ := h
  rw [hnul]
  rintro (h | h | h)
  · exact hempty h
  · omega
  · cases h

lemma queryFrames_open (hpath : ValidPath path) (s : Socket) : queryFrames parser path op none () s =
    match exchangeFrames op () s with
    | (.ok body, s) => ((parser body).result.mapError .raised, s)
    | (.error e, s) => (.error e, s) := by
  rw [queryFrames, if_neg hpath.not_refused]
  rcases h : exchangeFrames op () s with ⟨e | body, s'⟩
  · exact bind_error h
  · dsimp only
    rw [bind_ok h]
    cases (parser body).result <;> rfl

def headerOf (h : List UInt8) : Header where
  length := u32 h
  magic := u32 (h.drop 4)
  version := (h.getD 8 0).toUInt16 <<< 8 ||| (h.getD 9 0).toUInt16
  reserved := h.getD 10 0
  op := h.getD 11 0
  result := u32 (h.drop 12)

def Parsed.body : Parsed → Body
  | .invalid => .invalid
  | .tooDeep => .tooDeep
  | .document j => .document j

variable (parser) in
/-- A whole stream as one answer. -/
def exchangeOf (stream : List UInt8) : Exchange :=
  if stream.length < 16 then .failed 104
  else .answered (headerOf (stream.take 16))
    (if stream.length < 16 + lengthWord stream then .cut 104
      else (parser ((stream.drop 16).take (lengthWord stream))).body)

lemma version_iff (a b : UInt8) : a.toUInt16 <<< 8 ||| b.toUInt16 = 1 ↔ a = 0 ∧ b = 1 := by
  have ha := a.toNat_lt
  have hb := b.toNat_lt
  have hmod : a.toNat <<< 8 % 2 ^ 16 = a.toNat <<< 8 := by
    rw [Nat.shiftLeft_eq]
    omega
  rw [← UInt16.toNat_inj, ← UInt8.toNat_inj, ← UInt8.toNat_inj, UInt16.toNat_or, UInt16.toNat_shiftLeft,
    UInt8.toNat_toUInt16, UInt8.toNat_toUInt16]
  change a.toNat <<< 8 % 2 ^ 16 ||| b.toNat = 1 ↔ a.toNat = 0 ∧ b.toNat = 1
  rw [hmod, ← Nat.shiftLeft_add_eq_or_of_lt hb, Nat.shiftLeft_eq]
  omega

lemma headerOf_valid (op : UInt8) (h : 16 ≤ stream.length) :
    ((headerOf (stream.take 16)).length ≤ maxBody ∧ (headerOf (stream.take 16)).magic = 0x4b43464c ∧
      (headerOf (stream.take 16)).version = 1 ∧ (headerOf (stream.take 16)).reserved = 0 ∧
        (headerOf (stream.take 16)).op = op) ↔
    lengthWord stream ≤ 1024 * 1024 ∧ Echoes op.toUInt32 stream := by
  obtain ⟨hlength, -, hechoes⟩ := @header_words op.toUInt32 stream h
  have hmax : u32 (stream.take 16) ≤ maxBody ↔ lengthWord stream ≤ 1024 * 1024 := by
    rw [UInt32.le_iff_toNat_le, hlength]
    rfl
  rw [← hechoes]
  refine and_congr hmax (and_congr Iff.rfl ?_)
  match stream, h with
  | a₀ :: a₁ :: a₂ :: a₃ :: m₀ :: m₁ :: m₂ :: m₃ :: v₀ :: v₁ :: o₀ :: o₁ :: r₀ :: r₁ :: r₂ :: r₃ :: rest, h =>
    have hop : o₁.toUInt32 = op.toUInt32 ↔ o₁ = op := UInt8.toUInt32_inj
    simp [headerOf, version_iff, hop, and_assoc]

lemma require_true {b : Bool} (h : b = true) : require b = .ok () := by rw [require, if_pos h]

lemma require_false {b : Bool} (h : b = false) : require b = .error eproto := by
  rw [require, if_neg (by rw [h]; exact Bool.false_ne_true)]

/-- The query of the client, on the stream as one answer. -/
lemma query_exchangeOf (op : UInt8) (hpath : ValidPath path) {outcome : Except Raised (List UInt8)} {n : ℕ}
    (h : Framed op.toUInt32 stream outcome n) :
    query path op (exchangeOf parser stream) = outcome >>= fun body => (parser body).result := by
  rw [query.eq_def, if_neg hpath.not_refused]
  by_cases hshort : stream.length < 16
  · obtain ⟨rfl, -⟩ := h.unique (.short hshort)
    rw [exchangeOf, if_pos hshort]
    rfl
  rw [exchangeOf, if_neg hshort]
  dsimp only
  have hvalid := headerOf_valid op (show 16 ≤ stream.length by omega)
  obtain ⟨hlength, hresult, -⟩ := @header_words op.toUInt32 stream (by omega)
  have hzero : (headerOf (stream.take 16)).result ≠ 0 ↔ resultWord stream ≠ 0 := by
    rw [← hresult, ne_eq, ← UInt32.toNat_inj]
    rfl
  have hcode : ((0x80000000 : UInt32) ≤ (headerOf (stream.take 16)).result ∧
      (headerOf (stream.take 16)).length = 0) ↔
      2 ^ 31 ≤ resultWord stream ∧ lengthWord stream = 0 := by
    rw [UInt32.le_iff_toNat_le, ← UInt32.toNat_inj, ← hresult, ← hlength]
    rfl
  have hsome : (0 : UInt32) < (headerOf (stream.take 16)).length ↔ 0 < lengthWord stream := by
    rw [UInt32.lt_iff_toNat_lt, ← hlength]
    rfl
  cases h with
  | short hs => exact absurd hs hshort
  | cut hs hl =>
    rw [require_true (decide_eq_true (hvalid.mpr ⟨hs.2.2.2, hs.1⟩)), if_neg (mt hzero.mp (not_not.mpr hs.2.1)),
      require_true (decide_eq_true (hsome.mpr hs.2.2.1)), if_pos hl]
    rfl
  | whole hs hl =>
    rw [require_true (decide_eq_true (hvalid.mpr ⟨hs.2.2.2, hs.1⟩)), if_neg (mt hzero.mp (not_not.mpr hs.2.1)),
      require_true (decide_eq_true (hsome.mpr hs.2.2.1)), if_neg (Nat.not_lt.mpr hl)]
    cases hp : parser ((stream.drop 16).take (lengthWord stream)) with
    | invalid | tooDeep | document => simp only [bind, Except.bind, hp]; rfl
  | negative code hn hc =>
    have hnonzero : resultWord stream ≠ 0 := by
      have := hn.2.1
      omega
    obtain rfl : code = resultCode (headerOf (stream.take 16)).result := by
      apply Subtype.ext
      rw [hc, ← hresult]
      rfl
    rw [require_true (decide_eq_true (hvalid.mpr ⟨by rw [hn.2.2]; omega, hn.1⟩)), if_pos (hzero.mpr hnonzero),
      require_true (decide_eq_true (hcode.mpr hn.2))]
    rfl
  | refused hl hs hn =>
    by_cases hv : lengthWord stream ≤ 1024 * 1024 ∧ Echoes op.toUInt32 stream
    · rw [require_true (decide_eq_true (hvalid.mpr hv))]
      by_cases hr : resultWord stream = 0
      · rw [if_neg (mt hzero.mp (not_not.mpr hr)),
          require_false (decide_eq_false (mt hsome.mp fun hb => hs ⟨hv.2, hr, hb, hv.1⟩))]
        rfl
      · rw [if_pos (hzero.mpr hr), require_false (decide_eq_false (mt hcode.mp fun hc => hn ⟨hv.2, hc⟩))]
        rfl
    · rw [require_false (decide_eq_false (mt hvalid.mp hv))]
      rfl

end Query

/-- The outcome of a query is that of the frame of the whole stream, however the stream arrives. -/
theorem framing_exact (op : UInt32) (stream : List UInt8) :
    ∃ outcome n, Framed op stream outcome n ∧
      (∀ outcome' n', Framed op stream outcome' n' → outcome' = outcome ∧ n' = n) ∧
      ((∃ body, outcome = .ok body) ↔ Success op stream ∧ 16 + lengthWord stream ≤ stream.length) ∧
      ∀ (parser : List UInt8 → Parsed) (path : String), ValidPath path →
        (∀ turns, (∀ t ∈ turns, Calm t) →
          ((∃ rest, queryFrames parser path op none () ⟨stream, turns⟩ =
              ((outcome >>= fun body => (parser body).result).mapError .raised, ⟨stream.drop n, rest⟩)) ∨
            (∃ s, queryFrames parser path op none () ⟨stream, turns⟩ = (.error .waiting, s)) ∧
              moves turns < 1024 * 1024 + 32)) ∧
        ∀ op' : UInt8, op = op'.toUInt32 →
          query path op' (exchangeOf parser stream) = outcome >>= fun body => (parser body).result := by
  obtain ⟨outcome, n, h⟩ := exists_framed op stream
  refine ⟨outcome, n, h, fun _ _ h' => h'.unique h, h.ok_iff, fun parser path hpath => ⟨?_, ?_⟩⟩
  · intro turns hcalm
    rw [queryFrames_open hpath]
    rcases @exchangeFrames_calm op stream turns hcalm with ⟨⟨s, hwait⟩, hfew⟩ | ⟨outcome', n', rest, h', hdone⟩
    · rw [hwait]
      exact .inr ⟨⟨s, rfl⟩, hfew⟩
    · obtain ⟨rfl, rfl⟩ := h'.unique h
      rw [hdone]
      refine .inl ⟨rest, ?_⟩
      cases outcome' <;> rfl
  · rintro op' rfl
    exact query_exchangeOf op' hpath h

end KcfTools.LocalGateway
