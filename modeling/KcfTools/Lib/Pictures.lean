import Mathlib

/-! Boxes in the plane, and pictures that grow by parts: boxes that stand apart, and frames around some of
them. -/

namespace KcfTools.Pictures

structure Box where
  left : ℤ
  top : ℤ
  width : ℤ
  height : ℤ
deriving DecidableEq

namespace Box

def right (b : Box) : ℤ := b.left + b.width

def bottom (b : Box) : ℤ := b.top + b.height

end Box

def Apart (a b : Box) : Prop := a.right < b.left ∨ b.right < a.left ∨ a.bottom < b.top ∨ b.bottom < a.top

instance (a b : Box) : Decidable (Apart a b) := by
  unfold Apart
  infer_instance

def Within (a b : Box) : Prop := b.left ≤ a.left ∧ a.right ≤ b.right ∧ b.top ≤ a.top ∧ a.bottom ≤ b.bottom

lemma Apart.symm {a b : Box} (h : Apart a b) : Apart b a := by
  unfold Apart at h ⊢
  omega

structure Picture (ι κ : Type*) where
  boxes : List (ι × Box) := []
  frames : List (κ × Box) := []

variable {ι κ σ α : Type*}

namespace Picture

def append (p q : Picture ι κ) : Picture ι κ := ⟨p.boxes ++ q.boxes, p.frames ++ q.frames⟩

instance : Append (Picture ι κ) := ⟨append⟩

def frame (p : Picture ι κ) (k : κ) (f : Box) : Picture ι κ := { p with frames := p.frames ++ [(k, f)] }

def box (i : ι) (b : Box) : Picture ι κ := { boxes := [(i, b)] }

variable {p q r : Picture ι κ}

@[simp] lemma boxes_append : (p ++ q).boxes = p.boxes ++ q.boxes := rfl

@[simp] lemma frames_append : (p ++ q).frames = p.frames ++ q.frames := rfl

lemma append_assoc (p q r : Picture ι κ) : p ++ q ++ r = p ++ (q ++ r) := by
  change mk _ _ = mk _ _
  simp

lemma append_empty (p : Picture ι κ) : p ++ {} = p := by
  change mk _ _ = p
  simp

lemma frame_append (p q : Picture ι κ) (k : κ) (f : Box) : (p ++ q).frame k f = p ++ q.frame k f := by
  change mk _ _ = mk _ _
  simp [frame]

/-- What a condition on boxes and one on frames say about a whole picture. -/
structure All (B : ι → Box → Prop) (F : κ → Box → Prop) (p : Picture ι κ) : Prop where
  boxes : ∀ b ∈ p.boxes, B b.1 b.2
  frames : ∀ f ∈ p.frames, F f.1 f.2

variable {B B' : ι → Box → Prop} {F F' : κ → Box → Prop}

lemma All.empty : All B F {} := ⟨by simp, by simp⟩

lemma All.append (hp : All B F p) (hq : All B F q) : All B F (p ++ q) := by
  refine ⟨fun b hb => ?_, fun f hf => ?_⟩
  · rcases List.mem_append.mp hb with hb | hb
    · exact hp.boxes b hb
    · exact hq.boxes b hb
  · rcases List.mem_append.mp hf with hf | hf
    · exact hp.frames f hf
    · exact hq.frames f hf

lemma All.mono (h : All B F p) (hB : ∀ i b, B i b → B' i b) (hF : ∀ k f, F k f → F' k f) : All B' F' p :=
  ⟨fun b hb => hB _ _ (h.boxes b hb), fun f hf => hF _ _ (h.frames f hf)⟩

lemma All.box {i : ι} {b : Box} (h : B i b) : All B F (Picture.box i b) :=
  ⟨fun c hc => by rwa [List.mem_singleton.mp hc], fun f hf => absurd hf List.not_mem_nil⟩

lemma All.frame (h : All B F p) {k : κ} {f : Box} (hf : F k f) : All B F (p.frame k f) := by
  refine ⟨h.boxes, fun g hg => ?_⟩
  rcases List.mem_append.mp hg with hg | hg
  · exact h.frames g hg
  · rwa [List.mem_singleton.mp hg]

/-- Everything in the picture stands between two heights. -/
def Spans (lo hi : ℤ) : Picture ι κ → Prop :=
  All (fun _ b => lo ≤ b.top ∧ b.bottom < hi) fun _ f => lo ≤ f.top ∧ f.bottom < hi

lemma Spans.mono {lo hi lo' hi' : ℤ} (h : Spans lo hi p) (hlo : lo' ≤ lo) (hhi : hi ≤ hi') : Spans lo' hi' p :=
  All.mono h (fun _ _ h => ⟨hlo.trans h.1, h.2.trans_le hhi⟩) fun _ _ h => ⟨hlo.trans h.1, h.2.trans_le hhi⟩

/-- Nothing in the one picture touches anything in the other. -/
def Across (p q : Picture ι κ) : Prop :=
  All (fun _ a => All (fun _ b => Apart a b) (fun _ b => Apart a b) q)
    (fun _ a => All (fun _ b => Apart a b) (fun _ b => Apart a b) q) p

lemma across_of_spans {lo mid hi : ℤ} (hp : Spans lo mid p) (hq : Spans mid hi q) : Across p q := by
  have hbelow : ∀ a b : Box, a.bottom < mid → mid ≤ b.top → Apart a b :=
    fun a b ha hb => .inr (.inr (.inl (ha.trans_le hb)))
  exact All.mono hp (fun _ a ha => All.mono hq (fun _ b hb => hbelow a b ha.2 hb.1)
      fun _ b hb => hbelow a b ha.2 hb.1)
    fun _ a ha => All.mono hq (fun _ b hb => hbelow a b ha.2 hb.1) fun _ b hb => hbelow a b ha.2 hb.1

lemma across_of_columns {x : ℤ} (hp : All (fun _ b => b.right < x) (fun _ f => f.right < x) p)
    (hq : All (fun _ b => x ≤ b.left) (fun _ f => x ≤ f.left) q) : Across p q := by
  have hbeside : ∀ a b : Box, a.right < x → x ≤ b.left → Apart a b := fun a b ha hb => .inl (ha.trans_le hb)
  exact All.mono hp (fun _ a ha => All.mono hq (fun _ b hb => hbeside a b ha hb)
      fun _ b hb => hbeside a b ha hb)
    fun _ a ha => All.mono hq (fun _ b hb => hbeside a b ha hb) fun _ b hb => hbeside a b ha hb

end Picture

open Picture

variable (owns : κ → ι → Prop) (covers : κ → κ → Prop)

/-- Boxes stand apart. A frame holds what it owns and no part of anything else, and one frame may hold an
earlier one. -/
structure Orderly (p : Picture ι κ) : Prop where
  boxes : p.boxes.Pairwise fun a b => Apart a.2 b.2
  frames : p.frames.Pairwise fun f g => Apart f.2 g.2 ∨ covers g.1 f.1 ∧ Within f.2 g.2
  held : ∀ f ∈ p.frames, ∀ b ∈ p.boxes, Apart b.2 f.2 ∨ owns f.1 b.1 ∧ Within b.2 f.2

variable {owns covers} {p q r : Picture ι κ} {B : ι → Box → Prop} {F : κ → Box → Prop}

lemma Orderly.empty : Orderly owns covers ({} : Picture ι κ) := ⟨.nil, .nil, by simp⟩

lemma Orderly.box (i : ι) (b : Box) : Orderly owns covers (Picture.box i b) :=
  ⟨List.pairwise_singleton _ _, .nil, by simp [Picture.box]⟩

lemma Orderly.append (hp : Orderly owns covers p) (hq : Orderly owns covers q) (h : Across p q) :
    Orderly owns covers (p ++ q) where
  boxes := List.pairwise_append.mpr ⟨hp.boxes, hq.boxes, fun a ha b hb => (h.boxes a ha).boxes b hb⟩
  frames := List.pairwise_append.mpr
    ⟨hp.frames, hq.frames, fun a ha b hb => .inl ((h.frames a ha).frames b hb)⟩
  held := by
    intro f hf b hb
    rcases List.mem_append.mp hf with hf | hf
    · rcases List.mem_append.mp hb with hb | hb
      · exact hp.held f hf b hb
      · exact .inl ((h.frames f hf).boxes b hb).symm
    · rcases List.mem_append.mp hb with hb | hb
      · exact .inl ((h.boxes b hb).frames f hf)
      · exact hq.held f hf b hb

lemma Orderly.frame (hp : Orderly owns covers p) {k : κ} {f : Box}
    (h : All (fun i b => owns k i ∧ Within b f) (fun l g => covers k l ∧ Within g f) p) :
    Orderly owns covers (p.frame k f) where
  boxes := hp.boxes
  frames := List.pairwise_append.mpr ⟨hp.frames, List.pairwise_singleton _ _, fun g hg l hl => by
    obtain rfl := List.mem_singleton.mp hl
    exact .inr (h.frames g hg)⟩
  held := by
    intro g hg b hb
    rcases List.mem_append.mp hg with hg | hg
    · exact hp.held g hg b hb
    · obtain rfl := List.mem_singleton.mp hg
      exact .inr (h.boxes b hb)

variable (owns covers B F) in
/-- One picture becomes another one by an orderly part between two heights. -/
def Grows (lo hi : ℤ) (p p' : Picture ι κ) : Prop :=
  lo ≤ hi ∧ ∃ q, p' = p ++ q ∧ Orderly owns covers q ∧ Spans lo hi q ∧ All B F q

lemma Grows.refl (lo : ℤ) (p : Picture ι κ) : Grows owns covers B F lo lo p p :=
  ⟨le_rfl, {}, (append_empty p).symm, .empty, All.empty, All.empty⟩

lemma Grows.box {lo hi : ℤ} {i : ι} {b : Box} (hlo : lo ≤ b.top) (hhi : b.bottom < hi) (hle : lo ≤ hi)
    (hB : B i b) : Grows owns covers B F lo hi p (p ++ Picture.box i b) :=
  ⟨hle, _, rfl, .box i b, All.box ⟨hlo, hhi⟩, All.box hB⟩

lemma Grows.trans {lo mid hi : ℤ} (h : Grows owns covers B F lo mid p q)
    (h' : Grows owns covers B F mid hi q r) :
    Grows owns covers B F lo hi p r := by
  obtain ⟨hle, e, rfl, ho, hs, ha⟩ := h
  obtain ⟨hle', e', rfl, ho', hs', ha'⟩ := h'
  exact ⟨hle.trans hle', e ++ e', append_assoc p e e', ho.append ho' (across_of_spans hs hs'),
    (hs.mono le_rfl hle').append (hs'.mono hle le_rfl), ha.append ha'⟩

lemma Grows.mono {lo hi : ℤ} {B' : ι → Box → Prop} {F' : κ → Box → Prop} (h : Grows owns covers B F lo hi p q)
    (hB : ∀ i b, B i b → B' i b) (hF : ∀ k f, F k f → F' k f) : Grows owns covers B' F' lo hi p q := by
  obtain ⟨hle, e, rfl, ho, hs, ha⟩ := h
  exact ⟨hle, e, rfl, ho, hs, ha.mono hB hF⟩

/-- A frame around all that has been drawn since. -/
lemma Grows.frame {lo lo' mid hi : ℤ} {B' : ι → Box → Prop} {F' : κ → Box → Prop} {k : κ} {f : Box}
    (h : Grows owns covers B F lo mid p q) (hlo : lo' ≤ lo) (hmid : mid ≤ hi) (hf : lo' ≤ f.top ∧ f.bottom < hi)
    (hboxes : ∀ i b, lo ≤ b.top → b.bottom < mid → B i b → (owns k i ∧ Within b f) ∧ B' i b)
    (hframes : ∀ l g, lo ≤ g.top → g.bottom < mid → F l g → (covers k l ∧ Within g f) ∧ F' l g)
    (hF' : F' k f) : Grows owns covers B' F' lo' hi p (q.frame k f) := by
  obtain ⟨hle, e, rfl, ho, hs, ha⟩ := h
  have hb : ∀ b ∈ e.boxes, (owns k b.1 ∧ Within b.2 f) ∧ B' b.1 b.2 := fun b hb =>
    hboxes _ _ (hs.boxes b hb).1 (hs.boxes b hb).2 (ha.boxes b hb)
  have hg : ∀ g ∈ e.frames, (covers k g.1 ∧ Within g.2 f) ∧ F' g.1 g.2 := fun g hg =>
    hframes _ _ (hs.frames g hg).1 (hs.frames g hg).2 (ha.frames g hg)
  refine ⟨(hlo.trans hle).trans hmid, e.frame k f, frame_append p e k f, ho.frame ?_, ?_, ?_⟩
  · exact ⟨fun b hb' => (hb b hb').1, fun g hg' => (hg g hg').1⟩
  · exact All.frame (hs.mono hlo hmid) hf
  · exact All.frame ⟨fun b hb' => (hb b hb').2, fun g hg' => (hg g hg').2⟩ hF'

/-- A loop whose passes draw one below the other. -/
lemma grows_foldl {f : σ → α → σ} (picture : σ → Picture ι κ) (low : σ → ℤ) {l : List α}
    (hf : ∀ s, ∀ a ∈ l, Grows owns covers B F (low s) (low (f s a)) (picture s) (picture (f s a))) (s : σ) :
    Grows owns covers B F (low s) (low (l.foldl f s)) (picture s) (picture (l.foldl f s)) := by
  induction l generalizing s with
  | nil => exact .refl _ _
  | cons a l ih =>
    exact (hf s a (by simp)).trans (ih (fun s b hb => hf s b (by simp [hb])) (f s a))

lemma Grows.orderly {lo hi : ℤ} (h : Grows owns covers B F lo hi {} p) : Orderly owns covers p ∧ All B F p := by
  obtain ⟨-, e, rfl, ho, -, ha⟩ := h
  have he : ({} : Picture ι κ) ++ e = e := rfl
  rw [he]
  exact ⟨ho, ha⟩

section Frames

variable {holds : κ → ι → Prop} {loose loose' : ι → Box → Prop} {outer : κ → Prop} {lo mid : ℤ} {k : κ}
    {f : Box}

variable (holds) in
/-- Every box that is not loose stands in a frame that holds it. -/
def Framed (loose : ι → Box → Prop) (p : Picture ι κ) : Prop :=
  ∀ b ∈ p.boxes, loose b.1 b.2 ∨ ∃ f ∈ p.frames, holds f.1 b.1 ∧ Within b.2 f.2

variable (covers) in
/-- Every frame stands in one that covers it, or it is an outer one. -/
def Nested (outer : κ → Prop) (p : Picture ι κ) : Prop :=
  ∀ f ∈ p.frames, outer f.1 ∨ ∃ g ∈ p.frames, covers g.1 f.1 ∧ Within f.2 g.2

lemma Framed.box (h : Framed holds loose p) {i : ι} {b : Box} (hb : loose i b) :
    Framed holds loose (p ++ Picture.box i b) := by
  intro c hc
  rcases List.mem_append.mp hc with hc | hc
  · exact (h c hc).imp_right fun ⟨g, hg, hh⟩ => ⟨g, List.mem_append_left _ hg, hh⟩
  · rw [List.mem_singleton.mp hc]
    exact .inl hb

lemma Framed.mono (h : Framed holds loose p) (hl : ∀ i b, loose i b → loose' i b) : Framed holds loose' p :=
  fun b hb => (h b hb).imp_left (hl b.1 b.2)

/-- A frame around the boxes that are still loose. -/
lemma Framed.close (h : Framed holds loose' p)
    (hl : ∀ i b, loose' i b → loose i b ∨ holds k i ∧ Within b f) : Framed holds loose (p.frame k f) := by
  intro b hb
  rcases h b hb with hloose | ⟨g, hg, hh⟩
  · exact (hl _ _ hloose).imp_right fun hheld => ⟨(k, f), List.mem_append_right _ List.mem_cons_self, hheld⟩
  · exact .inr ⟨g, List.mem_append_left _ hg, hh⟩

/-- A frame around all that has been drawn since. -/
lemma Framed.frame (h : Framed holds loose p) (hg : Grows owns covers B F lo mid p q)
    (hboxes : ∀ i b, lo ≤ b.top → b.bottom < mid → B i b → holds k i ∧ Within b f) :
    Framed holds loose (q.frame k f) := by
  obtain ⟨-, e, rfl, -, hs, ha⟩ := hg
  intro b hb
  rcases List.mem_append.mp hb with hb | hb
  · refine (h b hb).imp_right fun ⟨g, hg, hh⟩ => ⟨g, List.mem_append_left _ (List.mem_append_left _ hg), hh⟩
  · exact .inr ⟨(k, f), List.mem_append_right _ List.mem_cons_self,
      hboxes _ _ (hs.boxes b hb).1 (hs.boxes b hb).2 (ha.boxes b hb)⟩

lemma Nested.box (h : Nested covers outer p) (i : ι) (b : Box) :
    Nested covers outer (p ++ Picture.box i b) := by
  intro f hf
  rw [Picture.frames_append, Picture.box, List.append_nil] at hf ⊢
  exact h f hf

lemma Nested.frame (h : Nested covers outer p) (hg : Grows owns covers B F lo mid p q)
    (hframes : ∀ l g, lo ≤ g.top → g.bottom < mid → F l g → covers k l ∧ Within g f) (hk : outer k) :
    Nested covers outer (q.frame k f) := by
  obtain ⟨-, e, rfl, -, hs, ha⟩ := hg
  intro g hg
  rcases List.mem_append.mp hg with hg | hg
  · rcases List.mem_append.mp hg with hg | hg
    · exact (h g hg).imp_right fun ⟨l, hl, hc⟩ => ⟨l, List.mem_append_left _ (List.mem_append_left _ hl), hc⟩
    · exact .inr ⟨(k, f), List.mem_append_right _ List.mem_cons_self,
        hframes _ _ (hs.frames g hg).1 (hs.frames g hg).2 (ha.frames g hg)⟩
  · rw [List.mem_singleton.mp hg]
    exact .inl hk

end Frames

end KcfTools.Pictures
