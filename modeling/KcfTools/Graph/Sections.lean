import KcfTools.Lib.Transitions
import KcfTools.Graph.Layout
import KcfTools.Graph.WholeGraph

/-! Boxes of the graph view stand apart, and frames hold the nodes of their own section. -/

namespace KcfTools.Graph

open Pictures Transitions

variable {model : GraphModel} {chosen : String} {d : Drawing}

def Section.Owns (model : GraphModel) : Section → GraphNode → Prop
  | .application g, n => n.group = g.id
  | .host h, n => n = h ∨ ∃ g ∈ model.groups, g.host = h.host ∧ n.group = g.id

def Section.Covers : Section → Section → Prop
  | .host h, .application g => g.host = h.host
  | _, _ => False

/-- What stands directly in the frame. -/
def Section.Holds : Section → GraphNode → Prop
  | .application g, n => n.group = g.id
  | .host h, n => n = h

/-- Local applications and Hosts. -/
def Section.Outer : Section → Prop
  | .application g => g.host = ""
  | .host _ => True

/-- A local endpoint, which no frame is drawn around. -/
def Loose (n : GraphNode) : Prop := n.host = "" ∧ n.kind ≠ .element

/-- The part between two drawings, ten above their cursors. -/
def Drawn (model : GraphModel) (B : GraphNode → Box → Prop) (F : Section → Box → Prop)
    (d d' : Drawing) : Prop :=
  Grows (Section.Owns model) Section.Covers B F (d.y - 10) (d'.y - 10) d.picture d'.picture

lemma drawn_foldl {α : Type} {B : GraphNode → Box → Prop} {F : Section → Box → Prop}
    {f : Drawing → α → Drawing} {l : List α} (hf : ∀ d, ∀ a ∈ l, Drawn model B F d (f d a)) (d : Drawing) :
    Drawn model B F d (l.foldl f d) :=
  grows_foldl Drawing.picture (fun d => d.y - 10) hf d

/-- A drawing with a frame around all that it has more than the one before. -/
structure Enclosed (model : GraphModel) (B : GraphNode → Box → Prop) (s : Section) (d d' : Drawing)
    (q : Picture GraphNode Section) (low mid : ℤ) (f : Box) : Prop where
  picture : d'.picture = q.frame s f
  grows : Grows (Section.Owns model) Section.Covers B (fun _ _ => False) low mid d.picture q
  lower : d.y - 10 ≤ low
  upper : mid ≤ d'.y - 10
  spans : d.y - 10 ≤ f.top ∧ f.bottom < d'.y - 10
  within : ∀ n b, low ≤ b.top → b.bottom < mid → B n b → Within b f

section Enclosed

variable {B B' : GraphNode → Box → Prop} {F : Section → Box → Prop} {group : GraphGroup} {d' : Drawing}
  {q : Picture GraphNode Section} {low mid : ℤ} {f : Box} {loose : GraphNode → Box → Prop}

lemma Enclosed.drawn (h : Enclosed model B (.application group) d d' q low mid f)
    (hB : ∀ n b, B n b → n.group = group.id ∧ B' n b) (hF : F (.application group) f) :
    Drawn model B' F d d' := by
  unfold Drawn
  rw [h.picture]
  exact Grows.frame h.grows h.lower h.upper h.spans
    (fun n b htop hbottom hb => ⟨⟨(hB n b hb).1, h.within n b htop hbottom hb⟩, (hB n b hb).2⟩)
    (fun _ _ _ _ hf => hf.elim) hF

lemma Enclosed.framed (h : Enclosed model B (.application group) d d' q low mid f)
    (hB : ∀ n b, B n b → n.group = group.id) (hf : Framed Section.Holds loose d.picture) :
    Framed Section.Holds loose d'.picture := by
  rw [h.picture]
  exact hf.frame h.grows fun n b htop hbottom hb => ⟨hB n b hb, h.within n b htop hbottom hb⟩

end Enclosed

section Local

def InColumn (group : GraphGroup) (n : GraphNode) (b : Box) : Prop :=
  n.group = group.id ∧ 20 ≤ b.left ∧ b.right ≤ 290

lemma drawElement_drawn (group : GraphGroup) (n : GraphNode) :
    Drawn model (InColumn group) (fun _ _ => False) d (drawElement group d n) := by
  unfold drawElement
  by_cases h : n.kind = .element ∧ n.group = group.id
  · rw [if_pos h]
    have hheight : (nodeBox n 20 d.y).bottom = d.y + 58 := by simp [Box.bottom, nodeBox, h.1]
    have hwidth : (nodeBox n 20 d.y).right = 290 := by simp [Box.right, nodeBox, h.1]
    refine Grows.box ?_ ?_ ?_ ⟨h.2, le_rfl, hwidth.le⟩
    · exact sub_le_self _ (by norm_num)
    · rw [hheight]
      simp only [Drawing.down, Drawing.nodeItem]
      omega
    · simp only [Drawing.down, Drawing.nodeItem]
      omega
  · rw [if_neg h]
    exact .refl _ _

lemma drawApplication_cases (group : GraphGroup) : drawApplication model chosen d group = d ∨
    group.host = "" ∧ ∃ q mid f, f.right < 600 ∧
      Enclosed model (InColumn group) (.application group) d (drawApplication model chosen d group) q
        (d.y + 30 - 10) mid f := by
  unfold drawApplication
  split_ifs with hhost hchosen
  · exact .inl rfl
  · exact .inl rfl
  · refine .inr ⟨not_not.mp hhost, ?_⟩
    set e := model.nodes.foldl (drawElement group) (d.down 30) with he
    have hgrows : Drawn model (InColumn group) (fun _ _ => False) (d.down 30) e :=
      drawn_foldl (fun _ n _ => drawElement_drawn group n) (d.down 30)
    -- the frame reaches four above the cursor, whether or not the section is empty
    have hframe : ∀ d' : Drawing, d'.picture = e.picture → e.y ≤ d'.y →
        Enclosed model (InColumn group) (.application group) d
          ((d'.frame (.application group) ⟨0, d.y - 8, 310, d'.y - d.y + 4⟩).down 24) e.picture (d.y + 30 - 10)
          (e.y - 10) ⟨0, d.y - 8, 310, d'.y - d.y + 4⟩ := by
      intro d' hpicture hy
      have hup : d.y + 30 - 10 ≤ e.y - 10 := hgrows.1
      refine ⟨by simp only [Drawing.down, Drawing.frame, hpicture], hgrows, by omega, ?_, ⟨?_, ?_⟩, ?_⟩
      · simp only [Drawing.down, Drawing.frame]
        omega
      · simp only
        omega
      · simp only [Box.bottom, Drawing.down, Drawing.frame]
        omega
      · rintro n b htop hbottom ⟨-, hleft, hright⟩
        simp only [Within, Box.right, Box.bottom] at hright hbottom ⊢
        omega
    by_cases hempty : e.y = d.y + 30
    · simp only [if_pos hempty]
      exact ⟨_, _, _, by norm_num [Box.right], hframe (e.down 30) rfl (by simp only [Drawing.down]; omega)⟩
    · simp only [if_neg hempty]
      exact ⟨_, _, _, by norm_num [Box.right], hframe e rfl le_rfl⟩

lemma drawApplication_drawn (group : GraphGroup) :
    Drawn model (fun _ b => b.right < 600) (fun _ f => f.right < 600) d
      (drawApplication model chosen d group) := by
  rcases @drawApplication_cases model chosen d group with h | ⟨-, q, mid, f, hf, h⟩
  · rw [h]
    exact .refl _ _
  · exact h.drawn (fun n b hb => ⟨hb.1, hb.2.2.trans_lt (by norm_num)⟩) hf

lemma drawEndpoint_grows (c : Column) (n : GraphNode) :
    Grows (Section.Owns model) Section.Covers (fun _ b => 600 ≤ b.left) (fun _ f => 600 ≤ f.left)
      (c.y - 10) ((drawEndpoint c n).y - 10) c.drawing.picture (drawEndpoint c n).drawing.picture := by
  unfold drawEndpoint
  split_ifs with h hkind
  · refine Grows.box ?_ ?_ ?_ le_rfl
    all_goals simp only [Box.bottom, nodeBox, if_neg h.2]; omega
  · refine Grows.box ?_ ?_ ?_ le_rfl
    all_goals simp only [Box.bottom, nodeBox, if_neg h.2]; omega
  · exact .refl _ _

lemma drawLocal_drawn : Drawn model (fun _ _ => True) (fun _ _ => True) {} (drawLocal model chosen) := by
  have hleft : Drawn model (fun _ b => b.right < 600) (fun _ f => f.right < 600) {}
      (model.groups.foldl (drawApplication model chosen) {}) :=
    drawn_foldl (fun _ g _ => drawApplication_drawn g) {}
  set d := model.groups.foldl (drawApplication model chosen) {} with hd
  have hright := grows_foldl (fun c : Column => c.drawing.picture) (fun c => c.y - 10) (l := model.nodes)
    (fun c n _ => @drawEndpoint_grows model c n) { drawing := d }
  obtain ⟨hle, e, he, ho, hs, ha⟩ := hleft
  obtain ⟨hle', e', he', ho', hs', ha'⟩ := hright
  have hacross : Picture.Across e e' := Picture.across_of_columns ha ha'
  simp only [Drawn, drawLocal]
  rw [← hd]
  refine ⟨?_, e ++ e', ?_, ho.append ho' hacross, Picture.All.append ?_ ?_,
    ⟨fun _ _ => trivial, fun _ _ => trivial⟩⟩
  · have h40 : (40 : ℤ) - 10 ≤ d.y - 10 := hle
    change (40 : ℤ) - 10 ≤ max d.y _ + 30 - 10
    omega
  · rw [he', he]
    rfl
  · exact hs.mono le_rfl (by omega)
  · exact hs'.mono le_rfl (by omega)

end Local

section Remote

/-- Nodes of an application are no headings. -/
def Grouped (model : GraphModel) : Prop :=
  ∀ n ∈ model.nodes, n.kind = .host → ∀ g ∈ model.groups, n.group ≠ g.id

/-- What the loop over an application's nodes has drawn below `base`, in its two columns. -/
structure Members (model : GraphModel) (group : GraphGroup) (base : Picture GraphNode Section) (top : ℤ)
    (c : Columns) : Prop where
  le : top ≤ c.drawing.y ∧ top ≤ c.right
  drawn : ∃ e : Picture GraphNode Section, c.drawing.picture = base ++ e ∧
    Orderly (Section.Owns model) Section.Covers e ∧
      e.All (fun n b => n.group = group.id ∧ top ≤ b.top ∧
        (30 ≤ b.left ∧ b.right ≤ 300 ∧ b.bottom + 20 < c.drawing.y ∨
          600 ≤ b.left ∧ b.right ≤ 840 ∧ b.bottom + 20 < c.right)) fun _ _ => False

lemma Members.place {group : GraphGroup} {base : Picture GraphNode Section} {top : ℤ} {c c' : Columns}
    {n : GraphNode} {b : Box} (h : Members model group base top c) (hn : n.group = group.id)
    (hpicture : c'.drawing.picture = c.drawing.picture ++ Picture.box n b)
    (hy : c.drawing.y ≤ c'.drawing.y) (hright : c.right ≤ c'.right)
    (hb : b.top = c.drawing.y ∧ 30 ≤ b.left ∧ b.right ≤ 300 ∧ b.bottom + 20 < c'.drawing.y ∨
      b.top = c.right ∧ 600 ≤ b.left ∧ b.right ≤ 840 ∧ b.bottom + 20 < c'.right) :
    Members model group base top c' := by
  obtain ⟨⟨htop, htop'⟩, e, he, ho, ha⟩ := h
  have hacross : Picture.Across e (Picture.box n b) := by
    refine ha.mono (fun m a hm => .box ?_) fun _ _ hf => hf.elim
    unfold Apart
    omega
  have hold : e.All (fun n b => n.group = group.id ∧ top ≤ b.top ∧
      (30 ≤ b.left ∧ b.right ≤ 300 ∧ b.bottom + 20 < c'.drawing.y ∨
        600 ≤ b.left ∧ b.right ≤ 840 ∧ b.bottom + 20 < c'.right)) fun _ _ => False :=
    ha.mono (fun m a hm => ⟨hm.1, hm.2.1, by omega⟩) fun _ _ hf => hf
  exact ⟨by omega, e ++ Picture.box n b, by rw [hpicture, he, Picture.append_assoc],
    ho.append (.box n b) hacross,
    hold.append (.box ⟨hn, by omega, by omega⟩)⟩

lemma Members.drawMember {group : GraphGroup} {base : Picture GraphNode Section} {top : ℤ} {c : Columns}
    {n : GraphNode} (h : Members model group base top c) (hn : n.group = group.id → n.kind ≠ .host) :
    Members model group base top (drawMember group c n) := by
  unfold Graph.drawMember
  split_ifs with hgroup helement
  · exact h
  · refine h.place (not_not.mp hgroup) rfl ?_ le_rfl (.inl ⟨rfl, le_rfl, ?_, ?_⟩)
    · simp [Drawing.down, Drawing.nodeItem]
    · simp [Box.right, nodeBox, helement]
    · simp only [Box.bottom, nodeBox, if_pos helement, Drawing.down, Drawing.nodeItem]
      omega
  · refine h.place (not_not.mp hgroup) rfl le_rfl ?_ (.inr ⟨rfl, le_rfl, ?_, ?_⟩)
    · simp
    · simp [Box.right, nodeBox, helement, hn (not_not.mp hgroup)]
    · simp only [Box.bottom, nodeBox, if_neg helement]
      omega

lemma members {group : GraphGroup} {base : Picture GraphNode Section} {top : ℤ} (l : List GraphNode)
    (hl : ∀ n ∈ l, n.group = group.id → n.kind ≠ .host) {c : Columns} (h : Members model group base top c) :
    Members model group base top (l.foldl (drawMember group) c) := by
  induction l generalizing c with
  | nil => exact h
  | cons n l ih => exact ih (fun m hm => hl m (by simp [hm])) (h.drawMember (hl n (by simp)))

/-- A node of the Host's section, within the section's frame. -/
def InSection (model : GraphModel) (host : String) (n : GraphNode) (b : Box) : Prop :=
  (∃ g ∈ model.groups, g.host = host ∧ n.group = g.id) ∧ 10 ≤ b.left ∧ b.right ≤ 860

/-- The frame of one of the Host's applications. -/
def InHost (host : String) (s : Section) (f : Box) : Prop :=
  (∃ g, s = .application g ∧ g.host = host) ∧ 10 ≤ f.left ∧ f.right ≤ 860

lemma drawRemoteApplication_cases (hgrouped : Grouped model) (host : String) {group : GraphGroup}
    (hgroup : group ∈ model.groups) : drawRemoteApplication model chosen host d group = d ∨
    group.host = host ∧ ∃ q mid f, 10 ≤ f.left ∧ f.right ≤ 860 ∧
      Enclosed model (fun n b => n.group = group.id ∧ 30 ≤ b.left ∧ b.right ≤ 840) (.application group) d
        (drawRemoteApplication model chosen host d group) q (d.y + 30 - 10) mid f := by
  unfold drawRemoteApplication
  split_ifs with hhost hchosen
  · exact .inl rfl
  · exact .inl rfl
  · refine .inr ⟨not_not.mp hhost, ?_⟩
    dsimp only
    have hstart : Members model group d.picture (d.y + 30) ⟨d.down 30, d.y + 30⟩ :=
      ⟨⟨le_rfl, le_rfl⟩, {}, (Picture.append_empty _).symm, .empty, .empty⟩
    have hmembers := members model.nodes (fun n hn hg hk => hgrouped n hn hk group hgroup hg) hstart
    set c := model.nodes.foldl (drawMember group) ⟨d.down 30, d.y + 30⟩ with hc
    obtain ⟨⟨hy, hright⟩, e, he, ho, ha⟩ := hmembers
    have hgrows : Grows (Section.Owns model) Section.Covers
        (fun n b => n.group = group.id ∧ 30 ≤ b.left ∧ b.right ≤ 840) (fun _ _ => False) (d.y + 30 - 10)
        (max c.drawing.y c.right - 10) d.picture c.drawing.picture := by
      refine ⟨by omega, e, he, ho, ha.mono (fun n b hb => ?_) fun _ _ hf => hf.elim,
        ha.mono (fun n b hb => ⟨hb.1, by omega, by omega⟩) fun _ _ hf => hf⟩
      omega
    refine ⟨_, _, _, le_rfl, by norm_num [Box.right], rfl, hgrows, by omega, ?_, ⟨?_, ?_⟩, ?_⟩
    · simp only [Drawing.down, Drawing.frame]
      omega
    · simp only
      omega
    · simp only [Box.bottom, Drawing.down, Drawing.frame]
      omega
    · rintro n b htop hbottom hb
      simp only [Within, Box.right, Box.bottom] at hb htop hbottom ⊢
      omega

lemma drawRemoteApplication_drawn (hgrouped : Grouped model) (host : String) {group : GraphGroup}
    (hgroup : group ∈ model.groups) :
    Drawn model (InSection model host) (InHost host) d (drawRemoteApplication model chosen host d group) := by
  rcases @drawRemoteApplication_cases model chosen d hgrouped host group hgroup with h |
    ⟨hhost, q, mid, f, hleft, hright, h⟩
  · rw [h]
    exact .refl _ _
  · exact h.drawn (fun n b hb => ⟨hb.1, ⟨group, hgroup, hhost, hb.1⟩, by omega, by omega⟩)
      ⟨⟨group, rfl, hhost⟩, hleft, hright⟩

/-- The heading of a Host, and the sections of its applications. -/
def hostSections (model : GraphModel) (chosen : String) (d : Drawing) (host : GraphNode) : Drawing :=
  model.groups.foldl (drawRemoteApplication model chosen host.host) ((d.nodeItem host 0 d.y).down 60)

def hostFrame (d e : Drawing) : Box := ⟨-10, d.y - 10, 890, e.y - d.y + 10⟩

lemma drawHost_eq {host : GraphNode} (h : host.kind = .host) : drawHost model chosen d host =
    ((hostSections model chosen d host).frame (.host host)
      (hostFrame d (hostSections model chosen d host))).down 40 :=
  if_neg (not_not.mpr h)

lemma hostSections_grows (hgrouped : Grouped model) {host : GraphNode} (hhost : host.kind = .host) :
    Grows (Section.Owns model) Section.Covers
      (fun n b => Section.Owns model (.host host) n ∧ -10 ≤ b.left ∧ b.right ≤ 880) (InHost host.host)
      (d.y - 10) ((hostSections model chosen d host).y - 10) d.picture
      (hostSections model chosen d host).picture := by
  have helement : host.kind ≠ .element := by simp [hhost]
  have hheading : Grows (Section.Owns model) Section.Covers
      (fun n b => Section.Owns model (.host host) n ∧ -10 ≤ b.left ∧ b.right ≤ 880) (InHost host.host)
      (d.y - 10) (d.y + 60 - 10) d.picture (d.picture ++ Picture.box host (nodeBox host 0 d.y)) := by
    refine Grows.box ?_ ?_ ?_ ⟨.inl rfl, ?_, ?_⟩
    · simp only [nodeBox]
      omega
    · simp only [Box.bottom, nodeBox, if_neg helement]
      omega
    · omega
    · norm_num [nodeBox]
    · simp [Box.right, nodeBox, hhost]
  have hsections := drawn_foldl (f := drawRemoteApplication model chosen host.host)
    (fun _ g hg => drawRemoteApplication_drawn hgrouped host.host hg) ((d.nodeItem host 0 d.y).down 60)
  exact hheading.trans
    (hsections.mono (fun n b hb => ⟨.inr hb.1, by linarith [hb.2.1], by linarith [hb.2.2]⟩) fun _ _ hf => hf)

lemma within_hostFrame {e : Drawing} {b : Box} (htop : d.y - 10 ≤ b.top) (hbottom : b.bottom < e.y - 10)
    (hleft : -10 ≤ b.left) (hright : b.right ≤ 880) : Within b (hostFrame d e) := by
  simp only [Within, hostFrame, Box.right, Box.bottom] at hbottom hright ⊢
  omega

lemma covers_inHost {host : GraphNode} {e : Drawing} {l : Section} {f : Box} (htop : d.y - 10 ≤ f.top)
    (hbottom : f.bottom < e.y - 10) (hf : InHost host.host l f) :
    Section.Covers (.host host) l ∧ Within f (hostFrame d e) := by
  obtain ⟨⟨g, rfl, hg⟩, hleft, hright⟩ := hf
  exact ⟨hg, within_hostFrame htop hbottom (by omega) (by omega)⟩

lemma drawHost_drawn (hgrouped : Grouped model) (host : GraphNode) :
    Drawn model (fun _ _ => True) (fun _ _ => True) d (drawHost model chosen d host) := by
  by_cases hhost : host.kind = .host
  · have hgrows := @hostSections_grows model chosen d hgrouped host hhost
    rw [drawHost_eq hhost]
    refine Grows.frame hgrows le_rfl ?_ ⟨?_, ?_⟩
      (fun n b htop hbottom hb => ⟨⟨hb.1, within_hostFrame htop hbottom hb.2.1 hb.2.2⟩, trivial⟩)
      (fun l f htop hbottom hf => ⟨covers_inHost htop hbottom hf, trivial⟩) trivial
    · simp only [Drawing.down, Drawing.frame]
      omega
    · simp only [hostFrame]
      omega
    · simp only [hostFrame, Box.bottom, Drawing.down, Drawing.frame]
      omega
  · unfold drawHost
    rw [if_pos hhost]
    exact .refl _ _

lemma draw_drawn (hgrouped : Grouped model) :
    Drawn model (fun _ _ => True) (fun _ _ => True) {} (draw model chosen) :=
  drawLocal_drawn.trans (drawn_foldl (fun _ n _ => drawHost_drawn hgrouped n) _)

end Remote

section Frames

/-- Each box but a local endpoint's stands in its section's frame, and a Host's applications in its own. -/
structure Sectioned (p : Picture GraphNode Section) : Prop where
  framed : Framed Section.Holds (fun n _ => Loose n) p
  nested : Nested Section.Covers Section.Outer p

lemma drawApplication_sectioned (h : Sectioned d.picture) (group : GraphGroup) :
    Sectioned (drawApplication model chosen d group).picture := by
  rcases @drawApplication_cases model chosen d group with he | ⟨hhost, q, mid, f, -, he⟩
  · rwa [he]
  · refine ⟨he.framed (fun _ _ hb => hb.1) h.framed, ?_⟩
    rw [he.picture]
    exact h.nested.frame he.grows (fun _ _ _ _ hf => hf.elim) hhost

lemma drawEndpoint_sectioned {c : Column} (h : Sectioned c.drawing.picture) (n : GraphNode) :
    Sectioned (drawEndpoint c n).drawing.picture := by
  unfold drawEndpoint
  split_ifs with hn hkind
  · exact ⟨h.framed.box hn, h.nested.box _ _⟩
  · exact ⟨h.framed.box hn, h.nested.box _ _⟩
  · exact h

lemma drawLocal_sectioned : Sectioned (drawLocal model chosen).picture := by
  have hblank : Sectioned {} := ⟨fun _ hb => absurd hb List.not_mem_nil, fun _ hf => absurd hf List.not_mem_nil⟩
  have happlications : Sectioned (model.groups.foldl (drawApplication model chosen) {}).picture :=
    foldl_invariant (I := fun d : Drawing => Sectioned d.picture) (fun _ g h => drawApplication_sectioned h g)
      model.groups _ hblank
  exact foldl_invariant (I := fun c : Column => Sectioned c.drawing.picture)
    (fun _ n h => drawEndpoint_sectioned h n) model.nodes _ happlications

lemma drawHost_sectioned (hgrouped : Grouped model) (h : Sectioned d.picture) (host : GraphNode) :
    Sectioned (drawHost model chosen d host).picture := by
  by_cases hhost : host.kind = .host
  · rw [drawHost_eq hhost]
    set e := hostSections model chosen d host with he
    have hheading : Framed Section.Holds (fun n b => Loose n ∨ n = host ∧ b = nodeBox host 0 d.y)
        ((d.nodeItem host 0 d.y).down 60).picture := (h.framed.mono fun _ _ => .inl).box (.inr ⟨rfl, rfl⟩)
    have hmembers :
        Framed Section.Holds (fun n b => Loose n ∨ n = host ∧ b = nodeBox host 0 d.y) e.picture := by
      refine List.foldlRecOn (motive := fun d' : Drawing => Framed Section.Holds
        (fun n b => Loose n ∨ n = host ∧ b = nodeBox host 0 d.y) d'.picture) model.groups _ hheading
          fun d' hd' g hg => ?_
      rcases @drawRemoteApplication_cases model chosen d' hgrouped host.host g hg with he |
        ⟨-, q, mid, f, -, -, he⟩
      · rwa [he]
      · exact he.framed (fun _ _ hb => hb.1) hd'
    refine ⟨hmembers.close ?_, ?_⟩
    · -- the heading is the only box that the Host's own frame is still to be drawn around
      rintro n b (hloose | ⟨rfl, rfl⟩)
      · exact .inl hloose
      · have hlow := (drawn_foldl (f := drawRemoteApplication model chosen n.host)
          (fun _ g hg => drawRemoteApplication_drawn hgrouped n.host hg) ((d.nodeItem n 0 d.y).down 60)).1
        have hlow : d.y + 60 - 10 ≤ e.y - 10 := hlow
        refine .inr ⟨rfl, within_hostFrame ?_ ?_ ?_ ?_⟩
        all_goals simp [nodeBox, Box.bottom, Box.right, hhost]
        omega
    · exact h.nested.frame (hostSections_grows hgrouped hhost)
        (fun _ _ htop hbottom hf => covers_inHost htop hbottom hf) trivial
  · unfold drawHost
    rwa [if_pos hhost]

lemma draw_sectioned (hgrouped : Grouped model) : Sectioned (draw model chosen).picture :=
  foldl_invariant (I := fun d : Drawing => Sectioned d.picture) (fun _ n h => drawHost_sectioned hgrouped h n)
    model.nodes _ drawLocal_sectioned

end Frames

lemma graph_grouped (data : GraphData) (options : GraphOptions) (now : UInt64) :
    Grouped (data.graph options now) := by
  intro n hn hk g hg
  obtain ⟨host, _, rfl⟩ := graph_heading hn hk
  exact (graph_group_ne_empty hg).symm

/-- Boxes never overlap, frames cross neither boxes nor each other, and a frame holds its own section and all
of it. -/
theorem sections_orderly (data : GraphData) (options : GraphOptions) (now : UInt64) :
    let model := data.graph options now
    let picture := (draw model options.group).picture
    (picture.boxes.Pairwise fun a b => Apart a.2 b.2) ∧
      (picture.frames.Pairwise fun f g => Apart f.2 g.2 ∨ Section.Covers g.1 f.1 ∧ Within f.2 g.2) ∧
      (∀ f ∈ picture.frames, ∀ b ∈ picture.boxes,
        Apart b.2 f.2 ∨ Section.Owns model f.1 b.1 ∧ Within b.2 f.2) ∧
      (∀ b ∈ picture.boxes, Loose b.1 ∨ ∃ f ∈ picture.frames, Section.Holds f.1 b.1 ∧ Within b.2 f.2) ∧
      ∀ f ∈ picture.frames, Section.Outer f.1 ∨ ∃ g ∈ picture.frames, Section.Covers g.1 f.1 ∧
      Within f.2 g.2 := by
  intro model picture
  have hgrouped := graph_grouped data options now
  obtain ⟨horderly, -⟩ := (@draw_drawn model options.group hgrouped).orderly
  have hsectioned := @draw_sectioned model options.group hgrouped
  exact ⟨horderly.boxes, horderly.frames, horderly.held, hsectioned.framed, hsectioned.nested⟩

end KcfTools.Graph
