import KcfTools.Lib.Named
import KcfTools.Ui.Forms
import KcfTools.Ui.ParameterWrites

/-! Apply sends the fresh value with the edited elements, or nothing when the schema has changed. -/

namespace KcfTools.MainWindow

open Named RemoteWorkspace

/-- A row of the form with its text. -/
abbrev Edits := List ((ℕ × Option ℕ) × String)

section Merge

variable (before : DataSnapshot) (edits : Edits)

def mergedText (row : ℕ × Option ℕ) (fresh : String) : String :=
  threeWay (cellText before row) ((edits.lookup row).getD (cellText before row)) fresh

/-- `i` is the position that the baseline has for the field. -/
def mergedField (c : FieldValue) : FieldValue :=
  match before.fields.findIdx? fun b => b.name = c.name with
  | none => c
  | some i =>
    { c with
      value := mergedText before edits (i, none) c.value
      arrayValues := c.arrayValues.mapIdx fun j text => mergedText before edits (i, some j) text }

def merge (fresh : DataSnapshot) : DataSnapshot :=
  { fresh with fields := fresh.fields.map (mergedField before edits) }

end Merge

/-- The fresh value has a field of the same name, type and length. -/
def Kept (fresh : DataSnapshot) (b : FieldValue) : Prop := ∃ c ∈ fresh.fields, fieldShape c = fieldShape b

structure SameSchema (before fresh : DataSnapshot) : Prop where
  typeId : fresh.typeId = before.typeId
  typeName : fresh.typeName = before.typeName
  length : fresh.fields.length = before.fields.length
  kept : ∀ b ∈ before.fields, Kept fresh b

/-- The row stands for an element of the field. -/
def Within (b : FieldValue) : Option ℕ → Prop
  | none => b.arrayValues = []
  | some j => j < b.arrayValues.length

section Rows

variable {fields : List FieldValue} {row : ℕ × Option ℕ} {text : String}

lemma mem_cells (h : (row, text) ∈ cells fields) :
    ∃ b, fields[row.1]? = some b ∧ Within b row.2 ∧
      text = match row.2 with
        | none => b.value
        | some j => b.arrayValues.getD j "" := by
  obtain ⟨rows, hrows, hmem⟩ := List.mem_flatten.mp h
  obtain ⟨i, hi, rfl⟩ := List.mem_mapIdx.mp hrows
  unfold fieldRows at hmem
  split_ifs at hmem with hv
  · obtain ⟨rfl, rfl⟩ := Prod.mk.inj (List.mem_singleton.mp hmem)
    exact ⟨fields[i], List.getElem?_eq_getElem hi, hv, rfl⟩
  · obtain ⟨j, hj, he⟩ := List.mem_mapIdx.mp hmem
    obtain ⟨rfl, rfl⟩ := Prod.mk.inj he
    exact ⟨fields[i], List.getElem?_eq_getElem hi, hj, by simp [hj]⟩

lemma cellText_of_mem {value : DataSnapshot} (h : (row, text) ∈ cells value.fields) :
    cellText value row = text := by
  obtain ⟨b, hb, -, rfl⟩ := mem_cells h
  unfold cellText
  rw [List.getD_eq_getElem?_getD, hb]
  rfl

lemma exists_row {i : ℕ} {b : FieldValue} (hb : fields[i]? = some b) :
    ∃ j text, ((i, j), text) ∈ cells fields := by
  obtain ⟨hi, rfl⟩ := List.getElem?_eq_some_iff.mp hb
  have hrows : fieldRows i fields[i] ∈ fields.mapIdx fieldRows := List.mem_mapIdx.mpr ⟨i, hi, rfl⟩
  by_cases hv : fields[i].arrayValues = []
  · refine ⟨none, fields[i].value, List.mem_flatten.mpr ⟨_, hrows, ?_⟩⟩
    rw [fieldRows, if_pos hv]
    exact List.mem_singleton_self _
  · refine ⟨some 0, fields[i].arrayValues.head hv, List.mem_flatten.mpr ⟨_, hrows, ?_⟩⟩
    rw [fieldRows, if_neg hv]
    have hpos : 0 < fields[i].arrayValues.length := List.length_pos_iff.mpr hv
    exact List.mem_mapIdx.mpr ⟨0, hpos, by rw [List.head_eq_getElem]⟩

lemma rows_nodup (fields : List FieldValue) : ((cells fields).map Prod.fst).Nodup := by
  have hrow : ∀ i f, ((fieldRows i f).map Prod.fst).Nodup := by
    intro i f
    unfold fieldRows
    split_ifs
    · exact List.nodup_singleton _
    · refine List.nodup_iff_injective_getElem.mpr fun a b hab => ?_
      simpa [Fin.ext_iff] using hab
  rw [cells, List.map_flatten, List.nodup_flatten]
  refine ⟨?_, ?_⟩
  · intro rows hrows
    obtain ⟨rows', hrows', rfl⟩ := List.mem_map.mp hrows
    obtain ⟨i, hi, rfl⟩ := List.mem_mapIdx.mp hrows'
    exact hrow i _
  · rw [List.pairwise_map]
    refine List.pairwise_iff_getElem.mpr fun i j hi hj hij => ?_
    rw [List.getElem_mapIdx, List.getElem_mapIdx]
    have hfirst : ∀ k f row, row ∈ (fieldRows k f).map Prod.fst → row.1 = k := by
      intro k f row hm
      obtain ⟨cell, hc, rfl⟩ := List.mem_map.mp hm
      unfold fieldRows at hc
      split_ifs at hc
      · rw [List.mem_singleton.mp hc]
      · obtain ⟨_, _, rfl⟩ := List.mem_mapIdx.mp hc
        rfl
    intro row hr hr'
    have hsame := (hfirst _ _ _ hr).symm.trans (hfirst _ _ _ hr')
    omega

end Rows

section Overlay

variable {before edited fresh : DataSnapshot} {done : Edits} {row : ℕ × Option ℕ} {b c : FieldValue}

@[simp] lemma mergedField_shape (edits : Edits) (c : FieldValue) :
    fieldShape (mergedField before edits c) = fieldShape c := by
  unfold mergedField
  split <;> simp [fieldShape]

lemma merge_nil (before fresh : DataSnapshot) : merge before [] fresh = fresh := by
  have hfield : mergedField before [] = id := by
    funext c
    have hvalues : c.arrayValues.mapIdx (fun _ text => text) = c.arrayValues :=
      List.ext_getElem? fun _ => by simp
    unfold mergedField mergedText
    split <;> simp [hvalues]
  rw [merge, hfield, List.map_id]

lemma lookup_new (hnew : row ∉ done.map Prod.fst) : done.lookup row = none := by
  refine List.lookup_eq_none_iff.mpr fun e he => bne_iff_ne.mpr fun h => hnew ?_
  rw [h]
  exact List.mem_map_of_mem he

/-- A row that is new to the form changes the text of its own element only. -/
lemma mergedText_snoc (text : String) (hnew : row ∉ done.map Prod.fst) (r : ℕ × Option ℕ) (t : String) :
    mergedText before (done ++ [(row, text)]) r t =
      if r = row then threeWay (cellText before row) text t else mergedText before done r t := by
  unfold mergedText
  rw [List.lookup_append]
  by_cases hr : r = row
  · subst hr
    rw [lookup_new hnew, if_pos rfl]
    simp
  · have hother : List.lookup r [(row, text)] = none := by
      rw [List.lookup_cons, beq_false_of_ne hr]
      rfl
    rw [if_neg hr, hother, Option.or_none]

/-- The fields under other names keep what they have. -/
lemma mergedField_snoc_of_ne (text : String) (hnew : row ∉ done.map Prod.fst)
    (hc : before.fields.findIdx? (fun b => b.name = c.name) ≠ some row.1) :
    mergedField before (done ++ [(row, text)]) c = mergedField before done c := by
  unfold mergedField
  split
  · rfl
  · rename_i i hi
    have hne : ∀ j, (i, j) ≠ row := fun j h => hc (by rw [hi, ← h])
    simp only [mergedText_snoc text hnew, if_neg (hne _)]

/-- The row's own field is written in its element. -/
lemma mergedField_snoc_of_eq (text : String) (hnew : row ∉ done.map Prod.fst)
    (hc : before.fields.findIdx? (fun b => b.name = c.name) = some row.1)
    (hrow : Within c row.2) (hchanged : text ≠ cellText before row) :
    mergedField before (done ++ [(row, text)]) c =
      match row.2 with
      | none => { mergedField before done c with value := text }
      | some j => { mergedField before done c with
          arrayValues := (mergedField before done c).arrayValues.set j text } := by
  obtain ⟨i, j⟩ := row
  unfold mergedField
  rw [hc]
  simp only [mergedText_snoc text hnew, threeWay_changed hchanged]
  cases j with
  | none =>
    have hempty : c.arrayValues = [] := hrow
    simp [hempty]
  | some j =>
    have hj : j < c.arrayValues.length := hrow
    have hvalues : (c.arrayValues.mapIdx fun k t =>
          if k = j then text else mergedText before done (i, some k) t) =
        (c.arrayValues.mapIdx fun k t => mergedText before done (i, some k) t).set j text := by
      refine List.ext_getElem (by simp) fun k hk _ => ?_
      rw [List.getElem_mapIdx, List.getElem_set, List.getElem_mapIdx]
      by_cases hjk : j = k
      · simp [hjk]
      · simp [hjk, Ne.symm hjk]
    simp [hvalues]

lemma within_shape {j : Option ℕ} (h : fieldShape c = fieldShape b) (hb : Within b j) : Within c j := by
  have hlength : c.arrayValues.length = b.arrayValues.length := congrArg (fun s => s.2.2.2) h
  cases j with
  | none =>
    have hempty : b.arrayValues = [] := hb
    rw [hempty] at hlength
    exact List.length_eq_zero_iff.mp hlength
  | some j =>
    have hj : j < b.arrayValues.length := hb
    exact hj.trans_eq hlength.symm

lemma merged_named (name : String) :
    (merge before done fresh).fields.findIdx? (fun d => d.name = name) =
      fresh.fields.findIdx? fun d => d.name = name := by
  have hname : ∀ d, (mergedField before done d).name = d.name := fun d =>
    congrArg (fun s => s.1) (mergedField_shape done d)
  rw [merge, List.findIdx?_map]
  simp [Function.comp_def, hname]

lemma overlayRow_lost (hb : before.fields[row.1]? = some b) (hlost : ¬ Kept fresh b) :
    overlayRow before edited (merge before done fresh) row = none := by
  have hgetD : before.fields.getD row.1 {} = b := by
    rw [List.getD_eq_getElem?_getD, hb]
    rfl
  unfold overlayRow
  simp only [hgetD, merged_named]
  cases hk : fresh.fields.findIdx? (fun d => d.name = b.name) with
  | none => rfl
  | some k =>
    obtain ⟨c, hc, hname⟩ := getElem?_of_findIdx? hk
    have hfield : (merge before done fresh).fields.getD k {} = mergedField before done c := by
      rw [List.getD_eq_getElem?_getD, merge, List.getElem?_map, hc]
      rfl
    simp only [hfield]
    refine if_pos ?_
    by_contra hsame
    simp only [not_or, not_not] at hsame
    obtain ⟨hkind, htype, hlength⟩ := hsame
    refine hlost ⟨c, List.mem_of_getElem? hc, ?_⟩
    have hshape : fieldShape (mergedField before done c) = fieldShape c := mergedField_shape done c
    simp only [fieldShape, Prod.mk.injEq] at hshape ⊢
    obtain ⟨-, ht, hkd, hl⟩ := hshape
    exact ⟨of_decide_eq_true hname, ht.symm.trans htype, hkd.symm.trans hkind, hl.symm.trans hlength⟩

variable (hbefore : (before.fields.map FieldValue.name).Nodup)
  (hfresh : (fresh.fields.map FieldValue.name).Nodup)

include hbefore hfresh

lemma merge_snoc {text : String} {k : ℕ} (hnew : row ∉ done.map Prod.fst)
    (hb : before.fields[row.1]? = some b) (hrow : Within b row.2) (hk : fresh.fields[k]? = some c)
    (hshape : fieldShape c = fieldShape b) :
    merge before (done ++ [(row, text)]) fresh =
      if text = cellText before row then merge before done fresh
      else { merge before done fresh with
        fields := writeCell (merge before done fresh).fields ((k, row.2), text) } := by
  have hname : c.name = b.name := congrArg (fun s => s.1) hshape
  have hindex : before.fields.findIdx? (fun d => d.name = c.name) = some row.1 := by
    rw [hname]
    exact findIdx?_named hbefore hb
  split_ifs with htext
  · subst htext
    have hfield : mergedField before (done ++ [(row, cellText before row)]) = mergedField before done := by
      have htexts : mergedText before (done ++ [(row, cellText before row)]) = mergedText before done := by
        funext r t
        rw [mergedText_snoc _ hnew]
        split_ifs with hr
        · subst hr
          simp [mergedText, lookup_new hnew]
        · rfl
      unfold mergedField
      rw [htexts]
    rw [merge, merge, hfield]
  · have hfields : fresh.fields.map (mergedField before (done ++ [(row, text)])) =
        writeCell (fresh.fields.map (mergedField before done)) ((k, row.2), text) := by
      refine List.ext_getElem? fun i => ?_
      unfold writeCell
      rw [List.getElem?_modify, List.getElem?_map, List.getElem?_map]
      cases hi : fresh.fields[i]? with
      | none => rfl
      | some d =>
        simp only [Option.map_some]
        by_cases hki : k = i
        · subst hki
          obtain rfl : c = d := Option.some.inj (hk.symm.trans hi)
          simp only [if_true, mergedField_snoc_of_eq text hnew hindex (within_shape hshape hrow) htext]
          cases row.2 <;> rfl
        · have hother : before.fields.findIdx? (fun e => e.name = d.name) ≠ some row.1 := by
            intro hd
            obtain ⟨b', hb', hn⟩ := getElem?_of_findIdx? hd
            obtain rfl : b = b' := Option.some.inj (hb.symm.trans hb')
            refine hki (index_named hfresh hk hi ?_)
            rw [hname]
            exact of_decide_eq_true hn
          simp only [if_neg hki, mergedField_snoc_of_ne text hnew hother]
          rfl
    rw [merge, hfields]
    rfl

lemma overlayRow_kept {text : String} (hnew : row ∉ done.map Prod.fst) (hb : before.fields[row.1]? = some b)
    (hrow : Within b row.2) (htext : cellText edited row = text) (hkept : Kept fresh b) :
    overlayRow before edited (merge before done fresh) row =
      some (merge before (done ++ [(row, text)]) fresh) := by
  obtain ⟨c, hc, hshape⟩ := hkept
  obtain ⟨k, hk⟩ := List.getElem?_of_mem hc
  have hname : c.name = b.name := congrArg (fun s => s.1) hshape
  have hindex : fresh.fields.findIdx? (fun d => d.name = b.name) = some k := by
    rw [← hname]
    exact findIdx?_named hfresh hk
  have hfield : (merge before done fresh).fields.getD k {} = mergedField before done c := by
    rw [List.getD_eq_getElem?_getD, merge, List.getElem?_map, hk]
    rfl
  have hsame : fieldShape (mergedField before done c) = fieldShape b := (mergedField_shape done c).trans hshape
  simp only [fieldShape, Prod.mk.injEq] at hsame
  obtain ⟨-, htype, hkind, hlength⟩ := hsame
  have hgetD : before.fields.getD row.1 {} = b := by
    rw [List.getD_eq_getElem?_getD, hb]
    rfl
  unfold overlayRow
  simp only [hgetD, merged_named, hindex, hfield, htype, hkind, hlength, ne_eq, not_true,
    or_self, if_false, htext]
  rw [merge_snoc hbefore hfresh hnew hb hrow hk hshape]
  split_ifs <;> rfl

/-- The rows are applied one after the other, up to the first whose field has changed. -/
lemma foldlM_overlayRow (rows : Edits)
    (hrows : ∀ e ∈ rows, cellText edited e.1 = e.2 ∧ ∃ b, before.fields[e.1.1]? = some b ∧ Within b e.1.2)
    (hnodup : ((done ++ rows).map Prod.fst).Nodup) :
    ((∀ e ∈ rows, ∀ b, before.fields[e.1.1]? = some b → Kept fresh b) →
      (rows.map Prod.fst).foldlM (overlayRow before edited) (merge before done fresh) =
        some (merge before (done ++ rows) fresh)) ∧
    ((∃ e ∈ rows, ∃ b, before.fields[e.1.1]? = some b ∧ ¬ Kept fresh b) →
      (rows.map Prod.fst).foldlM (overlayRow before edited) (merge before done fresh) = none) := by
  induction rows generalizing done with
  | nil => exact ⟨fun _ => by simp, by simp⟩
  | cons e rows ih =>
    obtain ⟨htext, b, hb, hwithin⟩ := hrows e List.mem_cons_self
    have hnew : e.1 ∉ done.map Prod.fst := by
      rw [List.map_append, List.nodup_append] at hnodup
      exact fun hm => hnodup.2.2 _ hm _ List.mem_cons_self rfl
    have hassoc : done ++ [(e.1, e.2)] ++ rows = done ++ e :: rows := by simp
    have hnext := @ih (done ++ [(e.1, e.2)]) (fun e' he' => hrows e' (List.mem_cons_of_mem _ he'))
      (by rwa [hassoc])
    rw [List.map_cons, List.foldlM_cons]
    rw [hassoc] at hnext
    refine ⟨fun hkept => ?_, fun hlost => ?_⟩
    · rw [overlayRow_kept hbefore hfresh hnew hb hwithin htext (hkept e List.mem_cons_self b hb)]
      exact hnext.1 fun e' he' => hkept e' (List.mem_cons_of_mem _ he')
    · by_cases hk : Kept fresh b
      · rw [overlayRow_kept hbefore hfresh hnew hb hwithin htext hk]
        refine hnext.2 ?_
        obtain ⟨e', he', b', hb', hl⟩ := hlost
        rcases List.mem_cons.mp he' with rfl | he'
        · obtain rfl : b = b' := Option.some.inj (hb.symm.trans hb')
          exact absurd hk hl
        · exact ⟨e', he', b', hb', hl⟩
      · rw [overlayRow_lost hb hk]
        rfl

end Overlay

section Apply

/-- The form has one input for each element of its value. -/
structure Shown (p : ParameterPanel) : Prop where
  rows : p.rows = (cells p.value.fields).map Prod.fst
  inputs : p.inputs.length = p.rows.length

def edits (p : ParameterPanel) : Edits := p.rows.zip p.inputs

variable {p : ParameterPanel} {fresh : DataSnapshot}

lemma cells_editedParameter (h : Shown p) : cells (editedParameter p).fields = edits p := by
  have hlength : p.inputs.length = (cellsFrom 0 p.value.fields).length := by
    rw [h.inputs, h.rows, cellsFrom_zero, List.length_map]
  obtain ⟨fields, hfields, hcells⟩ := cellsFrom_write p.value.fields [] p.inputs hlength
  simp only [List.length_nil, cellsFrom_zero, ← h.rows, List.nil_append] at hcells hfields
  have hedited : (editedParameter p).fields = fields := hfields
  rw [hedited, hcells, edits]

lemma edits_rows (h : Shown p) : (edits p).map Prod.fst = p.rows :=
  List.map_fst_zip h.inputs.ge

lemma edits_spec (h : Shown p) : ∀ e ∈ edits p, cellText (editedParameter p) e.1 = e.2 ∧
    ∃ b, p.value.fields[e.1.1]? = some b ∧ Within b e.1.2 := by
  intro e he
  constructor
  · refine cellText_of_mem ?_
    rwa [cells_editedParameter h]
  · have hrow : e.1 ∈ (cells p.value.fields).map Prod.fst := by
      rw [← h.rows, ← edits_rows h]
      exact List.mem_map_of_mem he
    obtain ⟨⟨row, text⟩, hcell, hfst⟩ := List.mem_map.mp hrow
    obtain ⟨b, hb, hwithin, -⟩ := mem_cells hcell
    rw [← hfst]
    exact ⟨b, hb, hwithin⟩

variable (h : Shown p) (hbefore : (p.value.fields.map FieldValue.name).Nodup)
  (hfresh : (fresh.fields.map FieldValue.name).Nodup)

include h hbefore hfresh

lemma overlay_rows :
    ((∀ b ∈ p.value.fields, Kept fresh b) →
      p.rows.foldlM (overlayRow p.value (editedParameter p)) fresh = some (merge p.value (edits p) fresh)) ∧
    ((∃ b ∈ p.value.fields, ¬ Kept fresh b) →
      p.rows.foldlM (overlayRow p.value (editedParameter p)) fresh = none) := by
  have hnodup : (([] ++ edits p).map Prod.fst).Nodup := by
    rw [List.nil_append, edits_rows h, h.rows]
    exact rows_nodup _
  have hfold := foldlM_overlayRow hbefore hfresh (edits p) (edits_spec h) hnodup
  rw [merge_nil, List.nil_append, edits_rows h] at hfold
  refine ⟨fun hkept => hfold.1 fun e _ b hb => hkept b (List.mem_of_getElem? hb), fun hlost => hfold.2 ?_⟩
  obtain ⟨b, hb, hl⟩ := hlost
  obtain ⟨i, hi⟩ := List.getElem?_of_mem hb
  obtain ⟨j, text, hcell⟩ := exists_row hi
  have hrow : (i, j) ∈ (edits p).map Prod.fst := by
    rw [edits_rows h, h.rows]
    exact List.mem_map_of_mem hcell
  obtain ⟨e, he, hfst⟩ := List.mem_map.mp hrow
  refine ⟨e, he, b, ?_, hl⟩
  rw [hfst]
  exact hi

lemma overlay_same (hs : SameSchema p.value fresh) :
    overlay p.value (editedParameter p) fresh p.rows = some (merge p.value (edits p) fresh) := by
  unfold overlay
  rw [if_neg (by simp [hs.typeId, hs.typeName, hs.length])]
  exact (overlay_rows h hbefore hfresh).1 hs.kept

lemma overlay_changed (hs : ¬ SameSchema p.value fresh) :
    overlay p.value (editedParameter p) fresh p.rows = none := by
  unfold overlay
  split_ifs with hhead
  · rfl
  · simp only [not_or, not_not] at hhead
    refine (overlay_rows h hbefore hfresh).2 ?_
    by_contra hkept
    push Not at hkept
    exact hs ⟨hhead.1, hhead.2.1, hhead.2.2, hkept⟩

end Apply

section Forms

variable (backend : ToolBackend) {w w' : Window} {p q : ParameterPanel}

lemma Shown.congr (h : Shown p) (hvalue : q.value = p.value) (hrows : q.rows = p.rows)
    (hinputs : q.inputs.length = p.inputs.length) : Shown q :=
  ⟨by rw [hrows, hvalue, h.rows], by rw [hinputs, hrows, h.inputs]⟩

lemma shown_render (w : Window) (value : DataSnapshot) : Shown (renderParameter w value).panel :=
  ⟨rfl, by simp [renderParameter, Window.note, Window.setPanel]⟩

lemma shown_error (h : Shown w.panel) (action : String) (result : ℤ) :
    Shown (parameterError w action result).panel :=
  h.congr rfl rfl rfl

lemma shown_refreshValue (h : Shown w.panel) : Shown (refreshParameterValue backend w).panel := by
  unfold refreshParameterValue
  split_ifs
  · exact h
  · exact h
  · cases parameter w with
    | none => exact h
    | some q =>
      obtain ⟨result, value, hread⟩ := readParameter_eq backend w q.identity
      simp only [hread]
      split_ifs
      · exact shown_error (w := w.note (.get q.identity result value)) h _ _
      · exact shown_render _ _

lemma shown_showParameter (h : Shown w.panel) : Shown (showParameter backend w).panel := by
  have hclear : Shown (clearParameter w).panel := ⟨rfl, rfl⟩
  unfold showParameter
  split_ifs
  · exact h
  · exact h
  · simp only
    cases parameter (clearParameter w) with
    | none => exact hclear
    | some q =>
      simp only
      split_ifs
      · exact hclear
      · exact shown_refreshValue backend (hclear.congr rfl rfl rfl)

lemma shown_edit (h : Shown w.panel) (row : ℕ) (text : String) : Shown (editParameter w row text).panel := by
  unfold editParameter
  simp only
  split_ifs
  · exact h
  · exact h.congr rfl rfl (List.length_set ..)

lemma shown_readBack (h : Shown w.panel) (id : EndpointIdentity) : Shown (readBack backend w id).panel := by
  unfold readBack
  obtain ⟨result, actual, hread⟩ := readParameter_eq backend (w.setPanel { w.panel with dirty := false }) id
  simp only [hread]
  split_ifs
  · exact h.congr rfl rfl rfl
  · exact shown_render _ _

lemma shown_store (h : Shown w.panel) (id : EndpointIdentity) (value : DataSnapshot) :
    Shown (storeParameter backend w id value).panel := by
  unfold storeParameter
  simp only
  split_ifs
  · exact h.congr rfl rfl rfl
  · exact shown_readBack backend (w := w.note _) h id

lemma shown_apply (h : Shown w.panel) : Shown (applyParameter backend w).panel := by
  unfold applyParameter
  split_ifs
  · exact h
  · exact h
  · cases parameter w with
    | none => exact h
    | some q =>
      simp only
      generalize backend.validateParameter w.log.length q.identity (editedParameter w.panel) = result
      split_ifs
      · unfold applyValidated
        obtain ⟨result', current, hread⟩ := readParameter_eq backend
          (w.note (.validate q.identity (editedParameter w.panel) result)) q.identity
        simp only [hread]
        split_ifs
        · exact h.congr rfl rfl rfl
        · split
          · exact h.congr rfl rfl rfl
          · exact shown_store backend (w := (w.note _).note _) h q.identity _
      · exact h
      · exact h.congr rfl rfl rfl

lemma Beside.shown {new : List Effect} (hb : Beside w w' new) (h : Shown w.panel) : Shown w'.panel := by
  rw [hb.panel]
  exact h

lemma shown_showService (h : Shown w.panel) : Shown (showService backend w).panel := by
  obtain ⟨new, hb⟩ := showService_beside backend w
  exact hb.shown h

lemma shown_refresh (h : Shown w.panel) : Shown (refresh backend w).panel := by
  unfold refresh
  split_ifs
  · exact h
  · exact h
  · simp only
    generalize backend.refresh w.log.length = result
    generalize backend.connection w.log.length = connection
    split_ifs
    · unfold refreshFailed
      refine shown_showService backend (shown_showParameter backend ?_)
      exact h.congr rfl rfl rfl
    · unfold refreshSucceeded
      obtain ⟨new, hb⟩ := updateServices_beside backend (showParameter backend
        (adoptDiscovery backend ((w.setPanel { w.panel with row := none }).note (.refresh result connection))
          ((w.elementList.current.bind fun i => w.elements[i]?).map ElementInfo.identity)
          ((w.topicList.current.bind fun i => w.topics[i]?).map TopicInfo.identity)
          ((parameter w).map ParameterInfo.identity)))
      refine hb.shown (shown_showParameter backend ?_)
      exact h.congr rfl rfl rfl

lemma shown_setCurrentRow (h : Shown w.panel) (tab : Tab) (row : Option ℕ) :
    Shown (setCurrentRow backend w tab row).panel := by
  cases tab with
  | elements => exact h
  | topics => exact h
  | parameters =>
    unfold setCurrentRow
    simp only
    split_ifs
    · exact h
    · exact shown_showParameter backend (w := { w with parameterList := w.parameterList.setCurrentRow row }) h
  | services =>
    unfold setCurrentRow
    simp only
    split_ifs
    · exact h
    · exact shown_showService backend (w := { w with serviceList := w.serviceList.setCurrentRow row }) h

lemma shown_act (h : Shown w.panel) (e : Event) : Shown (act backend w e).panel := by
  have hopen : ∀ tab row, Shown (openRow backend w tab row).panel := by
    intro tab row
    unfold openRow
    split_ifs
    · exact h
    · exact shown_setCurrentRow backend h tab row
  have hbutton : ∀ (enabled : Bool) {w' : Window}, Shown w'.panel →
    Shown (if enabled then w' else w).panel := by
    intro enabled w' hw'
    cases enabled
    · exact h
    · exact hw'
  cases e with
  | refresh => exact shown_refresh backend h
  | pick tab row => exact shown_setCurrentRow backend h tab _
  | openEndpoint tab row => exact hopen tab _
  | openElement id => exact hopen .elements _
  | openTopic id => exact hopen .topics _
  | treeItem row => exact shown_setCurrentRow backend h .elements row
  | edit row text => exact shown_edit h row text
  | refreshValue => exact hbutton _ (shown_refreshValue backend h)
  | revert =>
    refine hbutton _ ?_
    unfold revertParameter
    split_ifs
    · exact h
    · exact shown_render w _
  | apply => exact hbutton _ (shown_apply backend h)
  | enter => exact hbutton _ (shown_apply backend h)
  | editRequest row text => exact h
  | call =>
    obtain ⟨new, hb⟩ := callService_beside backend w
    exact hb.shown h
  | finished => exact h

lemma shown_step (h : Shown w.panel) (e : Event) : Shown (step backend w e).panel := by
  unfold step
  split_ifs
  · cases e <;> exact h
  · exact shown_act backend h e

lemma shown_run (events : List Event) : Shown (run backend (start backend) events).panel := by
  refine Transitions.foldl_invariant (I := fun w : Window => Shown w.panel)
    (fun _ e hw => shown_step backend hw e) events _ ?_
  exact shown_refresh backend (shown_showParameter backend ⟨rfl, rfl⟩)

end Forms

section Writes

/-- The values passed to SetParameter, the latest first. -/
def sets (log : List Effect) : List (EndpointIdentity × DataSnapshot) :=
  log.filterMap fun n =>
    match n with
    | .set id value _ => some (id, value)
    | _ => none

variable (backend : ToolBackend) {w : Window}

lemma sets_readBack (w : Window) (id : EndpointIdentity) : sets (readBack backend w id).log = sets w.log := by
  unfold readBack
  obtain ⟨result, actual, hread⟩ := readParameter_eq backend (w.setPanel { w.panel with dirty := false }) id
  simp only [hread]
  split_ifs <;> rfl

lemma sets_store (w : Window) (id : EndpointIdentity) (value : DataSnapshot) :
    sets (storeParameter backend w id value).log = (id, value) :: sets w.log := by
  unfold storeParameter
  simp only
  split_ifs
  · rfl
  · exact sets_readBack backend _ id

/-- Where an Apply gets as far as the fresh value, it is merged or refused. -/
lemma sets_apply {p : ParameterInfo} {fresh : DataSnapshot} (hbusy : w.service.busy = false)
    (hdirty : w.panel.dirty = true) (hvalid : w.panel.invalid = false) (hp : parameter w = some p)
    (hcheck : backend.validateParameter w.log.length p.identity (editedParameter w.panel) = 0)
    (hget : backend.getParameter (w.log.length + 1) p.identity = (0, fresh)) :
    sets (applyParameter backend w).log =
      match overlay w.panel.value (editedParameter w.panel) fresh w.panel.rows with
      | none => sets w.log
      | some value => (p.identity, value) :: sets w.log := by
  have hread : readParameter backend (w.note (.validate p.identity (editedParameter w.panel) 0)) p.identity =
      (0, fresh, (w.note (.validate p.identity (editedParameter w.panel) 0)).note
        (.get p.identity 0 fresh)) := by
    unfold readParameter
    simp only
    rw [show (w.note (.validate p.identity (editedParameter w.panel) 0)).log.length = w.log.length + 1 from rfl,
      hget]
  unfold applyParameter
  rw [if_neg (by simp [hbusy]), if_neg (by simp [hdirty, hvalid]), hp]
  simp only [hcheck, if_true]
  unfold applyValidated
  rw [hread]
  have hpanel : ((w.note (.validate p.identity (editedParameter w.panel) 0)).note
      (.get p.identity 0 fresh)).panel = w.panel := rfl
  simp only [ne_eq, not_true, if_false, hpanel]
  cases overlay w.panel.value (editedParameter w.panel) fresh w.panel.rows with
  | none => rfl
  | some value => exact sets_store backend _ _ value

/-- Apply passes the fresh value to SetParameter, with the edited texts in the elements that were edited;
it passes nothing when the schema has changed. -/
theorem apply_merges :
    (∀ events, Shown (run backend (start backend) events).panel) ∧
    ∀ (w : Window) (p : ParameterInfo) (fresh : DataSnapshot), Shown w.panel → w.service.busy = false →
      w.panel.dirty = true → w.panel.invalid = false → parameter w = some p →
      backend.validateParameter w.log.length p.identity (editedParameter w.panel) = 0 →
      backend.getParameter (w.log.length + 1) p.identity = (0, fresh) →
      (w.panel.value.fields.map FieldValue.name).Nodup → (fresh.fields.map FieldValue.name).Nodup →
      (SameSchema w.panel.value fresh → sets (applyParameter backend w).log =
        (p.identity, merge w.panel.value (edits w.panel) fresh) :: sets w.log) ∧
      (¬ SameSchema w.panel.value fresh → sets (applyParameter backend w).log = sets w.log) := by
  refine ⟨shown_run backend, ?_⟩
  intro w p fresh h hbusy hdirty hvalid hp hcheck hget hbefore hfresh
  have hsets := sets_apply backend hbusy hdirty hvalid hp hcheck hget
  constructor
  · intro hs
    rw [hsets, overlay_same h hbefore hfresh hs]
  · intro hs
    rw [hsets, overlay_changed h hbefore hfresh hs]

def low (text : String) : FieldValue := { name := "low", typeName := "int32", value := text }

def steps (texts : List String) : FieldValue := { name := "steps", typeName := "int32", arrayValues := texts }

def limits (fields : List FieldValue) : DataSnapshot := { typeName := "Limits", typeId := 9, fields := fields }

/-- Another client changes the value after the first read, and the fields come in another order. -/
def limitsBackend : ToolBackend :=
  { gainBackend with
    getParameter := fun n _ =>
      (0, if n < 5 then limits [low "1", steps ["2", "4"]] else limits [steps ["2", "5"], low "3"]) }

def limitsEdited : Window := run limitsBackend (start limitsBackend) [.edit 1 "7"]

theorem apply_merges_limits : sets (applyParameter limitsBackend limitsEdited).log =
    [(gain.identity, limits [steps ["7", "5"], low "3"])] :=
  ((apply_merges limitsBackend).2 limitsEdited gain (limits [steps ["2", "5"], low "3"]) ⟨rfl, rfl⟩ rfl rfl rfl
    rfl rfl rfl (by decide) (by decide)).1
    ⟨rfl, rfl, rfl, by
      intro b hb
      have hfields : b ∈ [low "1", steps ["2", "4"]] := hb
      rcases List.mem_pair.mp hfields with rfl | rfl
      · exact ⟨low "3", by simp [limits], rfl⟩
      · exact ⟨steps ["2", "5"], by simp [limits], rfl⟩⟩

end Writes

end KcfTools.MainWindow
