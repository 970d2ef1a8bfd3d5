import KcfTools.Lib.Transitions
import KcfTools.Ui.RemoteWorkspace

/-! An edited form keeps the shape of its value and shows the texts of its table. -/

namespace KcfTools.RemoteWorkspace

open Transitions

section Shape

/-- Two values with the same fields, up to the texts. -/
def fieldShape (f : FieldValue) : String × String × ValueKind × ℕ :=
  (f.name, f.typeName, f.kind, f.arrayValues.length)

structure SameShape (d d' : DataSnapshot) : Prop where
  typeName : d'.typeName = d.typeName
  typeId : d'.typeId = d.typeId
  fields : d'.fields.map fieldShape = d.fields.map fieldShape

lemma SameShape.refl (d : DataSnapshot) : SameShape d d := ⟨rfl, rfl, rfl⟩

lemma SameShape.trans {a b c : DataSnapshot} (h : SameShape a b) (h' : SameShape b c) : SameShape a c :=
  ⟨h'.typeName.trans h.typeName, h'.typeId.trans h.typeId, h'.fields.trans h.fields⟩

lemma writeCell_shape (fields : List FieldValue) (cell : (ℕ × Option ℕ) × String) :
    (writeCell fields cell).map fieldShape = fields.map fieldShape := by
  unfold writeCell
  refine List.ext_getElem? fun i => ?_
  simp only [List.getElem?_map, List.getElem?_modify]
  cases fields[i]? with
  | none => rfl
  | some f =>
    simp only [Option.map_some]
    split_ifs
    · cases cell.1.2 <;> simp [fieldShape]
    · rfl

lemma edited_shape (f : Form) : SameShape f.data f.edited :=
  ⟨rfl, rfl, foldl_keeps writeCell_shape _ _⟩

end Shape

section Cells

/-- The rows of fields whose positions start at `k`. -/
def cellsFrom (k : ℕ) (fields : List FieldValue) : List ((ℕ × Option ℕ) × String) :=
  (fields.mapIdx fun i f => fieldRows (k + i) f).flatten

lemma cellsFrom_zero (fields : List FieldValue) : cellsFrom 0 fields = cells fields := by
  simp [cellsFrom, cells]

lemma cellsFrom_cons (k : ℕ) (f : FieldValue) (fields : List FieldValue) :
    cellsFrom k (f :: fields) = fieldRows k f ++ cellsFrom (k + 1) fields := by
  simp [cellsFrom, List.mapIdx_cons, Nat.add_assoc, Nat.add_comm 1]

lemma modify_middle {α : Type} (g : α → α) (before : List α) (a : α) (later : List α) :
    (before ++ a :: later).modify before.length g = before ++ g a :: later := by
  induction before with
  | nil => rfl
  | cons b before ih => simp [ih]

/-- The elements of an array are written one after the other. -/
lemma foldl_writeCell_array (before later : List FieldValue) (f : FieldValue) (rest texts done : List String)
    (h : rest.length = texts.length) :
    (texts.mapIdx fun j text => ((before.length, some (done.length + j)), text)).foldl writeCell
        (before ++ { f with arrayValues := done ++ rest } :: later) =
      before ++ { f with arrayValues := done ++ texts } :: later := by
  induction texts generalizing rest done with
  | nil =>
    obtain rfl := List.length_eq_zero_iff.mp h
    rfl
  | cons text texts ih =>
    cases rest with
    | nil => simp at h
    | cons old rest =>
      have hset : (done ++ old :: rest).set done.length text = (done ++ [text]) ++ rest := by simp
      have hnext := ih rest (done ++ [text]) (by simpa using h)
      rw [List.mapIdx_cons, List.foldl_cons]
      simp only [writeCell, modify_middle, Nat.add_zero, hset]
      simpa [Nat.add_assoc, Nat.add_comm 1] using hnext

lemma zip_arrayRows (k : ℕ) (values texts : List String) (h : texts.length = values.length) :
    ((values.mapIdx fun j value => ((k, some j), value)).map Prod.fst).zip texts =
      texts.mapIdx fun j text => ((k, some j), text) := by
  refine List.ext_getElem (by simp [h]) fun j hj hj' => ?_
  simp

lemma fieldRows_write (before later : List FieldValue) (f : FieldValue) (texts : List String)
    (h : texts.length = (fieldRows before.length f).length) :
    ∃ f', (((fieldRows before.length f).map Prod.fst).zip texts).foldl writeCell (before ++ f :: later) =
        before ++ f' :: later ∧
      fieldRows before.length f' = ((fieldRows before.length f).map Prod.fst).zip texts := by
  unfold fieldRows at h ⊢
  by_cases hv : f.arrayValues = []
  · rw [if_pos hv] at h ⊢
    obtain ⟨text, rfl⟩ := List.length_eq_one_iff.mp (h.trans (List.length_singleton))
    refine ⟨{ f with value := text }, ?_, ?_⟩
    · simp [writeCell, modify_middle]
    · simp [hv]
  · rw [if_neg hv] at h ⊢
    rw [List.length_mapIdx] at h
    rw [zip_arrayRows _ _ _ h]
    refine ⟨{ f with arrayValues := texts }, ?_, ?_⟩
    · simpa using foldl_writeCell_array before later f f.arrayValues texts [] h.symm
    · have hne : texts ≠ [] := fun he => hv (List.length_eq_zero_iff.mp (by rw [← h, he]; rfl))
      rw [if_neg hne]

lemma cellsFrom_write (fields before : List FieldValue) (texts : List String)
    (h : texts.length = (cellsFrom before.length fields).length) :
    ∃ fields', (((cellsFrom before.length fields).map Prod.fst).zip texts).foldl writeCell (before ++ fields) =
        before ++ fields' ∧
      cellsFrom before.length fields' = ((cellsFrom before.length fields).map Prod.fst).zip texts := by
  induction fields generalizing before texts with
  | nil => exact ⟨[], rfl, rfl⟩
  | cons f fields ih =>
    rw [cellsFrom_cons, List.length_append] at h
    obtain ⟨first, rest, rfl, hfirst, hrest⟩ : ∃ first rest, texts = first ++ rest ∧
        first.length = (fieldRows before.length f).length ∧
          rest.length = (cellsFrom (before.length + 1) fields).length :=
      ⟨texts.take (fieldRows before.length f).length, texts.drop (fieldRows before.length f).length,
        (List.take_append_drop _ _).symm, by simp [h], by simp [h]⟩
    obtain ⟨f', hf, hrows⟩ := fieldRows_write before fields f first hfirst
    obtain ⟨fields', hfields, hcells⟩ := ih (before ++ [f']) rest (by simpa using hrest)
    simp only [List.length_append, List.length_singleton, List.append_assoc, List.cons_append,
      List.nil_append] at hfields hcells
    refine ⟨f' :: fields', ?_, ?_⟩
    · rw [cellsFrom_cons, List.map_append, List.zip_append (by simp [hfirst]), List.foldl_append, hf, hfields]
    · rw [cellsFrom_cons, cellsFrom_cons, hrows, hcells, List.map_append, List.zip_append (by simp [hfirst])]

/-- The table has the rows of the form's value. -/
structure Form.Shown (f : Form) : Prop where
  rows : f.rows = (cells f.data.fields).map Prod.fst
  texts : f.texts.length = f.rows.length

lemma shown_render (d : DataSnapshot) (editable : Bool) : (render d editable).Shown :=
  ⟨rfl, by simp [render]⟩

lemma cells_edited (f : Form) (h : f.Shown) : (cells f.edited.fields).map Prod.snd = f.texts := by
  have hlength : f.texts.length = (cellsFrom 0 f.data.fields).length := by
    rw [h.texts, h.rows, cellsFrom_zero, List.length_map]
  obtain ⟨fields, hfields, hcells⟩ := cellsFrom_write f.data.fields [] f.texts hlength
  simp only [List.length_nil, cellsFrom_zero, ← h.rows, List.nil_append] at hcells hfields
  have hedited : f.edited.fields = fields := hfields
  rw [hedited, hcells]
  exact List.map_snd_zip (by rw [h.texts])

end Cells

end KcfTools.RemoteWorkspace
