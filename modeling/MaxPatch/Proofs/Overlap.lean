import MaxPatch.Proofs.Geometry

/-! # Overlap: no box covers another

Counted from left to right, the column of the controls is the first one, if there are any controls,
and the columns of the other boxes follow it (`EditorLayout.allColumns`). Their left edges are 180
apart from 30 on (`WellFormed.stacks_layoutEditor`), and below each box of a column there is a gap.
So if no box is wider than 180 and no position has to be clamped, two boxes of different columns are
side by side, and two of one column are one above the other: `boxes_stand_apart`. -/

namespace MaxPatch

/-! ### Rectangles -/

namespace Rect

/-- A rectangle covers a point: its left and its upper edge belong to it, the others do not. -/
def Covers (r : Rect) (x y : Nat) : Prop :=
  (r.x.toNat ≤ x ∧ x < r.x.toNat + r.width.toNat) ∧
    (r.y.toNat ≤ y ∧ y < r.y.toNat + r.height.toNat)

/-- Rectangles that cover no common point. -/
def Apart (r s : Rect) : Prop := ∀ x y, ¬ (r.Covers x y ∧ s.Covers x y)

variable {r s : Rect}

theorem Apart.symm (h : r.Apart s) : s.Apart r := fun x y hxy => h x y hxy.symm

theorem apart_of_left (h : r.x.toNat + r.width.toNat ≤ s.x.toNat) : r.Apart s := by
  rintro x y ⟨⟨⟨-, hx⟩, -⟩, ⟨hx', -⟩, -⟩
  omega

theorem apart_of_above (h : r.y.toNat + r.height.toNat ≤ s.y.toNat) : r.Apart s := by
  rintro x y ⟨⟨-, -, hy⟩, -, hy', -⟩
  omega

end Rect

/-! ### All columns -/

namespace EditorLayout

/-- The columns from left to right, the one of the controls among them if there are any. -/
def allColumns (l : EditorLayout) : List (List BoxId) :=
  if l.controls = [] then l.columns else l.controls :: l.columns

theorem mem_flatten_allColumns {l : EditorLayout} {id : BoxId} :
    id ∈ l.allColumns.flatten ↔ id ∈ l.controls ++ l.columns.flatten := by
  unfold allColumns
  split_ifs with h
  · rw [h, List.nil_append]
  · rw [List.flatten_cons]

theorem length_allColumns_le (l : EditorLayout) : l.allColumns.length ≤ l.columns.length + 1 := by
  unfold allColumns
  split_ifs
  · exact Nat.le_succ _
  · exact Nat.le_refl _

theorem mem_of_mem_allColumns {l : EditorLayout} {column : List BoxId} (h : column ∈ l.allColumns) :
    column ∈ l.controls :: l.columns := by
  unfold allColumns at h
  split_ifs at h
  · exact List.mem_cons_of_mem _ h
  · exact h

end EditorLayout

namespace Patch

/-- The boxes of a column. -/
def boxesOf (p : Patch) (column : List BoxId) : List Box := column.filterMap p.box?

theorem ids_layoutEditor (p : Patch) : p.layoutEditor.2.ids = p.ids := by
  have hids : ∀ q : Patch, q.ids = q.skeleton.makes.map (·.id) := fun q => by
    unfold ids skeleton
    rw [List.map_map]
    rfl
  rw [hids, hids, skeleton_layoutEditor]

section Columns
variable {p : Patch} (h : p.WellFormed)
include h

theorem WellFormed.mem_of_mem_boxesOf {column : List BoxId} {b : Box} (hb : b ∈ p.boxesOf column) :
    b ∈ p.boxes := by
  obtain ⟨id, -, hid⟩ := List.mem_filterMap.mp hb
  exact (h.box?_eq_some_iff.mp hid).1

theorem WellFormed.boxesOf_ids {boxes : List Box} (hboxes : ∀ b ∈ boxes, b ∈ p.boxes) :
    p.boxesOf (boxes.map (·.id)) = boxes := by
  unfold boxesOf
  rw [List.filterMap_map]
  refine (List.filterMap_congr fun b hb => ?_).trans List.filterMap_some
  exact h.box?_eq_some_iff.mpr ⟨hboxes b hb, rfl⟩

/-- **The left edges of the columns** are 180 apart. -/
theorem WellFormed.stacks_layoutEditor {k : Nat} {column : List BoxId}
    (hk : p.editorLayout.allColumns[k]? = some column) (hclamp : 30 + 180 * k ≤ Pixels.top) :
    p.Stacks p.layoutEditor.2 (30 + 180 * k) column := by
  have hids : ∀ id ∈ column, id ∈ p.ids := fun id hid => by
    rw [← h.covers_editorLayout.placed.mem_iff, ← EditorLayout.mem_flatten_allColumns]
    exact List.mem_flatten.mpr ⟨column, List.mem_of_getElem? hk, hid⟩
  refine h.stacks hids fun above id rest hcolumn => ?_
  unfold EditorLayout.allColumns at hk
  split_ifs at hk with hcontrols
  · have hx := p.editorLayout.columnX_eq (i := k) (by omega)
    rw [if_pos hcontrols] at hx
    rw [← hx]
    exact h.box?_layoutEditor_column (hcolumn ▸ hk)
  · cases k with
    | zero =>
      obtain rfl : p.editorLayout.controls = column := by simpa using hk
      exact h.box?_layoutEditor_control hcolumn
    | succ k =>
      have hx := p.editorLayout.columnX_eq (i := k) (by omega)
      rw [if_neg hcontrols, show 210 + 180 * k = 30 + 180 * (k + 1) by omega] at hx
      rw [← hx]
      exact h.box?_layoutEditor_column (hcolumn ▸ hk)

/-- **Where a box stands after the layout**: in a row `j` of a column `k`. -/
theorem WellFormed.exists_column (hclamp : 210 + 180 * p.editorLayout.columns.length ≤ Pixels.top)
    {c : Box} (hc : c ∈ p.layoutEditor.2.boxes) :
    ∃ (k : Nat) (column : List BoxId) (j : Nat) (b : Box),
      p.editorLayout.allColumns[k]? = some column ∧ (p.boxesOf column)[j]? = some b ∧
      c = b.moveTo (.clamp (30 + 180 * k))
        (.clamp (30 + stackHeight ((p.boxesOf column).take j))) := by
  have hq : p.layoutEditor.2.WellFormed := h.edit .layoutEditor
  have hcbox : p.layoutEditor.2.box? c.id = some c := hq.box?_eq_some_iff.mpr ⟨hc, rfl⟩
  have hid : c.id ∈ p.editorLayout.allColumns.flatten := by
    rw [EditorLayout.mem_flatten_allColumns, h.covers_editorLayout.placed.mem_iff,
      ← ids_layoutEditor]
    exact List.mem_map_of_mem hc
  obtain ⟨column, hcolumn, hin⟩ := List.mem_flatten.mp hid
  obtain ⟨k, hk⟩ := List.mem_iff_getElem?.mp hcolumn
  have hlt := (List.getElem?_eq_some_iff.mp hk).1
  have hlength := p.editorLayout.length_allColumns_le
  obtain ⟨boxes, rfl, hboxes, hplace⟩ := h.stacks_layoutEditor hk (by omega)
  obtain ⟨b, hb, hbid⟩ := List.mem_map.mp hin
  obtain ⟨j, hj⟩ := List.mem_iff_getElem?.mp hb
  have hmoved := hplace j b hj
  rw [hbid, hcbox, Option.some.injEq] at hmoved
  refine ⟨k, _, j, b, hk, ?_, ?_⟩
  · rw [h.boxesOf_ids hboxes]; exact hj
  · rw [h.boxesOf_ids hboxes]; exact hmoved

end Columns

/-! ### Boxes of two places -/

theorem apart_of_column_lt {b c : Box} (hwidth : b.editorRect.width.toNat ≤ 180) {k k' : Nat}
    (hk : k < k') (hclamp : 30 + 180 * k' ≤ Pixels.top) (y y' : Pixels) :
    (b.moveTo (.clamp (30 + 180 * k)) y).editorRect.Apart
      (c.moveTo (.clamp (30 + 180 * k')) y').editorRect := by
  refine Rect.apart_of_left ?_
  simp only [Box.moveTo, Box.setEditorRect, Rect.movedTo, Pixels.toNat_clamp]
  omega

theorem stackHeight_take_le (boxes : List Box) (j : Nat) :
    stackHeight (boxes.take j) ≤ stackHeight boxes := by
  have hsplit : stackHeight boxes = stackHeight (boxes.take j) + stackHeight (boxes.drop j) := by
    unfold stackHeight
    rw [← List.sum_append, ← List.map_append, List.take_append_drop]
  omega

theorem apart_of_row_lt {boxes : List Box} {b c : Box} {j j' : Nat} (hb : boxes[j]? = some b)
    (hj : j < j') (hclamp : 30 + stackHeight (boxes.take j') ≤ Pixels.top) (x x' : Pixels) :
    (b.moveTo x (.clamp (30 + stackHeight (boxes.take j)))).editorRect.Apart
      (c.moveTo x' (.clamp (30 + stackHeight (boxes.take j')))).editorRect := by
  have habove : stackHeight (boxes.take j) + (b.editorRect.height.toNat + 50) ≤
      stackHeight (boxes.take j') :=
    sum_take_add_le (fun b => b.editorRect.height.toNat + 50) hb hj
  refine Rect.apart_of_above ?_
  simp only [Box.moveTo, Box.setEditorRect, Rect.movedTo, Pixels.toNat_clamp]
  omega

/-- **Boxes stand apart.** After any history, if no box is wider than 180 and no position has to be
clamped, no two boxes overlap once the editor is laid out. -/
theorem boxes_stand_apart (history : List Edit) :
    let p := empty.after history
    let l := p.layoutEditor.1
    let q := p.layoutEditor.2
    (∀ b ∈ p.boxes, b.editorRect.width.toNat ≤ 180) →
    (∀ column ∈ l.controls :: l.columns, 30 + stackHeight (p.boxesOf column) ≤ Pixels.top) →
    210 + 180 * l.columns.length ≤ Pixels.top →
      q.boxes.Pairwise fun b c => b.editorRect.Apart c.editorRect := by
  intro p l q hwidth hheight hclamp
  have hp : p.WellFormed := wellFormed_after history
  have hq : q.WellFormed := hp.edit .layoutEditor
  refine (List.pairwise_map.mp hq.nodup_ids).imp_of_mem fun {c c'} hc hc' hne => ?_
  obtain ⟨k, column, j, b, hk, hj, rfl⟩ := hp.exists_column hclamp hc
  obtain ⟨k', column', j', b', hk', hj', rfl⟩ := hp.exists_column hclamp hc'
  have hleft : ∀ {k column}, l.allColumns[k]? = some column → 30 + 180 * k ≤ Pixels.top := by
    intro k column hk
    have hlt := (List.getElem?_eq_some_iff.mp hk).1
    have := l.length_allColumns_le
    omega
  have hfits : ∀ {column}, column ∈ l.allColumns → ∀ j,
      30 + stackHeight ((p.boxesOf column).take j) ≤ Pixels.top := by
    intro column hcolumn j
    have htake := stackHeight_take_le (p.boxesOf column) j
    have := hheight column (EditorLayout.mem_of_mem_allColumns hcolumn)
    omega
  have hslim : ∀ {column j} {b : Box}, (p.boxesOf column)[j]? = some b →
      b.editorRect.width.toNat ≤ 180 :=
    fun hj => hwidth _ (hp.mem_of_mem_boxesOf (List.mem_of_getElem? hj))
  rcases Nat.lt_trichotomy k k' with hlt | rfl | hlt
  · exact apart_of_column_lt (hslim hj) hlt (hleft hk') _ _
  · obtain rfl : column = column' := Option.some.inj (hk.symm.trans hk')
    have hrows := hfits (List.mem_of_getElem? hk)
    rcases Nat.lt_trichotomy j j' with hlt | rfl | hlt
    · exact apart_of_row_lt hj hlt (hrows j') _ _
    · obtain rfl : b = b' := Option.some.inj (hj.symm.trans hj')
      exact absurd rfl hne
    · exact (apart_of_row_lt hj' hlt (hrows j) _ _).symm
  · exact (apart_of_column_lt (hslim hj') hlt (hleft hk) _ _).symm

/-- Two dials, two boxes as wide as a column may be, and a box that feeds itself: every edge meets
the next, and none crosses it. -/
theorem widest_boxes_stand_apart :
    let wide : Contract := { inlets := 1, outlets := [.bang], width := some 180 }
    let history : List Edit :=
      [.addParameter "A" { control := .dial, width := some 180 }, .add "loadbang" wide "" [],
       .add "button" wide "" [], .add "pipe" wide "" [], .addParameter "B" { control := .dial },
       .connect ⟨⟨2⟩, .outlet, 0⟩ ⟨⟨3⟩, .inlet, 0⟩, .connect ⟨⟨4⟩, .outlet, 0⟩ ⟨⟨4⟩, .inlet, 0⟩]
    let p := empty.after history
    let l := p.layoutEditor.1
    let q := p.layoutEditor.2
    (∀ b ∈ p.boxes, b.editorRect.width.toNat ≤ 180) ∧
    (∀ column ∈ l.controls :: l.columns, 30 + stackHeight (p.boxesOf column) ≤ Pixels.top) ∧
    210 + 180 * l.columns.length ≤ Pixels.top ∧
    q.boxes.map (·.editorRect) =
      [⟨30, 30, 180, 48⟩, ⟨210, 30, 180, 22⟩, ⟨390, 30, 180, 22⟩, ⟨390, 102, 180, 22⟩,
       ⟨30, 128, 44, 48⟩] ∧
    q.boxes.Pairwise fun b c => b.editorRect.Apart c.editorRect := by
  intro wide history p l q
  have hwidth : ∀ b ∈ p.boxes, b.editorRect.width.toNat ≤ 180 := by decide
  have hheight : ∀ column ∈ l.controls :: l.columns,
      30 + stackHeight (p.boxesOf column) ≤ Pixels.top := by decide
  have hclamp : 210 + 180 * l.columns.length ≤ Pixels.top := by decide
  exact ⟨hwidth, hheight, hclamp, by decide, boxes_stand_apart history hwidth hheight hclamp⟩

end Patch

end MaxPatch
