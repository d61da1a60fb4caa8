import Mathlib.Data.List.Forall2
import Mathlib.Order.Nat
import MaxPatch.Proofs.Columns
import MaxPatch.Proofs.Placement

/-! # Order of cords: what it cannot change

The order in which cords are made decides in which order the layering comes across the boxes of a
column, and so who stands above whom. It decides nothing else. Which boxes are settled and how deep
they lie is said by the sources of each box, and there the order is of no account
(`Reordered.settled_iff`, `Reordered.isDepth`); a layout by depth leaves no choice but the order
within a column (`ByDepth.columns_perm`). So no box moves sideways: `cord_order_keeps_columns`. -/

namespace MaxPatch

theorem EditorLayout.columnOf?_congr {l m : EditorLayout}
    (h : List.Forall₂ List.Perm l.columns m.columns) (id : BoxId) :
    l.columnOf? id = m.columnOf? id := by
  unfold columnOf?
  generalize l.columns = columns at h ⊢
  generalize m.columns = columns' at h ⊢
  induction h with
  | nil => rfl
  | cons hcolumn _ ih => rw [List.findIdx?_cons, List.findIdx?_cons, hcolumn.contains_eq, ih]

namespace Patch

/-! ### Sources in another order -/

/-- Patches with the same boxes and, in some order, the same cords. -/
structure Reordered (p q : Patch) : Prop where
  boxes : p.boxes = q.boxes
  cords : p.cords.Perm q.cords

section Reordered
variable {p q : Patch} {d : BoxId → Nat}

theorem Reordered.symm (h : p.Reordered q) : q.Reordered p := ⟨h.boxes.symm, h.cords.symm⟩

theorem Reordered.logic (h : p.Reordered q) : p.logic = q.logic := by
  unfold Patch.logic; rw [h.boxes]

theorem Reordered.sources (h : p.Reordered q) (v : BoxId) : (p.sources v).Perm (q.sources v) :=
  (h.cords.filter _).map _

theorem Reordered.settled (h : p.Reordered q) {v : BoxId} (hv : p.Settled v) : q.Settled v :=
  hv.of_fewer_sources (P := fun _ => True) h.logic.symm
    (fun v _ => ⟨(h.sources v).symm.subperm, fun _ _ => trivial⟩) trivial

theorem Reordered.settled_iff (h : p.Reordered q) (v : BoxId) : p.Settled v ↔ q.Settled v :=
  ⟨h.settled, h.symm.settled⟩

theorem Reordered.isDepth (h : p.Reordered q) (hd : p.IsDepth d) : q.IsDepth d where
  entry := fun v hv hs => by
    have hperm := h.sources v
    rw [hs] at hperm
    exact hd.entry v (h.symm.settled hv) hperm.eq_nil
  behind := fun v hv hs => by
    have hperm := h.sources v
    have hne : p.sources v ≠ [] := fun hnil => hs (by rw [hnil] at hperm; exact hperm.symm.eq_nil)
    obtain ⟨u, hu, he, hmax⟩ := hd.behind v (h.symm.settled hv) hne
    exact ⟨u, hperm.mem_iff.mp hu, he, fun t ht => hmax t (hperm.mem_iff.mpr ht)⟩

end Reordered

/-! ### Layouts by depth -/

section ByDepth
variable {p q : Patch} {d : BoxId → Nat} {l m : EditorLayout}

theorem ByDepth.lt_length_iff (h : p.ByDepth d l) (hv : ∃ v, p.Settled v) (i : Nat) :
    i < l.columns.length ↔ ∃ v, p.Settled v ∧ d v = i := by
  constructor
  · intro hi
    obtain ⟨settled, -, hne, -, hmem⟩ := h.columns hv i _ (List.getElem?_eq_getElem hi)
    obtain ⟨u, hu⟩ := List.exists_mem_of_ne_nil settled hne
    exact ⟨u, (hmem u).mp hu⟩
  · rintro ⟨v, hs, rfl⟩
    have hfound := h.columnOf v hs
    rw [EditorLayout.columnOf?, List.findIdx?_eq_some_iff_getElem] at hfound
    exact hfound.1

theorem ByDepth.stragglers_eq (hp : p.ByDepth d l) (hq : q.ByDepth d m)
    (hlogic : p.logic = q.logic) (hsettled : ∀ v, p.Settled v ↔ q.Settled v) :
    l.stragglers = m.stragglers := by
  rw [hp.stragglers, hq.stragglers, hlogic]
  exact List.filter_congr fun v _ => decide_eq_decide.mpr (not_congr (hsettled v))

theorem ByDepth.columns_perm (hp : p.ByDepth d l) (hq : q.ByDepth d m) (hlogic : p.logic = q.logic)
    (hsettled : ∀ v, p.Settled v ↔ q.Settled v) : List.Forall₂ List.Perm l.columns m.columns := by
  have hstragglers := hp.stragglers_eq hq hlogic hsettled
  by_cases hv : ∃ v, p.Settled v
  · have hv' : ∃ v, q.Settled v := hv.imp fun v => (hsettled v).mp
    have hlength : l.columns.length = m.columns.length := by
      refine eq_of_forall_lt_iff fun i => ?_
      rw [hp.lt_length_iff hv, hq.lt_length_iff hv']
      simp only [hsettled]
    refine List.forall₂_iff_get.mpr ⟨hlength, fun i hi hi' => ?_⟩
    obtain ⟨settled, hc, -, hnodup, hmem⟩ := hp.columns hv i _ (List.getElem?_eq_getElem hi)
    obtain ⟨settled', hc', -, hnodup', hmem'⟩ := hq.columns hv' i _ (List.getElem?_eq_getElem hi')
    have hperm : settled.Perm settled' := by
      refine (List.perm_ext_iff_of_nodup hnodup hnodup').mpr fun v => ?_
      rw [hmem, hmem', hsettled]
    rw [List.get_eq_getElem, List.get_eq_getElem, hc, hc', hlength, hstragglers]
    split_ifs
    · exact hperm.append_right _
    · exact hperm
  · have hnone : ∀ v, ¬ p.Settled v := fun v h => hv ⟨v, h⟩
    have hnone' : ∀ v, ¬ q.Settled v := fun v h => hnone v ((hsettled v).mpr h)
    by_cases hne : p.logic = []
    · rw [hp.nothing hne, hq.nothing (hlogic ▸ hne)]
      exact List.Forall₂.nil
    · rw [hp.unsettled hnone hne, hq.unsettled hnone' (hlogic ▸ hne), hstragglers]
      exact List.Forall₂.cons (List.Perm.refl _) List.Forall₂.nil

end ByDepth

/-! ### Reordered patches in the editor -/

section Editor
variable {p q : Patch} (h : p.Reordered q)
include h

theorem Reordered.controls : p.editorLayout.controls = q.editorLayout.controls := by
  unfold editorLayout Patch.controls; rw [h.boxes]

variable (hp : p.WellFormed) (hq : q.WellFormed)
include hp hq

theorem Reordered.byDepth :
    p.ByDepth p.depth p.editorLayout ∧ q.ByDepth p.depth q.editorLayout :=
  ⟨hp.byDepth (isDepth_depth p), hq.byDepth (h.isDepth (isDepth_depth p))⟩

theorem Reordered.columns :
    List.Forall₂ List.Perm p.editorLayout.columns q.editorLayout.columns := by
  obtain ⟨hdp, hdq⟩ := h.byDepth hp hq
  exact hdp.columns_perm hdq h.logic h.settled_iff

theorem Reordered.stragglers : p.editorLayout.stragglers = q.editorLayout.stragglers := by
  obtain ⟨hdp, hdq⟩ := h.byDepth hp hq
  exact hdp.stragglers_eq hdq h.logic h.settled_iff

theorem Reordered.leftOf (id : BoxId) : p.editorLayout.leftOf id = q.editorLayout.leftOf id := by
  unfold EditorLayout.leftOf EditorLayout.columnX
  rw [EditorLayout.columnOf?_congr (h.columns hp hq) id, h.controls]

theorem Reordered.boxes_layoutEditor :
    List.Forall₂ (fun b c => ∃ y, c = b.moveTo b.editorRect.x y)
      p.layoutEditor.2.boxes q.layoutEditor.2.boxes := by
  have hlength := length_boxes_layoutEditor
  refine List.forall₂_iff_get.mpr ⟨by rw [hlength, hlength, h.boxes], fun i hi hi' => ?_⟩
  rw [hlength] at hi hi'
  -- both boxes come from the same one, which both layouts move to the left edge of its column
  have hbox : p.box? ⟨i + 1⟩ = some p.boxes[i] := List.getElem?_eq_getElem hi
  have hbox' : q.box? ⟨i + 1⟩ = some q.boxes[i] := List.getElem?_eq_getElem hi'
  obtain ⟨y, hy⟩ := hp.box?_layoutEditor hbox
  obtain ⟨y', hy'⟩ := hq.box?_layoutEditor hbox'
  rw [box?_eq_getElem?] at hy hy'
  have hb := (List.getElem?_eq_some_iff.mp hy).2
  have hc := (List.getElem?_eq_some_iff.mp hy').2
  refine ⟨y', ?_⟩
  rw [List.get_eq_getElem, List.get_eq_getElem, hb, hc, h.leftOf hp hq]
  simp only [h.boxes]
  rfl

end Editor

/-- **The order of the cords moves no box sideways.** Patches that have the same boxes and, in some
order, the same cords are laid out with the same controls, the same stragglers and, column by column,
the same boxes; afterwards their boxes differ in nothing but how far down they stand. -/
theorem cord_order_keeps_columns (history history' : List Edit) :
    let p := empty.after history
    let q := empty.after history'
    let l := p.layoutEditor.1
    let m := q.layoutEditor.1
    p.boxes = q.boxes → p.cords.Perm q.cords →
      l.controls = m.controls ∧ l.stragglers = m.stragglers ∧
      List.Forall₂ List.Perm l.columns m.columns ∧
      List.Forall₂ (fun b c => ∃ y, c = b.moveTo b.editorRect.x y)
        p.layoutEditor.2.boxes q.layoutEditor.2.boxes := by
  intro p q l m hboxes hcords
  have hp : p.WellFormed := wellFormed_after history
  have hq : q.WellFormed := wellFormed_after history'
  have h : p.Reordered q := ⟨hboxes, hcords⟩
  exact ⟨h.controls, h.stragglers hp hq, h.columns hp hq, h.boxes_layoutEditor hp hq⟩

/-- A box that sends to two others; the cords come in either order. The column of the two is turned
over. -/
theorem fork_keeps_columns :
    let node : Contract := { inlets := 1, outlets := [.bang, .bang] }
    let boxes : List Edit :=
      [.add "trigger" node "" [], .add "+" node "" [], .add "-" node "" []]
    let left : Edit := .connect ⟨⟨1⟩, .outlet, 0⟩ ⟨⟨2⟩, .inlet, 0⟩
    let right : Edit := .connect ⟨⟨1⟩, .outlet, 1⟩ ⟨⟨3⟩, .inlet, 0⟩
    let p := empty.after (boxes ++ [left, right])
    let q := empty.after (boxes ++ [right, left])
    p.boxes = q.boxes ∧ p.cords.Perm q.cords ∧
    p.layoutEditor.1.columns = [[⟨1⟩], [⟨2⟩, ⟨3⟩]] ∧
    q.layoutEditor.1.columns = [[⟨1⟩], [⟨3⟩, ⟨2⟩]] ∧
    List.Forall₂ List.Perm p.layoutEditor.1.columns q.layoutEditor.1.columns ∧
    List.Forall₂ (fun b c => ∃ y, c = b.moveTo b.editorRect.x y)
      p.layoutEditor.2.boxes q.layoutEditor.2.boxes := by
  intro node boxes left right p q
  have hboxes : p.boxes = q.boxes := rfl
  have hcords : p.cords.Perm q.cords := by decide
  obtain ⟨-, -, hcolumns, hplaces⟩ :=
    cord_order_keeps_columns (boxes ++ [left, right]) (boxes ++ [right, left]) hboxes hcords
  exact ⟨hboxes, hcords, by decide, by decide, hcolumns, hplaces⟩

end Patch

end MaxPatch
