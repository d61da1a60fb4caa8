import MaxPatch.Proofs.Placement
import MaxPatch.Proofs.Sums

/-! # Geometry: where boxes stand, in numbers

Clamping on the way comes to the same as clamping the exact sum (`Pixels.past_clamp`). So the place
of a box in the editor can be said in natural numbers (`Patch.Stacks`): each column has one left
edge, and a box stands as far down as the boxes above it are high together, with a gap of 50 below
each. `boxes_stand_in_columns` says so for the patch after any history, and that nothing else
changes. -/

namespace MaxPatch

/-- **The left edge of a column**: the steps to it, from the first column on. -/
theorem EditorLayout.columnX_eq (l : EditorLayout) {i : Nat} (hi : i ≤ Pixels.top) :
    l.columnX i = Pixels.clamp ((if l.controls = [] then 30 else 210) + 180 * i) := by
  have hcolumn : (UInt32.ofNat i).toNat = i := by
    rw [UInt32.toNat_ofNat']
    unfold Pixels.top at hi
    omega
  have hstep : columnStep.toNat = 180 := rfl
  have hleft : editorLeft.toNat = 30 := rfl
  have hright : (editorLeft + columnStep).toNat = 210 := rfl
  apply UInt32.toNat_inj.mp
  unfold columnX
  rw [Pixels.toNat_plus, Pixels.toNat_times, Pixels.toNat_clamp, hcolumn, hstep]
  split_ifs
  · rw [hleft]; omega
  · rw [hright]; omega

namespace Patch

/-! ### Columns of boxes -/

/-- How high boxes are that are stacked, with the gap below each. -/
def stackHeight (boxes : List Box) : Nat :=
  (boxes.map fun b => b.editorRect.height.toNat + 50).sum

/-- **A stack**: in `q` the boxes of a column stand at the left edge `x`, one below the other from
30 on, and are otherwise what they are in `p`. -/
def Stacks (p q : Patch) (x : Nat) (column : List BoxId) : Prop :=
  ∃ boxes : List Box, column = boxes.map (·.id) ∧ (∀ b ∈ boxes, b ∈ p.boxes) ∧
    ∀ (j : Nat) (b : Box), boxes[j]? = some b → q.box? b.id =
      some (b.moveTo (.clamp x) (.clamp (30 + stackHeight (boxes.take j))))

theorem exists_boxes {p : Patch} {ids : List BoxId} (h : ∀ id ∈ ids, id ∈ p.ids) :
    ∃ boxes : List Box, ids = boxes.map (·.id) ∧ ∀ b ∈ boxes, b ∈ p.boxes := by
  induction ids with
  | nil => exact ⟨[], rfl, by simp⟩
  | cons id ids ih =>
    obtain ⟨b, hb, rfl⟩ := List.mem_map.mp (h id List.mem_cons_self)
    obtain ⟨boxes, rfl, hboxes⟩ := ih fun id hid => h id (List.mem_cons_of_mem _ hid)
    refine ⟨b :: boxes, rfl, fun c hc => ?_⟩
    rcases List.mem_cons.mp hc with rfl | hc
    · exact hb
    · exact hboxes c hc

theorem WellFormed.reach_boxes {p : Patch} (h : p.WellFormed) {boxes : List Box}
    (hboxes : ∀ b ∈ boxes, b ∈ p.boxes) (y : Pixels) :
    p.reach y (boxes.map (·.id)) = .past boxGap y (boxes.map (·.editorRect.height)) := by
  induction boxes generalizing y with
  | nil => rfl
  | cons b boxes ih =>
    have hb : p.height? b.id = some b.editorRect.height := by
      unfold height?
      rw [h.box?_eq_some_iff.mpr ⟨hboxes b List.mem_cons_self, rfl⟩]
      rfl
    rw [List.map_cons, reach, List.foldl_cons, hb]
    exact ih (fun c hc => hboxes c (List.mem_cons_of_mem _ hc)) _

theorem WellFormed.stacks {p q : Patch} (h : p.WellFormed) {x : Nat} {column : List BoxId}
    (hids : ∀ id ∈ column, id ∈ p.ids)
    (hmoved : ∀ above id rest, column = above ++ id :: rest →
      q.box? id = (p.box? id).map (·.moveTo (.clamp x) (p.reach editorTop above))) :
    p.Stacks q x column := by
  obtain ⟨boxes, rfl, hboxes⟩ := exists_boxes hids
  refine ⟨boxes, rfl, hboxes, fun j b hj => ?_⟩
  have hreach : p.reach editorTop ((boxes.take j).map (·.id)) =
      .clamp (30 + stackHeight (boxes.take j)) := by
    have htop : editorTop = .clamp 30 := rfl
    rw [h.reach_boxes (fun b hb => hboxes b (List.mem_of_mem_take hb)), htop, Pixels.past_clamp,
      List.map_map]
    rfl
  rw [hmoved _ _ _ (map_eq_of_getElem? (·.id) hj), hreach,
    h.box?_eq_some_iff.mpr ⟨hboxes b (List.mem_of_getElem? hj), rfl⟩]
  rfl

/-! ### The layout of the editor -/

theorem layoutEditor_frame (p : Patch) :
    p.layoutEditor.2 = { p with boxes := p.layoutEditor.2.boxes } := by
  refine layoutEditor_preserves (P := fun q => q = { p with boxes := q.boxes })
    (fun q id x y hq => ?_) rfl
  rw [update_eq, hq]

/-- **The layout moves boxes** and leaves them otherwise as they are. -/
theorem WellFormed.boxes_layoutEditor {p : Patch} (h : p.WellFormed) :
    List.Forall₂ (fun b c => ∃ x y, c = b.moveTo x y) p.boxes p.layoutEditor.2.boxes := by
  refine List.forall₂_iff_get.mpr ⟨(length_boxes_layoutEditor p).symm, fun i hi hi' => ?_⟩
  have hbox : p.box? ⟨i + 1⟩ = some p.boxes[i] := List.getElem?_eq_getElem hi
  obtain ⟨y, hy⟩ := h.box?_layoutEditor hbox
  exact ⟨_, y, (List.getElem?_eq_some_iff.mp hy).2⟩

theorem WellFormed.length_columns_le {p : Patch} (h : p.WellFormed) :
    p.editorLayout.columns.length ≤ p.boxes.length := by
  have hlogic : p.logic.length ≤ p.boxes.length := by
    rw [logic, List.length_map]
    exact List.length_filter_le _ _
  exact Nat.le_trans h.covers_editorLayout.bound hlogic

/-- **Boxes stand in columns.** After any history with fewer than 2^32 boxes, the controls are
stacked at 30 and the boxes of each column at its left edge, 180 from column to column and one step
further to the right if there are controls; positions beyond the largest are the largest. The layout
only moves boxes: their sizes, all else about them, the cords and what the header says stay. -/
theorem boxes_stand_in_columns (history : List Edit) :
    let p := empty.after history
    let l := p.layoutEditor.1
    let q := p.layoutEditor.2
    p.boxes.length ≤ Pixels.top →
      p.Stacks q 30 l.controls ∧
      (∀ (i : Nat) (column : List BoxId), l.columns[i]? = some column →
        p.Stacks q ((if l.controls = [] then 30 else 210) + 180 * i) column ∧
        l.columnX i = .clamp ((if l.controls = [] then 30 else 210) + 180 * i)) ∧
      List.Forall₂ (fun b c => ∃ x y, c = b.moveTo x y) p.boxes q.boxes ∧
      q = { p with boxes := q.boxes } := by
  intro p l q hcount
  have hp : p.WellFormed := wellFormed_after history
  have hids : ∀ id, id ∈ l.controls ++ l.columns.flatten → id ∈ p.ids :=
    fun id hid => hp.covers_editorLayout.placed.mem_iff.mp hid
  refine ⟨?_, fun i column hi => ?_, hp.boxes_layoutEditor, p.layoutEditor_frame⟩
  · refine hp.stacks (fun id hid => hids id (List.mem_append_left _ hid)) fun above id rest hc => ?_
    exact hp.box?_layoutEditor_control hc
  · have hlt : i < l.columns.length := (List.getElem?_eq_some_iff.mp hi).1
    have hcolumns : l.columns.length ≤ p.boxes.length := hp.length_columns_le
    have hx := l.columnX_eq (i := i) (by omega)
    refine ⟨hp.stacks (fun id hid => ?_) fun above id rest hc => ?_, hx⟩
    · exact hids id (List.mem_append_right _
        (List.mem_flatten.mpr ⟨column, List.mem_of_getElem? hi, hid⟩))
    · rw [← hx]
      exact hp.box?_layoutEditor_column (hc ▸ hi)

/-- A slider that is as high as positions go sends the dial below it to the largest position; two
boxes that are joined stand one column apart, to the right of both. -/
theorem tall_slider_clamps_dial :
    let node : Contract := { inlets := 1, outlets := [.bang] }
    let history : List Edit :=
      [.add "loadbang" node "" [], .add "button" node "" [],
       .addParameter "A" { control := .slider, height := some 4294967293 },
       .addParameter "B" { control := .dial }, .connect ⟨⟨1⟩, .outlet, 0⟩ ⟨⟨2⟩, .inlet, 0⟩]
    let p := empty.after history
    let q := p.layoutEditor.2
    p.boxes.length ≤ Pixels.top ∧ p.Stacks q 30 [⟨3⟩, ⟨4⟩] ∧ p.Stacks q 390 [⟨2⟩] ∧
      q.boxes.map (·.editorRect) =
        [⟨210, 30, 72, 22⟩, ⟨390, 30, 58, 22⟩, ⟨30, 30, 40, 4294967293⟩,
         ⟨30, 4294967295, 44, 48⟩] := by
  intro node history p q
  have hcount : p.boxes.length ≤ Pixels.top := by decide
  obtain ⟨hcontrols, hcolumns, -, -⟩ := boxes_stand_in_columns history hcount
  have hleft : p.layoutEditor.1.controls = [⟨3⟩, ⟨4⟩] := by decide
  have hsecond := (hcolumns 1 [⟨2⟩] (by decide)).1
  rw [hleft] at hcontrols hsecond
  exact ⟨hcount, hcontrols, hsecond, by decide⟩

end Patch

end MaxPatch
