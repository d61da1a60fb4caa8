import Mathlib.Data.List.TakeWhile
import MaxPatch.Proofs.Row

/-! # Packing: a row of whatever boxes are named

The layout of the face shows the boxes that it is given by their numbers. These may be any numbers:
a box may be named more than once, and there may be none of a number. The boxes that are placed are
those named before the first one that does not exist (`Patch.placed`), and what becomes of the boxes
depends on these alone (`boxes_layoutFace`).

A box that is named more than once keeps the last of its places, but it has taken up room for each
of them (`box?_layoutFace`). `named_boxes_stand_in_a_row` puts this together with the answer, the
width of the device, and all that stays as it is. -/

namespace MaxPatch.Patch

/-- The boxes named before the first one that does not exist. -/
def placed (p : Patch) (ids : List BoxId) : List BoxId :=
  ids.takeWhile fun id => (p.box? id).isSome

/-- How long a row of boxes is, with the gap behind each. -/
def span (p : Patch) (ids : List BoxId) : Nat :=
  ((p.widths ids).map fun width => width.toNat + 8).sum

variable {p : Patch} {ids before rest : List BoxId} {id : BoxId} {b : Box}

/-! ### What is placed -/

theorem isSome_of_mem_placed (h : id ∈ p.placed ids) : (p.box? id).isSome :=
  List.mem_takeWhile_imp (p := fun id => (p.box? id).isSome) h

theorem placed_of_known (h : ∀ id ∈ ids, (p.box? id).isSome) : p.placed ids = ids :=
  List.takeWhile_eq_self_iff.mpr h

theorem placed_of_unknown (hb : ∀ other ∈ before, (p.box? other).isSome)
    (hid : p.box? id = none) : p.placed (before ++ id :: rest) = before := by
  rw [placed, List.takeWhile_append_of_pos hb, List.takeWhile_cons_of_neg (by simp [hid]),
    List.append_nil]

theorem exists_split_of_find? (h : ids.find? (fun id => (p.box? id).isNone) = some id) :
    ∃ before rest, ids = before ++ id :: rest ∧ p.box? id = none ∧
      ∀ other ∈ before, (p.box? other).isSome := by
  obtain ⟨hid, before, rest, rfl, hb⟩ := List.find?_eq_some_iff_append.mp h
  refine ⟨before, rest, rfl, Option.isNone_iff_eq_none.mp hid, fun other ho => ?_⟩
  simpa using hb other ho

/-! ### How long a row is -/

theorem past_widths (p : Patch) (ids : List BoxId) :
    .past faceGap faceMargin (p.widths ids) = Pixels.clamp (4 + p.span ids) :=
  Pixels.past_clamp faceGap 4 (p.widths ids)

theorem span_take_succ {i : Nat} (hi : ids[i]? = some id) (hb : p.box? id = some b) :
    p.span (ids.take (i + 1)) = p.span (ids.take i) + (b.editorRect.width.toNat + 8) := by
  have hlast : p.widths [id] = [b.editorRect.width] := widths_cons hb []
  have happend : p.widths (ids.take i ++ [id]) = p.widths (ids.take i) ++ p.widths [id] :=
    List.filterMap_append
  rw [List.take_add_one, hi, Option.toList_some, span, happend, hlast, List.map_append,
    List.sum_append]
  rfl

/-! ### Rows that break off -/

/-- **A row breaks off at a box that does not exist**; the boxes before it are in their places. -/
theorem showRow_of_unknown (hb : ∀ other ∈ before, (p.box? other).isSome)
    (hid : p.box? id = none) (x : Pixels) : p.showRow x (before ++ id :: rest) =
      (.error (.boxNotFound id), (p.showRow x before).2) := by
  induction before generalizing p x with
  | nil => simp only [List.nil_append, showRow, hid]
  | cons other before ih =>
    obtain ⟨c, hc⟩ := Option.isSome_iff_exists.mp (hb other List.mem_cons_self)
    rw [List.cons_append, showRow, showRow, hc]
    refine ih (fun o ho => ?_) ?_ _
    · rw [isSome_box?_update]
      exact hb o (List.mem_cons_of_mem _ ho)
    · rw [box?_update, hid]
      rfl

theorem layoutFace_of_unknown (hb : ∀ other ∈ before, (p.box? other).isSome)
    (hid : p.box? id = none) : p.layoutFace (before ++ id :: rest) =
      (.error (.boxNotFound id), (p.showRow faceMargin before).2) := by
  rw [layoutFace, if_neg (by simp), showRow_of_unknown hb hid]

/-! ### What becomes of the boxes -/

theorem showRow_frame (p : Patch) (x : Pixels) (ids : List BoxId) :
    (p.showRow x ids).2 = { p with boxes := (p.showRow x ids).2.boxes } := by
  refine showRow_preserves (P := fun q => q = { p with boxes := q.boxes })
    (fun q id r _ hq => ?_) x rfl
  rw [update_eq, hq]

theorem layoutFace_frame (p : Patch) (ids : List BoxId) : (p.layoutFace ids).2 =
    { p with
      boxes := (p.layoutFace ids).2.boxes
      deviceWidth := (p.layoutFace ids).2.deviceWidth } := by
  refine layoutFace_preserves
    (P := fun q => q = { p with boxes := q.boxes, deviceWidth := q.deviceWidth })
    (fun q id r _ hq => ?_) (fun _ q w hq => ?_) rfl
  · rw [update_eq, hq]
  · rw [hq]

theorem map_boxes_layoutFace {α : Type} {g : Box → α}
    (h : ∀ b r, g (b.setFace true (some r)) = g b) (p : Patch) (ids : List BoxId) :
    (p.layoutFace ids).2.boxes.map g = p.boxes.map g := by
  refine layoutFace_preserves (P := fun q => q.boxes.map g = p.boxes.map g)
    (fun q id r _ hq => ?_) (fun _ _ _ hq => hq) rfl
  rw [map_boxes_update q id fun b => h b r, hq]

/-- **What is placed decides**: the boxes become what the row of these makes of them. -/
theorem boxes_layoutFace (p : Patch) (ids : List BoxId) :
    (p.layoutFace ids).2.boxes = (p.showRow faceMargin (p.placed ids)).2.boxes := by
  cases hfind : ids.find? (fun id => (p.box? id).isNone) with
  | some id =>
    obtain ⟨before, rest, rfl, hid, hb⟩ := exists_split_of_find? hfind
    rw [layoutFace_of_unknown hb hid, placed_of_unknown hb hid]
  | none =>
    have hknown : ∀ id ∈ ids, (p.box? id).isSome := by
      simpa [Option.isSome_iff_ne_none] using hfind
    rw [placed_of_known hknown]
    by_cases hids : ids = []
    · rw [layoutFace, if_pos hids, hids]
      rfl
    · rw [layoutFace_eq hids hknown]

theorem box?_layoutFace_of_not_mem (h : id ∉ p.placed ids) :
    (p.layoutFace ids).2.box? id = p.box? id := by
  rw [box?_congr (boxes_layoutFace p ids), box?_showRow_of_not_mem h]

/-- **The last place counts**: a box stands behind all that was placed before it was named for the
last time, itself included. -/
theorem box?_layoutFace {i : Nat} (hi : (p.placed ids)[i]? = some id)
    (hlast : id ∉ (p.placed ids).drop (i + 1)) (hb : p.box? id = some b) :
    (p.layoutFace ids).2.box? id = some (b.setFace true (some
      { x := .clamp (4 + p.span ((p.placed ids).take i)), y := 4
        width := b.editorRect.width, height := b.editorRect.height })) := by
  have hbefore : ∀ other ∈ (p.placed ids).take i, (p.box? other).isSome :=
    fun other ho => isSome_of_mem_placed (List.mem_of_mem_take ho)
  have hrow := box?_showRow hbefore hlast faceMargin
  rw [← eq_of_getElem? hi, hb, past_widths] at hrow
  rw [box?_congr (boxes_layoutFace p ids), hrow]
  rfl

theorem faceRect?_layoutFace {i : Nat} (hi : (p.placed ids)[i]? = some id)
    (hlast : id ∉ (p.placed ids).drop (i + 1)) (hb : p.box? id = some b) :
    (p.layoutFace ids).2.faceRect? id = some
      { x := .clamp (4 + p.span ((p.placed ids).take i)), y := 4
        width := b.editorRect.width, height := b.editorRect.height } := by
  rw [faceRect?, box?_layoutFace hi hlast hb]
  rfl

/-- **Boxes that are named once stand side by side**, as long as no place is clamped. -/
theorem faceRects_of_nodup (hnodup : (p.placed ids).Nodup) {i : Nat} {first second : BoxId}
    (hi : (p.placed ids)[i]? = some first) (hi' : (p.placed ids)[i + 1]? = some second) :
    ∃ r r', (p.layoutFace ids).2.faceRect? first = some r ∧
      (p.layoutFace ids).2.faceRect? second = some r' ∧
      (4 + p.span ((p.placed ids).take (i + 1)) ≤ Pixels.top →
        r'.x.toNat = r.x.toNat + r.width.toNat + 8) := by
  obtain ⟨b, hb⟩ := Option.isSome_iff_exists.mp (isSome_of_mem_placed (List.mem_of_getElem? hi))
  obtain ⟨c, hc⟩ := Option.isSome_iff_exists.mp (isSome_of_mem_placed (List.mem_of_getElem? hi'))
  have hfirst := faceRect?_layoutFace hi (not_mem_drop_of_nodup hnodup hi) hb
  have hsecond := faceRect?_layoutFace hi' (not_mem_drop_of_nodup hnodup hi') hc
  refine ⟨_, _, hfirst, hsecond, fun hleft => ?_⟩
  have hstep := span_take_succ hi hb
  simp only [Pixels.toNat_clamp]
  omega

/-- **A row that breaks off** leaves the patch as if the boxes before had been all, but for the
width of the device. -/
theorem layoutFace_breaks_off (hb : ∀ other ∈ before, (p.box? other).isSome)
    (hid : p.box? id = none) : (p.layoutFace (before ++ id :: rest)).2 =
      { (p.layoutFace before).2 with deviceWidth := p.deviceWidth } := by
  rw [layoutFace_of_unknown hb hid, layoutFace_frame p before, boxes_layoutFace p before,
    placed_of_known hb]
  exact showRow_frame p faceMargin before

/-! ### The row -/

/-- **The boxes named stand in a row.** The layout of the face answers for any patch and any boxes
named. Nothing named, it changes nothing. If all boxes exist, the device becomes as wide as the row
and its margins, and that is the answer. Else the answer is the first box that does not exist, and
the patch is as if only the boxes before it had been named, but for the width of the device, which
stays.

The boxes placed are shown 4 from the top in the size that they have in the editor, each as far to
the right as what was placed before it was named for the last time, with a gap of 8 behind each;
positions beyond the largest are the largest. All other boxes, all rectangles in the editor,
attributes and makes, and all else of the patch stay. So, of boxes that are named once, each begins
8 behind the end of the one before, unless its place was clamped. -/
theorem named_boxes_stand_in_a_row (p : Patch) (ids : List BoxId) :
    let answer := (p.layoutFace ids).1
    let q := (p.layoutFace ids).2
    let placed := p.placed ids
    let left := fun i => 4 + p.span (placed.take i)
    p.layoutFace [] = (.ok none, p) ∧
    (ids ≠ [] → (∀ id ∈ ids, (p.box? id).isSome) →
      answer = .ok (some (.clamp (4 + p.span ids + 4))) ∧
      q.deviceWidth = .clamp (4 + p.span ids + 4) ∧ placed = ids) ∧
    (∀ id, ids.find? (fun id => (p.box? id).isNone) = some id →
      answer = .error (.boxNotFound id) ∧
      q = { (p.layoutFace placed).2 with deviceWidth := p.deviceWidth }) ∧
    (∀ id ∈ placed, ∃ i b, placed[i]? = some id ∧ id ∉ placed.drop (i + 1) ∧ p.box? id = some b ∧
      q.box? id = some (b.setFace true (some
        { x := .clamp (left i), y := 4
          width := b.editorRect.width, height := b.editorRect.height }))) ∧
    (∀ id ∉ placed, q.box? id = p.box? id) ∧
    q.boxes.map (fun b => (b.make, b.editorRect, b.attributes)) =
      p.boxes.map (fun b => (b.make, b.editorRect, b.attributes)) ∧
    q = { p with boxes := q.boxes, deviceWidth := q.deviceWidth } ∧
    (placed.Nodup → ∀ i first second, placed[i]? = some first → placed[i + 1]? = some second →
      ∃ r r', q.faceRect? first = some r ∧ q.faceRect? second = some r' ∧
        (left (i + 1) ≤ Pixels.top → r'.x.toNat = r.x.toNat + r.width.toNat + 8)) := by
  intro answer q placed left
  refine ⟨rfl, ?_, ?_, ?_, fun id => box?_layoutFace_of_not_mem, ?_, p.layoutFace_frame ids, ?_⟩
  · intro hids hknown
    have hface := layoutFace_eq hids hknown
    rw [past_widths, Pixels.clamp_plus] at hface
    have hanswer : answer = .ok (some (.clamp (4 + p.span ids + 4))) := congrArg Prod.fst hface
    exact ⟨hanswer, deviceWidth_of_layoutFace hanswer, placed_of_known hknown⟩
  · intro id hfind
    obtain ⟨before, rest, rfl, hid, hb⟩ := exists_split_of_find? hfind
    refine ⟨congrArg Prod.fst (layoutFace_of_unknown hb hid), ?_⟩
    have hplaced : placed = before := placed_of_unknown hb hid
    rw [hplaced]
    exact layoutFace_breaks_off hb hid
  · intro id hid
    obtain ⟨i, hi, hlast⟩ := exists_last_place hid
    obtain ⟨b, hb⟩ := Option.isSome_iff_exists.mp (isSome_of_mem_placed hid)
    exact ⟨i, b, hi, hlast, hb, box?_layoutFace hi hlast hb⟩
  · refine map_boxes_layoutFace (fun b r => ?_) p ids
    rfl
  · exact fun hnodup i first second => faceRects_of_nodup hnodup

/-- A dial, a slider, the dial once more, and a box that does not exist: the dial stands behind the
slider, and what comes later is not reached. -/
example :
    let history : List Edit :=
      [.addParameter "A" { control := .dial }, .addParameter "B" { control := .slider }]
    let r := (empty.after history).layoutFace [⟨1⟩, ⟨2⟩, ⟨1⟩, ⟨9⟩, ⟨2⟩]
    r.2.boxes.map (·.faceRect?) = [some ⟨104, 4, 44, 48⟩, some ⟨56, 4, 40, 80⟩] ∧
      r.2.deviceWidth = 0 := by decide

end MaxPatch.Patch
