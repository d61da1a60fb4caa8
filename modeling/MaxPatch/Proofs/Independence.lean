import MaxPatch.Proofs.Agreement

/-! # Independence: the layouts do not disturb each other

The layout of the editor reads the makes, the cords and the sizes of boxes and writes their corners;
so it forgets where boxes stood before, and doing it again changes nothing
(`WellFormed.layoutEditor_twice`). The layout of the face reads sizes too, and writes how boxes are
shown and how wide the device is. What the one writes the other neither reads nor writes. So after
both layouts, in either order, the places of boxes are those of the first and all else is what the
second has left, also if the second breaks off at a box that does not exist
(`WellFormed.layouts_commute`). `layouts_are_independent` puts both together. -/

namespace MaxPatch.Patch

variable {faced : BoxId → Prop} {framed : Prop} {p q : Patch}

theorem AgreeExcept.editorRects (h : p.AgreeExcept (fun _ => False) faced framed q) :
    p.boxes.map (·.editorRect) = q.boxes.map (·.editorRect) := by
  refine List.ext_getElem? fun i => ?_
  rw [List.getElem?_map, List.getElem?_map, ← box?_eq_getElem?, ← box?_eq_getElem?]
  rcases h.box? ⟨i + 1⟩ with ⟨hp, hq⟩ | ⟨b, c, hp, hq, hbc⟩
  · rw [hp, hq]
  · rw [hp, hq, Option.map_some, Option.map_some, hbc.place not_false]

/-- **The second layout of the editor** finds every box in its place. -/
theorem WellFormed.layoutEditor_twice (hp : p.WellFormed) :
    p.layoutEditor.2.layoutEditor = p.layoutEditor := by
  have h := p.agreeExcept_layoutEditor
  have hplaced : p.layoutEditor.2.WellFormed := hp.edit .layoutEditor
  exact Prod.ext (editorLayout_congr h.skeleton) (h.layoutEditor hplaced).eq_of_frame

/-- **Both layouts in either order** give the same answers and the same patch. -/
theorem WellFormed.layouts_commute (hp : p.WellFormed) (ids : List BoxId) :
    (p.layoutEditor.2.layoutFace ids).1 = (p.layoutFace ids).1 ∧
      (p.layoutFace ids).2.layoutEditor.1 = p.layoutEditor.1 ∧
      (p.layoutEditor.2.layoutFace ids).2 = (p.layoutFace ids).2.layoutEditor.2 := by
  have hf : (p.layoutFace ids).2.WellFormed := hp.edit (.layoutFace ids)
  have hshown := p.agreeExcept_layoutFace ids
  obtain ⟨hanswer, hface⟩ := p.agreeExcept_layoutEditor.layoutFace fun _ => Or.inr
  refine ⟨hanswer, editorLayout_congr hshown.skeleton, AgreeExcept.eq_of_both ?_ ?_⟩
  · -- but for places, both are what the layout of the face makes of `p`
    exact hface.trans (p.layoutFace ids).2.agreeExcept_layoutEditor.symm
  · -- and the places of both are where the layout of the editor puts the boxes of `p`
    exact (p.layoutEditor.2.agreeExcept_layoutFace ids).trans (hshown.layoutEditor hf).symm

/-- **The layouts are independent** of each other and of what was before, after any history. The
layout of the editor gives the same answer and the same rectangles for every patch that differs only
in where boxes stand and in how they are shown, and doing it again gives the same once more. Together
with the layout of the face, for any boxes named, it gives the same answers and the same patch in
either order. -/
theorem layouts_are_independent (history : List Edit) :
    let p := empty.after history
    (∀ q, p.AgreeExcept (fun _ => True) (fun _ => True) True q →
      q.layoutEditor.1 = p.layoutEditor.1 ∧
      q.layoutEditor.2.boxes.map (·.editorRect) = p.layoutEditor.2.boxes.map (·.editorRect) ∧
      q.layoutEditor.2.layoutEditor = q.layoutEditor) ∧
    ∀ ids, (p.layoutEditor.2.layoutFace ids).1 = (p.layoutFace ids).1 ∧
      (p.layoutFace ids).2.layoutEditor.1 = p.layoutEditor.1 ∧
      (p.layoutEditor.2.layoutFace ids).2 = (p.layoutFace ids).2.layoutEditor.2 := by
  intro p
  have hp : p.WellFormed := wellFormed_after history
  refine ⟨fun q h => ⟨?_, ?_, ?_⟩, hp.layouts_commute⟩
  · exact (editorLayout_congr h.skeleton).symm
  · exact (h.layoutEditor hp).editorRects.symm
  · exact (hp.of_skeleton h.skeleton.symm).layoutEditor_twice

/-- A row that breaks off at a box that does not exist, before or after the boxes are put in their
places. -/
example :
    let history : List Edit :=
      [.addParameter "A" { control := .dial }, .addParameter "B" { control := .slider },
       .setEditorRect ⟨1⟩ ⟨7, 9, 44, 48⟩]
    let p := empty.after history
    let ids : List BoxId := [⟨2⟩, ⟨1⟩, ⟨9⟩, ⟨2⟩]
    let q := (p.layoutEditor.2.layoutFace ids).2
    let r := (p.layoutFace ids).2.layoutEditor.2
    q.boxes.map (fun b => (b.editorRect, b.faceRect?)) =
        [(⟨30, 30, 44, 48⟩, some ⟨52, 4, 44, 48⟩), (⟨30, 128, 40, 80⟩, some ⟨4, 4, 40, 80⟩)] ∧
      r.boxes.map (fun b => (b.editorRect, b.faceRect?)) =
        q.boxes.map (fun b => (b.editorRect, b.faceRect?)) := by decide

end MaxPatch.Patch
