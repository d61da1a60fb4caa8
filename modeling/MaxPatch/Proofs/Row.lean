import MaxPatch.Proofs.Histories
import MaxPatch.Proofs.Sums

/-! # The row: boxes side by side on the face

The layout of the face shows boxes in a row, each in the size that it has in the editor. How far a
row reaches can be read off the patch before it, since showing a box leaves its place in the editor
alone (`showRow_eq_ok`). A box goes to where the ones before it reach, and when it is named more
than once, the last time counts (`box?_showRow`). -/

namespace MaxPatch

namespace Patch

/-- The widths of boxes; numbers that belong to no box are passed over. -/
def widths (p : Patch) (ids : List BoxId) : List Pixels :=
  ids.filterMap fun id => (p.box? id).map (·.editorRect.width)

/-- The rectangle on the face of the box of a number, if it is shown. -/
def faceRect? (p : Patch) (id : BoxId) : Option Rect := (p.box? id).bind (·.faceRect?)

theorem widths_update (p : Patch) (id : BoxId) (shown : Bool) (r : Option Rect) :
    (p.update id (·.setFace shown r)).widths = p.widths := by
  funext ids
  refine List.filterMap_congr fun other _ => map_box?_update p id (fun b => ?_) other
  rfl

theorem widths_cons {p : Patch} {id : BoxId} {b : Box} (hb : p.box? id = some b)
    (ids : List BoxId) : p.widths (id :: ids) = b.editorRect.width :: p.widths ids := by
  unfold widths
  rw [List.filterMap_cons, hb]
  rfl

/-- **How far a row reaches.** -/
theorem showRow_eq_ok {p : Patch} {ids : List BoxId} (h : ∀ id ∈ ids, (p.box? id).isSome)
    (x : Pixels) : (p.showRow x ids).1 = .ok (.past faceGap x (p.widths ids)) := by
  induction ids generalizing p x with
  | nil => rfl
  | cons id ids ih =>
    obtain ⟨b, hb⟩ := Option.isSome_iff_exists.mp (h id List.mem_cons_self)
    rw [showRow, hb, widths_cons hb]
    refine (ih (fun other ho => ?_) _).trans ?_
    · rw [isSome_box?_update]
      exact h other (List.mem_cons_of_mem _ ho)
    · rw [widths_update]; rfl

/-- **What the layout of the face comes to** when there is something to show. -/
theorem layoutFace_eq {p : Patch} {ids : List BoxId} (hids : ids ≠ [])
    (h : ∀ id ∈ ids, (p.box? id).isSome) : p.layoutFace ids =
      let width := (Pixels.past faceGap faceMargin (p.widths ids)).plus faceMargin
      (.ok (some width), { (p.showRow faceMargin ids).2 with deviceWidth := width }) := by
  have hreach := showRow_eq_ok h faceMargin
  rw [layoutFace, if_neg hids]
  generalize p.showRow faceMargin ids = r at hreach ⊢
  obtain ⟨result, q⟩ := r
  obtain rfl : result = .ok _ := hreach
  rfl

theorem deviceWidth_of_layoutFace {p : Patch} {ids : List BoxId} {width : Pixels}
    (h : (p.layoutFace ids).1 = .ok (some width)) : (p.layoutFace ids).2.deviceWidth = width := by
  revert h
  rw [layoutFace]
  split_ifs
  · exact fun h => by cases h
  · split
    · exact fun h => by cases h
    · exact fun h => by cases h; rfl

theorem layoutFace_ok {p : Patch} {ids : List BoxId} (h : ∀ id ∈ ids, (p.box? id).isSome) :
    ∃ width, (p.layoutFace ids).1 = .ok width := by
  by_cases hids : ids = []
  · exact ⟨none, by rw [layoutFace, if_pos hids]⟩
  · exact ⟨_, congrArg Prod.fst (layoutFace_eq hids h)⟩

theorem box?_showRow_of_not_mem {id : BoxId} {ids : List BoxId} (h : id ∉ ids) (p : Patch)
    (x : Pixels) : (p.showRow x ids).2.box? id = p.box? id := by
  induction ids generalizing p x with
  | nil => rfl
  | cons other ids ih =>
    rw [List.mem_cons, not_or] at h
    rw [showRow]
    split
    · rfl
    · rw [ih h.2, box?_update]
      simp [Ne.symm h.1]

/-- **A box in a row** goes to where the boxes before it reach; if it is among them, it is shown
anew. -/
theorem box?_showRow {p : Patch} {id : BoxId} {before rest : List BoxId}
    (hb : ∀ other ∈ before, (p.box? other).isSome) (hr : id ∉ rest) (x : Pixels) :
    (p.showRow x (before ++ id :: rest)).2.box? id = (p.box? id).map fun b =>
      b.setFace true
        (some { b.editorRect with x := .past faceGap x (p.widths before), y := faceTop }) := by
  induction before generalizing p x with
  | nil =>
    rw [List.nil_append, showRow]
    cases hbox : p.box? id with
    | none => exact hbox
    | some b =>
      simp only
      rw [box?_showRow_of_not_mem hr, box?_update, hbox]
      simp [widths, Pixels.past]
  | cons other before ih =>
    obtain ⟨c, hc⟩ := Option.isSome_iff_exists.mp (hb other List.mem_cons_self)
    rw [List.cons_append, showRow, hc, widths_cons hc]
    refine (ih (fun o ho => ?_) _).trans ?_
    · rw [isSome_box?_update]
      exact hb o (List.mem_cons_of_mem _ ho)
    · rw [widths_update]
      refine map_box?_update p other (fun b => ?_) id
      rfl

end Patch

end MaxPatch
