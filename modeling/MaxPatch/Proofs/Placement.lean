import MaxPatch.Proofs.Coverage

/-! # Placement: where the layout of the editor puts a box

A box that stands in a stack is moved once, to the left edge of the stack and to where the boxes
above it reach (`reach`, `box?_stack`); boxes outside are left alone. As no box has two places, this
tells where each one ends: controls in the first stack (`box?_layoutEditor_control`) and all others
at the left edge of their column (`box?_layoutEditor_column`). Moves change no heights, so how far a
stack reaches can be read off the patch before the layout. -/

namespace MaxPatch

/-- The left edge of the stack that a box stands in. -/
def EditorLayout.leftOf (l : EditorLayout) (id : BoxId) : Pixels :=
  match l.columnOf? id with
  | some column => l.columnX column
  | none => editorLeft

namespace Patch

/-! ### Heights -/

/-- The height of the box of a number. -/
def height? (p : Patch) (id : BoxId) : Option Pixels := (p.box? id).map (·.editorRect.height)

/-- Where the next box goes when these boxes are stacked from `y` on. -/
def reach (p : Patch) (y : Pixels) (ids : List BoxId) : Pixels :=
  ids.foldl (fun y id => match p.height? id with
    | some height => below y height
    | none => y) y

theorem height?_update (p : Patch) (id : BoxId) (x y : Pixels) :
    (p.update id (·.moveTo x y)).height? = p.height? := by
  funext other
  unfold height?
  refine map_box?_update p id (fun b => ?_) other
  rfl

theorem reach_congr {p q : Patch} (h : p.height? = q.height?) (y : Pixels) (ids : List BoxId) :
    p.reach y ids = q.reach y ids := by
  unfold reach; rw [h]

/-! ### One stack -/

theorem height?_stack (p : Patch) (x y : Pixels) (ids : List BoxId) :
    (p.stack x y ids).height? = p.height? := by
  induction ids generalizing p y with
  | nil => rfl
  | cons id ids ih =>
    rw [stack]
    split
    · rw [ih, height?_update]
    · rw [ih]

theorem box?_stack_of_not_mem {id : BoxId} {ids : List BoxId} (h : id ∉ ids) (p : Patch)
    (x y : Pixels) : (p.stack x y ids).box? id = p.box? id := by
  induction ids generalizing p y with
  | nil => rfl
  | cons other ids ih =>
    rw [List.mem_cons, not_or] at h
    rw [stack]
    split
    · rw [ih h.2, box?_update]
      simp [Ne.symm h.1]
    · rw [ih h.2]

/-- **A box in a stack** goes to where the boxes above it reach. -/
theorem box?_stack {id : BoxId} {above rest : List BoxId} (ha : id ∉ above) (hr : id ∉ rest)
    (p : Patch) (x y : Pixels) : (p.stack x y (above ++ id :: rest)).box? id =
      (p.box? id).map (·.moveTo x (p.reach y above)) := by
  induction above generalizing p y with
  | nil =>
    rw [List.nil_append, stack]
    cases hb : p.box? id with
    | none =>
      rw [box?_stack_of_not_mem hr, hb]
      rfl
    | some b =>
      simp only
      rw [box?_stack_of_not_mem hr, box?_update, hb]
      simp [reach]
  | cons other above ih =>
    rw [List.mem_cons, not_or] at ha
    rw [List.cons_append, stack]
    cases hb : p.box? other with
    | none =>
      simp only [reach, height?, List.foldl_cons, hb, Option.map_none]
      exact ih ha.2 p y
    | some b =>
      simp only
      rw [ih ha.2, box?_update, reach_congr (height?_update p other x y)]
      simp [Ne.symm ha.1, reach, height?, hb]

/-! ### Columns -/

theorem box?_stackColumns_of_not_mem {id : BoxId} {columns : List (List BoxId)}
    (h : id ∉ columns.flatten) (p : Patch) (l : EditorLayout) (i : Nat) :
    (p.stackColumns l i columns).box? id = p.box? id := by
  induction columns generalizing p i with
  | nil => rfl
  | cons column columns ih =>
    rw [List.flatten_cons, List.mem_append, not_or] at h
    rw [stackColumns, ih h.2, box?_stack_of_not_mem h.1]

theorem box?_stackColumns {id : BoxId} {columns : List (List BoxId)} (h : columns.flatten.Nodup)
    {k : Nat} {above rest : List BoxId} (hk : columns[k]? = some (above ++ id :: rest))
    (p : Patch) (l : EditorLayout) (i : Nat) : (p.stackColumns l i columns).box? id =
      (p.box? id).map (·.moveTo (l.columnX (i + k)) (p.reach editorTop above)) := by
  induction columns generalizing p i k with
  | nil => simp at hk
  | cons column columns ih =>
    rw [List.flatten_cons, List.nodup_append] at h
    obtain ⟨hcolumn, hcolumns, hdisjoint⟩ := h
    rw [stackColumns]
    cases k with
    | zero =>
      obtain rfl : column = above ++ id :: rest := by simpa using hk
      have hmem : id ∈ above ++ id :: rest := by simp
      obtain ⟨-, hrest, hapart⟩ := List.nodup_append.mp hcolumn
      rw [box?_stackColumns_of_not_mem fun hid => hdisjoint id hmem id hid rfl]
      exact box?_stack (fun ha => hapart id ha id List.mem_cons_self rfl)
        (List.nodup_cons.mp hrest).1 p _ _
    | succ k =>
      rw [List.getElem?_cons_succ] at hk
      have hid : id ∉ column := fun hid => by
        have hmem : id ∈ columns.flatten :=
          List.mem_flatten.mpr ⟨_, List.mem_of_getElem? hk, by simp⟩
        exact hdisjoint id hid id hmem rfl
      rw [ih hcolumns hk, box?_stack_of_not_mem hid, reach_congr (height?_stack p _ _ column),
        show i + 1 + k = i + (k + 1) by omega]

/-! ### The layout of the editor -/

section Layout
variable {p : Patch} (h : p.WellFormed) {id : BoxId} {above rest : List BoxId}
include h

/-- **A control** goes to the first stack. -/
theorem WellFormed.box?_layoutEditor_control (hc : p.controls = above ++ id :: rest) :
    p.layoutEditor.2.box? id =
      (p.box? id).map (·.moveTo editorLeft (p.reach editorTop above)) := by
  have honce := h.covers_editorLayout.once
  rw [show p.editorLayout.controls = above ++ id :: rest from hc, List.nodup_append] at honce
  obtain ⟨hcontrols, -, hdisjoint⟩ := honce
  obtain ⟨-, hrest, hapart⟩ := List.nodup_append.mp hcontrols
  have hcolumns : id ∉ p.editorLayout.columns.flatten :=
    fun hid => hdisjoint id (by simp) id hid rfl
  rw [layoutEditor, box?_stackColumns_of_not_mem hcolumns]
  rw [show p.editorLayout.controls = above ++ id :: rest from hc]
  exact box?_stack (fun ha => hapart id ha id List.mem_cons_self rfl)
    (List.nodup_cons.mp hrest).1 p _ _

/-- **A box that is no control** goes to its column. -/
theorem WellFormed.box?_layoutEditor_column {i : Nat}
    (hc : p.editorLayout.columns[i]? = some (above ++ id :: rest)) : p.layoutEditor.2.box? id =
      (p.box? id).map (·.moveTo (p.editorLayout.columnX i) (p.reach editorTop above)) := by
  obtain ⟨-, hcolumns, hdisjoint⟩ := List.nodup_append.mp h.covers_editorLayout.once
  have hid : id ∉ p.editorLayout.controls := fun hid => by
    have hmem : id ∈ p.editorLayout.columns.flatten :=
      List.mem_flatten.mpr ⟨_, List.mem_of_getElem? hc, by simp⟩
    exact hdisjoint id hid id hmem rfl
  rw [layoutEditor, box?_stackColumns hcolumns hc, box?_stack_of_not_mem hid,
    reach_congr (height?_stack p _ _ _), Nat.zero_add]

theorem WellFormed.box?_layoutEditor {b : Box} (hb : p.box? id = some b) :
    ∃ y, p.layoutEditor.2.box? id = some (b.moveTo (p.editorLayout.leftOf id) y) := by
  have hcovers := h.covers_editorLayout
  obtain ⟨hmem, hid⟩ := h.box?_eq_some_iff.mp hb
  rcases mem_ids_iff.mp (List.mem_map.mpr ⟨b, hmem, hid⟩ : id ∈ p.ids) with hc | hl
  · obtain ⟨above, rest, hstack⟩ := List.append_of_mem hc
    have hnone : p.editorLayout.columnOf? id = none := by
      rw [← Option.not_isSome_iff_eq_none, hcovers.found]
      exact h.not_mem_logic id hc
    rw [h.box?_layoutEditor_control hstack, hb, EditorLayout.leftOf, hnone]
    exact ⟨_, rfl⟩
  · obtain ⟨i, hi⟩ := Option.isSome_iff_exists.mp ((hcovers.found id).mpr hl)
    obtain ⟨column, hcolumn, hin⟩ := (hcovers.only id i).mp hi
    obtain ⟨above, rest, rfl⟩ := List.append_of_mem hin
    rw [h.box?_layoutEditor_column hcolumn, hb, EditorLayout.leftOf, hi]
    exact ⟨_, rfl⟩

end Layout

end Patch

end MaxPatch
