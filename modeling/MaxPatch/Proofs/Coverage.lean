import Mathlib.Algebra.BigOperators.Group.List.Basic
import MaxPatch.Layout.Editor
import MaxPatch.Proofs.Histories
import MaxPatch.Proofs.Rounds

/-! # Coverage: every box has one place in the editor

The layout of the editor puts the controls in one column and all other boxes in the columns of the
layering. `Covers` says that nothing is lost and nothing placed twice on the way, and that a box can
be found again by asking for its column; `every_box_in_one_place` says so for the patch after any
history.

The rounds only ever move boxes from those that wait to a column (`Rounds.perm`), and begin with the
boxes that are no controls, parted into those that owe nothing and those that wait
(`entries_waiting_perm`). So the columns hold just these boxes (`columns_perm`). -/

namespace MaxPatch

/-! ### Columns that are not empty -/

theorem Rounds.ne_nil {successors : BoxId → List BoxId} {column : List BoxId} {w left : Waiting}
    {columns : List (List BoxId)} (h : Rounds successors column w columns left) :
    ∀ c ∈ columns, c ≠ [] := by
  induction h with
  | done w => simp
  | @round column w left columns nonempty rest ih =>
    intro c hc
    rcases List.mem_cons.mp hc with rfl | hc
    · exact nonempty
    · exact ih c hc

namespace Layering

theorem withStragglers_ne_nil {columns : List (List BoxId)} (h : ∀ c ∈ columns, c ≠ [])
    (stragglers : List BoxId) : ∀ c ∈ withStragglers columns stragglers, c ≠ [] := by
  fun_induction withStragglers columns stragglers with
  | case1 columns => exact h
  | case2 stragglers hne => simpa using hne
  | case3 last stragglers hne => simp [h last (by simp)]
  | case4 column columns stragglers hne hcolumns ih =>
    intro c hc
    rcases List.mem_cons.mp hc with rfl | hc
    · exact h c List.mem_cons_self
    · exact ih (fun c hc => h c (List.mem_cons_of_mem _ hc)) c hc

theorem headD_withStragglers (columns : List (List BoxId)) (stragglers : List BoxId) :
    (withStragglers columns stragglers).headD [] = columns.headD [] ∨
      (withStragglers columns stragglers).headD [] = columns.headD [] ++ stragglers := by
  fun_cases withStragglers columns stragglers with
  | case1 => exact Or.inl rfl
  | case2 => exact Or.inr rfl
  | case3 => exact Or.inr rfl
  | case4 => exact Or.inl rfl

theorem getLastD_withStragglers (columns : List (List BoxId)) (stragglers : List BoxId) :
    (withStragglers columns stragglers).getLastD [] = columns.getLastD [] ++ stragglers := by
  fun_induction withStragglers columns stragglers with
  | case1 columns => exact (List.append_nil _).symm
  | case2 stragglers hne => rfl
  | case3 last stragglers hne => rfl
  | case4 column columns stragglers hne hcolumns ih =>
    have hlength := length_withStragglers (by simpa using hcolumns : columns ≠ []) stragglers
    cases columns with
    | nil => exact absurd rfl hcolumns
    | cons next rest =>
      generalize withStragglers (next :: rest) stragglers = added at hlength ih ⊢
      cases added with
      | nil => cases hlength
      | cons => simpa only [List.getLastD_cons] using ih

end Layering

/-! ### Finding a box -/

namespace EditorLayout

theorem columnOf?_eq_some_iff {l : EditorLayout} (h : l.columns.flatten.Nodup) {id : BoxId}
    {i : Nat} : l.columnOf? id = some i ↔ ∃ column, l.columns[i]? = some column ∧ id ∈ column := by
  have hdisjoint := (List.nodup_flatten.mp h).2
  rw [columnOf?, List.findIdx?_eq_some_iff_getElem]
  constructor
  · rintro ⟨hi, hmem, -⟩
    exact ⟨l.columns[i], List.getElem?_eq_getElem hi, List.contains_iff_mem.mp hmem⟩
  · rintro ⟨column, hc, hmem⟩
    obtain ⟨hi, rfl⟩ := List.getElem?_eq_some_iff.mp hc
    refine ⟨hi, List.contains_iff_mem.mpr hmem, fun j hj hmem' => ?_⟩
    exact List.pairwise_iff_getElem.mp hdisjoint j i (by omega) hi hj
      (List.contains_iff_mem.mp hmem') hmem

theorem isSome_columnOf? (l : EditorLayout) (id : BoxId) :
    (l.columnOf? id).isSome ↔ id ∈ l.columns.flatten := by
  rw [columnOf?, List.findIdx?_isSome, List.any_eq_true, List.mem_flatten]
  simp only [List.contains_iff_mem]

end EditorLayout

/-! ### What the columns hold -/

namespace Patch

variable (p : Patch)

theorem controls_logic_perm : (p.controls ++ p.logic).Perm p.ids := by
  unfold controls logic ids
  rw [← List.map_append]
  exact (List.filter_append_perm _ p.boxes).map _

theorem mem_ids_iff {p : Patch} {id : BoxId} :
    id ∈ p.ids ↔ id ∈ p.controls ∨ id ∈ p.logic := by
  rw [← p.controls_logic_perm.mem_iff, List.mem_append]

theorem WellFormed.not_mem_logic {p : Patch} (h : p.WellFormed) :
    ∀ id ∈ p.controls, id ∉ p.logic := by
  intro id hc hl
  have hnodup := p.controls_logic_perm.symm.nodup h.nodup_ids
  exact (List.nodup_append.mp hnodup).2.2 id hc id hl rfl

theorem entries_waiting_perm : (p.entries ++ p.waiting.keys).Perm p.logic := by
  have hwaiting : p.waiting = p.owing.filter fun e => !decide (e.2 = 0) :=
    List.filter_congr fun e _ => by simp
  rw [← keys_owing p, entries, hwaiting, Waiting.keys, ← List.map_append]
  exact (List.filter_append_perm _ p.owing).map _

theorem columns_perm : p.editorLayout.columns.flatten.Perm p.logic := by
  obtain ⟨columns, left, hrounds, hlayering⟩ := exists_rounds p
  rw [editorLayout, hlayering, Layering.flatten_withStragglers]
  exact hrounds.perm.trans p.entries_waiting_perm

variable {p}

/-- **A layout that covers a patch**: its columns hold every box once, the controls stand in a
column of their own, no other column is empty, and asking for the column of a box gives the one that
has it, if it is no control. -/
structure Covers (p : Patch) (l : EditorLayout) : Prop where
  placed : (l.controls ++ l.columns.flatten).Perm p.ids
  once : (l.controls ++ l.columns.flatten).Nodup
  controls : l.controls = p.controls
  nonempty : ∀ column ∈ l.columns, column ≠ []
  bound : l.columns.length ≤ p.logic.length
  stragglers : l.stragglers <:+ l.columns.getLastD []
  found : ∀ id, (l.columnOf? id).isSome ↔ id ∈ p.logic
  only : ∀ id i, l.columnOf? id = some i ↔ ∃ column, l.columns[i]? = some column ∧ id ∈ column

theorem WellFormed.covers_editorLayout (h : p.WellFormed) : p.Covers p.editorLayout := by
  have hcolumns := p.columns_perm
  have hplaced : (p.editorLayout.controls ++ p.editorLayout.columns.flatten).Perm p.ids :=
    (hcolumns.append_left p.controls).trans p.controls_logic_perm
  have honce := hplaced.symm.nodup h.nodup_ids
  obtain ⟨columns, left, hrounds, hlayering⟩ := exists_rounds p
  have hc : p.editorLayout.columns = Layering.withStragglers columns left.keys := by
    rw [editorLayout, hlayering]
  have hs : p.editorLayout.stragglers = left.keys := by rw [editorLayout, hlayering]
  have hnonempty : ∀ column ∈ p.editorLayout.columns, column ≠ [] := by
    rw [hc]; exact Layering.withStragglers_ne_nil hrounds.ne_nil left.keys
  refine ⟨hplaced, honce, rfl, hnonempty, ?_, ?_, fun id => ?_, fun id i => ?_⟩
  · rw [← hcolumns.length_eq, List.length_flatten, ← List.length_map (f := List.length)]
    refine List.length_le_sum_of_one_le _ fun n hn => ?_
    obtain ⟨column, hmem, rfl⟩ := List.mem_map.mp hn
    exact List.length_pos_iff.mpr (hnonempty column hmem)
  · rw [hc, hs, Layering.getLastD_withStragglers]; exact List.suffix_append _ _
  · rw [EditorLayout.isSome_columnOf?, hcolumns.mem_iff]
  · exact EditorLayout.columnOf?_eq_some_iff (List.nodup_append.mp honce).2.1

/-- **Every box has one place.** After any history the rounds of the layering come to an end by
themselves, and the layout of the editor covers the patch: all its boxes stand in its columns, and
none of them twice. -/
theorem every_box_in_one_place (history : List Edit) :
    let p := empty.after history
    let l := p.layoutEditor.1
    (∃ columns left, Rounds p.successors p.entries p.waiting columns left ∧
      l.columns = Layering.withStragglers columns left.keys ∧ l.stragglers = left.keys) ∧
    p.Covers l := by
  intro p l
  obtain ⟨columns, left, hrounds, hlayering⟩ := exists_rounds p
  refine ⟨⟨columns, left, hrounds, congrArg Layering.columns hlayering,
    congrArg Layering.stragglers hlayering⟩, ?_⟩
  exact (wellFormed_after history).covers_editorLayout

end Patch

end MaxPatch
