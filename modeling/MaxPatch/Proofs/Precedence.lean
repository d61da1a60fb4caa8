import Mathlib.Data.Finset.Max
import MaxPatch.Proofs.Columns
import MaxPatch.Proofs.Coverage
import MaxPatch.Proofs.Stragglers

/-! # Precedence: who stands above whom in a column

In the first column the boxes stand in the order in which they were added. In every other column
they stand in the order in which their last cords were settled. The last cord of a box comes from
the box of the column before that *completes* it (`Completes`): of all that send to it, the one that
stands last there. So a box stands above another if it is completed by a box further up, or if one
box completes both and its first cord to the one was made before its first cord to the other.
`columns_in_order` says so for the patch after any history.

Why this order comes about: while a column settles its cords there is a point at which all cords of
the one box are settled and not all of the other. It is the end of the box that completes the one
(`Completes.exists_point_of_row`) or, if this box completes both, the place among its successors
where the other is named (`Completes.exists_point_of_cord`). So the one is released first
(`Waiting.released_before`). -/

namespace MaxPatch

theorem idxOf_lt_of_prefix {α : Type} [DecidableEq α] {front l : List α} {a b : α}
    (h : front <+: l) (ha : a ∈ front) (hb : b ∉ front) : l.idxOf a < l.idxOf b := by
  obtain ⟨rest, rfl⟩ := h
  have hlt := List.idxOf_lt_length_of_mem ha
  rw [List.idxOf_append_of_mem ha, List.idxOf_append_of_notMem hb]
  omega

namespace EditorLayout

/-- The boxes of a column but for the stragglers below them. -/
def reached (l : EditorLayout) (column : List BoxId) : List BoxId :=
  column.filter (· ∉ l.stragglers)

variable {l : EditorLayout} {column : List BoxId}

theorem reached_of_apart (h : ∀ v ∈ column, v ∉ l.stragglers) : l.reached column = column :=
  List.filter_eq_self.mpr fun v hv => decide_eq_true (h v hv)

theorem reached_stragglers : l.reached l.stragglers = [] :=
  List.filter_eq_nil_iff.mpr fun _ hv h => of_decide_eq_true h hv

theorem reached_append (h : ∀ v ∈ column, v ∉ l.stragglers) :
    l.reached (column ++ l.stragglers) = column := by
  have hcolumn := reached_of_apart h
  have hstragglers := l.reached_stragglers
  unfold reached at hcolumn hstragglers ⊢
  rw [List.filter_append, hcolumn, hstragglers, List.append_nil]

end EditorLayout

/-- A layout adds its stragglers to columns that have none of them. -/
structure EditorLayout.AddsTo (l : EditorLayout) (columns : List (List BoxId)) : Prop where
  added : l.columns = Layering.withStragglers columns l.stragglers
  apart : ∀ c ∈ columns, ∀ v ∈ c, v ∉ l.stragglers

namespace EditorLayout

variable {l : EditorLayout} {columns : List (List BoxId)}

theorem AddsTo.reached_head (h : l.AddsTo columns) :
    l.reached (l.columns.headD []) = columns.headD [] := by
  have hapart : ∀ v ∈ columns.headD [], v ∉ l.stragglers := fun v hv => by
    cases columns with
    | nil => cases hv
    | cons c => exact h.apart c List.mem_cons_self v hv
  rw [h.added]
  rcases Layering.headD_withStragglers columns l.stragglers with hhead | hhead
  · rw [hhead, reached_of_apart hapart]
  · rw [hhead, reached_append hapart]

theorem AddsTo.reached_last (h : l.AddsTo columns) :
    l.columns.getLastD [] = l.reached (l.columns.getLastD []) ++ l.stragglers := by
  rw [h.added, Layering.getLastD_withStragglers, reached_append fun v hv => ?_]
  rw [List.getLastD_eq_getLast?] at hv
  cases hlast : columns.getLast? with
  | none => rw [hlast] at hv; cases hv
  | some c => rw [hlast] at hv; exact h.apart c (List.mem_of_getLast? hlast) v hv

theorem AddsTo.getElem?_reached (h : l.AddsTo columns) (hne : columns ≠ []) {i : Nat}
    {column : List BoxId} (hi : l.columns[i]? = some column) :
    columns[i]? = some (l.reached column) ∧ l.reached column <+: column ∧
      (i + 1 ≠ columns.length → l.reached column = column) := by
  rw [h.added, Layering.getElem?_withStragglers hne, Option.map_eq_some_iff] at hi
  obtain ⟨c, hc, rfl⟩ := hi
  have hapart := h.apart c (List.mem_of_getElem? hc)
  split_ifs with hlast
  · rw [reached_append hapart]
    exact ⟨hc, List.prefix_append c _, fun h => absurd hlast h⟩
  · rw [reached_of_apart hapart]
    exact ⟨hc, List.prefix_rfl, fun _ => rfl⟩

end EditorLayout

theorem Rounds.head {successors : BoxId → List BoxId} {column : List BoxId} {w left : Waiting}
    {columns : List (List BoxId)} (h : Rounds successors column w columns left) :
    columns.headD [] = column := by
  cases h with
  | done => rfl
  | round => rfl

/-! ### Release -/

namespace Waiting

theorem settleAll_front (xs ys : List BoxId) (w : Waiting) :
    (settleAll xs w).1 <+: (settleAll (xs ++ ys) w).1 := by
  induction xs generalizing w with
  | nil => exact List.nil_prefix
  | cons v xs ih =>
    rw [List.cons_append, settleAll, settleAll]
    rcases settle v w with ⟨last, w'⟩
    cases last with
    | true => exact List.cons_prefix_cons.mpr ⟨rfl, ih w'⟩
    | false => exact ih w'

theorem Valid.owed_unique {w : Waiting} (hw : w.Valid) {v : BoxId} {m n : Nat} (hm : (v, m) ∈ w)
    (hn : (v, n) ∈ w) : m = n :=
  congrArg Prod.snd (List.inj_on_of_nodup_map hw.nodup hm hn rfl)

/-- **Who is released first**: a box whose cords are all settled when another still owes some. -/
theorem released_before {w : Waiting} (hw : w.Valid) {xs ys : List BoxId} {a b : BoxId}
    {m n : Nat} (ha : (a, m) ∈ w) (hb : (b, n) ∈ w) (hm : m ≤ xs.count a) (hn : xs.count b < n) :
    (settleAll (xs ++ ys) w).1.idxOf a < (settleAll (xs ++ ys) w).1.idxOf b := by
  refine idxOf_lt_of_prefix (settleAll_front xs ys w) ((mem_settleAll hw xs a).mpr ⟨m, ha, hm⟩) ?_
  intro hb'
  obtain ⟨n', hn', hle⟩ := (mem_settleAll hw xs b).mp hb'
  have := hw.owed_unique hb hn'
  omega

end Waiting

namespace Patch

/-! ### The first cord from a box to another -/

section FirstCord

theorem prefix_foldl_firstOccurrences {α : Type} [DecidableEq α] (xs seen : List α) :
    seen <+: xs.foldl (fun seen x => if x ∈ seen then seen else seen ++ [x]) seen := by
  induction xs generalizing seen with
  | nil => exact List.prefix_rfl
  | cons x xs ih =>
    rw [List.foldl_cons]
    split_ifs
    · exact ih seen
    · exact (List.prefix_append seen [x]).trans (ih _)

theorem firstOccurrences_front {α : Type} [DecidableEq α] (xs ys : List α) :
    firstOccurrences xs <+: firstOccurrences (xs ++ ys) := by
  unfold firstOccurrences
  rw [List.foldl_append]
  exact prefix_foldl_firstOccurrences ys _

/-- The place of the first cord from a box to another among the cords of the patch. -/
def firstCord (p : Patch) (u v : BoxId) : Nat :=
  p.cords.findIdx fun c => c.source.box = u ∧ c.destination.box = v

variable {p : Patch} {u v w : BoxId}

theorem getElem?_firstCord (h : u ∈ p.sources v) :
    ∃ c, p.cords[p.firstCord u v]? = some c ∧ c.source.box = u ∧ c.destination.box = v := by
  obtain ⟨c, hc, hu, hv⟩ := mem_sources.mp h
  have hlt : p.firstCord u v < p.cords.length :=
    List.findIdx_lt_length_of_exists ⟨c, hc, decide_eq_true ⟨hu, hv⟩⟩
  exact ⟨_, List.getElem?_eq_getElem hlt, of_decide_eq_true (List.findIdx_getElem (w := hlt))⟩

theorem firstCord_inj (hv : u ∈ p.sources v) (hw : u ∈ p.sources w)
    (h : p.firstCord u v = p.firstCord u w) : v = w := by
  obtain ⟨c, hc, -, rfl⟩ := getElem?_firstCord hv
  obtain ⟨c', hc', -, rfl⟩ := getElem?_firstCord hw
  rw [h, hc', Option.some.injEq] at hc
  rw [hc]

/-- **Successors are named in the order of the first cords to them.** -/
theorem successors_before (hv : u ∈ p.sources v) (h : p.firstCord u v < p.firstCord u w) :
    (p.successors u).idxOf v < (p.successors u).idxOf w := by
  obtain ⟨c, hc, hcu, hcv⟩ := getElem?_firstCord hv
  -- the cords before the first one to `w` name `v` and do not name `w`
  have hmem : ∀ x, x ∈ firstOccurrences
      (((p.cords.take (p.firstCord u w)).filter (·.source.box = u)).map (·.destination.box)) ↔
      ∃ c ∈ p.cords.take (p.firstCord u w), c.source.box = u ∧ c.destination.box = x := by
    intro x
    simp only [mem_firstOccurrences, List.mem_map, List.mem_filter, decide_eq_true_eq, and_assoc]
  refine idxOf_lt_of_prefix ?_ ((hmem v).mpr ⟨c, ?_, hcu, hcv⟩) fun hw => ?_
  · unfold successors
    conv_rhs => rw [← List.take_append_drop (p.firstCord u w) p.cords]
    rw [List.filter_append, List.map_append]
    exact firstOccurrences_front _ _
  · exact List.mem_of_getElem? ((List.getElem?_take_of_lt h).trans hc)
  · obtain ⟨c', hc', hu, hw⟩ := (hmem w).mp hw
    obtain ⟨i, hi, rfl⟩ := List.mem_take_iff_getElem.mp hc'
    have hfirst := List.not_of_lt_findIdx (Nat.lt_of_lt_of_le hi (Nat.min_le_left _ _))
    exact of_decide_eq_false hfirst ⟨hu, hw⟩

end FirstCord

/-! ### The box that settles the last cord -/

/-- A box of a column completes another box: of all boxes of the column that send to it, it is the
one that stands last. -/
structure Completes (p : Patch) (column : List BoxId) (u v : BoxId) : Prop where
  mem : u ∈ column
  sends : u ∈ p.sources v
  last : ∀ t ∈ column, t ∈ p.sources v → column.idxOf t ≤ column.idxOf u

section Completes
variable {p : Patch} {column : List BoxId} {u u' v w : BoxId}

theorem exists_completes (h : ∃ u ∈ column, u ∈ p.sources v) : ∃ u, p.Completes column u v := by
  obtain ⟨u, hu, hs⟩ := h
  have hne : (column.toFinset.filter (· ∈ p.sources v)).Nonempty :=
    ⟨u, Finset.mem_filter.mpr ⟨List.mem_toFinset.mpr hu, hs⟩⟩
  obtain ⟨t, ht, hmax⟩ := Finset.exists_max_image _ column.idxOf hne
  obtain ⟨hmem, hsends⟩ := Finset.mem_filter.mp ht
  refine ⟨t, List.mem_toFinset.mp hmem, hsends, fun t' hmem' hsends' => ?_⟩
  exact hmax t' (Finset.mem_filter.mpr ⟨List.mem_toFinset.mpr hmem', hsends'⟩)

theorem Completes.unique (h : p.Completes column u v) (h' : p.Completes column u' v) : u = u' := by
  have hle := h'.last u h.mem h.sends
  have hle' := h.last u' h'.mem h'.sends
  exact (List.idxOf_inj h.mem).mp (Nat.le_antisymm hle hle')

theorem Completes.exists_split (h : p.Completes column u v) (hn : column.Nodup) :
    ∃ above below, column = above ++ u :: below ∧ column.idxOf u = above.length ∧
      ∀ rest ⊆ below, v ∉ rest.flatMap p.successors := by
  obtain ⟨above, below, rfl, hu⟩ := List.eq_append_cons_of_mem h.mem
  have hidx : (above ++ u :: below).idxOf u = above.length := by
    rw [List.idxOf_append_of_notMem hu, List.idxOf_cons_self, Nat.add_zero]
  refine ⟨above, below, rfl, hidx, fun rest hrest hv => ?_⟩
  obtain ⟨t, ht, hvt⟩ := List.mem_flatMap.mp hv
  obtain ⟨-, hbelow, hapart⟩ := List.nodup_append.mp hn
  have hne : u ≠ t := fun hut => (List.nodup_cons.mp hbelow).1 (hut ▸ hrest ht)
  have htmem : t ∈ u :: below := List.mem_cons_of_mem u (hrest ht)
  have hle := h.last t (List.mem_append_right _ htmem) (mem_successors.mp hvt)
  rw [hidx, List.idxOf_append_of_notMem fun ha => hapart t ha t htmem rfl,
    List.idxOf_cons_ne _ hne] at hle
  omega

/-- When a box has settled its cords, those that it completes owe nothing more, and those that a box
further down completes still do. -/
theorem Completes.exists_point_of_row (h : p.Completes column u v) (h' : p.Completes column u' w)
    (hn : column.Nodup) (hlt : column.idxOf u < column.idxOf u') :
    ∃ xs ys, column.flatMap p.successors = xs ++ ys ∧ v ∉ ys ∧ w ∈ ys := by
  obtain ⟨above, below, rfl, hidx, hsilent⟩ := h.exists_split hn
  have hu' : u' ∈ below := by
    rcases List.mem_append.mp h'.mem with ha | hb
    · rw [hidx, List.idxOf_append_of_mem ha] at hlt
      have := List.idxOf_lt_length_of_mem ha
      omega
    · refine (List.mem_cons.mp hb).resolve_left fun heq => ?_
      rw [heq] at hlt
      omega
  refine ⟨(above ++ [u]).flatMap p.successors, below.flatMap p.successors, ?_,
    hsilent below (List.Subset.refl _), ?_⟩
  · rw [← List.flatMap_append, List.append_assoc, List.singleton_append]
  · exact List.mem_flatMap.mpr ⟨u', hu', mem_successors.mpr h'.sends⟩

theorem Completes.exists_point_of_cord (h : p.Completes column u v) (h' : p.Completes column u w)
    (hn : column.Nodup) (hcord : p.firstCord u v < p.firstCord u w) :
    ∃ xs ys, column.flatMap p.successors = xs ++ ys ∧ v ∉ ys ∧ w ∈ ys := by
  obtain ⟨above, below, rfl, -, hsilent⟩ := h.exists_split hn
  obtain ⟨front, back, hsucc, hw⟩ := List.eq_append_cons_of_mem (mem_successors.mpr h'.sends)
  have hv : v ∈ front := by
    have hlt := successors_before h.sends hcord
    rw [hsucc, List.idxOf_append_of_notMem hw, List.idxOf_cons_self, Nat.add_zero] at hlt
    by_contra hv
    rw [List.idxOf_append_of_notMem hv] at hlt
    omega
  refine ⟨above.flatMap p.successors ++ front, w :: back ++ below.flatMap p.successors, ?_, ?_,
    List.mem_append_left _ List.mem_cons_self⟩
  · rw [List.flatMap_append, List.flatMap_cons, hsucc]
    simp only [List.append_assoc]
  · have hnodup := p.nodup_successors u
    rw [hsucc] at hnodup
    rw [List.mem_append, not_or]
    exact ⟨fun hb => (List.nodup_append.mp hnodup).2.2 v hv v hb rfl,
      hsilent below (List.Subset.refl _)⟩

end Completes

/-! ### The next column -/

section Stage
variable {p : Patch} {d : BoxId → Nat} (hd : p.IsDepth d) (hl : p.logic.Nodup) {k : Nat}
  {placed column : List BoxId} {w : Waiting}

include hd

theorem Stage.exists_completes (h : p.Stage d k placed column w) {v : BoxId} (hv : p.Settled v)
    (hk : d v = k + 1) : ∃ u, p.Completes column u v := by
  refine Patch.exists_completes ?_
  have hs : p.sources v ≠ [] := fun hs => by rw [hd.entry v hv hs] at hk; omega
  obtain ⟨u, hu, he, -⟩ := hd.behind v hv hs
  obtain ⟨-, -, before⟩ := hv
  exact ⟨u, (h.now u).mpr ⟨before u hu, by omega⟩, hu⟩

include hl

theorem Stage.released_before (h : p.Stage d k placed column w) {a b u u' : BoxId}
    (ha : p.Settled a ∧ d a = k + 1) (hb : p.Settled b ∧ d b = k + 1)
    (hu : p.Completes column u a) (hu' : p.Completes column u' b)
    (hbefore : column.idxOf u < column.idxOf u' ∨
      u = u' ∧ p.firstCord u a < p.firstCord u b) :
    (w.settleAll (column.flatMap p.successors)).1.idxOf a <
      (w.settleAll (column.flatMap p.successors)).1.idxOf b := by
  have hoa := h.owes hd ha.1 ha.2
  have hob := h.owes hd hb.1 hb.2
  have hn : column.Nodup := (List.nodup_append.mp h.nodup).2.1
  obtain ⟨xs, ys, hxs, hnot, hmem⟩ : ∃ xs ys,
      column.flatMap p.successors = xs ++ ys ∧ a ∉ ys ∧ b ∈ ys := by
    rcases hbefore with hrow | ⟨rfl, hcord⟩
    · exact hu.exists_point_of_row hu' hn hrow
    · exact hu.exists_point_of_cord hu' hn hcord
  rw [hxs, List.count_append] at hoa hob
  have hzero := List.count_eq_zero_of_not_mem hnot
  have hpos := List.count_pos_iff.mpr hmem
  rw [hxs]
  exact Waiting.released_before (h.valid hl) hoa hob (by omega) (by omega)

/-- **The order of the next column**: by the boxes that complete, and among the boxes that one of
them completes by its first cords. -/
theorem Stage.released_before_iff (h : p.Stage d k placed column w) {a b u u' : BoxId}
    (ha : p.Settled a ∧ d a = k + 1) (hb : p.Settled b ∧ d b = k + 1)
    (hu : p.Completes column u a) (hu' : p.Completes column u' b) :
    (w.settleAll (column.flatMap p.successors)).1.idxOf a <
        (w.settleAll (column.flatMap p.successors)).1.idxOf b ↔
      column.idxOf u < column.idxOf u' ∨ u = u' ∧ p.firstCord u a < p.firstCord u b := by
  refine ⟨fun hlt => ?_, h.released_before hd hl ha hb hu hu'⟩
  by_contra hnot
  rw [not_or, not_and] at hnot
  obtain ⟨hcolumn, hcord⟩ := hnot
  -- then the other one is released first, or both are the same box
  rcases Nat.lt_or_ge (column.idxOf u') (column.idxOf u) with hlt' | hge
  · have := h.released_before hd hl hb ha hu' hu (Or.inl hlt')
    omega
  · obtain rfl : u = u' := (List.idxOf_inj hu.mem).mp (by omega)
    rcases Nat.lt_or_ge (p.firstCord u b) (p.firstCord u a) with hlt' | hge'
    · have := h.released_before hd hl hb ha hu' hu (Or.inr ⟨rfl, hlt'⟩)
      omega
    · have := hcord rfl
      obtain rfl : a = b := firstCord_inj hu.sends hu'.sends (by omega)
      exact Nat.lt_irrefl _ hlt

theorem Stage.exists_released {columns : List (List BoxId)} {left : Waiting}
    (hr : Rounds p.successors column w columns left) (h : p.Stage d k placed column w) {i : Nat}
    {previous next : List BoxId} (hp : columns[i]? = some previous)
    (hn : columns[i + 1]? = some next) : ∃ placed' w', p.Stage d (k + i) placed' previous w' ∧
      next = (w'.settleAll (previous.flatMap p.successors)).1 := by
  induction hr generalizing k placed i with
  | done w => simp at hp
  | @round column w left columns _ rest ih =>
    rw [List.getElem?_cons_succ] at hn
    cases i with
    | zero =>
      obtain rfl : column = previous := by simpa using hp
      refine ⟨placed, w, h, ?_⟩
      rw [← rest.head, List.headD_eq_head?_getD, List.head?_eq_getElem?, hn, Option.getD_some]
    | succ i =>
      rw [List.getElem?_cons_succ] at hp
      rw [show k + (i + 1) = k + 1 + i by omega]
      exact ih (h.next hd hl) hp hn

end Stage

/-! ### The layout of the editor -/

/-- **A layout in order**: the first column begins with the boxes at which no cord arrives, as they
were added; the boxes of every other column follow the boxes that complete them, and those that one
box completes follow its first cords to them; below the last column stand the stragglers, as they
were added. -/
structure InOrder (p : Patch) (l : EditorLayout) : Prop where
  first : l.reached (l.columns.headD []) = p.logic.filter (p.inDegree · = 0)
  completed : ∀ (k : Nat) (previous column : List BoxId), l.columns[k]? = some previous →
    l.columns[k + 1]? = some column → ∀ v ∈ l.reached column, ∃! u, p.Completes previous u v
  next : ∀ (k : Nat) (previous column : List BoxId), l.columns[k]? = some previous →
    l.columns[k + 1]? = some column → ∀ v ∈ l.reached column, ∀ w ∈ l.reached column,
      ∀ u u', p.Completes previous u v → p.Completes previous u' w →
        (column.idxOf v < column.idxOf w ↔ previous.idxOf u < previous.idxOf u' ∨
          u = u' ∧ p.firstCord u v < p.firstCord u w)
  last : l.columns.getLastD [] = l.reached (l.columns.getLastD []) ++ l.stragglers
  stragglers : l.stragglers = p.logic.filter (· ∈ l.stragglers)

section Layout
variable {p : Patch}

theorem entries_eq (p : Patch) : p.entries = p.logic.filter (p.inDegree · = 0) := by
  unfold entries owing
  rw [List.filter_map, List.map_map]
  exact List.map_id _

theorem WellFormed.exists_addsTo (h : p.WellFormed) : ∃ columns left,
    Rounds p.successors p.entries p.waiting columns left ∧ p.editorLayout.AddsTo columns := by
  obtain ⟨columns, left, hr, hlayering⟩ := exists_rounds p
  have hnodup := (hr.perm.trans p.entries_waiting_perm).symm.nodup h.nodup_logic
  have hs : p.editorLayout.stragglers = left.keys := congrArg Layering.stragglers hlayering
  refine ⟨columns, left, hr, ?_, fun c hc v hv hleft => ?_⟩
  · rw [hs]
    exact congrArg Layering.columns hlayering
  · rw [hs] at hleft
    exact (List.nodup_append.mp hnodup).2.2 v (List.mem_flatten.mpr ⟨c, hc, hv⟩) v hleft rfl

theorem WellFormed.next_column (h : p.WellFormed) {k : Nat} {previous column : List BoxId}
    (hp : p.editorLayout.columns[k]? = some previous)
    (hc : p.editorLayout.columns[k + 1]? = some column) :
    ∃ placed w, p.Stage p.depth k placed previous w ∧ p.editorLayout.reached column <+: column ∧
      p.editorLayout.reached column = (w.settleAll (previous.flatMap p.successors)).1 := by
  obtain ⟨columns, left, hr, hadds⟩ := h.exists_addsTo
  have hne : columns ≠ [] := by
    rintro rfl
    rw [hadds.added] at hc
    cases hs : p.editorLayout.stragglers <;> simp [hs, Layering.withStragglers] at hc
  obtain ⟨hprevious, -, hwhole⟩ := hadds.getElem?_reached hne hp
  obtain ⟨hcolumn, hfront, -⟩ := hadds.getElem?_reached hne hc
  have hlt := (List.getElem?_eq_some_iff.mp hcolumn).1
  rw [hwhole (by omega)] at hprevious
  have hd := isDepth_depth p
  obtain ⟨placed, w, hstage, hreleased⟩ := (stage_zero hd h.nodup_logic).exists_released hd
    h.nodup_logic hr hprevious hcolumn
  rw [Nat.zero_add] at hstage
  exact ⟨placed, w, hstage, hfront, hreleased⟩

theorem WellFormed.inOrder (h : p.WellFormed) : p.InOrder p.editorLayout := by
  have hd := isDepth_depth p
  obtain ⟨columns, left, hr, hadds⟩ := h.exists_addsTo
  refine ⟨?_, fun k previous column hp hc v hv => ?_,
    fun k previous column hp hc v hv w hw u u' hu hu' => ?_, hadds.reached_last, ?_⟩
  · rw [hadds.reached_head, hr.head, entries_eq]
  · obtain ⟨placed, w, hstage, -, hreleased⟩ := h.next_column hp hc
    rw [hreleased, hstage.mem_released hd h.nodup_logic] at hv
    obtain ⟨u, hu⟩ := hstage.exists_completes hd hv.1 hv.2
    exact ⟨u, hu, fun u' hu' => hu'.unique hu⟩
  · obtain ⟨placed, waiting, hstage, hfront, hreleased⟩ := h.next_column hp hc
    rw [← hfront.idxOf_eq_of_mem hv, ← hfront.idxOf_eq_of_mem hw]
    rw [hreleased] at hv hw ⊢
    rw [hstage.mem_released hd h.nodup_logic] at hv hw
    exact hstage.released_before_iff hd h.nodup_logic hv hw hu hu'
  · refine (h.byDepth hd).stragglers.trans (List.filter_congr fun v hv => ?_)
    rw [decide_eq_decide, mem_stragglers h]
    exact ⟨fun hs => ⟨hv, hs⟩, And.right⟩

end Layout

/-- **Columns are in order**, after any history. -/
theorem columns_in_order (history : List Edit) :
    let p := empty.after history
    p.InOrder p.layoutEditor.1 := (wellFormed_after history).inOrder

/-- Box 4 is completed by box 1, and box 2 completes the boxes 5 and 3, with its first cord to 5. Box
6 feeds itself. -/
example :
    let node : Contract := { inlets := 1, outlets := [.bang] }
    let cord := fun (u v : Nat) => Edit.connect ⟨⟨u⟩, .outlet, 0⟩ ⟨⟨v⟩, .inlet, 0⟩
    let p := empty.after (List.replicate 6 (.add "t" node "" []) ++
      [cord 2 5, cord 2 3, cord 1 3, cord 1 4, cord 6 6])
    p.layoutEditor.1.columns = [[⟨1⟩, ⟨2⟩], [⟨4⟩, ⟨5⟩, ⟨3⟩, ⟨6⟩]] := by decide

end Patch

end MaxPatch
