import Mathlib.Data.List.Nodup
import MaxPatch.Layout.Editor
import MaxPatch.Proofs.Flow
import MaxPatch.Proofs.Histories
import MaxPatch.Proofs.Rounds

/-! # Columns: where the layering puts each box

What the columns of a patch ought to be can be said without any rounds. A box that is no control is
*settled* (`Settled`) if all boxes that send to it are, and none sends to it twice. So one cord from
a control is enough to leave a box out, as controls are never settled. The *depth* of a settled box
(`IsDepth`) is 0 if no cord arrives at it, and else one more than the greatest depth of a box that
sends to it; this leaves no choice (`IsDepth.unique`).

`ByDepth` puts every settled box in the column of its depth and all others, in their order, below
the last column. `columns_by_depth` says that the layout of the editor does just that, for the patch
after any history. Before each round the boxes placed are those of smaller depth, the column holds
those of the next depth, and what waits is what these have not settled (`Stage`); so the rounds sort
the settled boxes by their depth (`Stage.sorted`). -/

namespace MaxPatch.Patch

/-! ### Settled boxes and their depth -/

/-- The boxes that can be settled: the least set of boxes, none of them a control, with every box
that has all its sources in the set and none of them twice. -/
inductive Settled (p : Patch) : BoxId → Prop
  | intro {v : BoxId} (logic : v ∈ p.logic) (once : (p.sources v).Nodup)
      (before : ∀ u ∈ p.sources v, Settled p u) : Settled p v

/-- What it is for a function to be the depth of the settled boxes. -/
structure IsDepth (p : Patch) (d : BoxId → Nat) : Prop where
  entry : ∀ v, p.Settled v → p.sources v = [] → d v = 0
  behind : ∀ v, p.Settled v → p.sources v ≠ [] →
    ∃ u ∈ p.sources v, d v = d u + 1 ∧ ∀ t ∈ p.sources v, d t ≤ d u

/-- The depth of a settled box, by recursion on the reason why it is settled. -/
noncomputable def Settled.depth {p : Patch} {v : BoxId} (h : p.Settled v) : Nat :=
  Settled.rec (motive := fun _ _ => Nat)
    (fun {v} _ _ _ depths =>
      ((p.sources v).attach.map fun u => depths u.1 u.2 + 1).max?.getD 0) h

open Classical in
/-- The depth of a box; boxes that are not settled have none, and 0 stands for it. -/
noncomputable def depth (p : Patch) (v : BoxId) : Nat := if h : p.Settled v then h.depth else 0

variable {p : Patch} {d : BoxId → Nat}

theorem depth_eq {v : BoxId} (h : p.Settled v) :
    p.depth v = ((p.sources v).map fun u => p.depth u + 1).max?.getD 0 := by
  obtain ⟨logic, once, before⟩ := h
  have hv : p.depth v =
      ((p.sources v).attach.map fun u => (before u.1 u.2).depth + 1).max?.getD 0 := by
    rw [depth, dif_pos (Settled.intro logic once before)]
    rfl
  have hdepths : ((p.sources v).attach.map fun u => (before u.1 u.2).depth + 1) =
      (p.sources v).map fun u => p.depth u + 1 := by
    rw [← List.attach_map_val (l := p.sources v) (f := fun u => p.depth u + 1)]
    refine List.map_congr_left fun u _ => ?_
    rw [depth, dif_pos (before u.1 u.2)]
  rw [hv, hdepths]

theorem isDepth_depth (p : Patch) : p.IsDepth p.depth where
  entry := fun v h hs => by rw [depth_eq h, hs]; rfl
  behind := fun v h hs => by
    have hne : (p.sources v).map (fun u => p.depth u + 1) ≠ [] := by simpa using hs
    obtain ⟨m, hm⟩ := Option.isSome_iff_exists.mp (List.isSome_max?_iff.mpr hne)
    obtain ⟨hmem, hmax⟩ := List.max?_eq_some_iff.mp hm
    obtain ⟨u, hu, rfl⟩ := List.mem_map.mp hmem
    refine ⟨u, hu, by rw [depth_eq h, hm, Option.getD_some], fun t ht => ?_⟩
    have := hmax _ (List.mem_map_of_mem ht)
    omega

theorem IsDepth.unique {d' : BoxId → Nat} (hd : p.IsDepth d) (hd' : p.IsDepth d') {v : BoxId}
    (h : p.Settled v) : d v = d' v := by
  induction h with
  | @intro v logic once before ih =>
    have hv : p.Settled v := Settled.intro logic once before
    by_cases hs : p.sources v = []
    · rw [hd.entry v hv hs, hd'.entry v hv hs]
    · obtain ⟨u, hu, he, hmax⟩ := hd.behind v hv hs
      obtain ⟨u', hu', he', hmax'⟩ := hd'.behind v hv hs
      have h1 := hmax u' hu'
      have h2 := hmax' u hu
      rw [ih u hu] at he h1
      rw [ih u' hu'] at h1
      omega

theorem IsDepth.le_iff (hd : p.IsDepth d) {v : BoxId} (h : p.Settled v) {k : Nat} :
    d v ≤ k ↔ ∀ u ∈ p.sources v, d u < k := by
  by_cases hs : p.sources v = []
  · rw [hd.entry v h hs, hs]
    simp
  · obtain ⟨u, hu, he, hmax⟩ := hd.behind v h hs
    constructor
    · intro hk t ht
      have := hmax t ht
      omega
    · intro hall
      have := hall u hu
      omega

/-- Depths have no gaps: a settled box of a depth has settled boxes of all smaller depths before
it. -/
theorem IsDepth.exists_of_le (hd : p.IsDepth d) {v : BoxId} (h : p.Settled v) {k : Nat}
    (hk : k ≤ d v) : ∃ u, p.Settled u ∧ d u = k := by
  induction h with
  | @intro v logic once before ih =>
    have hv : p.Settled v := Settled.intro logic once before
    rcases Nat.eq_or_lt_of_le hk with rfl | hlt
    · exact ⟨v, hv, rfl⟩
    · have hs : p.sources v ≠ [] := fun hs => by rw [hd.entry v hv hs] at hlt; omega
      obtain ⟨u, hu, he, -⟩ := hd.behind v hv hs
      exact ih u hu (by omega)

/-! ### Two patches

What is settled and how deep can be compared between patches by comparing sources, and only those of
the boxes on the way to the one in question: a set `P` that has all sources of its boxes. -/

section TwoPatches
variable {q : Patch} {P : BoxId → Prop} {v : BoxId}

theorem Settled.of_fewer_sources (hlogic : q.logic = p.logic)
    (hfewer : ∀ v, P v → (q.sources v).Subperm (p.sources v) ∧ ∀ u ∈ q.sources v, P u)
    (h : p.Settled v) (hv : P v) : q.Settled v := by
  induction h with
  | @intro v logic once _ ih =>
    obtain ⟨hsub, hclosed⟩ := hfewer v hv
    obtain ⟨l, hperm, hsublist⟩ := hsub
    refine Settled.intro (hlogic ▸ logic) (hperm.nodup (once.sublist hsublist)) fun u hu => ?_
    exact ih u (hsublist.subset (hperm.mem_iff.mpr hu)) (hclosed u hu)

theorem depth_le_of_fewer_sources
    (hfewer : ∀ v, P v → p.sources v ⊆ q.sources v ∧ ∀ u ∈ p.sources v, P u)
    (hp : p.Settled v) (hq : q.Settled v) (hv : P v) : p.depth v ≤ q.depth v := by
  induction hp with
  | @intro v logic once before ih =>
    obtain ⟨hsub, hclosed⟩ := hfewer v hv
    refine ((isDepth_depth p).le_iff (Settled.intro logic once before)).mpr fun u hu => ?_
    have hlt := ((isDepth_depth q).le_iff hq).mp (Nat.le_refl _) u (hsub hu)
    obtain ⟨-, -, hbefore⟩ := hq
    have hle := ih u hu (hbefore u (hsub hu)) (hclosed u hu)
    omega

end TwoPatches

/-! ### One round -/

/-- The boxes that have all their cords settled by the settled boxes of depth below `k` are the
settled ones of depth up to `k`. -/
theorem inDegree_le_count_iff_depth (hd : p.IsDepth d) {k : Nat} {placed : List BoxId}
    (hplaced : ∀ u, u ∈ placed ↔ p.Settled u ∧ d u < k) (hn : placed.Nodup) {v : BoxId}
    (hv : v ∈ p.logic) :
    p.inDegree v ≤ (placed.flatMap p.successors).count v ↔ p.Settled v ∧ d v ≤ k := by
  rw [inDegree_le_count_iff hn]
  constructor
  · rintro ⟨once, hall⟩
    have h : p.Settled v := Settled.intro hv once fun u hu => ((hplaced u).mp (hall u hu)).1
    exact ⟨h, (hd.le_iff h).mpr fun u hu => ((hplaced u).mp (hall u hu)).2⟩
  · rintro ⟨h, hk⟩
    have hlt := (hd.le_iff h).mp hk
    obtain ⟨-, once, before⟩ := h
    exact ⟨once, fun u hu => (hplaced u).mpr ⟨before u hu, hlt u hu⟩⟩

/-- **Where the layering stands before round `k`**: the boxes placed are the settled ones of smaller
depth, the column those of depth `k`, and the others wait for what those placed have left to do. -/
structure Stage (p : Patch) (d : BoxId → Nat) (k : Nat) (placed column : List BoxId)
    (w : Waiting) : Prop where
  earlier : ∀ v, v ∈ placed ↔ p.Settled v ∧ d v < k
  now : ∀ v, v ∈ column ↔ p.Settled v ∧ d v = k
  nodup : (placed ++ column).Nodup
  waits : w = Waiting.stillWaiting (placed.flatMap p.successors) p.owing

theorem Settled.mem_logic {v : BoxId} (h : p.Settled v) : v ∈ p.logic := by
  obtain ⟨hv, -, -⟩ := h; exact hv

theorem stage_zero (hd : p.IsDepth d) (hl : p.logic.Nodup) :
    p.Stage d 0 [] p.entries p.waiting where
  earlier := by simp
  now := fun v => by
    have h := fun hv => @inDegree_le_count_iff_depth p d hd 0 [] (by simp)
      List.nodup_nil v hv
    simp only [List.flatMap_nil, List.count_nil, Nat.le_zero] at h
    rw [mem_entries]
    constructor
    · rintro ⟨hv, h0⟩; exact (h hv).mp h0
    · rintro ⟨hs, h0⟩; exact ⟨hs.mem_logic, (h hs.mem_logic).mpr ⟨hs, h0⟩⟩
  nodup := by
    have h : (p.owing.map (·.1)).Nodup := by rw [← keys_owing] at hl; exact hl
    exact h.sublist (List.Sublist.map _ List.filter_sublist)
  waits := waiting_eq p

theorem Stage.valid (hl : p.logic.Nodup) {k : Nat} {placed column : List BoxId} {w : Waiting}
    (h : p.Stage d k placed column w) : w.Valid := by
  rw [h.waits]
  exact Waiting.valid_stillWaiting (by rw [keys_owing]; exact hl) _

theorem Stage.mem_append {k : Nat} {placed column : List BoxId} {w : Waiting}
    (h : p.Stage d k placed column w) (v : BoxId) :
    v ∈ placed ++ column ↔ p.Settled v ∧ d v < k + 1 := by
  rw [List.mem_append, h.earlier, h.now]
  constructor
  · rintro (⟨hs, hk⟩ | ⟨hs, hk⟩)
    · exact ⟨hs, by omega⟩
    · exact ⟨hs, by omega⟩
  · rintro ⟨hs, hk⟩
    rcases Nat.lt_or_ge (d v) k with hk' | hk'
    · exact Or.inl ⟨hs, hk'⟩
    · exact Or.inr ⟨hs, by omega⟩

section Settling
variable (hd : p.IsDepth d) {k : Nat} {placed column : List BoxId} {w : Waiting}
  (h : p.Stage d k placed column w)
include hd h

theorem Stage.settled_by_placed_iff {v : BoxId} (hv : v ∈ p.logic) :
    p.inDegree v ≤ (placed.flatMap p.successors).count v ↔ p.Settled v ∧ d v ≤ k :=
  inDegree_le_count_iff_depth hd h.earlier (List.nodup_append.mp h.nodup).1 hv

theorem Stage.settled_with_column_iff {v : BoxId} (hv : v ∈ p.logic) :
    p.inDegree v ≤ (placed.flatMap p.successors).count v + (column.flatMap p.successors).count v ↔
      p.Settled v ∧ d v ≤ k + 1 := by
  rw [← List.count_append, ← List.flatMap_append]
  exact inDegree_le_count_iff_depth hd h.mem_append h.nodup hv

theorem Stage.owes {v : BoxId} (hv : p.Settled v) (hk : d v = k + 1) :
    (v, (column.flatMap p.successors).count v) ∈ w := by
  have hall := (h.settled_with_column_iff hd hv.mem_logic).mpr ⟨hv, by omega⟩
  have hmore : ¬ p.inDegree v ≤ (placed.flatMap p.successors).count v := fun hle => by
    have := ((h.settled_by_placed_iff hd hv.mem_logic).mp hle).2
    omega
  have hle := p.count_flatMap_successors_le h.nodup v
  rw [List.flatMap_append, List.count_append] at hle
  rw [h.waits]
  exact Waiting.mem_stillWaiting.mpr ⟨_, mem_owing.mpr ⟨hv.mem_logic, rfl⟩, by omega, by omega⟩

/-- The column of a stage releases the settled boxes of the next depth: those that the boxes placed
did not settle alone, but do together with the column. -/
theorem Stage.mem_released (hl : p.logic.Nodup) (v : BoxId) :
    v ∈ (w.settleAll (column.flatMap p.successors)).1 ↔ p.Settled v ∧ d v = k + 1 := by
  rw [Waiting.mem_settleAll (h.valid hl)]
  constructor
  · rintro ⟨n, hn, hle⟩
    rw [h.waits] at hn
    obtain ⟨m, hm, hlt, rfl⟩ := Waiting.mem_stillWaiting.mp hn
    obtain ⟨hv, rfl⟩ := mem_owing.mp hm
    obtain ⟨hs, hk⟩ := (h.settled_with_column_iff hd hv).mp (by omega)
    have hk' : ¬ d v ≤ k := fun hk' => by
      have := (h.settled_by_placed_iff hd hv).mpr ⟨hs, hk'⟩
      omega
    exact ⟨hs, by omega⟩
  · rintro ⟨hs, hk⟩
    exact ⟨_, h.owes hd hs hk, Nat.le_refl _⟩

end Settling

/-- **A round leads from one stage to the next.** -/
theorem Stage.next (hd : p.IsDepth d) (hl : p.logic.Nodup) {k : Nat} {placed column : List BoxId}
    {w : Waiting} (h : p.Stage d k placed column w) :
    p.Stage d (k + 1) (placed ++ column) (w.settleAll (column.flatMap p.successors)).1
      (w.settleAll (column.flatMap p.successors)).2 where
  earlier := h.mem_append
  now := h.mem_released hd hl
  nodup := by
    have hreleased : (w.settleAll (column.flatMap p.successors)).1.Nodup :=
      (List.nodup_append.mp ((Waiting.settleAll_perm _ w).symm.nodup (h.valid hl).nodup)).1
    refine List.nodup_append.mpr ⟨h.nodup, hreleased, fun u hu v hv huv => ?_⟩
    have h1 := ((h.mem_append u).mp hu).2
    have h2 := ((h.mem_released hd hl v).mp hv).2
    rw [huv] at h1
    omega
  waits := by
    rw [Waiting.settleAll_eq (h.valid hl), List.flatMap_append, Waiting.stillWaiting_append,
      ← h.waits]

/-! ### All rounds -/

open Classical in
/-- What rounds from depth `k` on leave: the columns are the settled boxes by their depth, and all
others are left, in their order. -/
structure Sorted (p : Patch) (d : BoxId → Nat) (k : Nat) (columns : List (List BoxId))
    (left : Waiting) : Prop where
  column : ∀ (i : Nat) (c : List BoxId), columns[i]? = some c →
    c ≠ [] ∧ c.Nodup ∧ ∀ v, v ∈ c ↔ p.Settled v ∧ d v = k + i
  bound : ∀ v, p.Settled v → d v < k + columns.length
  left : left.keys = p.logic.filter fun v => ¬ p.Settled v

/-- **The rounds sort the settled boxes by their depth.** -/
theorem Stage.sorted (hd : p.IsDepth d) (hl : p.logic.Nodup) {k : Nat}
    {placed column : List BoxId} {w left : Waiting} {columns : List (List BoxId)}
    (hr : Rounds p.successors column w columns left) (h : p.Stage d k placed column w) :
    p.Sorted d k columns left := by
  induction hr generalizing k placed with
  | done w =>
    -- the column is empty, and depths have no gaps, so no settled box is deeper
    have hall : ∀ v, p.Settled v → d v < k := fun v hv => by
      by_contra hk
      obtain ⟨u, hu, hk'⟩ := hd.exists_of_le hv (Nat.le_of_not_lt hk)
      exact List.not_mem_nil ((h.now u).mpr ⟨hu, hk'⟩)
    refine ⟨by simp, hall, ?_⟩
    rw [h.waits, Waiting.keys_stillWaiting, Waiting.keys, owing, List.filter_map, List.map_map]
    refine (List.map_id _).trans (List.filter_congr fun v hv => ?_)
    refine decide_eq_decide.mpr ?_
    rw [← Nat.not_le, h.settled_by_placed_iff hd hv, not_iff_not]
    exact ⟨fun hs => hs.1, fun hs => ⟨hs, Nat.le_of_lt (hall v hs)⟩⟩
  | @round column w left columns hne _ ih =>
    have hrest := ih (h.next hd hl)
    refine ⟨fun i c hc => ?_, fun v hv => ?_, hrest.left⟩
    · cases i with
      | zero =>
        obtain rfl : column = c := by simpa using hc
        exact ⟨hne, (List.nodup_append.mp h.nodup).2.1, h.now⟩
      | succ i =>
        rw [List.getElem?_cons_succ] at hc
        have hc' := hrest.column i c hc
        rw [show k + 1 + i = k + (i + 1) by omega] at hc'
        exact hc'
    · have := hrest.bound v hv
      rw [List.length_cons]
      omega

section Sorted
variable {columns : List (List BoxId)} {left : Waiting}

theorem Sorted.ne_nil (h : p.Sorted d 0 columns left) {v : BoxId} (hv : p.Settled v) :
    columns ≠ [] := fun hnil => by
  have := h.bound v hv
  rw [hnil] at this
  exact absurd this (Nat.not_lt_zero _)

theorem Sorted.eq_nil (h : p.Sorted d 0 columns left) (hv : ∀ v, ¬ p.Settled v) : columns = [] := by
  by_contra hne
  obtain ⟨c, rest, rfl⟩ := List.exists_cons_of_ne_nil hne
  obtain ⟨hc, -, hmem⟩ := h.column 0 c rfl
  obtain ⟨u, hu⟩ := List.exists_mem_of_ne_nil c hc
  exact hv u ((hmem u).mp hu).1

open Classical in
theorem Sorted.mem_withStragglers (h : p.Sorted d 0 columns left) {v : BoxId} (hv : p.Settled v)
    {i : Nat} {c : List BoxId} (hc : (Layering.withStragglers columns left.keys)[i]? = some c) :
    v ∈ c ↔ d v = i := by
  have hleft : v ∉ left.keys := fun hm => by
    rw [h.left, List.mem_filter] at hm
    exact absurd hv (of_decide_eq_true hm.2)
  rw [Layering.getElem?_withStragglers (h.ne_nil hv), Option.map_eq_some_iff] at hc
  obtain ⟨settled, hs, rfl⟩ := hc
  obtain ⟨-, -, hmem⟩ := h.column i settled hs
  rw [Nat.zero_add] at hmem
  split_ifs
  · rw [List.mem_append, hmem]
    constructor
    · rintro (h' | h')
      · exact h'.2
      · exact absurd h' hleft
    · intro h'; exact Or.inl ⟨hv, h'⟩
  · rw [hmem]
    exact ⟨fun h' => h'.2, fun h' => ⟨hv, h'⟩⟩

theorem Sorted.findIdx? (h : p.Sorted d 0 columns left) {v : BoxId} (hv : p.Settled v) :
    (Layering.withStragglers columns left.keys).findIdx? (·.contains v) = some (d v) := by
  have hlen := Layering.length_withStragglers (h.ne_nil hv) left.keys
  have hbound := h.bound v hv
  rw [List.findIdx?_eq_some_iff_getElem]
  refine ⟨by omega, ?_, fun i hi hc => ?_⟩
  · rw [List.contains_iff_mem, h.mem_withStragglers hv (List.getElem?_eq_getElem _)]
  · rw [List.contains_iff_mem, h.mem_withStragglers hv (List.getElem?_eq_getElem _)] at hc
    omega

end Sorted

/-! ### The layout of the editor -/

open Classical in
/-- **A layout that follows the depth**: the stragglers are the boxes that are not settled, in their
order; every settled box stands in the column of its depth; each column holds the settled boxes of
its depth, each once, and the last one also the stragglers below them. Without settled boxes the
stragglers are the only column, and without boxes there is none. -/
structure ByDepth (p : Patch) (d : BoxId → Nat) (l : EditorLayout) : Prop where
  stragglers : l.stragglers = p.logic.filter fun v => ¬ p.Settled v
  columnOf : ∀ v, p.Settled v → l.columnOf? v = some (d v)
  columns : (∃ v, p.Settled v) → ∀ (i : Nat) (column : List BoxId), l.columns[i]? = some column →
    ∃ settled, column = (if i + 1 = l.columns.length then settled ++ l.stragglers else settled) ∧
      settled ≠ [] ∧ settled.Nodup ∧ ∀ v, v ∈ settled ↔ p.Settled v ∧ d v = i
  unsettled : (∀ v, ¬ p.Settled v) → p.logic ≠ [] → l.columns = [l.stragglers]
  nothing : p.logic = [] → l.columns = []

open Classical in
theorem byDepth_layoutEditor (hd : p.IsDepth d) (hl : p.logic.Nodup) :
    p.ByDepth d p.layoutEditor.1 := by
  obtain ⟨columns, left, hr, hlayering⟩ := exists_rounds p
  have h : p.Sorted d 0 columns left := Stage.sorted hd hl hr (stage_zero hd hl)
  have hlc : p.layoutEditor.1.columns = Layering.withStragglers columns left.keys := by
    rw [layoutEditor, editorLayout, hlayering]
  have hls : p.layoutEditor.1.stragglers = left.keys := by
    rw [layoutEditor, editorLayout, hlayering]
  refine ⟨hls.trans h.left, fun v hv => ?_, fun ⟨v, hv⟩ i column hi => ?_, fun hv hne => ?_,
    fun hnil => ?_⟩
  · rw [EditorLayout.columnOf?, hlc, h.findIdx? hv]
  · rw [hlc, Layering.getElem?_withStragglers (h.ne_nil hv), Option.map_eq_some_iff] at hi
    obtain ⟨settled, hs, rfl⟩ := hi
    obtain ⟨hne, hnodup, hmem⟩ := h.column i settled hs
    rw [Nat.zero_add] at hmem
    refine ⟨settled, ?_, hne, hnodup, hmem⟩
    rw [hlc, hls, Layering.length_withStragglers (h.ne_nil hv)]
  · have hk : left.keys ≠ [] := by
      rw [h.left, List.filter_eq_self.mpr fun v _ => decide_eq_true (hv v)]
      exact hne
    obtain ⟨u, us, hus⟩ := List.exists_cons_of_ne_nil hk
    rw [hlc, hls, h.eq_nil hv, hus, Layering.withStragglers]
    exact List.cons_ne_nil u us
  · have hk : left.keys = [] := by rw [h.left, hnil, List.filter_nil]
    have hv : ∀ v, ¬ p.Settled v := fun v hv => by
      have := hv.mem_logic
      rw [hnil] at this
      exact List.not_mem_nil this
    rw [hlc, h.eq_nil hv, hk, Layering.withStragglers]

theorem WellFormed.nodup_logic (h : p.WellFormed) : p.logic.Nodup :=
  h.nodup_ids.sublist (List.Sublist.map _ List.filter_sublist)

theorem WellFormed.byDepth (h : p.WellFormed) (hd : p.IsDepth d) : p.ByDepth d p.editorLayout :=
  byDepth_layoutEditor hd h.nodup_logic

/-- **The columns follow the depth.** After any history the rounds of the layering come to an end by
themselves, the layout of the editor has their columns, with the boxes left added below the last
one, and it is the layout that follows the depth. -/
theorem columns_by_depth (history : List Edit) :
    let p := empty.after history
    let l := p.layoutEditor.1
    (∃ columns left, Rounds p.successors p.entries p.waiting columns left ∧
      l.columns = Layering.withStragglers columns left.keys ∧ l.stragglers = left.keys) ∧
    p.IsDepth p.depth ∧ p.ByDepth p.depth l := by
  intro p l
  refine ⟨?_, isDepth_depth p,
    byDepth_layoutEditor (isDepth_depth p) (wellFormed_after history).nodup_logic⟩
  obtain ⟨columns, left, hr, hlayering⟩ := exists_rounds p
  exact ⟨columns, left, hr, congrArg Layering.columns hlayering,
    congrArg Layering.stragglers hlayering⟩

end MaxPatch.Patch
