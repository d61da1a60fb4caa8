import Mathlib.Data.List.Nodup
import MaxPatch.Layout.Layering

/-! # Rounds: the layering as a loop that ends

`Rounds successors column w columns left` says that the layering, begun with a column and the boxes
that wait, comes to an end after finitely many rounds with these columns and these boxes left. It
knows no bound on the rounds; `rounds_columnsFrom` says that the bound of `columnsFrom` is never
what ends it, so all that holds of the columns is proved by induction on the rounds.

* `settleAll_eq`, `mem_settleAll`: what a list of settlers does to the boxes that wait. Each box
  owes as many cords less as the list names it (`stillWaiting`), and is released if that was all.
* `Rounds.perm`: the rounds lose no box and place none twice.
* `exists_rounds`: the layering of a patch comes from rounds, with the stragglers added below. -/

namespace MaxPatch

namespace Waiting

/-- The boxes that wait. -/
def keys (w : Waiting) : List BoxId := w.map (·.1)

/-- Every box that waits owes a cord, and none waits twice. -/
structure Valid (w : Waiting) : Prop where
  nodup : w.keys.Nodup
  owing : ∀ e ∈ w, 0 < e.2

/-- The boxes that still wait when each of the settlers has settled a cord at every box it names. -/
def stillWaiting (settled : List BoxId) (w : Waiting) : Waiting :=
  (w.filter fun e => settled.count e.1 < e.2).map fun e => (e.1, e.2 - settled.count e.1)

theorem mem_stillWaiting {settled : List BoxId} {w : Waiting} {v : BoxId} {n : Nat} :
    (v, n) ∈ stillWaiting settled w ↔
      ∃ m, (v, m) ∈ w ∧ settled.count v < m ∧ n = m - settled.count v := by
  simp only [stillWaiting, List.mem_map, List.mem_filter, decide_eq_true_eq, Prod.mk.injEq]
  constructor
  · rintro ⟨⟨u, m⟩, ⟨hm, hlt⟩, rfl, rfl⟩; exact ⟨m, hm, hlt, rfl⟩
  · rintro ⟨m, hm, hlt, rfl⟩; exact ⟨(v, m), ⟨hm, hlt⟩, rfl, rfl⟩

theorem keys_stillWaiting (settled : List BoxId) (w : Waiting) :
    (stillWaiting settled w).keys = keys (w.filter fun e => settled.count e.1 < e.2) := by
  unfold stillWaiting keys
  rw [List.map_map]
  rfl

theorem valid_stillWaiting {w : Waiting} (hw : w.keys.Nodup) (settled : List BoxId) :
    (stillWaiting settled w).Valid where
  nodup := by
    rw [keys_stillWaiting]
    exact hw.sublist (List.Sublist.map _ List.filter_sublist)
  owing := by
    rintro ⟨v, n⟩ he
    obtain ⟨m, -, hlt, rfl⟩ := mem_stillWaiting.mp he
    show 0 < m - settled.count v
    omega

theorem Valid.tail {e : BoxId × Nat} {w : Waiting} (hw : Valid (e :: w)) : Valid w where
  nodup := (List.nodup_cons.mp hw.nodup).2
  owing := fun e' he' => hw.owing e' (List.mem_cons_of_mem _ he')

theorem stillWaiting_append (xs ys : List BoxId) (w : Waiting) :
    stillWaiting (xs ++ ys) w = stillWaiting ys (stillWaiting xs w) := by
  unfold stillWaiting
  rw [List.filter_map, List.map_map, List.filter_filter]
  congr 1
  · funext e
    simp only [Function.comp_apply, List.count_append]
    congr 1
    omega
  · refine List.filter_congr fun e _ => ?_
    simp only [Function.comp_apply, List.count_append, ← Bool.decide_and]
    refine decide_eq_decide.mpr ?_
    omega

theorem stillWaiting_of_disjoint {settled : List BoxId} {w : Waiting} (hw : w.Valid)
    (h : ∀ v ∈ w.keys, v ∉ settled) : stillWaiting settled w = w := by
  have hc : ∀ e ∈ w, settled.count e.1 = 0 := fun e he =>
    List.count_eq_zero_of_not_mem (h e.1 (List.mem_map_of_mem he))
  unfold stillWaiting
  rw [List.filter_eq_self.mpr fun e he => by
    rw [decide_eq_true_eq, hc e he]; exact hw.owing e he]
  refine (List.map_congr_left fun e he => ?_).trans (List.map_id w)
  rw [hc e he]; rfl

/-! ### One settler -/

theorem settle_eq {w : Waiting} (hw : w.Valid) (v : BoxId) :
    settle v w = (decide ((v, 1) ∈ w), stillWaiting [v] w) := by
  induction w with
  | nil => rfl
  | cons e w ih =>
    obtain ⟨u, n⟩ := e
    have hn : 0 < n := hw.owing (u, n) (by simp)
    have hu : u ∉ keys w := (List.nodup_cons.mp hw.nodup).1
    by_cases huv : u = v
    · subst huv
      have hrest : stillWaiting [u] w = w := stillWaiting_of_disjoint hw.tail fun x hx hxu => by
        rw [List.mem_singleton] at hxu; exact hu (hxu ▸ hx)
      have hmem : (u, 1) ∉ w := fun h => hu (List.mem_map_of_mem h)
      unfold stillWaiting at hrest ⊢
      rw [settle, if_pos rfl]
      by_cases h1 : n ≤ 1
      · obtain rfl : n = 1 := by omega
        rw [if_pos h1, List.filter_cons_of_neg (by simp), hrest]
        simp
      · rw [if_neg h1, List.filter_cons_of_pos (by simp; omega), List.map_cons, hrest]
        have : (u, 1) ∉ (u, n) :: w := by
          rw [List.mem_cons, not_or]
          exact ⟨fun h => h1 (by rw [Prod.mk.injEq] at h; omega), hmem⟩
        rw [decide_eq_false this]
        simp
    · have hc : List.count u [v] = 0 := List.count_eq_zero_of_not_mem (by simpa using huv)
      have hmem : (v, 1) ∈ (u, n) :: w ↔ (v, 1) ∈ w := by
        rw [List.mem_cons, Prod.mk.injEq]
        exact ⟨fun h => h.resolve_left fun h' => huv h'.1.symm, Or.inr⟩
      rw [settle, if_neg huv, ih hw.tail]
      unfold stillWaiting
      rw [List.filter_cons_of_pos (by simpa [hc] using hn), List.map_cons]
      simp only [hc, hmem]
      rfl

/-! ### All settlers -/

theorem settleAll_nil (settlers : List BoxId) : settleAll settlers [] = ([], []) := by
  induction settlers with
  | nil => rfl
  | cons v settlers ih => rw [settleAll, settle]; exact ih

theorem settleAll_eq {w : Waiting} (hw : w.Valid) (settlers : List BoxId) :
    (settleAll settlers w).2 = stillWaiting settlers w := by
  induction settlers generalizing w with
  | nil => exact (stillWaiting_of_disjoint hw fun _ _ => List.not_mem_nil).symm
  | cons v settlers ih =>
    rw [← List.singleton_append, stillWaiting_append, List.singleton_append, settleAll,
      settle_eq hw v, ← ih (valid_stillWaiting hw.nodup [v])]
    by_cases h : (v, 1) ∈ w
    · rw [decide_eq_true h]
    · rw [decide_eq_false h]

/-- **Who is released**: the boxes that owe no more cords than they are named. -/
theorem mem_settleAll {w : Waiting} (hw : w.Valid) (settlers : List BoxId) (v : BoxId) :
    v ∈ (settleAll settlers w).1 ↔ ∃ n, (v, n) ∈ w ∧ n ≤ settlers.count v := by
  induction settlers generalizing w with
  | nil =>
    simp only [settleAll, List.not_mem_nil, List.count_nil, false_iff, not_exists, not_and]
    intro n hn
    have := hw.owing _ hn
    omega
  | cons u settlers ih =>
    have ih := ih (valid_stillWaiting hw.nodup [u])
    -- a settler releases itself if it owed one cord; all others are released by the rest
    have hstep : v ∈ (settleAll (u :: settlers) w).1 ↔
        (v = u ∧ (u, 1) ∈ w) ∨ v ∈ (settleAll settlers (stillWaiting [u] w)).1 := by
      rw [settleAll, settle_eq hw u]
      by_cases h : (u, 1) ∈ w
      · rw [decide_eq_true h]; simp [h]
      · rw [decide_eq_false h]; simp [h]
    have hcount : (u :: settlers).count v = [u].count v + settlers.count v := by
      rw [← List.count_append]; rfl
    rw [hstep, ih, hcount]
    simp only [mem_stillWaiting]
    constructor
    · rintro (⟨rfl, h⟩ | ⟨n, ⟨m, hm, hlt, rfl⟩, hle⟩)
      · exact ⟨1, h, by simp⟩
      · exact ⟨m, hm, by omega⟩
    · rintro ⟨n, hn, hle⟩
      by_cases hlt : [u].count v < n
      · exact Or.inr ⟨_, ⟨n, hn, hlt, rfl⟩, by omega⟩
      · have hpos := hw.owing _ hn
        have huv : v = u := by
          by_contra hne
          have : [u].count v = 0 := List.count_eq_zero_of_not_mem (by simpa using hne)
          simp only at hpos; omega
        subst huv
        have : n = 1 := by simp at hlt hpos; omega
        exact Or.inl ⟨rfl, this ▸ hn⟩

/-! ### Nobody is lost -/

theorem settle_perm (v : BoxId) (w : Waiting) :
    ((if (settle v w).1 then [v] else []) ++ (settle v w).2.keys).Perm w.keys := by
  induction w with
  | nil => exact List.Perm.refl _
  | cons e w ih =>
    obtain ⟨u, n⟩ := e
    rw [settle]
    by_cases h1 : u = v
    · subst h1
      rw [if_pos rfl]
      by_cases h2 : n ≤ 1
      · rw [if_pos h2]; exact List.Perm.refl _
      · rw [if_neg h2]; exact List.Perm.refl _
    · rw [if_neg h1]
      rcases hs : settle v w with ⟨last, rest⟩
      rw [hs] at ih
      cases last with
      | true => exact (List.Perm.swap u v _).trans (ih.cons u)
      | false => exact ih.cons u

theorem settleAll_perm (settlers : List BoxId) (w : Waiting) :
    ((settleAll settlers w).1 ++ (settleAll settlers w).2.keys).Perm w.keys := by
  induction settlers generalizing w with
  | nil => exact List.Perm.refl _
  | cons v settlers ih =>
    have h := settle_perm v w
    rw [settleAll]
    rcases hs : settle v w with ⟨last, w'⟩
    rw [hs] at h
    cases last with
    | true => exact ((ih w').cons v).trans h
    | false => exact (ih w').trans h

end Waiting

/-! ### The rounds -/

/-- From a column and the boxes that wait, the rounds lead to these columns and leave these boxes: a
round with an empty column is none, and any other settles the cords of its column and goes on with
the boxes released. -/
inductive Rounds (successors : BoxId → List BoxId) :
    List BoxId → Waiting → List (List BoxId) → Waiting → Prop
  | done (w : Waiting) : Rounds successors [] w [] w
  | round {column : List BoxId} {w left : Waiting} {columns : List (List BoxId)}
      (nonempty : column ≠ [])
      (rest : Rounds successors (w.settleAll (column.flatMap successors)).1
        (w.settleAll (column.flatMap successors)).2 columns left) :
      Rounds successors column w (column :: columns) left

section Rounds
variable {successors : BoxId → List BoxId}

theorem columnsFrom_nil (n : Nat) (w : Waiting) : columnsFrom successors n [] w = ([], w) := by
  cases n <;> rfl

theorem columnsFrom_succ {column : List BoxId} (h : column ≠ []) (n : Nat) (w : Waiting) :
    columnsFrom successors (n + 1) column w =
      let r := columnsFrom successors n (w.settleAll (column.flatMap successors)).1
        (w.settleAll (column.flatMap successors)).2
      (column :: r.1, r.2) := by
  cases column with
  | nil => exact absurd rfl h
  | cons => rfl

/-- **The bound on the rounds is never what ends them**: each but the last takes boxes out of the
waiting ones. -/
theorem rounds_columnsFrom (n : Nat) (column : List BoxId) (w : Waiting) (hn : w.length ≤ n) :
    Rounds successors column w (columnsFrom successors n column w).1
      (columnsFrom successors n column w).2 := by
  induction n generalizing column w with
  | zero =>
    obtain rfl : w = [] := List.eq_nil_of_length_eq_zero (by omega)
    cases column with
    | nil => exact Rounds.done []
    | cons v column =>
      refine Rounds.round (List.cons_ne_nil _ _) ?_
      rw [Waiting.settleAll_nil]
      exact Rounds.done []
  | succ n ih =>
    by_cases hc : column = []
    · subst hc; exact Rounds.done w
    · rw [columnsFrom_succ hc]
      refine Rounds.round hc ?_
      have hperm := Waiting.settleAll_perm (column.flatMap successors) w
      generalize w.settleAll (column.flatMap successors) = r at hperm ⊢
      obtain ⟨next, w'⟩ := r
      have hlen := hperm.length_eq
      simp only [Waiting.keys, List.length_append, List.length_map] at hlen
      cases next with
      | nil => rw [columnsFrom_nil]; exact Rounds.done w'
      | cons u next =>
        rw [List.length_cons] at hlen
        exact ih (u :: next) w' (by omega)

variable {column : List BoxId} {w left : Waiting} {columns : List (List BoxId)}

/-- **The rounds lose no box and place none twice.** -/
theorem Rounds.perm (h : Rounds successors column w columns left) :
    (columns.flatten ++ left.keys).Perm (column ++ w.keys) := by
  induction h with
  | done w => exact List.Perm.refl _
  | round _ _ ih =>
    rw [List.flatten_cons, List.append_assoc]
    exact (ih.trans (Waiting.settleAll_perm _ _)).append_left _

end Rounds

/-! ### The stragglers -/

namespace Layering

theorem flatten_withStragglers (columns : List (List BoxId)) (stragglers : List BoxId) :
    (withStragglers columns stragglers).flatten = columns.flatten ++ stragglers := by
  fun_induction withStragglers columns stragglers with
  | case1 => simp
  | case2 => simp
  | case3 => simp
  | case4 _ _ _ _ _ ih => simp [ih]

theorem length_withStragglers {columns : List (List BoxId)} (h : columns ≠ [])
    (stragglers : List BoxId) : (withStragglers columns stragglers).length = columns.length := by
  fun_induction withStragglers columns stragglers with
  | case1 => rfl
  | case2 => exact absurd rfl h
  | case3 => rfl
  | case4 _ _ _ _ hne ih => rw [List.length_cons, List.length_cons, ih (by simpa using hne)]

theorem getElem?_withStragglers {columns : List (List BoxId)} (h : columns ≠ [])
    (stragglers : List BoxId) (i : Nat) : (withStragglers columns stragglers)[i]? =
      columns[i]?.map fun c => if i + 1 = columns.length then c ++ stragglers else c := by
  fun_induction withStragglers columns stragglers generalizing i with
  | case1 columns => simp
  | case2 => exact absurd rfl h
  | case3 last stragglers => cases i <;> simp
  | case4 column columns stragglers _ hne ih =>
    cases i with
    | zero =>
      have : columns.length ≠ 0 := fun h0 => hne (List.eq_nil_of_length_eq_zero h0)
      simp only [List.getElem?_cons_zero, List.length_cons, Option.map_some]
      rw [if_neg (by omega)]
    | succ i =>
      rw [List.getElem?_cons_succ, List.getElem?_cons_succ, ih (by simpa using hne)]
      simp only [List.length_cons, Nat.add_right_cancel_iff]

end Layering

/-! ### The rounds of a patch -/

namespace Patch

/-- The boxes that are not controls, with the cords they owe. -/
def owing (p : Patch) : Waiting := p.logic.map fun id => (id, p.inDegree id)

/-- The boxes that owe nothing: the first column. -/
def entries (p : Patch) : List BoxId := (p.owing.filter (·.2 = 0)).map (·.1)

/-- The boxes that wait behind the first column. -/
def waiting (p : Patch) : Waiting := p.owing.filter (·.2 ≠ 0)

/-- **The layering of a patch comes from rounds that end by themselves.** -/
theorem exists_rounds (p : Patch) : ∃ columns left,
    Rounds p.successors p.entries p.waiting columns left ∧
      p.layering = { columns := Layering.withStragglers columns left.keys
                     stragglers := left.keys } :=
  ⟨_, _, rounds_columnsFrom p.waiting.length p.entries p.waiting (Nat.le_refl _), rfl⟩

theorem keys_owing (p : Patch) : p.owing.keys = p.logic := by
  unfold owing Waiting.keys
  rw [List.map_map]
  exact List.map_id _

theorem mem_owing {p : Patch} {v : BoxId} {n : Nat} :
    (v, n) ∈ p.owing ↔ v ∈ p.logic ∧ n = p.inDegree v := by
  simp only [owing, List.mem_map, Prod.mk.injEq]
  constructor
  · rintro ⟨u, hu, rfl, rfl⟩; exact ⟨hu, rfl⟩
  · rintro ⟨hv, rfl⟩; exact ⟨v, hv, rfl, rfl⟩

theorem waiting_eq (p : Patch) : p.waiting = Waiting.stillWaiting [] p.owing := by
  unfold waiting Waiting.stillWaiting
  simp [Nat.pos_iff_ne_zero]

theorem mem_entries {p : Patch} {v : BoxId} :
    v ∈ p.entries ↔ v ∈ p.logic ∧ p.inDegree v = 0 := by
  simp only [entries, List.mem_map, List.mem_filter, decide_eq_true_eq]
  constructor
  · rintro ⟨⟨u, n⟩, ⟨hu, rfl⟩, rfl⟩
    obtain ⟨hv, h⟩ := mem_owing.mp hu
    exact ⟨hv, h.symm⟩
  · rintro ⟨hv, h⟩
    exact ⟨(v, 0), ⟨mem_owing.mpr ⟨hv, h.symm⟩, rfl⟩, rfl⟩

end Patch

end MaxPatch
