import Mathlib.Data.List.Nodup
import Mathlib.Data.List.Perm.Subperm
import MaxPatch.Patch.Flow

/-! # Sources: what arrives at a box

`sources` lists the boxes that send to a box, one entry for each cord. It is the other side of both
questions of the flow: `mem_successors` turns the successors around, `length_sources` counts the
cords that arrive.

The layering settles a cord for every successor that is named, and successors are named once, while
the cords that are owed count parallel ones too. `inDegree_le_count_iff` says what this comes to:
the boxes of a list settle all cords of a box if and only if the list has all its sources and no
source sends to it twice. -/

namespace MaxPatch.Patch

/-! ### First occurrences -/

section FirstOccurrences
variable {α : Type} [DecidableEq α]

theorem foldl_firstOccurrences (xs seen : List α) (hs : seen.Nodup) :
    (xs.foldl (fun seen x => if x ∈ seen then seen else seen ++ [x]) seen).Nodup ∧
      ∀ a, a ∈ xs.foldl (fun seen x => if x ∈ seen then seen else seen ++ [x]) seen ↔
        a ∈ seen ∨ a ∈ xs := by
  induction xs generalizing seen with
  | nil => exact ⟨hs, by simp⟩
  | cons x xs ih =>
    simp only [List.foldl_cons]
    split_ifs with hx
    · obtain ⟨h1, h2⟩ := ih seen hs
      refine ⟨h1, fun a => ?_⟩
      rw [h2, List.mem_cons]
      constructor
      · rintro (h | h)
        · exact Or.inl h
        · exact Or.inr (Or.inr h)
      · rintro (h | rfl | h)
        · exact Or.inl h
        · exact Or.inl hx
        · exact Or.inr h
    · have hs' : (seen ++ [x]).Nodup :=
        List.nodup_append.mpr ⟨hs, List.nodup_singleton x, fun a ha b hb => by
          rw [List.mem_singleton] at hb; rintro rfl; exact hx (hb ▸ ha)⟩
      obtain ⟨h1, h2⟩ := ih (seen ++ [x]) hs'
      refine ⟨h1, fun a => ?_⟩
      rw [h2, List.mem_append, List.mem_singleton, List.mem_cons, or_assoc]

theorem nodup_firstOccurrences (xs : List α) : (firstOccurrences xs).Nodup :=
  (foldl_firstOccurrences xs [] List.nodup_nil).1

theorem mem_firstOccurrences {xs : List α} {a : α} : a ∈ firstOccurrences xs ↔ a ∈ xs := by
  have h := (foldl_firstOccurrences xs [] List.nodup_nil).2 a
  rw [firstOccurrences, h]
  simp

end FirstOccurrences

/-! ### Sources -/

/-- The boxes that send to a box, one for each cord that arrives. -/
def sources (p : Patch) (id : BoxId) : List BoxId :=
  (p.cords.filter (·.destination.box = id)).map (·.source.box)

variable (p : Patch)

theorem length_sources (v : BoxId) : (p.sources v).length = p.inDegree v := by
  unfold sources inDegree; rw [List.length_map]

variable {p}

theorem mem_sources {u v : BoxId} :
    u ∈ p.sources v ↔ ∃ c ∈ p.cords, c.source.box = u ∧ c.destination.box = v := by
  simp only [sources, List.mem_map, List.mem_filter, decide_eq_true_eq]
  constructor
  · rintro ⟨c, ⟨hc, hv⟩, hu⟩; exact ⟨c, hc, hu, hv⟩
  · rintro ⟨c, hc, hu, hv⟩; exact ⟨c, ⟨hc, hv⟩, hu⟩

/-- **Successors and sources are two sides of the cords.** -/
theorem mem_successors {u v : BoxId} : v ∈ p.successors u ↔ u ∈ p.sources v := by
  rw [successors, mem_firstOccurrences, mem_sources]
  simp only [List.mem_map, List.mem_filter, decide_eq_true_eq]
  constructor
  · rintro ⟨c, ⟨hc, hu⟩, hv⟩; exact ⟨c, hc, hu, hv⟩
  · rintro ⟨c, hc, hu, hv⟩; exact ⟨c, ⟨hc, hu⟩, hv⟩

theorem nodup_successors (u : BoxId) : (p.successors u).Nodup := nodup_firstOccurrences _

/-! ### Settling -/

theorem count_flatMap_successors (settlers : List BoxId) (v : BoxId) :
    (settlers.flatMap p.successors).count v =
      (settlers.filter (· ∈ p.sources v)).length := by
  induction settlers with
  | nil => rfl
  | cons u settlers ih =>
    have hu : (p.successors u).count v = if u ∈ p.sources v then 1 else 0 := by
      split_ifs with h
      · exact List.count_eq_one_of_mem (nodup_successors u) (mem_successors.mpr h)
      · exact List.count_eq_zero_of_not_mem fun h' => h (mem_successors.mp h')
    rw [List.flatMap_cons, List.count_append, ih, hu, List.filter_cons]
    split_ifs with h1 h2 h2
    · rw [List.length_cons]; omega
    · simp [h1] at h2
    · simp [h1] at h2
    · omega

theorem count_flatMap_successors_le {settlers : List BoxId} (hs : settlers.Nodup) (v : BoxId) :
    (settlers.flatMap p.successors).count v ≤ p.inDegree v := by
  rw [count_flatMap_successors, ← length_sources]
  refine ((hs.filter _).subperm fun u hu => ?_).length_le
  exact of_decide_eq_true (List.mem_filter.mp hu).2

/-- **When all cords of a box are settled**: when the settlers are all its sources and none of these
sends to it twice. -/
theorem inDegree_le_count_iff {settlers : List BoxId} (hs : settlers.Nodup) (v : BoxId) :
    p.inDegree v ≤ (settlers.flatMap p.successors).count v ↔
      (p.sources v).Nodup ∧ ∀ u ∈ p.sources v, u ∈ settlers := by
  rw [count_flatMap_successors, ← length_sources]
  set active := settlers.filter (· ∈ p.sources v) with hactive
  have hn : active.Nodup := hs.filter _
  have hsub : active ⊆ p.sources v := fun u hu => by
    rw [hactive, List.mem_filter, decide_eq_true_eq] at hu; exact hu.2
  constructor
  · intro hle
    have hperm : active.Perm (p.sources v) := (hn.subperm hsub).perm_of_length_le hle
    refine ⟨hperm.nodup hn, fun u hu => ?_⟩
    have hu' : u ∈ active := hperm.mem_iff.mpr hu
    rw [hactive, List.mem_filter] at hu'
    exact hu'.1
  · rintro ⟨hsn, hall⟩
    refine (hsn.subperm fun u hu => ?_).length_le
    rw [hactive, List.mem_filter, decide_eq_true_eq]
    exact ⟨hall u hu, hu⟩

end MaxPatch.Patch
