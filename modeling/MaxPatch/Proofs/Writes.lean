import Mathlib.Data.List.Induction
import MaxPatch.Proofs.Flow

/-! # Writes: what was written last, and what was written first

Members are put into an object one after the other, and types are filed in a catalog one after the
other. Either way a look-up finds what was written last under its key (`latest?`,
`look_foldl`), while the order of the keys is that in which each of them was first written
(`Patch.firstOccurrences`). -/

namespace MaxPatch

/-! ### What was written last -/

section Latest
variable {α : Type}

/-- The value that was written last under a key. -/
def latest? (writes : List (String × α)) (key : String) : Option α := writes.reverse.lookup key

theorem latest?_append (writes more : List (String × α)) (key : String) :
    latest? (writes ++ more) key = (latest? more key).or (latest? writes key) := by
  unfold latest?
  rw [List.reverse_append, List.lookup_append]

theorem latest?_singleton (w : String × α) (key : String) :
    latest? [w] key = if w.1 = key then some w.2 else none := by
  unfold latest?
  rw [List.reverse_singleton, List.lookup_cons]
  by_cases h : w.1 = key
  · rw [if_pos h, h, beq_self_eq_true]
  · rw [if_neg h, beq_false_of_ne (Ne.symm h)]
    rfl

theorem latest?_cons (w : String × α) (writes : List (String × α)) (key : String) :
    latest? (w :: writes) key = (latest? writes key).or (if w.1 = key then some w.2 else none) := by
  have h := latest?_append [w] writes key
  rwa [latest?_singleton, List.singleton_append] at h

theorem latest?_eq_none_iff {writes : List (String × α)} {key : String} :
    latest? writes key = none ↔ key ∉ writes.map (·.1) := by
  induction writes with
  | nil => exact ⟨fun _ => List.not_mem_nil, fun _ => rfl⟩
  | cons w writes ih =>
    rw [latest?_cons, Option.or_eq_none_iff, ih, List.map_cons, List.mem_cons, not_or, and_comm]
    simp [eq_comm]

/-- **What a look-up finds after writes**: what was written last, or else what was there before. It
is enough that a single write is found under its key, as some value that it leads to, and leaves
what is under the other keys. -/
theorem look_foldl {σ β : Type} (put : σ → String × α → σ) (look : σ → String → Option β)
    (value : α → β)
    (hput : ∀ s w key, look (put s w) key = if w.1 = key then some (value w.2) else look s key)
    (writes : List (String × α)) (s : σ) (key : String) :
    look (writes.foldl put s) key = ((latest? writes key).map value).or (look s key) := by
  induction writes generalizing s with
  | nil => rfl
  | cons w writes ih =>
    rw [List.foldl_cons, ih, hput, latest?_cons]
    cases latest? writes key with
    | some a => rfl
    | none =>
      by_cases hw : w.1 = key
      · rw [if_pos hw, if_pos hw]; rfl
      · rw [if_neg hw, if_neg hw]; rfl

end Latest

/-! ### What was written first -/

namespace Patch

section FirstOccurrences
variable {α : Type} [DecidableEq α]

theorem firstOccurrences_concat (xs : List α) (x : α) : firstOccurrences (xs ++ [x]) =
    if x ∈ xs then firstOccurrences xs else firstOccurrences xs ++ [x] := by
  unfold firstOccurrences
  rw [List.foldl_append, List.foldl_cons, List.foldl_nil]
  have hmem : x ∈ firstOccurrences xs ↔ x ∈ xs := mem_firstOccurrences
  unfold firstOccurrences at hmem
  simp only [hmem]

/-- Items that are gathered behind others come in the order of their first occurrences, those that
were there before left out. -/
theorem foldl_firstOccurrences_eq (xs seen : List α) :
    xs.foldl (fun seen x => if x ∈ seen then seen else seen ++ [x]) seen =
      seen ++ (firstOccurrences xs).filter (· ∉ seen) := by
  induction xs using List.reverseRecOn with
  | nil => simp [firstOccurrences]
  | append_singleton xs x ih =>
    rw [List.foldl_append, List.foldl_cons, List.foldl_nil, ih, firstOccurrences_concat]
    have hmem : x ∈ seen ++ (firstOccurrences xs).filter (· ∉ seen) ↔ x ∈ seen ∨ x ∈ xs := by
      rw [List.mem_append, List.mem_filter, mem_firstOccurrences]
      by_cases hx : x ∈ seen <;> simp [hx]
    by_cases hseen : x ∈ seen
    · rw [if_pos (hmem.mpr (Or.inl hseen))]
      by_cases hxs : x ∈ xs
      · rw [if_pos hxs]
      · simp [hxs, List.filter_append, hseen]
    · by_cases hxs : x ∈ xs
      · rw [if_pos (hmem.mpr (Or.inr hxs)), if_pos hxs]
      · have hnot : ¬ (x ∈ seen ∨ x ∈ xs) := by simp [hseen, hxs]
        rw [if_neg (mt hmem.mp hnot), if_neg hxs]
        simp [List.filter_append, hseen]

theorem firstOccurrences_of_nodup {xs : List α} (h : xs.Nodup) : firstOccurrences xs = xs := by
  induction xs using List.reverseRecOn with
  | nil => rfl
  | append_singleton xs x ih =>
    obtain ⟨hxs, -, hdisjoint⟩ := List.nodup_append.mp h
    have hx : x ∉ xs := fun hx => hdisjoint x hx x List.mem_cons_self rfl
    rw [firstOccurrences_concat, if_neg hx, ih hxs]

end FirstOccurrences

end Patch

end MaxPatch
