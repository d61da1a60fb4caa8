import MaxPatch.Json
import MaxPatch.Proofs.Writes

/-! # Members: what an object has after writes

Putting a member in changes what stands under its key and nothing else, and the keys keep their
order: one that is new comes last (`get?_insert`, `keys_insert`). So members that were put in one
after the other leave under each key what was written last (`get?_insertAll`), and behind the keys
that were there before come the others, in the order in which they were first written
(`keys_insertAll`). -/

namespace MaxPatch.Members

open Patch (firstOccurrences)

/-! ### Looking a member up -/

theorem get?_cons (k : String) (v : Json) (ms : Members) (k' : String) :
    get? ((k, v) :: ms) k' = if k = k' then some v else ms.get? k' := by
  unfold get?
  rw [List.lookup_cons]
  by_cases h : k = k'
  · subst h; rw [if_pos rfl, beq_self_eq_true]
  · rw [if_neg h, beq_false_of_ne (Ne.symm h)]

theorem get?_append (ms ns : Members) (k : String) :
    (ms ++ ns).get? k = (ms.get? k).or (ns.get? k) := List.lookup_append

theorem get?_eq_none_iff {ms : Members} {k : String} : ms.get? k = none ↔ k ∉ ms.keys := by
  induction ms with
  | nil => exact ⟨fun _ => List.not_mem_nil, fun _ => rfl⟩
  | cons m ms ih =>
    obtain ⟨j, w⟩ := m
    rw [get?_cons]
    by_cases h : j = k
    · simp [keys, h]
    · rw [if_neg h, ih]
      simp [keys, Ne.symm h]

theorem mem_of_get?_eq_some {ms : Members} {k : String} {v : Json} (h : ms.get? k = some v) :
    (k, v) ∈ ms := by
  obtain ⟨before, after, hms, -⟩ := List.lookup_eq_some_iff.mp h
  rw [hms]
  exact List.mem_append_right before List.mem_cons_self

theorem latest?_of_nodup {ms : Members} (h : ms.keys.Nodup) (k : String) :
    latest? ms k = ms.get? k := by
  induction ms with
  | nil => rfl
  | cons m ms ih =>
    obtain ⟨j, w⟩ := m
    obtain ⟨hj, hms⟩ := List.nodup_cons.mp h
    rw [latest?_cons, get?_cons, ih hms]
    by_cases hjk : j = k
    · subst hjk
      rw [get?_eq_none_iff.mpr hj]
      rfl
    · rw [if_neg hjk, if_neg hjk, Option.or_none]

/-! ### Putting members in -/

theorem get?_insert (ms : Members) (k : String) (v : Json) (k' : String) :
    (ms.insert k v).get? k' = if k = k' then some v else ms.get? k' := by
  induction ms with
  | nil => exact get?_cons k v [] k'
  | cons m ms ih =>
    obtain ⟨j, w⟩ := m
    rw [insert]
    by_cases hj : j = k
    · subst hj
      rw [if_pos rfl, get?_cons, get?_cons]
      by_cases h : j = k'
      · rw [if_pos h, if_pos h]
      · rw [if_neg h, if_neg h, if_neg h]
    · rw [if_neg hj, get?_cons, get?_cons, ih]
      by_cases h : k = k'
      · subst h; rw [if_pos rfl, if_neg hj, if_pos rfl]
      · rw [if_neg h, if_neg h]

theorem keys_insert (ms : Members) (k : String) (v : Json) :
    (ms.insert k v).keys = if k ∈ ms.keys then ms.keys else ms.keys ++ [k] := by
  induction ms with
  | nil => rfl
  | cons m ms ih =>
    obtain ⟨j, w⟩ := m
    rw [insert]
    by_cases hj : j = k
    · subst hj
      simp [keys]
    · have hne : k ≠ j := Ne.symm hj
      rw [if_neg hj]
      simp only [keys, List.map_cons, List.mem_cons, hne, false_or] at ih ⊢
      rw [ih]
      exact apply_ite (j :: ·) _ _ _

/-- **What stands under a key** after members were put in. -/
theorem get?_insertAll (ms news : Members) (k : String) :
    (ms.insertAll news).get? k = (latest? news k).or (ms.get? k) := by
  have h := look_foldl (fun r m => r.insert m.1 m.2) get? id
    (fun ms m k' => get?_insert ms m.1 m.2 k') news ms k
  rwa [Option.map_id] at h

theorem keys_insertAll_eq_foldl (ms news : Members) : (ms.insertAll news).keys =
    news.keys.foldl (fun seen k => if k ∈ seen then seen else seen ++ [k]) ms.keys := by
  induction news generalizing ms with
  | nil => rfl
  | cons m news ih =>
    have hrest := ih (ms.insert m.1 m.2)
    rw [keys_insert] at hrest
    exact hrest

/-- **The keys after members were put in**: those that were there, and then the others in the order
in which they were first written. -/
theorem keys_insertAll (ms news : Members) : (ms.insertAll news).keys =
    ms.keys ++ (firstOccurrences news.keys).filter (· ∉ ms.keys) := by
  rw [keys_insertAll_eq_foldl, Patch.foldl_firstOccurrences_eq]

theorem nodup_insertAll {ms : Members} (h : ms.keys.Nodup) (news : Members) :
    (ms.insertAll news).keys.Nodup := by
  rw [keys_insertAll_eq_foldl]
  exact (Patch.foldl_firstOccurrences news.keys ms.keys h).1

theorem mem_keys_insertAll {ms news : Members} {k : String} :
    k ∈ (ms.insertAll news).keys ↔ k ∈ ms.keys ∨ k ∈ news.keys := by
  rw [keys_insertAll, List.mem_append, List.mem_filter, Patch.mem_firstOccurrences]
  by_cases h : k ∈ ms.keys <;> simp [h]

end MaxPatch.Members
