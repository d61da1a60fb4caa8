import Mathlib.Algebra.GroupWithZero.Nat
import MaxPatch.Pixels

/-! # Sums: sizes and gaps that are added up

The layouts add up sizes and gaps, and stop at the largest position on the way. Nothing is lost by
that but what lies beyond: stopping on the way comes to the same as clamping the exact sum
(`Pixels.past_clamp`). -/

namespace MaxPatch

theorem eq_of_getElem? {α : Type} {l : List α} {j : Nat} {a : α} (h : l[j]? = some a) :
    l = l.take j ++ a :: l.drop (j + 1) := by
  obtain ⟨hj, rfl⟩ := List.getElem?_eq_some_iff.mp h
  rw [List.getElem_cons_drop, List.take_append_drop]

theorem map_eq_of_getElem? {α β : Type} (f : α → β) {l : List α} {j : Nat} {a : α}
    (h : l[j]? = some a) : l.map f = (l.take j).map f ++ f a :: (l.drop (j + 1)).map f := by
  rw [← List.map_cons, ← List.map_append, ← eq_of_getElem? h]

theorem not_mem_drop_of_nodup {α : Type} {l : List α} (hl : l.Nodup) {i : Nat} {a : α}
    (ha : l[i]? = some a) : a ∉ l.drop (i + 1) := by
  rw [eq_of_getElem? ha, List.nodup_append] at hl
  exact (List.nodup_cons.mp hl.2.1).1

theorem exists_last_place {α : Type} {l : List α} {a : α} (h : a ∈ l) :
    ∃ i, l[i]? = some a ∧ a ∉ l.drop (i + 1) := by
  obtain ⟨behind, before, hl, ha⟩ := List.eq_append_cons_of_mem (List.mem_reverse.mpr h)
  obtain rfl : l = before.reverse ++ a :: behind.reverse := by
    rw [← List.reverse_reverse l, hl]
    simp
  refine ⟨before.reverse.length, by simp, ?_⟩
  rw [List.drop_append, List.drop_eq_nil_of_le (by omega)]
  simpa using ha

theorem sum_take_add_le {α : Type} (f : α → Nat) {l : List α} {i j : Nat} {a : α}
    (ha : l[i]? = some a) (hij : i < j) :
    ((l.take i).map f).sum + f a ≤ ((l.take j).map f).sum := by
  have hi : (l.take j)[i]? = some a := by rw [List.getElem?_take_of_lt hij, ha]
  have hsplit := map_eq_of_getElem? f hi
  rw [List.take_take, Nat.min_eq_left (Nat.le_of_lt hij)] at hsplit
  rw [hsplit, List.sum_append, List.sum_cons]
  omega

namespace Pixels

theorem clamp_plus (n : Nat) (a : Pixels) : (clamp n).plus a = clamp (n + a.toNat) := by
  apply UInt32.toNat_inj.mp
  rw [toNat_plus, toNat_clamp, toNat_clamp]
  omega

/-- Where one gets from `x` on past things of these sizes, with a gap behind each. -/
def past (gap x : Pixels) (sizes : List Pixels) : Pixels :=
  sizes.foldl (fun x size => (x.plus size).plus gap) x

/-- **Stopping on the way** at the largest position comes to the same as clamping the sum. -/
theorem past_clamp (gap : Pixels) (n : Nat) (sizes : List Pixels) :
    past gap (clamp n) sizes = clamp (n + (sizes.map fun size => size.toNat + gap.toNat).sum) := by
  induction sizes generalizing n with
  | nil => rfl
  | cons size sizes ih =>
    have hstep : ((clamp n).plus size).plus gap = clamp (n + size.toNat + gap.toNat) := by
      rw [clamp_plus, clamp_plus]
    rw [past, List.foldl_cons, hstep]
    refine (ih _).trans (congrArg clamp ?_)
    rw [List.map_cons, List.sum_cons]
    omega

end Pixels

end MaxPatch
