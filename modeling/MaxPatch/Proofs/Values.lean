import Mathlib.Algebra.Field.Rat
import Mathlib.Data.List.Forall2
import Mathlib.Data.Nat.Cast.Field
import MaxPatch.Proofs.Members

/-! # Values: what a reader of a document tells apart

A finite number of the 64-bit format stands for a rational, and a document may write it as a whole
number. For a reader of the document two values are the same (`Json.Same`) if they differ in the
order of members only, and in how a rational is given in the 64-bit format. Then they still agree in
every text, every flag and every whole number, and finite numbers that are written the same have
the same value (`Json.Same.value_eq`). -/

namespace MaxPatch

/-! ### Values of numbers -/

namespace Binary64

variable {x : Binary64}

/-- The rational that a finite number stands for. -/
def value (x : Binary64) : ℚ :=
  if x.isNegative then -(x.numerator / x.denominator) else x.numerator / x.denominator

theorem value_eq_toInt (h : x.isIntegral) : x.value = x.toInt := by
  simp only [isIntegral, Bool.and_eq_true, decide_eq_true_eq] at h
  have hdvd : x.denominator ∣ x.numerator := Nat.dvd_of_mod_eq_zero h.2
  have hne : (x.denominator : ℚ) ≠ 0 := Nat.cast_ne_zero.mpr x.denominator_pos.ne'
  have hwhole : (x.wholePart : ℚ) = x.numerator / x.denominator := Nat.cast_div hdvd hne
  unfold value toInt
  rw [← hwhole]
  split_ifs <;> simp

end Binary64

/-! ### Values of documents -/

namespace Json

/-- Values that a reader of a document does not tell apart: members may come in another order, and
a number of the 64-bit format stands for its value. -/
inductive Same : Json → Json → Prop
  | null : Same .null .null
  | bool (b : Bool) : Same (.bool b) (.bool b)
  | int (n : Int) : Same (.int n) (.int n)
  | float {x y : Binary64} (h : x.value = y.value) : Same (.float x) (.float y)
  | text (s : String) : Same (.text s) (.text s)
  | list {items items' : List Json} (h : List.Forall₂ Same items items') :
      Same (.list items) (.list items')
  | object {ms ns : Members} (h : ∀ key, Option.Rel Same (ms.get? key) (ns.get? key)) :
      Same (.object ms) (.object ns)

/-- **How a finite number is written**: as a whole number, which is then its value, or as it is. -/
theorem ofBinary64_cases {x : Binary64} (hx : x.isFinite) :
    (ofBinary64 x = .int x.toInt ∧ x.value = x.toInt) ∨ ofBinary64 x = .float x := by
  unfold ofBinary64
  split_ifs with hwhole
  · rw [Bool.and_eq_true] at hwhole
    exact .inl ⟨rfl, Binary64.value_eq_toInt hwhole.1⟩
  · exact .inr rfl

namespace Same

theorem refl : ∀ j : Json, Same j j
  | .null => .null
  | .bool b => .bool b
  | .int n => .int n
  | .float _ => .float rfl
  | .text s => .text s
  | .list items => .list (List.forall₂_same.mpr fun j _ => refl j)
  | .object ms => .object fun key => by
    cases h : Members.get? ms key with
    | none => exact .none
    | some j =>
      have hmember : 1 + sizeOf key + sizeOf j < sizeOf ms :=
        List.sizeOf_lt_of_mem (Members.mem_of_get?_eq_some h)
      have hsmaller : sizeOf j < 1 + sizeOf ms := by omega
      exact .some (refl j)

theorem int_inj {m n : Int} (h : Same (.int m) (.int n)) : m = n := by
  cases h
  rfl

theorem nat_inj {m n : Nat} (h : Same (.nat m) (.nat n)) : m = n := Int.ofNat.inj h.int_inj

theorem text_inj {s t : String} (h : Same (.text s) (.text t)) : s = t := by
  cases h
  rfl

theorem items {js ks : List Json} (h : Same (.list js) (.list ks)) : List.Forall₂ Same js ks := by
  cases h with
  | list h => exact h

theorem rel_get? {ms ns : Members} (h : Same (.object ms) (.object ns)) (key : String)
    {j k : Option Json} (hj : ms.get? key = j) (hk : ns.get? key = k) : Option.Rel Same j k := by
  subst hj hk
  cases h with
  | object h => exact h key

theorem of_get? {ms ns : Members} (h : Same (.object ms) (.object ns)) (key : String) {j k : Json}
    (hj : ms.get? key = some j) (hk : ns.get? key = some k) : Same j k := by
  cases h.rel_get? key hj hk with
  | some hjk => exact hjk

theorem texts_inj {ss ts : List String} (h : Same (texts ss) (texts ts)) : ss = ts := by
  have hitems := h.items
  rw [List.forall₂_map_left_iff, List.forall₂_map_right_iff] at hitems
  exact List.forall₂_eq_eq_eq ▸ hitems.imp fun _ _ => text_inj

/-- **Finite numbers that are written the same have the same value.** -/
theorem value_eq {x y : Binary64} (hx : x.isFinite) (hy : y.isFinite)
    (h : Same (ofBinary64 x) (ofBinary64 y)) : x.value = y.value := by
  rcases ofBinary64_cases hx with ⟨hwx, hvx⟩ | hwx <;>
    rcases ofBinary64_cases hy with ⟨hwy, hvy⟩ | hwy <;> rw [hwx, hwy] at h
  · rw [hvx, hvy, int_inj h]
  · cases h
  · cases h
  · cases h with
    | float h => exact h

/-- **What may be missing is read back**, if it is read back where it is there. -/
theorem map_eq {α β : Type} {write : α → Json} {read : α → β} {v v' : Option α}
    (h : Option.Rel Same (v.map write) (v'.map write))
    (hread : ∀ a ∈ v, ∀ a' ∈ v', Same (write a) (write a') → read a = read a') :
    v.map read = v'.map read := by
  cases v with
  | none =>
    cases v' with
    | none => rfl
    | some => cases h
  | some a =>
    cases v' with
    | none => cases h
    | some a' =>
      cases h with
      | some haa' => exact congrArg some (hread a rfl a' rfl haa')

theorem eq_of_map {α : Type} {write : α → Json} {v v' : Option α}
    (h : Option.Rel Same (v.map write) (v'.map write))
    (hwrite : ∀ a a', Same (write a) (write a') → a = a') : v = v' := by
  have hid : v.map id = v'.map id := map_eq h fun a _ a' _ haa' => hwrite a a' haa'
  rwa [Option.map_id] at hid

theorem map_value_eq {v v' : Option Binary64} (hv : ∀ x ∈ v, x.isFinite)
    (hv' : ∀ x ∈ v', x.isFinite) (h : Option.Rel Same (v.map ofBinary64) (v'.map ofBinary64)) :
    v.map (·.value) = v'.map (·.value) :=
  map_eq h fun x hx y hy hxy => value_eq (hv x hx) (hv' y hy) hxy

end Same

end Json

end MaxPatch
