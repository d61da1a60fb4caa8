import MaxPatch.Proofs.Histories

/-! # Labels: how wide boxes are made for them

A box that shows a label, and whose contract sets no width, is made as wide as the label asks for:
7 for each character and 16 around them, and never less than 40. That is worked out in 32 bits, for
the number of characters cut off to 32 bits. With overflow checks on there is no result if it does
not fit, and then there is no box either (`Patch.perform_add_of_not_fits`); with the checks off the
result wraps around, and the box is narrow.

So the box has room for its label if and only if the largest position has, and up to there a longer
label never gets a narrower box (`labels_have_room`). With one character more there is no box
(`one_character_too_many`). -/

namespace MaxPatch

/-! ### Widths -/

theorem toNat_labelWidth {chars : Nat} (hfits : labelFits chars) :
    (labelWidth chars).toNat = max 40 (7 * (chars % (Pixels.top + 1)) + 16) := by
  have hcut := (labelFits_iff chars).mp hfits
  have hcount : UInt32.ofNat (chars % (Pixels.top + 1)) = UInt32.ofNat chars :=
    UInt32.ofNat_mod_size
  have hword : UInt32.ofNat chars * charWidth + boxMargin =
      UInt32.ofNat (7 * (chars % (Pixels.top + 1)) + 16) := by
    rw [← hcount, Nat.mul_comm, UInt32.ofNat_add, UInt32.ofNat_mul]
    rfl
  have hasked : (UInt32.ofNat (7 * (chars % (Pixels.top + 1)) + 16)).toNat =
      7 * (chars % (Pixels.top + 1)) + 16 :=
    UInt32.toNat_ofNat_of_lt' (Nat.lt_succ_of_le hcut)
  rw [labelWidth, hword, UInt32.toNat_max, hasked]
  rfl

theorem labelFits_of_le {chars : Nat} (hroom : 7 * chars + 16 ≤ Pixels.top) : labelFits chars := by
  rw [labelFits_iff, Nat.mod_eq_of_lt (by omega)]
  exact hroom

theorem toNat_labelWidth_of_le {chars : Nat} (hroom : 7 * chars + 16 ≤ Pixels.top) :
    (labelWidth chars).toNat = max 40 (7 * chars + 16) := by
  rw [toNat_labelWidth (labelFits_of_le hroom), Nat.mod_eq_of_lt (by omega)]

theorem le_labelWidth_iff {chars : Nat} :
    7 * chars + 16 ≤ (labelWidth chars).toNat ↔ 7 * chars + 16 ≤ Pixels.top := by
  refine ⟨fun h => Nat.le_trans h (Nat.le_of_lt_succ (labelWidth chars).toNat_lt), fun hroom => ?_⟩
  rw [toNat_labelWidth_of_le hroom]
  exact Nat.le_max_right 40 _

theorem labelWidth_exact_iff {chars : Nat} (hfits : labelFits chars) :
    (labelWidth chars).toNat = min Pixels.top (max 40 (7 * chars + 16)) ↔
      7 * chars + 16 ≤ Pixels.top := by
  have htop : Pixels.top = 4294967295 := rfl
  rw [toNat_labelWidth hfits]
  constructor
  · -- what is asked for after the cut is never the largest position itself, which 7 does not reach
    omega
  · intro hroom
    rw [Nat.mod_eq_of_lt (by omega)]
    omega

theorem labelWidth_mono {shorter chars : Nat} (hle : shorter ≤ chars)
    (hroom : 7 * chars + 16 ≤ Pixels.top) : labelWidth shorter ≤ labelWidth chars := by
  rw [UInt32.le_iff_toNat_le, toNat_labelWidth_of_le hroom, toNat_labelWidth_of_le (by omega)]
  omega

/-! ### Boxes -/

theorem length_labelText (typeName args : String) : (labelText typeName args).length =
    typeName.length + if args = "" then 0 else 1 + args.length := by
  unfold labelText
  split_ifs
  · rfl
  · rw [String.length_append, String.length_append, Nat.add_assoc]
    rfl

theorem Contract.sizes_eq {c : Contract} (hgeneric : c.isGeneric) (hwidth : c.width = none)
    (label : String) : c.sizes label = labelFits label.length := by
  rw [Contract.sizes, hgeneric, hwidth]
  rfl

namespace Patch

section Labelled
variable {p : Patch} {typeName args : String} {c : Contract} (attributes : Members)
  (hgeneric : c.isGeneric) (hwidth : c.width = none)
include hgeneric hwidth

theorem perform_add_of_not_fits (hfits : ¬ labelFits (labelText typeName args).length) :
    p.perform (.add typeName c args attributes) = (.overflow, p) := by
  rw [perform, add?, c.sizes_eq hgeneric hwidth, if_neg hfits]

theorem WellFormed.perform_add_of_fits (hp : p.WellFormed)
    (hfits : labelFits (labelText typeName args).length) :
    ∃ b, (p.perform (.add typeName c args attributes)).1 = .handle b.handle ∧
      (p.edit (.add typeName c args attributes)).box? p.nextId = some b ∧
      b.label? = some (labelText typeName args) ∧
      b.editorRect.width = labelWidth (labelText typeName args).length := by
  have hsizes : c.sizes (labelText typeName args) := by
    rwa [c.sizes_eq hgeneric hwidth]
  refine ⟨p.newBox typeName c args attributes, ?_, ?_, if_pos (of_decide_eq_true hgeneric), ?_⟩
  · rw [perform, add?, if_pos hsizes]
    rfl
  · rw [edit_add_of_sizes p attributes hsizes, hp.box?_add, if_pos rfl]
  · simp only [newBox, Box.ofContract, hwidth, hgeneric, if_true]

end Labelled

/-- **Labels have room in their boxes**, as far as positions go. A box that is to show a label, and
whose contract sets no width, is added unless what the label asks for, 7 for each character and 16
around them, overflows 32 bits when the number of characters is cut off to 32 bits; then there is no
result and no box. A box that is added is as wide as that, and at least 40. It is as wide as its
label asks for in full, or as the largest position, if and only if what is asked for is a position,
and just so far it has room for the label. Up to there a box is added, and no shorter label has a
wider one. -/
theorem labels_have_room (history : List Edit) (typeName args : String) (c : Contract)
    (attributes : Members) (hgeneric : c.isGeneric) (hwidth : c.width = none) :
    let p := empty.after history
    let chars := typeName.length + if args = "" then 0 else 1 + args.length
    let asked := 7 * chars + 16
    let cut := 7 * (chars % (Pixels.top + 1)) + 16
    let result := p.perform (.add typeName c args attributes)
    (Pixels.top < cut → result = (.overflow, p)) ∧
    (cut ≤ Pixels.top → ∃ b, result.1 = .handle b.handle ∧ result.2.box? p.nextId = some b ∧
      (∃ label, b.label? = some label ∧ label.length = chars) ∧
      labelWidth? chars = some b.editorRect.width ∧
      b.editorRect.width.toNat = max 40 cut ∧
      (b.editorRect.width.toNat = min Pixels.top (max 40 asked) ↔ asked ≤ Pixels.top) ∧
      (asked ≤ b.editorRect.width.toNat ↔ asked ≤ Pixels.top)) ∧
    (asked ≤ Pixels.top → cut ≤ Pixels.top ∧ ∀ shorter ≤ chars, ∃ width width',
      labelWidth? shorter = some width ∧ labelWidth? chars = some width' ∧ width ≤ width') := by
  intro p chars asked cut result
  have hp : p.WellFormed := wellFormed_after history
  have hchars : (labelText typeName args).length = chars := length_labelText typeName args
  refine ⟨fun hover => ?_, fun hcut => ?_, fun hroom => ?_⟩
  · refine perform_add_of_not_fits attributes hgeneric hwidth fun hfits => ?_
    rw [hchars, labelFits_iff] at hfits
    exact absurd hfits (Nat.not_le.mpr hover)
  · have hfits : labelFits chars := (labelFits_iff chars).mpr hcut
    obtain ⟨b, hhandle, hb, hlabel, hbox⟩ :=
      hp.perform_add_of_fits attributes hgeneric hwidth (hchars ▸ hfits)
    rw [hchars] at hbox
    refine ⟨b, hhandle, hb, ⟨_, hlabel, hchars⟩, ?_, ?_, ?_, ?_⟩
    · rw [labelWidth?, if_pos hfits, hbox]
    · rw [hbox, toNat_labelWidth hfits]
    · rw [hbox, labelWidth_exact_iff hfits]
    · rw [hbox, le_labelWidth_iff]
  · refine ⟨(labelFits_iff chars).mp (labelFits_of_le hroom), fun shorter hle => ?_⟩
    have hfits : labelFits shorter := labelFits_of_le (by omega)
    exact ⟨_, _, if_pos hfits, if_pos (labelFits_of_le hroom), labelWidth_mono hle hroom⟩

/-- The box of a delay line with its time has room for its label of 11 characters. -/
theorem delay_line_has_room :
    let c : Contract := { inlets := 1, outlets := [.signal] }
    (c.isGeneric ∧ c.width = none) ∧
      ∃ b, (empty.edit (.add "tapin~" c "5000" [])).box? ⟨1⟩ = some b ∧
        b.editorRect.width.toNat = 93 ∧ ∃ width width', labelWidth? 3 = some width ∧
          labelWidth? 11 = some width' ∧ width ≤ width' := by
  intro c
  have hgeneric : c.isGeneric := rfl
  have hwidth : c.width = none := rfl
  obtain ⟨-, hadded, hshorter⟩ := labels_have_room [] "tapin~" "5000" c [] hgeneric hwidth
  obtain ⟨b, -, hb, -, -, hwide, -⟩ := hadded (by decide)
  exact ⟨⟨hgeneric, hwidth⟩, b, hb, hwide, (hshorter (by decide)).2 3 (by decide)⟩

/-- A label of 613566754 characters has room in its box. With one character more there is no width
and no box, where there should be a box as wide as the largest position. -/
theorem one_character_too_many :
    let add (chars : Nat) : Edit :=
      .add (String.ofList (List.replicate chars 'x')) .fallback "" []
    let widths (chars : Nat) := (empty.edit (add chars)).boxes.map (·.editorRect.width.toNat)
    widths 613566754 = [4294967294] ∧
      empty.perform (add 613566755) = (.overflow, empty) ∧ widths 613566755 = [] ∧
      ¬ ∀ chars, widths chars = [min Pixels.top (max 40 (7 * chars + 16))] := by
  intro add widths
  have hlength (chars : Nat) :
      (labelText (String.ofList (List.replicate chars 'x')) "").length = chars := by
    rw [length_labelText, String.length_ofList, List.length_replicate, if_pos rfl, Nat.add_zero]
  have hsizes (chars : Nat) : Contract.fallback.sizes
      (labelText (String.ofList (List.replicate chars 'x')) "") = labelFits chars := by
    rw [Contract.sizes_eq rfl rfl, hlength]
  have hbox (label : String) : (empty.add label .fallback "" []).2.boxes.map
      (·.editorRect.width.toNat) = [(labelWidth (labelText label "").length).toNat] := rfl
  have hwidths (chars : Nat) :
      widths chars = if labelFits chars then [(labelWidth chars).toNat] else [] := by
    simp only [widths, add, edit_add, hsizes]
    split_ifs
    · rw [hbox, hlength]
    · rfl
  refine ⟨hwidths _, ?_, hwidths _, fun hexact => ?_⟩
  · refine perform_add_of_not_fits [] rfl rfl fun hfits => ?_
    rw [hlength] at hfits
    cases hfits
  · have hnone := hexact 613566755
    rw [hwidths] at hnone
    cases hnone

end Patch

end MaxPatch
