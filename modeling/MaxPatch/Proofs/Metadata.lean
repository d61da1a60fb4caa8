import MaxPatch.Proofs.Documents
import MaxPatch.Proofs.Values

/-! # Metadata: what the record of a parameter tells

What the host is told about a parameter stands in the attributes of its box, one member for each
thing that was asked for, and the rest in the structural members: the control is the class of the
box and the size is that of its rectangle. Nothing is lost in this but how a finite number was
given: parameters whose records are the same, and all the more those whose records are equal
(`Json.Same.refl`), were asked for the same (`parameters_are_told_apart`). -/

namespace MaxPatch

/-! ### Codes -/

theorem Control.find?_renderClass (c : Control) :
    all.find? (·.renderClass = c.renderClass) = some c := by
  cases c <;> decide

theorem Control.renderClass_injective : Function.Injective renderClass := fun c d h => by
  have hc := find?_renderClass c
  rw [h, find?_renderClass d] at hc
  exact (Option.some.inj hc).symm

theorem UnitStyle.getElem?_code (u : UnitStyle) : all[u.code]? = some u := by
  cases u <;> rfl

theorem UnitStyle.code_injective : Function.Injective code := fun u v h => by
  have hu := getElem?_code u
  rw [h, getElem?_code v] at hu
  exact (Option.some.inj hu).symm

theorem Rect.eq_of_same {r r' : Rect} (h : Json.Same r.toJson r'.toJson) : r = r' := by
  obtain ⟨x, y, width, height⟩ := r
  obtain ⟨x', y', width', height'⟩ := r'
  have hitems := h.items
  simp only [List.forall₂_cons, List.forall₂_nil_left_iff, and_true] at hitems
  obtain ⟨hx, hy, hw, hh⟩ := hitems
  rw [Rect.mk.injEq]
  exact ⟨UInt32.toNat_inj.mp hx.nat_inj, UInt32.toNat_inj.mp hy.nat_inj,
    UInt32.toNat_inj.mp hw.nat_inj, UInt32.toNat_inj.mp hh.nat_inj⟩

namespace ParameterOptions

variable {o o' : ParameterOptions} {name name' : String}

/-- All numbers that are asked for are finite. -/
structure Finite (o : ParameterOptions) : Prop where
  least : ∀ x ∈ o.least, x.isFinite
  greatest : ∀ x ∈ o.greatest, x.isFinite
  initial : ∀ x ∈ o.initial, x.isFinite
  exponent : ∀ x ∈ o.exponent, x.isFinite

/-! ### What is written about a value -/

theorem get?_optional {α : Type} (key : String) (write : α → Json) (v : Option α) (k : String) :
    Members.get? (optional key write v) k = if key = k then v.map write else none := by
  cases v with
  | none => exact (ite_self _).symm
  | some a => exact Members.get?_cons ..

theorem get?_initialMembers (v : Option Binary64) (k : String) :
    Members.get? (initialMembers v) k =
      if "parameter_initial" = k then v.map fun x => .list [.ofBinary64 x]
      else if "parameter_initial_enable" = k then v.map fun _ => .flag true else none := by
  cases v with
  | none => simp [initialMembers, Members.get?]
  | some x =>
    rw [initialMembers, Members.get?_cons, Members.get?_cons]
    rfl

theorem get?_valueMembers (o : ParameterOptions) (name : String) :
    let told := Members.get? (o.valueMembers name)
    told "parameter_longname" = some (.text (o.longName.getD name)) ∧
    told "parameter_shortname" = some (.text (o.shortName.getD name)) ∧
    told "parameter_unitstyle" = some (.nat o.unit.code) ∧
    told "parameter_mmin" = o.least.map .ofBinary64 ∧
    told "parameter_mmax" = o.greatest.map .ofBinary64 ∧
    told "parameter_initial" = o.initial.map (fun x => .list [.ofBinary64 x]) ∧
    told "parameter_exponent" = o.exponent.map .ofBinary64 ∧
    told "parameter_steps" = o.steps.map (fun n => .nat n.toNat) ∧
    told "parameter_enum" = o.entries.map .texts := by
  intro told
  refine ⟨rfl, rfl, rfl, ?_, ?_, ?_, ?_, ?_, ?_⟩ <;>
    simp [told, valueMembers, Members.get?_append, Members.get?_cons, get?_optional,
      get?_initialMembers]

/-- **What a value is told tells what was asked for.** -/
theorem valueMembers_told_apart (ho : o.Finite) (ho' : o'.Finite)
    (h : Json.Same (.object (o.valueMembers name)) (.object (o'.valueMembers name'))) :
    o.longName.getD name = o'.longName.getD name' ∧
    o.shortName.getD name = o'.shortName.getD name' ∧
    o.unit = o'.unit ∧ o.steps = o'.steps ∧ o.entries = o'.entries ∧
    o.least.map (·.value) = o'.least.map (·.value) ∧
    o.greatest.map (·.value) = o'.greatest.map (·.value) ∧
    o.initial.map (·.value) = o'.initial.map (·.value) ∧
    o.exponent.map (·.value) = o'.exponent.map (·.value) := by
  obtain ⟨hlong, hshort, hunit, hleast, hgreatest, hinitial, hexponent, hsteps, hentries⟩ :=
    o.get?_valueMembers name
  obtain ⟨hlong', hshort', hunit', hleast', hgreatest', hinitial', hexponent', hsteps',
    hentries'⟩ := o'.get?_valueMembers name'
  refine ⟨(h.of_get? _ hlong hlong').text_inj, (h.of_get? _ hshort hshort').text_inj,
    UnitStyle.code_injective (h.of_get? _ hunit hunit').nat_inj, ?_, ?_, ?_, ?_, ?_, ?_⟩
  · exact Json.Same.eq_of_map (h.rel_get? _ hsteps hsteps') fun n n' hn =>
      UInt32.toNat_inj.mp hn.nat_inj
  · exact Json.Same.eq_of_map (h.rel_get? _ hentries hentries') fun _ _ htexts => htexts.texts_inj
  · exact Json.Same.map_value_eq ho.least ho'.least (h.rel_get? _ hleast hleast')
  · exact Json.Same.map_value_eq ho.greatest ho'.greatest (h.rel_get? _ hgreatest hgreatest')
  · -- the initial value stands alone in a list
    refine Json.Same.map_eq (h.rel_get? _ hinitial hinitial') fun x hx y hy hxy => ?_
    have hitems := hxy.items
    rw [List.forall₂_cons] at hitems
    exact Json.Same.value_eq (ho.initial x hx) (ho'.initial y hy) hitems.1
  · exact Json.Same.map_value_eq ho.exponent ho'.exponent (h.rel_get? _ hexponent hexponent')

end ParameterOptions

/-- **The record of a new parameter**: where it tells what. -/
theorem Patch.WellFormed.record_addParameter {p : Patch} (hp : p.WellFormed) (name : String)
    (o : ParameterOptions) :
    ∃ b, (p.addParameter name o).2.box? (p.addParameter name o).1.id = some b ∧
      b.record.get? "id" = some (.text p.nextId.name) ∧
      b.record.get? "maxclass" = some (.text o.control.renderClass) ∧
      b.record.get? "patching_rect" = some (Rect.toJson ⟨0, 0, o.size.1, o.size.2⟩) ∧
      b.record.get? "saved_attribute_attributes" =
        some (.object [("valueof", .object (o.valueMembers name))]) := by
  have hbox := hp.box?_addParameter name o p.nextId
  rw [if_pos rfl] at hbox
  refine ⟨_, hbox, ?_⟩
  set b := (p.newBox o.control.renderClass (o.control.contract o.size.1) ""
    (o.attributes name)).setEditorRect ⟨0, 0, o.size.1, o.size.2⟩
  have hplain : b.Plain := o.plain_of_attributes name rfl
  refine ⟨?_, ?_, ?_, Box.get?_record_of_latest rfl (by decide)⟩
  all_goals
    rw [hplain.get?_record (by rw [Box.keys_structuralMembers]; decide)]
    rfl

/-- **Parameters are told apart.** If new parameters have the same records, whatever the histories
of the patches they are in, then they have the same number, control and size, the same names, unit,
steps and entries, and what is missing in one of their range, initial value and exponent is missing
in both, while what is there has the same value. -/
theorem parameters_are_told_apart (history history' : List Edit) (name name' : String)
    (o o' : ParameterOptions) (ho : o.Finite) (ho' : o'.Finite) :
    let p := Patch.empty.after history
    let p' := Patch.empty.after history'
    ∃ b b', (p.addParameter name o).2.box? (p.addParameter name o).1.id = some b ∧
      (p'.addParameter name' o').2.box? (p'.addParameter name' o').1.id = some b' ∧
      (Json.Same (.object b.record) (.object b'.record) →
        p.nextId = p'.nextId ∧ o.control = o'.control ∧ o.size = o'.size ∧
        o.longName.getD name = o'.longName.getD name' ∧
        o.shortName.getD name = o'.shortName.getD name' ∧
        o.unit = o'.unit ∧ o.steps = o'.steps ∧ o.entries = o'.entries ∧
        o.least.map (·.value) = o'.least.map (·.value) ∧
        o.greatest.map (·.value) = o'.greatest.map (·.value) ∧
        o.initial.map (·.value) = o'.initial.map (·.value) ∧
        o.exponent.map (·.value) = o'.exponent.map (·.value)) := by
  intro p p'
  obtain ⟨b, hb, hid, hclass, hrect, hsaved⟩ :=
    (Patch.wellFormed_after history).record_addParameter name o
  obtain ⟨b', hb', hid', hclass', hrect', hsaved'⟩ :=
    (Patch.wellFormed_after history').record_addParameter name' o'
  refine ⟨b, b', hb, hb', fun h => ?_⟩
  have hnames := (h.of_get? "id" hid hid').text_inj
  have hclasses := (h.of_get? "maxclass" hclass hclass').text_inj
  have hrects := Rect.eq_of_same (h.of_get? "patching_rect" hrect hrect')
  have hattributes := h.of_get? "saved_attribute_attributes" hsaved hsaved'
  have hvalues := hattributes.of_get? "valueof" rfl rfl
  rw [Rect.mk.injEq] at hrects
  exact ⟨BoxId.name_injective hnames, Control.renderClass_injective hclasses,
    Prod.ext hrects.2.2.1 hrects.2.2.2,
    ParameterOptions.valueMembers_told_apart ho ho' hvalues⟩

/-- A menu from 0 to 2 with an empty list of entries does not look like one without a list. -/
theorem empty_entries_are_told_apart :
    let o : ParameterOptions :=
      { control := .menu, least := some ⟨0⟩, greatest := some ⟨0x4000000000000000⟩ }
    let o' : ParameterOptions := { o with entries := some [] }
    o.Finite ∧ o'.Finite ∧
      ∃ b b', (Patch.empty.addParameter "Mode" o).2.box? ⟨1⟩ = some b ∧
        (Patch.empty.addParameter "Mode" o').2.box? ⟨1⟩ = some b' ∧
        ¬ Json.Same (.object b.record) (.object b'.record) := by
  intro o o'
  have ho : o.Finite := by
    refine ⟨fun x hx => ?_, fun x hx => ?_, fun x hx => ?_, fun x hx => ?_⟩ <;> cases hx <;> decide
  have ho' : o'.Finite := ⟨ho.least, ho.greatest, ho.initial, ho.exponent⟩
  obtain ⟨b, b', hb, hb', happart⟩ :=
    parameters_are_told_apart [] [] "Mode" "Mode" o o' ho ho'
  refine ⟨ho, ho', b, b', hb, hb', fun hsame => ?_⟩
  obtain ⟨-, -, -, -, -, -, -, hentries, -⟩ := happart hsame
  cases hentries

end MaxPatch
