import MaxPatch.Document
import MaxPatch.Proofs.Agreement
import MaxPatch.Proofs.Members

/-! # Records: what can be read back from the record of a box

A record is built by putting attributes, label and presentation in after the structural members, and
a member that is put in takes the place of one with its key. What stands under each key
(`Box.get?_record`) and in which order the keys come (`Box.keys_record`) follows from that.

A record says what the box is only as long as no attribute has a structural key (`Box.Plain`). A
device never sets such an attribute: it gives boxes a text or what the host is told about a
parameter, and after that it leaves their attributes alone (`Patch.Continues`,
`Becomes.continues`). -/

namespace MaxPatch

namespace Box

open Patch (firstOccurrences)

/-! ### Keys and values -/

/-- The members that are put in last: the label and the presentation. -/
def lateMembers (b : Box) : Members := b.labelMembers ++ b.faceMembers

variable {b c : Box}

theorem keys_structuralMembers (b : Box) : b.structuralMembers.keys =
    ["id", "maxclass", "numinlets", "numoutlets", "outlettype", "patching_rect"] := rfl

theorem keys_lateMembers (b : Box) : b.lateMembers.keys =
    (if b.renderClass = genericClass then ["text"] else []) ++
      if b.shown then ["presentation", "presentation_rect"] else [] := by
  unfold lateMembers labelMembers faceMembers label? faceRect?
  split_ifs <;> rfl

theorem nodup_keys_lateMembers (b : Box) : b.lateMembers.keys.Nodup := by
  rw [keys_lateMembers]
  split_ifs <;> decide

theorem keys_lateMembers_subset (b : Box) :
    b.lateMembers.keys ⊆ ["text", "presentation", "presentation_rect"] := by
  rw [keys_lateMembers]
  split_ifs <;> decide

theorem not_mem_keys_structuralMembers {k : String} (h : k ∈ b.lateMembers.keys) :
    k ∉ b.structuralMembers.keys := by
  have hapart : ∀ k ∈ ["text", "presentation", "presentation_rect"],
      k ∉ ["id", "maxclass", "numinlets", "numoutlets", "outlettype", "patching_rect"] := by decide
  exact hapart k (b.keys_lateMembers_subset h)

theorem record_eq (b : Box) :
    b.record = (b.structuralMembers.insertAll b.attributes).insertAll b.lateMembers :=
  List.foldl_append.symm

/-- **What a record says under a key**: the label and the presentation win over attributes, of these
the last one wins, and structural members stand for what nothing else is said about. -/
theorem get?_record (b : Box) (k : String) : b.record.get? k =
    (b.lateMembers.get? k).or ((latest? b.attributes k).or (b.structuralMembers.get? k)) := by
  rw [record_eq, Members.get?_insertAll, Members.get?_insertAll,
    Members.latest?_of_nodup b.nodup_keys_lateMembers]

theorem get?_record_of_latest {k : String} {v : Json} (h : latest? b.attributes k = some v)
    (hk : k ∉ ["text", "presentation", "presentation_rect"]) : b.record.get? k = some v := by
  have hlate : k ∉ b.lateMembers.keys := fun hl => hk (b.keys_lateMembers_subset hl)
  rw [get?_record, Members.get?_eq_none_iff.mpr hlate, h]
  rfl

/-- **The keys of a record**, in their order. -/
theorem keys_record (b : Box) : b.record.keys = b.structuralMembers.keys ++
    (firstOccurrences b.attributes.keys).filter (· ∉ b.structuralMembers.keys) ++
      b.lateMembers.keys.filter (· ∉ b.structuralMembers.keys ++ b.attributes.keys) := by
  have hlate : ∀ k, k ∉ (b.structuralMembers.insertAll b.attributes).keys ↔
      k ∉ b.structuralMembers.keys ++ b.attributes.keys := fun k => by
    rw [Members.mem_keys_insertAll, List.mem_append]
  rw [record_eq, Members.keys_insertAll, Members.keys_insertAll b.structuralMembers,
    Patch.firstOccurrences_of_nodup b.nodup_keys_lateMembers]
  simp only [← Members.keys_insertAll b.structuralMembers, hlate]

theorem nodup_keys_record (b : Box) : b.record.keys.Nodup := by
  rw [record_eq]
  refine Members.nodup_insertAll (Members.nodup_insertAll ?_ _) _
  rw [keys_structuralMembers]
  decide

/-! ### Plain boxes -/

/-- No attribute of the box has the key of a structural member. -/
def Plain (b : Box) : Prop := ∀ k ∈ b.structuralMembers.keys, k ∉ b.attributes.keys

theorem plain_of_keys (keys : List String) (hb : b.attributes.keys = keys)
    (h : ∀ k ∈ ["id", "maxclass", "numinlets", "numoutlets", "outlettype", "patching_rect"],
      k ∉ keys) : b.Plain := fun k hk => by
  rw [hb]
  exact h k hk

theorem Plain.congr (h : b.Plain) (hbc : c.attributes = b.attributes) : c.Plain := fun k hk => by
  rw [hbc]
  exact h k (by rw [keys_structuralMembers] at hk ⊢; exact hk)

/-- **The record of a plain box says what its structural members say.** -/
theorem Plain.get?_record (h : b.Plain) {k : String} (hk : k ∈ b.structuralMembers.keys) :
    b.record.get? k = b.structuralMembers.get? k := by
  have hlate : k ∉ b.lateMembers.keys := fun hl => not_mem_keys_structuralMembers hl hk
  rw [Box.get?_record, Members.get?_eq_none_iff.mpr hlate, latest?_eq_none_iff.mpr (h k hk)]
  rfl

end Box

theorem ParameterOptions.plain_of_attributes (o : ParameterOptions) (name : String) {b : Box}
    (hb : b.attributes = o.attributes name) : b.Plain :=
  Box.plain_of_keys ["parameter_enable", "saved_attribute_attributes", "varname"]
    (congrArg Members.keys hb) (by decide)

/-! ### Boxes of a device -/

/-- A box goes on with its make and its attributes. -/
structure Box.Keeps (b c : Box) : Prop where
  make : c.make = b.make
  attributes : c.attributes = b.attributes

namespace Patch

/-- All boxes are plain. -/
def Plain (p : Patch) : Prop := ∀ id b, p.box? id = some b → b.Plain

/-- **A patch that is continued**: boxes go on as they were made, and those that come are plain. -/
structure Continues (p q : Patch) : Prop where
  old : ∀ id b, p.box? id = some b → ∃ c, q.box? id = some c ∧ b.Keeps c
  new : ∀ id c, p.box? id = none → q.box? id = some c → c.Plain

variable {p q r : Patch}

theorem plain_empty : empty.Plain := fun id b hb => by
  obtain ⟨n⟩ := id
  cases n with
  | zero => cases hb
  | succ n => cases hb

theorem continues_of_boxes (h : q.boxes = p.boxes) : p.Continues q := by
  have hbox : q.box? = p.box? := box?_congr h
  refine ⟨fun id b hb => ⟨b, ?_, rfl, rfl⟩, fun id c hp hq => ?_⟩
  · rw [hbox, hb]
  · rw [hbox, hp] at hq
    cases hq

theorem Continues.trans (h : p.Continues q) (h' : q.Continues r) : p.Continues r where
  old := fun id b hb => by
    obtain ⟨c, hc, hbc⟩ := h.old id b hb
    obtain ⟨e, he, hce⟩ := h'.old id c hc
    exact ⟨e, he, hce.make.trans hbc.make, hce.attributes.trans hbc.attributes⟩
  new := fun id e hp he => by
    cases hq : q.box? id with
    | none => exact h'.new id e hq he
    | some c =>
      have hc := h.new id c hp hq
      obtain ⟨e', he', hce⟩ := h'.old id c hq
      obtain rfl : e = e' := Option.some.inj (he.symm.trans he')
      exact hc.congr hce.attributes

theorem Continues.plain (h : p.Continues q) (hp : p.Plain) : q.Plain := fun id c hc => by
  cases hb : p.box? id with
  | none => exact h.new id c hb hc
  | some b =>
    obtain ⟨c', hc', hbc⟩ := h.old id b hb
    obtain rfl : c = c' := Option.some.inj (hc.symm.trans hc')
    exact (hp id b hb).congr hbc.attributes

theorem continues_of_agreeExcept {moved faced : BoxId → Prop} {framed : Prop}
    (h : q.AgreeExcept moved faced framed p) : p.Continues q where
  old := fun id b hb => by
    rcases h.box? id with ⟨-, hp⟩ | ⟨c, b', hc, hb', hcb⟩
    · rw [hb] at hp; cases hp
    · obtain rfl : b = b' := Option.some.inj (hb.symm.trans hb')
      exact ⟨c, hc, hcb.make, hcb.attributes⟩
  new := fun id c hp hc => by
    rcases h.box? id with ⟨hq, -⟩ | ⟨c', b, -, hb, -⟩
    · rw [hc] at hq; cases hq
    · rw [hp] at hb; cases hb

section WellFormed
variable (hwell : p.WellFormed)
include hwell

theorem WellFormed.continues_of_newBox {new : Box} (hnew : new.Plain)
    (h : ∀ id, q.box? id = if id = p.nextId then some new else p.box? id) : p.Continues q where
  old := fun id b hb => by
    have hid : id ≠ p.nextId := by
      rintro rfl
      rw [hwell.box?_nextId] at hb
      cases hb
    exact ⟨b, by rw [h, if_neg hid, hb], rfl, rfl⟩
  new := fun id c hp hc => by
    rw [h] at hc
    split_ifs at hc
    · cases hc; exact hnew
    · rw [hp] at hc; cases hc

theorem WellFormed.continues_add (typeName : String) (contract : Contract) (args : String)
    {attributes : Members} (hplain : (p.newBox typeName contract args attributes).Plain) :
    p.Continues (p.edit (.add typeName contract args attributes)) := by
  rw [edit_add]
  split_ifs
  · exact hwell.continues_of_newBox hplain (hwell.box?_add _ _ _ _)
  · exact continues_of_boxes rfl

/-- **What a device does to boxes with an edit.** -/
theorem WellFormed.continues_edit {e : Edit} (he : e.ByDevice) : p.Continues (p.edit e) := by
  cases he with
  | add typeName contract args =>
    exact hwell.continues_add _ _ _ (Box.plain_of_keys [] rfl (by decide))
  | addText typeName contract text =>
    exact hwell.continues_add _ _ _ (Box.plain_of_keys ["text"] rfl (by decide))
  | addParameter name o =>
    exact hwell.continues_of_newBox (o.plain_of_attributes name rfl)
      (hwell.box?_addParameter name o)
  | connect source destination =>
    simp only [Patch.edit, perform, connect_eq]
    cases p.cordBetween source destination with
    | error => exact continues_of_boxes rfl
    | ok c => exact continues_of_boxes rfl
  | setOpensInPresentation => exact continues_of_boxes rfl
  | describe => exact continues_of_boxes rfl
  | tag => exact continues_of_boxes rfl
  | layoutEditor => exact continues_of_agreeExcept p.agreeExcept_layoutEditor
  | layoutFace ids => exact continues_of_agreeExcept (p.agreeExcept_layoutFace ids)

end WellFormed

/-- **Boxes go on as they were made**, as long as a device makes the edits. -/
theorem Becomes.continues (h : p.Becomes q) (hp : p.WellFormed) : p.Continues q := by
  obtain ⟨history, hall, rfl⟩ := h
  induction history generalizing p with
  | nil => exact continues_of_boxes rfl
  | cons e history ih =>
    have hfirst : p.Continues (p.edit e) := hp.continues_edit (hall e List.mem_cons_self)
    exact hfirst.trans (ih (hp.edit e) fun e' he' => hall e' (List.mem_cons_of_mem _ he'))

end Patch

end MaxPatch
