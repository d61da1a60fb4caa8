import MaxPatch.Proofs.Attributes
import MaxPatch.Proofs.Documents
import MaxPatch.Proofs.Registrations

/-! # Texts: what comments and messages show

A comment and a message box hold their text as an attribute, and a box goes on with its attributes
and its make whatever is called on the device (`Session.exists_record`). So what its record says
under `text` in any later document is settled by its contract, and with it by the catalog at the
time when it was made: a box of a class of its own shows the text, but an ordinary one has a label,
its type, and that is put in last (`Box.get?_text`, `texts_show_on_boxes_without_label`). A device
whose catalog does not know comments loses their texts in this way
(`comment_of_unknown_type_loses_its_text`). -/

namespace MaxPatch

/-- **The text of a box that holds one**: ordinary boxes show their type instead. -/
theorem Box.get?_text {b : Box} {text : String} (hargs : b.args = "")
    (hattributes : b.attributes = [("text", .text text)]) : b.record.get? "text" =
      some (.text (if b.renderClass = genericClass then b.typeName else text)) := by
  have hlatest : latest? b.attributes "text" = some (.text text) := by
    rw [hattributes, latest?_singleton, if_pos rfl]
  have hlate : b.lateMembers.get? "text" =
      if b.renderClass = genericClass then some (.text b.typeName) else none := by
    have hlabel : labelText b.typeName b.args = b.typeName := by rw [hargs]; rfl
    rw [lateMembers_eq, hlabel]
    split_ifs <;> simp [Members.get?]
  rw [Box.get?_record, hlatest, hlate]
  split_ifs <;> rfl

/-- The record of the box of a number. -/
def Document.record? (d : Document) (id : BoxId) : Option Members :=
  match id.number with
  | 0 => none
  | n + 1 => d.records[n]?

theorem Patch.record?_document (p : Patch) (id : BoxId) :
    p.document.record? id = (p.box? id).map (·.record) := by
  obtain ⟨n⟩ := id
  cases n with
  | zero => rfl
  | succ n => exact List.getElem?_map

namespace Session

/-- In the document that the session completes its device to, the box of a handle has a text. -/
def Shows (s : Session) (h : Handle) (text : String) : Prop :=
  ∃ document record, s.device.finalize.value.1 = .ok document ∧
    document.record? h.id = some record ∧ record.get? "id" = some (.text h.id.name) ∧
      record.get? "text" = some (.text text)

variable {s : Session}

theorem Shows.unique {h : Handle} {text text' : String} (hs : s.Shows h text)
    (hs' : s.Shows h text') : text = text' := by
  obtain ⟨document, record, hd, hr, -, ht⟩ := hs
  obtain ⟨document', record', hd', hr', -, ht'⟩ := hs'
  obtain rfl : document = document' := Except.ok.inj (hd.symm.trans hd')
  obtain rfl : record = record' := Option.some.inj (hr.symm.trans hr')
  exact Json.text.inj (Option.some.inj (ht.symm.trans ht'))

/-- **A box comes into every later document**, with the make and the attributes that it has. -/
theorem exists_record (hs : s.device.Sound) {id : BoxId} {b : Box}
    (hb : s.device.patch.box? id = some b) (calls : List DeviceCall) :
    ∃ document c, (s.after calls).device.finalize.value.1 = .ok document ∧
      document.record? id = some c.record ∧ b.Keeps c := by
  have hlater := (s.grows_after calls).trans (Device.grows_finalize _)
  obtain ⟨c, hc, hkeeps⟩ := (hlater.patch.continues hs.patch).old id b hb
  have hvalue := Device.finalize_value (sound_after hs calls)
  refine ⟨_, c, congrArg Prod.fst hvalue, ?_, hkeeps⟩
  rw [Patch.record?_document, hc]
  rfl

/-- **What a call shows** that adds a box for a text. -/
theorem shows_of_addText (hs : s.device.Sound) (typeName text : String) (call : DeviceCall)
    (hanswer : s.answer call = .handle (s.device.addText typeName text).value.1)
    (hnext : (s.next call).device = (s.device.addText typeName text).value.2)
    (calls : List DeviceCall) :
    ∃ h, s.answer call = .handle h ∧ ((s.next call).after calls).Shows h
      (if ((s.device.catalog.lookup? typeName).getD .fallback).isGeneric then typeName
        else text) := by
  have hsound : (s.next call).device.Sound := (s.grows_next call).sound hs
  have hbox : (s.next call).device.patch.box? s.device.patch.nextId = some (s.device.patch.newBox
      typeName (s.device.catalog.resolve typeName).value "" [("text", .text text)]) := by
    rw [hnext]
    exact (hs.patch.box?_add ..).trans (if_pos rfl)
  refine ⟨_, hanswer, ?_⟩
  obtain ⟨document, c, hdocument, hrecord, hkeeps⟩ := exists_record hsound hbox calls
  obtain ⟨hid, htype, hclass, -, -, hargs⟩ := Box.Make.mk.inj hkeeps.make
  have hplain : c.Plain := Box.plain_of_keys ["text"] (congrArg Members.keys hkeeps.attributes)
    (by decide)
  refine ⟨document, c.record, hdocument, hrecord, ?_, ?_⟩
  · rw [hplain.record_ports.1, hid]
    rfl
  · rw [Box.get?_text hargs hkeeps.attributes, htype, hclass, ← Catalog.resolve_value,
      Contract.isGeneric]
    simp only [decide_eq_true_eq]
    rfl

/-- **Texts show on boxes without a label.** A comment or a message box that is added at any point
of any session comes into every later document. It shows its text there if, at the time when it was
added, the catalog had its type in a class of its own; if the catalog had it as an ordinary box, or
did not know it, the box shows its type in place of the text. -/
theorem texts_show_on_boxes_without_label (name : String) (kind : DeviceKind) (catalog : Catalog)
    (files : FileTree) (home : String) (before calls : List DeviceCall) (text : String) :
    let s := (start name kind catalog files home).value.after before
    let shown := fun typeName =>
      if ((s.device.catalog.lookup? typeName).getD .fallback).isGeneric then typeName else text
    (∃ h, s.answer (.comment text) = .handle h ∧
      ((s.next (.comment text)).after calls).Shows h (shown "comment")) ∧
    ∃ h, s.answer (.message text) = .handle h ∧
      ((s.next (.message text)).after calls).Shows h (shown "message") := by
  intro s shown
  have hs : s.device.Sound := sound_after (sound_start name kind catalog files home) before
  exact ⟨shows_of_addText hs "comment" text (.comment text) rfl rfl calls,
    shows_of_addText hs "message" text (.message text) rfl rfl calls⟩

/-- A device whose catalog does not know comments shows the type of a comment and not its text. -/
theorem comment_of_unknown_type_loses_its_text :
    let s := (start "fx" .audioEffect .empty {} "home").value
    ∃ h, s.answer (.comment "hello") = .handle h ∧
      (s.next (.comment "hello")).Shows h "comment" ∧
      ¬ (s.next (.comment "hello")).Shows h "hello" := by
  intro s
  obtain ⟨h, hanswer, hshows⟩ := shows_of_addText
    (sound_start "fx" .audioEffect .empty {} "home") "comment" "hello" (.comment "hello") rfl rfl []
  refine ⟨h, hanswer, hshows, fun hlost => ?_⟩
  have htext : "comment" = "hello" := Shows.unique hshows hlost
  exact absurd htext (by decide)

end Session

end MaxPatch
