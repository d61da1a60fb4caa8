import MaxPatch.Proofs.Records

/-! # Attributes: what a record makes of them

The attributes of a box are all that was ever written to them: what it was made with and what was
set since. Of these writes a record shows the last one under each key. An attribute may have the key
of a structural member, and then it takes that member's place; it may have the key of the label or
of the presentation, and then it keeps its own place and loses its value, where there is a label or
a presentation.

`Box.changed` follows a box through changes of any kind, and `Box.attributes_changed` says what
becomes of its attributes. With `get?_record` and `keys_record` this gives the record of a box after
any changes (`records_say_what_was_written_last`). -/

namespace MaxPatch

open Patch (firstOccurrences)

namespace Members

/-- What writes leave, one after the other. -/
def ofWrites (writes : Members) : Members := insertAll [] writes

theorem keys_ofWrites (writes : Members) : (ofWrites writes).keys = firstOccurrences writes.keys :=
  keys_insertAll_eq_foldl [] writes

theorem nodup_ofWrites (writes : Members) : (ofWrites writes).keys.Nodup := by
  rw [keys_ofWrites]
  exact Patch.nodup_firstOccurrences writes.keys

theorem latest?_ofWrites (writes : Members) (key : String) :
    latest? (ofWrites writes) key = latest? writes key := by
  rw [latest?_of_nodup (nodup_ofWrites writes), ofWrites, get?_insertAll]
  exact Option.or_none

end Members

namespace Box

/-! ### Changes -/

/-- A change of a box. -/
inductive Change where
  | setEditorRect (rect : Rect)
  | setFace (shown : Bool) (rect : Option Rect)
  | setAttribute (key : String) (value : Json)

/-- The attribute that a change writes. -/
def Change.write? : Change → Option (String × Json)
  | setAttribute key value => some (key, value)
  | _ => none

/-- The box after a change. -/
def change (b : Box) : Change → Box
  | .setEditorRect rect => b.setEditorRect rect
  | .setFace shown rect => b.setFace shown rect
  | .setAttribute key value => b.setAttribute key value

/-- The box after changes. -/
def changed (b : Box) (changes : List Change) : Box := changes.foldl change b

theorem make_changed (b : Box) (changes : List Change) : (b.changed changes).make = b.make := by
  induction changes generalizing b with
  | nil => rfl
  | cons c changes ih =>
    have hfirst : (b.change c).make = b.make := by cases c <;> rfl
    exact (ih (b.change c)).trans hfirst

/-- **What becomes of the attributes**: those that are set are put in. -/
theorem attributes_changed (b : Box) (changes : List Change) :
    (b.changed changes).attributes = b.attributes.insertAll (changes.filterMap (·.write?)) := by
  induction changes generalizing b with
  | nil => rfl
  | cons c changes ih =>
    have hrest := ih (b.change c)
    cases c with
    | setAttribute key value => exact hrest
    | setEditorRect => exact hrest
    | setFace => exact hrest

/-! ### Records -/

theorem lateMembers_eq (b : Box) : b.lateMembers =
    (if b.renderClass = genericClass then [("text", .text (labelText b.typeName b.args))] else []) ++
      if b.shown then [("presentation", .int 1), ("presentation_rect", b.faceRect.toJson)]
      else [] := by
  unfold lateMembers labelMembers faceMembers label? faceRect?
  split_ifs <;> rfl

/-- **A record says what was written last.** After any changes no key comes twice. First come the
keys of the structural members, then the other keys of attributes in the order in which they were
first written, then what is left of the label and the presentation. Under each key stands the label
or the presentation, if they have it, or else the attribute that was written last, or else the
structural member. -/
theorem records_say_what_was_written_last (id : BoxId) (typeName args : String)
    (contract : Contract) (bag : Members) (changes : List Change) :
    let b := (ofContract id typeName contract args (Members.ofWrites bag)).changed changes
    let writes : Members := bag ++ changes.filterMap (·.write?)
    let structural : Members :=
      [("id", .text id.name), ("maxclass", .text contract.renderClass),
       ("numinlets", .nat contract.inlets), ("numoutlets", .nat contract.outlets.length),
       ("outlettype", .texts (contract.outlets.map (·.tag))),
       ("patching_rect", b.editorRect.toJson)]
    let late : Members :=
      (if contract.isGeneric then [("text", .text (labelText typeName args))] else []) ++
        if b.shown then [("presentation", .int 1), ("presentation_rect", b.faceRect.toJson)] else []
    b.record.keys.Nodup ∧
    b.record.keys = structural.keys ++
      (firstOccurrences writes.keys).filter (· ∉ structural.keys) ++
        late.keys.filter (· ∉ structural.keys ++ writes.keys) ∧
    ∀ key, b.record.get? key =
      (late.get? key).or ((latest? writes key).or (structural.get? key)) := by
  intro b writes structural late
  have hmake : b.make = ⟨id, typeName, contract.renderClass, contract.inlets, contract.outlets,
    args⟩ := make_changed _ changes
  obtain ⟨hid, htype, hclass, hinlets, houtlets, hargs⟩ := Make.mk.inj hmake
  have hattributes : b.attributes = Members.ofWrites writes := by
    have hchanged := attributes_changed
      (ofContract id typeName contract args (Members.ofWrites bag)) changes
    rw [Members.ofWrites, Members.insertAll, List.foldl_append]
    exact hchanged
  have hstructural : b.structuralMembers = structural := by
    unfold structuralMembers
    rw [hid, hclass, hinlets, houtlets]
  have hlate : b.lateMembers = late := by
    rw [lateMembers_eq, hclass, htype, hargs]
    simp only [late, Contract.isGeneric, decide_eq_true_eq]
  have hmem : ∀ k, k ∈ structural.keys ++ (Members.ofWrites writes).keys ↔
      k ∈ structural.keys ++ writes.keys := fun k => by
    rw [Members.keys_ofWrites, List.mem_append, List.mem_append, Patch.mem_firstOccurrences]
  refine ⟨b.nodup_keys_record, ?_, fun key => ?_⟩
  · rw [keys_record, hstructural, hattributes, hlate,
      Patch.firstOccurrences_of_nodup (Members.nodup_ofWrites writes), Members.keys_ofWrites]
    simp only [← Members.keys_ofWrites, hmem]
  · rw [get?_record, hstructural, hattributes, hlate, Members.latest?_ofWrites]

/-- An attribute that shadows a structural member takes its place, one that shadows the label only
keeps its own place. -/
example :
    let b := ((ofContract ⟨1⟩ "cycle~" { inlets := 2, outlets := [.signal] } "440" []).setAttribute
      "text" (.text "mine")).setAttribute "id" (.text "mine")
    b.record.keys =
        ["id", "maxclass", "numinlets", "numoutlets", "outlettype", "patching_rect", "text"] ∧
      b.record.get? "id" = some (.text "mine") ∧
      b.record.get? "text" = some (.text "cycle~ 440") := by
  refine ⟨?_, ?_, ?_⟩ <;> rfl

end Box

end MaxPatch
