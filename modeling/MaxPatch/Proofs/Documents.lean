import MaxPatch.Proofs.Records

/-! # Documents: what a document refers to

A document names its boxes and refers to them from its lines. It is intact (`Document.Intact`) if
the box records are named `obj-1`, `obj-2` and so on in their order, if each of them has as many
outlet types as it counts outlets, and if both ends of every line refer to a port that the record of
a box counts (`Document.Resolves`). All this is read from the members of the document, with
`Json.at?`.

`Patch.intact_document` needs a well-formed patch with plain boxes. Devices have no others, so
`documents_intact` holds of whatever a device is completed to, after any session. -/

namespace MaxPatch

/-- What stands in a value at the end of a path of keys. -/
def Json.at? : Json → List String → Option Json
  | j, [] => some j
  | .object ms, k :: path => (Members.get? ms k).bind fun j => j.at? path
  | _, _ :: _ => none

theorem BoxId.name_injective : Function.Injective BoxId.name := fun i j h => by
  have hdigits : Nat.toDigits 10 i.number = Nat.toDigits 10 j.number := by
    have hlist := congrArg String.toList h
    simp only [BoxId.name, String.toList_append, toString] at hlist
    simpa using hlist
  have hnumber := congrArg (Nat.ofDigitChars 10 · 0) hdigits
  simp only [Nat.ofDigitChars_toDigits (by decide : 1 < 10) (by decide)] at hnumber
  obtain ⟨n⟩ := i
  obtain ⟨m⟩ := j
  exact congrArg BoxId.mk hnumber

namespace Document

/-- A reference, the name of a box and an index, leads to a box record of that name that counts more
ports than the index under `key`. -/
def Resolves (d : Document) (key : String) (reference : Json) : Prop :=
  ∃ record ∈ d.records, ∃ name index count,
    reference = .list [.text name, .nat index] ∧ record.get? "id" = some (.text name) ∧
      record.get? key = some (.nat count) ∧ index < count

/-- **An intact document.** Its boxes are its records and its lines are its cords; the records are
named by their places, with no key and no name twice; each has a type for every outlet that it
counts; and lines lead from an outlet to an inlet that records count. -/
structure Intact (d : Document) : Prop where
  boxes : d.toJson.at? ["patcher", "boxes"] =
    some (.list (d.records.map fun r => .object [("box", .object r)]))
  lines : d.toJson.at? ["patcher", "lines"] =
    some (.list (d.cords.map fun c => .object [("patchline", c.toJson)]))
  named : ∀ (i : Nat) (r : Members), d.records[i]? = some r →
    r.get? "id" = some (.text s!"obj-{i + 1}")
  distinct : (d.records.map (·.get? "id")).Nodup
  keys : ∀ r ∈ d.records, r.keys.Nodup
  typed : ∀ r ∈ d.records, ∃ tags, r.get? "outlettype" = some (.texts tags) ∧
    r.get? "numoutlets" = some (.nat tags.length)
  sources : ∀ c ∈ d.cords, ∃ reference, c.toJson.at? ["source"] = some reference ∧
    d.Resolves "numoutlets" reference
  destinations : ∀ c ∈ d.cords, ∃ reference, c.toJson.at? ["destination"] = some reference ∧
    d.Resolves "numinlets" reference

theorem at?_toJson (d : Document) (key : String) :
    d.toJson.at? ["patcher", key] =
      Members.get? (header d.opensInPresentation ++ d.face ++ d.content) key := by
  rw [toJson, Json.at?, Members.get?_cons, if_pos rfl]
  simp [Json.at?]

end Document

theorem Box.Plain.record_ports {b : Box} (h : b.Plain) :
    b.record.get? "id" = some (.text b.id.name) ∧
      b.record.get? "numinlets" = some (.nat b.inlets) ∧
      b.record.get? "numoutlets" = some (.nat b.outlets.length) ∧
      b.record.get? "outlettype" = some (.texts (b.outlets.map (·.tag))) := by
  refine ⟨?_, ?_, ?_, ?_⟩
  all_goals
    rw [h.get?_record (by rw [Box.keys_structuralMembers]; decide)]
    rfl

namespace Patch

variable {p : Patch}

theorem WellFormed.record_mem (hw : p.WellFormed) {id : BoxId} {b : Box} (hb : p.box? id = some b) :
    b.record ∈ p.document.records := List.mem_map_of_mem (hw.box?_eq_some_iff.mp hb).1

/-- **The document of a well-formed patch with plain boxes is intact.** -/
theorem intact_document (hw : p.WellFormed) (hp : p.Plain) : p.document.Intact where
  boxes := Document.at?_toJson p.document "boxes"
  lines := Document.at?_toJson p.document "lines"
  named := fun i r hr => by
    rw [document, List.getElem?_map, Option.map_eq_some_iff] at hr
    obtain ⟨b, hb, rfl⟩ := hr
    rw [(hp ⟨i + 1⟩ b hb).record_ports.1, hw.numbered i b hb]
    rfl
  distinct := by
    have hids : p.document.records.map (·.get? "id") =
        p.ids.map fun id => some (.text id.name) := by
      rw [document, ids, List.map_map, List.map_map]
      refine List.map_congr_left fun b hb => ?_
      exact (hp b.id b (hw.box?_eq_some_iff.mpr ⟨hb, rfl⟩)).record_ports.1
    rw [hids]
    refine hw.nodup_ids.map fun i j hij => BoxId.name_injective ?_
    exact Json.text.inj (Option.some.inj hij)
  keys := fun r hr => by
    obtain ⟨b, -, rfl⟩ := List.mem_map.mp hr
    exact b.nodup_keys_record
  typed := fun r hr => by
    obtain ⟨b, hb, rfl⟩ := List.mem_map.mp hr
    obtain ⟨-, -, hcount, htags⟩ :=
      (hp b.id b (hw.box?_eq_some_iff.mpr ⟨hb, rfl⟩)).record_ports
    exact ⟨_, htags, by rw [hcount, List.length_map]⟩
  sources := fun c hc => by
    obtain ⟨b, hb, hi⟩ := (hw.wired c hc).source
    obtain ⟨hid, -, hcount, -⟩ := (hp _ b hb).record_ports
    rw [hw.id_of_box? hb] at hid
    exact ⟨c.source.toJson, rfl, b.record, hw.record_mem hb, _, _, _, rfl, hid, hcount, hi⟩
  destinations := fun c hc => by
    obtain ⟨b, hb, hi⟩ := (hw.wired c hc).destination
    obtain ⟨hid, hcount, -, -⟩ := (hp _ b hb).record_ports
    rw [hw.id_of_box? hb] at hid
    exact ⟨c.destination.toJson, rfl, b.record, hw.record_mem hb, _, _, _, rfl, hid, hcount, hi⟩

end Patch

/-! ### Documents of devices -/

namespace Session

/-- **Devices are completed to intact documents**, whatever the session. There is a record for every
box, in the order in which the boxes came to the device, and a line for every link that was taken,
in the order in which the links were made. -/
theorem documents_intact (name : String) (kind : DeviceKind) (catalog : Catalog) (files : FileTree)
    (home : String) (calls : List DeviceCall) :
    let s := (start name kind catalog files home).value
    let final := (s.after calls).device.finalize.value
    ∃ document, final.1 = .ok document ∧ document.Intact ∧
      document.records = final.2.patch.boxes.map (·.record) ∧
      (∀ before more, calls = before ++ more →
        (s.after before).device.patch.Extends final.2.patch) ∧
      List.Forall₂ Cord.Joins document.cords (s.linked calls) := by
  intro s final
  have hs : s.device.Sound := sound_start name kind catalog files home
  have hd : (s.after calls).device.Sound := sound_after hs calls
  have hfinal : final = (.ok final.2.patch.document, final.2) := Device.finalize_value hd
  have hgrows : s.device.Grows (s.linked calls ++ []) final.2 :=
    (s.grows_after calls).trans (Device.grows_finalize _)
  have hcontinues : Patch.empty.Continues final.2.patch :=
    ((becomes_start name kind catalog files home).trans hgrows.patch).continues
      Patch.wellFormed_empty
  have hplain : final.2.patch.Plain := hcontinues.plain Patch.plain_empty
  refine ⟨final.2.patch.document, congrArg Prod.fst hfinal,
    Patch.intact_document (hgrows.sound hs).patch hplain, rfl, ?_, ?_⟩
  · rintro before more rfl
    have hmore := ((s.after before).grows_after more).trans (Device.grows_finalize _)
    have hafter : (s.after before).after more = s.after (before ++ more) := List.foldl_append.symm
    rw [hafter] at hmore
    exact hmore.patch.extends
  · obtain ⟨cords, hcords, hjoins⟩ := hgrows.wires hs.patch
    rw [List.append_nil] at hjoins
    show List.Forall₂ Cord.Joins final.2.patch.cords _
    rw [hcords]
    exact hjoins

end Session

end MaxPatch
