import MaxPatch.Proofs.Paths
import MaxPatch.Proofs.Sessions

/-! # Saving: where devices end up

A device that is given no file name goes to a file that has its name. To complete a device changes
neither its name nor its kind (`finalize_keeps`), so the path of the file is known from the
beginning (`save_answers`). It lies in the folder it should, under the name of the device, if and
only if that name has no slash (`liesIn_savePath`), and then no other such device has the path
(`plain_names_stay_in_their_folders`). With a slash the path can lead anywhere, also to the file of
another device (`slash_leads_out_of_the_folder`). -/

namespace MaxPatch

open MaxPatch.Path

namespace Device

/-! ### The path of a saved device -/

theorem savePath_congr {d e : Device} (hname : e.name = d.name)
    (hboundary : e.boundary = d.boundary) (home : String) (o : SaveOptions) :
    e.savePath home o = d.savePath home o := by
  rw [savePath, savePath, saveFolder, saveFolder, kind, kind, hname, hboundary]

theorem layout_keeps (d : Device) :
    d.layout.2.name = d.name ∧ d.layout.2.boundary = d.boundary := by
  rw [layout_eq]
  split <;> exact ⟨rfl, rfl⟩

theorem ensureContext_keeps (d : Device) :
    d.ensureContext.value.2.name = d.name ∧ d.ensureContext.value.2.boundary = d.boundary := by
  unfold ensureContext
  split <;> exact ⟨rfl, rfl⟩

theorem finalize_keeps (d : Device) :
    d.finalize.value.2.name = d.name ∧ d.finalize.value.2.boundary = d.boundary := by
  obtain ⟨hname, hboundary⟩ := d.ensureContext.value.2.layout_keeps
  obtain ⟨hname', hboundary'⟩ := d.ensureContext_keeps
  rw [finalize_device]
  exact ⟨hname.trans hname', hboundary.trans hboundary'⟩

/-- An answer that is a given path, or an error. -/
def Answers (path : String) (answer : Except DeviceError String) : Prop :=
  answer = .ok path ∨ ∃ e, answer = .error e

theorem store_answers (d : Device) (home : String) (o : SaveOptions) (text : String)
    (files : FileTree) :
    Answers (d.savePath home o) ((d.store home o text : StateM FileTree _) files).1.value := by
  unfold store
  let P (r : Noted (Except DeviceError String)) : Prop := Answers (d.savePath home o) r.value
  refine FileTree.answer_bind P _ (fun made files => ?_) files
  cases made with
  | error cause => exact Or.inr ⟨_, rfl⟩
  | ok =>
    refine FileTree.answer_bind P _ (fun written files => ?_) files
    cases written with
    | error cause => exact Or.inr ⟨_, rfl⟩
    | ok => exact Or.inl rfl

/-- **A device that is saved** is saved to its path. -/
theorem save_answers (d : Device) (home : String) (o : SaveOptions) (files : FileTree) :
    Answers (d.savePath home o)
      (((d.save home o : StateM FileTree _) files).1.value.1) := by
  obtain ⟨hname, hboundary⟩ := d.finalize_keeps
  have hdevice : d.serialize.value.2 = d.finalize.value.2 := rfl
  rw [← hdevice] at hname hboundary
  rw [← savePath_congr hname hboundary home o]
  unfold save
  generalize d.serialize = r
  obtain ⟨⟨result, e⟩, notices⟩ := r
  cases result with
  | error cause => exact Or.inr ⟨_, rfl⟩
  | ok text => exact e.store_answers home o text files

/-! ### Folders -/

theorem isPlain_defaultFileName {name : String} (h : '/' ∉ name.toList) :
    IsPlain (defaultFileName name) := isPlain_append h (by decide) (by decide)

theorem defaultFileName_inj {name other : String}
    (h : defaultFileName name = defaultFileName other) : name = other := by
  have hlists := congrArg String.toList h
  rw [defaultFileName, defaultFileName, String.toList_append, String.toList_append] at hlists
  exact String.toList_inj.mp (List.append_cancel_right hlists)

/-- **A device lies in its folder** under its name if and only if the name has no slash. -/
theorem liesIn_savePath (d : Device) (home : String) (folder : Option String) :
    LiesIn (d.savePath home { folder }) (d.saveFolder home { folder }) (defaultFileName d.name) ↔
      '/' ∉ d.name.toList := by
  refine ⟨fun h hslash => h.slash_not_mem ?_, fun h => liesIn_join _ (isPlain_defaultFileName h)⟩
  rw [defaultFileName, String.toList_append]
  exact List.mem_append_left _ hslash

/-- **Devices whose names have no slash stay in their folders**: without a file name the path of a
device has the folder before its last name, and that is the name of the device with its ending, if
and only if the name has no slash. So two devices with different names of this kind do not share a
path. Whatever the name is, a device that is saved is saved to this path. -/
theorem plain_names_stay_in_their_folders (d e : Device) (home : String)
    (folder folder' : Option String) (files : FileTree) :
    (LiesIn (d.savePath home { folder }) (d.saveFolder home { folder }) (defaultFileName d.name) ↔
      '/' ∉ d.name.toList) ∧
    ('/' ∉ d.name.toList → '/' ∉ e.name.toList → d.name ≠ e.name →
      parts (d.savePath home { folder }) ≠ parts (e.savePath home { folder := folder' })) ∧
    Answers (d.savePath home { folder })
      ((d.save home { folder } : StateM FileTree _) files).1.value.1 := by
  refine ⟨d.liesIn_savePath home folder, fun hd he hne hparts => hne ?_,
    d.save_answers home { folder } files⟩
  have hleft := (d.liesIn_savePath home folder).mpr hd
  have hright := (e.liesIn_savePath home folder').mpr he
  rw [LiesIn, hparts] at hleft
  exact defaultFileName_inj (Option.some.inj (hleft.2.symm.trans hright.2))

/-- Two devices with plain names in one folder. -/
theorem echo_and_delay_stay_apart :
    let echo := (Device.create "Echo" .audioEffect .empty).value
    let delay := (Device.create "Delay" .audioEffect .empty).value
    ('/' ∉ echo.name.toList ∧ '/' ∉ delay.name.toList ∧ echo.name ≠ delay.name) ∧
      parts (echo.savePath "/home" {}) ≠ parts (delay.savePath "/home" {}) := by
  have hplain : '/' ∉ "Echo".toList ∧ '/' ∉ "Delay".toList ∧ "Echo" ≠ "Delay" := by decide
  refine ⟨hplain, ?_⟩
  exact (plain_names_stay_in_their_folders _ _ "/home" none none {}).2.1 hplain.1 hplain.2.1
    hplain.2.2

/-- A name that begins with a slash leads out of the folder, and to the file of another device. -/
theorem slash_leads_out_of_the_folder :
    let rooted := (Device.create "/lead" .audioEffect .empty).value
    let plain := (Device.create "lead" .audioEffect .empty).value
    ¬ LiesIn (rooted.savePath "home" {}) (rooted.saveFolder "home" {})
      (defaultFileName rooted.name) ∧
    rooted.savePath "home" {} = "/lead.maxpat" ∧
    rooted.name ≠ plain.name ∧
      rooted.savePath "home" { folder := some "/" } =
        plain.savePath "home" { folder := some "/" } := by
  refine ⟨fun h => ?_, by decide, by decide, by decide⟩
  exact ((Device.liesIn_savePath _ _ _).mp h) (by decide)

end Device

end MaxPatch
