import MaxPatch.Proofs.Observation
import MaxPatch.Proofs.Packing

/-! # The face: parameters side by side

A device shows what was declared on it (`Device.Declares`): its parameters are those of the calls
that declared one, in their order; their boxes have the sizes asked for; no other box is shown; and
as long as there are none, the device has no width and does not open with its face. Completing a
device keeps to that, because devices that are alike declare the same (`Alike.declares`), and so
does every other call (`Session.declares_next`). `parameters_stand_side_by_side` says what is then
to be seen on any device that is completed. -/

namespace MaxPatch

/-! ### What is declared -/

/-- The parameter that a call declares and the options asked for, by the answer to the call. -/
def DeviceCall.declared? : DeviceCall → DeviceCall.Answer → Option (Parameter × ParameterOptions)
  | .addParameter _ options, .parameter p => some (p, options)
  | _, _ => none

/-- What calls declare, in their order. -/
def Session.declared (s : Session) (calls : List DeviceCall) :
    List (Parameter × ParameterOptions) :=
  (s.transcript calls).filterMap fun heard => heard.1.declared? heard.2.value

namespace Device

/-- **A device shows what was declared**: it has these parameters, in boxes of their own that have
the sizes asked for, and it has no other box on its face; without parameters it has no face. -/
structure Declares (d : Device) (declared : List (Parameter × ParameterOptions)) : Prop where
  parameters : d.parameters = declared.map (·.1)
  distinct : (declared.map (·.1.id)).Nodup
  sized : ∀ x ∈ declared, ∃ b, d.patch.box? x.1.id = some b ∧
    b.editorRect.width = x.2.size.1 ∧ b.editorRect.height = x.2.size.2
  hidden : ∀ id b, d.patch.box? id = some b → b.shown = true → id ∈ declared.map (·.1.id)
  bare : declared = [] → d.patch.deviceWidth = 0 ∧ d.patch.opensInPresentation = false

variable {d e : Device} {declared : List (Parameter × ParameterOptions)}

theorem Declares.ids (h : d.Declares declared) :
    d.parameters.map (·.id) = declared.map (·.1.id) := by
  rw [h.parameters, List.map_map]
  rfl

theorem Declares.isSome_box? (h : d.Declares declared) {id : BoxId}
    (hid : id ∈ declared.map (·.1.id)) : (d.patch.box? id).isSome := by
  obtain ⟨x, hx, rfl⟩ := List.mem_map.mp hid
  obtain ⟨b, hb, -⟩ := h.sized x hx
  exact Option.isSome_iff_exists.mpr ⟨b, hb⟩

/-- **Devices that are alike declare the same.** -/
theorem Alike.declares (h : e.Alike d) (hd : d.Declares declared) : e.Declares declared where
  parameters := h.parameters.trans hd.parameters
  distinct := hd.distinct
  sized := fun x hx => by
    obtain ⟨b, hb, hwidth, hheight⟩ := hd.sized x hx
    rcases h.patch.box? x.1.id with ⟨-, hnone⟩ | ⟨c, b', hc, hb', hcb⟩
    · rw [hnone] at hb
      cases hb
    · obtain rfl : b' = b := Option.some.inj (hb'.symm.trans hb)
      exact ⟨c, hc, hcb.width.trans hwidth, hcb.height.trans hheight⟩
  hidden := fun id c hc hshown => by
    rcases h.patch.box? id with ⟨hnone, -⟩ | ⟨c', b, hc', hb, hcb⟩
    · rw [hnone] at hc
      cases hc
    · obtain rfl : c' = c := Option.some.inj (hc'.symm.trans hc)
      by_contra hid
      rw [← hd.ids, ← h.parameters] at hid
      exact hid (by rw [h.parameters, hd.ids]; exact hd.hidden id b hb (hcb.shown hid ▸ hshown))
  bare := fun hnone => by
    have hparameters : e.parameters = [] := by rw [h.parameters, hd.parameters, hnone]; rfl
    rw [h.patch.deviceWidth (not_not.mpr hparameters), h.patch.opens (not_not.mpr hparameters)]
    exact hd.bare hnone

theorem Declares.of_boxes (h : d.Declares declared) (hparameters : e.parameters = d.parameters)
    (hboxes : e.patch.boxes = d.patch.boxes) (hwidth : e.patch.deviceWidth = d.patch.deviceWidth)
    (hopens : e.patch.opensInPresentation = d.patch.opensInPresentation) :
    e.Declares declared where
  parameters := hparameters.trans h.parameters
  distinct := h.distinct
  sized := by rw [Patch.box?_congr hboxes]; exact h.sized
  hidden := by rw [Patch.box?_congr hboxes]; exact h.hidden
  bare := by rw [hwidth, hopens]; exact h.bare

theorem declares_nothing (hparameters : d.parameters = []) (hpatch : d.patch = .empty) :
    d.Declares [] where
  parameters := hparameters
  distinct := List.nodup_nil
  sized := by simp
  hidden := fun id b hb => by
    rw [hpatch, Patch.box?_eq_none_iff.mpr (Nat.eq_zero_or_pos _)] at hb
    cases hb
  bare := fun _ => by rw [hpatch]; exact ⟨rfl, rfl⟩

/-! ### Calls that build -/

theorem Declares.fresh (h : d.Declares declared) (hd : d.patch.WellFormed)
    {x : Parameter × ParameterOptions} (hx : x ∈ declared) : x.1.id ≠ d.patch.nextId := by
  intro hid
  have hsome := h.isSome_box? (List.mem_map_of_mem hx)
  rw [hid, hd.box?_nextId] at hsome
  cases hsome

theorem Declares.addWith (h : d.Declares declared) (hd : d.patch.WellFormed) (typeName : String)
    (contract : Contract) (args : String) (attributes : Members) :
    (d.addWith typeName contract args attributes).2.Declares declared where
  parameters := h.parameters
  distinct := h.distinct
  sized := fun x hx => by
    obtain ⟨b, hb⟩ := h.sized x hx
    refine ⟨b, ?_, hb.2⟩
    exact (hd.box?_add _ _ _ _ _).trans ((if_neg (h.fresh hd hx)).trans hb.1)
  hidden := fun id b hb hshown => by
    replace hb := (hd.box?_add _ _ _ _ _).symm.trans hb
    split_ifs at hb
    · cases hb
      cases hshown
    · exact h.hidden id b hb hshown
  bare := h.bare

theorem Declares.addParameter (h : d.Declares declared) (hd : d.patch.WellFormed) (name : String)
    (o : ParameterOptions) :
    (d.addParameter name o).2.Declares (declared ++ [((d.addParameter name o).1, o)]) where
  parameters := by
    rw [List.map_append, ← h.parameters]
    rfl
  distinct := by
    rw [List.map_append, List.nodup_append]
    refine ⟨h.distinct, List.nodup_singleton _, fun id hid other ho => ?_⟩
    obtain ⟨x, hx, rfl⟩ := List.mem_map.mp hid
    obtain rfl : other = d.patch.nextId := List.mem_singleton.mp ho
    exact h.fresh hd hx
  sized := fun x hx => by
    rcases List.mem_append.mp hx with hx | hx
    · obtain ⟨b, hb⟩ := h.sized x hx
      refine ⟨b, ?_, hb.2⟩
      exact (hd.box?_addParameter _ _ _).trans ((if_neg (h.fresh hd hx)).trans hb.1)
    · rw [List.mem_singleton.mp hx]
      exact ⟨_, (hd.box?_addParameter _ _ _).trans (if_pos rfl), rfl, rfl⟩
  hidden := fun id b hb hshown => by
    replace hb := (hd.box?_addParameter _ _ _).symm.trans hb
    split_ifs at hb
    · cases hb
      cases hshown
    · rw [List.map_append]
      exact List.mem_append_left _ (h.hidden id b hb hshown)
  bare := fun hnone => absurd hnone (by simp)

theorem Declares.ensureContext (h : d.Declares declared) (hd : d.patch.WellFormed) :
    d.ensureContext.value.2.Declares declared := by
  unfold Device.ensureContext
  split
  · exact h
  · exact (h.addWith hd contextType (d.catalog.resolve contextType).value "" []).of_boxes rfl rfl
      rfl rfl

theorem Declares.chain (h : d.Declares declared) (hd : d.patch.WellFormed)
    (items : List Endpoint) : (d.chain items).2.Declares declared := by
  obtain ⟨cords, hcords, -⟩ := Patch.chain_eq hd items
  have hpatch : (d.chain items).2.patch = d.patch.addCords cords := hcords
  exact h.of_boxes rfl (by rw [hpatch]; rfl) (by rw [hpatch]; rfl) (by rw [hpatch]; rfl)

theorem Declares.finalize (h : d.Declares declared) (hd : d.patch.WellFormed) :
    d.finalize.value.2.Declares declared := by
  rw [finalize_device]
  exact (Alike.refl _).layout_left.declares (h.ensureContext hd)

end Device

/-! ### All calls -/

namespace Session

variable {s : Session} {declared : List (Parameter × ParameterOptions)}

/-- **What a call declares** is from then on declared, and nothing else is. -/
theorem declares_next (h : s.device.Declares declared) (hs : s.device.patch.WellFormed)
    (c : DeviceCall) :
    (s.next c).device.Declares (declared ++ (c.declared? (s.answer c)).toList) := by
  have hkept : ∀ {d : Device}, d.Declares declared →
      d.Declares (declared ++ (none : Option (Parameter × ParameterOptions)).toList) :=
    fun hd => by rw [Option.toList_none, List.append_nil]; exact hd
  have haddWith : ∀ typeName contract args answer,
      (s.next (.addWith typeName contract args)).device.Declares
        (declared ++ (DeviceCall.declared? (.addWith typeName contract args) answer).toList) := by
    intro typeName contract args answer
    refine hkept ?_
    rw [next_addWith]
    split_ifs
    · exact h.addWith hs typeName contract args []
    · exact h
  cases c with
  | add typeName args => exact haddWith typeName _ args (s.answer (.add typeName args))
  | addWith typeName contract args => exact haddWith typeName contract args _
  | comment text => exact hkept (h.addWith hs "comment" _ "" _)
  | message text => exact hkept (h.addWith hs "message" _ "" _)
  | ensureContext => exact hkept (h.ensureContext hs)
  | addParameter name options => exact h.addParameter hs name options
  | connect source destination =>
    rw [next_connect]
    exact hkept (h.chain hs [source, destination])
  | chain items => exact hkept (h.chain hs items)
  | describe text => exact hkept (h.of_boxes rfl rfl rfl rfl)
  | tag text => exact hkept (h.of_boxes rfl rfl rfl rfl)
  | register typeName contract => exact hkept (h.of_boxes rfl rfl rfl rfl)
  | suspicions => exact hkept h
  | finalize => exact hkept (h.finalize hs)
  | serialize => exact hkept (h.finalize hs)
  | save options =>
    rw [next_save]
    exact hkept (h.finalize hs)

/-- **A device shows what was declared along its calls.** -/
theorem declares_after (h : s.device.Declares declared) (hs : s.device.patch.WellFormed)
    (calls : List DeviceCall) : (s.after calls).device.Declares (declared ++ s.declared calls) := by
  induction calls generalizing s declared with
  | nil => rw [Session.declared, transcript, List.filterMap_nil, List.append_nil]; exact h
  | cons c calls ih =>
    have hnext := ih (declares_next h hs c) ((s.grows_next c).patch.wellFormed hs)
    have hcons : s.declared (c :: calls) =
        (c.declared? (s.answer c)).toList ++ (s.next c).declared calls := by
      unfold Session.declared
      rw [transcript, List.filterMap_cons]
      cases hc : c.declared? (s.answer c) with
      | none => simp [heard, hc]
      | some x => simp [heard, hc]
    rw [hcons, ← List.append_assoc]
    exact hnext

theorem declares_start (name : String) (kind : DeviceKind) (catalog : Catalog) (files : FileTree)
    (home : String) : (start name kind catalog files home).value.device.Declares [] := by
  have hempty : ({ (start name kind catalog files home).value.device with patch := .empty } :
      Device).Declares [] := Device.declares_nothing rfl rfl
  have hwell := Patch.wellFormed_empty
  have hinput := hempty.addWith hwell kind.inputType (catalog.resolve kind.inputType).value "" []
  exact hinput.addWith (hwell.add ..) kind.outputType (catalog.resolve kind.outputType).value "" []

end Session

/-! ### Numbers -/

/-- The right edge of a rectangle. -/
def Rect.right (r : Rect) : Nat := r.x.toNat + r.width.toNat

/-- How long a row of parameters is, with the gap behind each. -/
def rowLength (declared : List (Parameter × ParameterOptions)) : Nat :=
  (declared.map fun x => x.2.size.1.toNat + 8).sum

theorem rowLength_take {declared : List (Parameter × ParameterOptions)} {i j : Nat}
    {x : Parameter × ParameterOptions} (hx : declared[i]? = some x) (hij : i < j) :
    rowLength (declared.take i) + (x.2.size.1.toNat + 8) ≤ rowLength (declared.take j) :=
  sum_take_add_le (fun x => x.2.size.1.toNat + 8) hx hij

/-! ### Completion -/

namespace Device

variable {d : Device} {declared : List (Parameter × ParameterOptions)}

theorem Declares.span (h : d.Declares declared) {row : List (Parameter × ParameterOptions)}
    (hrow : ∀ x ∈ row, x ∈ declared) : d.patch.span (row.map (·.1.id)) = rowLength row := by
  have hwidths : d.patch.widths (row.map (·.1.id)) = row.map (·.2.size.1) := by
    induction row with
    | nil => rfl
    | cons x row ih =>
      obtain ⟨b, hb, hwidth, -⟩ := h.sized x (hrow x List.mem_cons_self)
      have hrest := ih fun y hy => hrow y (List.mem_cons_of_mem _ hy)
      rw [List.map_cons, Patch.widths_cons hb, hrest, hwidth, List.map_cons]
  rw [Patch.span, hwidths, List.map_map]
  rfl

/-- **A parameter goes to where the ones before it reach.** -/
theorem Declares.faceRect?_showRow (h : d.Declares declared) {k : Nat}
    {x : Parameter × ParameterOptions} (hx : declared[k]? = some x) :
    (d.patch.showRow faceMargin (d.parameters.map (·.id))).2.faceRect? x.1.id =
      some { x := .clamp (4 + rowLength (declared.take k)), y := 4, width := x.2.size.1
             height := x.2.size.2 } := by
  obtain ⟨b, hb, hwidth, hheight⟩ := h.sized x (List.mem_of_getElem? hx)
  have hsplit := map_eq_of_getElem? (·.1.id) hx
  have hrest : x.1.id ∉ (declared.drop (k + 1)).map (·.1.id) := by
    rw [List.map_drop]
    exact not_mem_drop_of_nodup h.distinct (by rw [List.getElem?_map, hx]; rfl)
  have hbefore : ∀ id ∈ (declared.take k).map (·.1.id), (d.patch.box? id).isSome := fun id hid =>
    h.isSome_box? (List.map_subset _ (List.take_subset k declared) hid)
  rw [h.ids, hsplit, Patch.faceRect?, Patch.box?_showRow hbefore hrest, hb, Patch.past_widths,
    h.span fun y hy => List.mem_of_mem_take hy, ← hwidth, ← hheight]
  rfl

theorem Declares.layoutEditor (h : d.Declares declared) :
    ({ d with patch := d.patch.layoutEditor.2 } : Device).Declares declared :=
  ((Alike.refl d).of_patch (Patch.AgreeExcept.refl _).layoutEditor_left).declares h

/-- **What laying out a device makes of its patch**: the row of its parameters, and the frame around
it. -/
theorem Declares.layout_patch (h : d.Declares declared) : d.layout.2.patch =
    { (d.patch.layoutEditor.2.showRow faceMargin (d.parameters.map (·.id))).2 with
      deviceWidth := if declared = [] then 0 else .clamp (4 + rowLength declared + 4)
      opensInPresentation := !declared.isEmpty } := by
  have hq := h.layoutEditor
  have hparameters : d.parameters.isEmpty = declared.isEmpty := by
    rw [h.parameters, List.isEmpty_map]
  rw [layout_eq, h.ids]
  by_cases hnone : declared = []
  · obtain ⟨hwidth, hopens⟩ := hq.bare hnone
    replace hopens : d.patch.layoutEditor.2.opensInPresentation = false := hopens
    subst hnone
    rw [List.map_nil, Patch.layoutFace, if_pos rfl, if_pos rfl]
    simp only [hparameters, Patch.showRow, ← hwidth, hopens, Bool.false_or]
  · have hids : declared.map (·.1.id) ≠ [] := by simpa using hnone
    have hmargin : faceMargin.toNat = 4 := rfl
    rw [Patch.layoutFace_eq hids fun _ => hq.isSome_box?, Patch.past_widths,
      hq.span fun x hx => hx, if_neg hnone]
    simp only [hparameters, List.isEmpty_eq_false_iff.mpr hnone, Bool.not_false, Bool.or_true,
      Pixels.clamp_plus, hmargin]

theorem Declares.faceRect?_layout (h : d.Declares declared) {k : Nat}
    {x : Parameter × ParameterOptions} (hx : declared[k]? = some x) :
    d.layout.2.patch.faceRect? x.1.id =
      some { x := .clamp (4 + rowLength (declared.take k)), y := 4, width := x.2.size.1
             height := x.2.size.2 } := by
  rw [h.layout_patch]
  exact h.layoutEditor.faceRect?_showRow hx

/-- **What was declared is shown**, and nothing else is. -/
theorem Declares.isSome_faceRect?_iff (h : d.Declares declared) (hd : d.Sound) {b : Box}
    (hb : b ∈ d.layout.2.patch.boxes) :
    b.faceRect?.isSome ↔ b.id ∈ declared.map (·.1.id) := by
  have hlaid : d.layout.2.Declares declared := (Alike.refl d).layout_left.declares h
  have hbox : d.layout.2.patch.box? b.id = some b :=
    ((grows_layout d).sound hd).patch.box?_eq_some_iff.mpr ⟨hb, rfl⟩
  constructor
  · intro hface
    refine hlaid.hidden _ b hbox ?_
    by_contra hshown
    rw [Box.faceRect?, if_neg hshown] at hface
    cases hface
  · intro hid
    obtain ⟨x, hx, hxb⟩ := List.mem_map.mp hid
    obtain ⟨k, hk⟩ := List.mem_iff_getElem?.mp hx
    have hface := h.faceRect?_layout hk
    rw [hxb, Patch.faceRect?, hbox] at hface
    exact Option.isSome_iff_exists.mpr ⟨_, hface⟩

end Device

/-- **Parameters stand side by side.** Whatever is called on a device, it can then be completed, and
the face of its patch is this. Just the boxes of the parameters declared are shown. They stand in
the order of declaration, each in the size asked for, 4 from the left and from the top and with a
gap of 8 in between; positions beyond the largest are the largest. So a parameter begins only when
those before it have ended, unless its own place was clamped, and ends within the width of the
device as far as positions go. With parameters the device is as wide as the row and its margins and
opens with its face, and without any it has no width and does not. -/
theorem parameters_stand_side_by_side (name : String) (kind : DeviceKind) (catalog : Catalog)
    (files : FileTree) (home : String) (calls : List DeviceCall) :
    let s := (Session.start name kind catalog files home).value
    let declared := s.declared calls
    let completed := (s.after calls).device.finalize.value
    let p := completed.2.patch
    let left := fun k => 4 + rowLength (declared.take k)
    let face := fun k => declared[k]?.bind fun x => p.faceRect? x.1.id
    completed.1 = .ok p.document ∧
    (∀ b ∈ p.boxes, b.faceRect?.isSome ↔ b.id ∈ declared.map (·.1.id)) ∧
    (∀ (k : Nat) (q : Parameter) (o : ParameterOptions), declared[k]? = some (q, o) →
      face k = some { x := .clamp (left k), y := 4, width := o.size.1, height := o.size.2 }) ∧
    (∀ (i j : Nat) (r r' : Rect), i < j → face i = some r → face j = some r' →
      left j ≤ Pixels.top → r.right + 8 ≤ r'.x.toNat) ∧
    (∀ (k : Nat) (r : Rect), face k = some r → min r.right Pixels.top ≤ p.deviceWidth.toNat) ∧
    p.deviceWidth = (if declared = [] then 0 else .clamp (4 + rowLength declared + 4)) ∧
    (p.document.opensInPresentation = true ↔ declared ≠ []) := by
  intro s declared completed p left face
  have hsound : s.device.Sound := Session.sound_start name kind catalog files home
  have hd : (s.after calls).device.Sound := Session.sound_after hsound calls
  have hstart : s.device.Declares [] := Session.declares_start name kind catalog files home
  have hafter : (s.after calls).device.Declares declared :=
    Session.declares_after hstart hsound.patch calls
  -- what is laid out is the device with its context box
  have hdeclares := hafter.ensureContext hd.patch
  have hcontext := (Device.grows_ensureContext _).sound hd
  have hp : p = (s.after calls).device.ensureContext.value.2.layout.2.patch :=
    congrArg Device.patch (Device.finalize_device _)
  have hwidth : p.deviceWidth =
      if declared = [] then 0 else .clamp (4 + rowLength declared + 4) := by
    rw [hp, hdeclares.layout_patch]
  have hopens : p.opensInPresentation = !declared.isEmpty := by
    rw [hp, hdeclares.layout_patch]
  have hface : ∀ (k : Nat) (r : Rect), face k = some r → ∃ x, declared[k]? = some x ∧
      r = { x := .clamp (left k), y := 4, width := x.2.size.1, height := x.2.size.2 } := by
    intro k r hr
    obtain ⟨x, hx, hr⟩ := Option.bind_eq_some_iff.mp hr
    rw [hp, hdeclares.faceRect?_layout hx] at hr
    exact ⟨x, hx, (Option.some.inj hr).symm⟩
  refine ⟨?_, ?_, ?_, ?_, ?_, hwidth, ?_⟩
  · exact congrArg Prod.fst (Device.finalize_value hd)
  · rw [hp]
    exact fun b hb => hdeclares.isSome_faceRect?_iff hcontext hb
  · intro k q o hk
    show declared[k]?.bind _ = _
    rw [hk, Option.bind_some, hp]
    exact hdeclares.faceRect?_layout hk
  · intro i j r r' hij hi hj hleft
    obtain ⟨x, hx, rfl⟩ := hface i r hi
    obtain ⟨y, -, rfl⟩ := hface j r' hj
    have hbefore := rowLength_take hx hij
    simp only [left, Rect.right, Pixels.toNat_clamp] at hleft ⊢
    omega
  · intro k r hk
    obtain ⟨x, hx, rfl⟩ := hface k r hk
    have hwithin := rowLength_take hx (List.getElem?_eq_some_iff.mp hx).1
    have hsome : declared ≠ [] := by rintro hnone; rw [hnone] at hx; cases hx
    rw [List.take_length] at hwithin
    rw [hwidth, if_neg hsome]
    simp only [left, Rect.right, Pixels.toNat_clamp]
    omega
  · show p.opensInPresentation = true ↔ _
    rw [hopens]
    simp

/-- A dial as wide as positions go begins behind the margin, and ends beyond the device. -/
theorem dial_wider_than_its_device :
    let s := (Session.start "Wide" .audioEffect .empty {} "/home").value
    let dial : DeviceCall :=
      .addParameter "A" { control := .dial, width := some 4294967295, height := some 10 }
    let p := (s.after [dial]).device.finalize.value.2.patch
    p.faceRect? ⟨3⟩ = some ⟨4, 4, 4294967295, 10⟩ ∧ p.deviceWidth = 4294967295 ∧
      ¬ ∀ r, p.faceRect? ⟨3⟩ = some r → r.x.toNat < Pixels.top →
        r.right ≤ p.deviceWidth.toNat := by
  intro s dial p
  have hface : p.faceRect? ⟨3⟩ = some ⟨4, 4, 4294967295, 10⟩ := by decide +kernel
  have hwidth : p.deviceWidth = 4294967295 := by decide +kernel
  refine ⟨hface, hwidth, fun hall => ?_⟩
  have hright := hall _ hface (by decide)
  rw [hwidth] at hright
  exact absurd hright (by decide)

/-- A row that runs beyond the largest position, on a device that was completed halfway; the dial
that was added by hand is not shown. -/
example :
    let s := (Session.start "Wide" .audioEffect .empty {} "/home").value
    let calls : List DeviceCall :=
      [.addParameter "A" { control := .slider, width := some 4294967280 }, .finalize,
       .addWith "live.dial" (Control.dial.contract 44) "",
       .addParameter "B" { control := .dial }, .addParameter "C" { control := .dial }]
    let p := (s.after calls).device.finalize.value.2.patch
    p.boxes.map (·.faceRect?) =
      [none, none, some ⟨4, 4, 4294967280, 80⟩, none, none, some ⟨4294967292, 4, 44, 48⟩,
       some ⟨4294967295, 4, 44, 48⟩] ∧ p.deviceWidth = 4294967295 := by decide +kernel

end MaxPatch
