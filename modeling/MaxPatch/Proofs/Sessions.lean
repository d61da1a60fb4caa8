import MaxPatch.Device.Session
import MaxPatch.Proofs.Links
import MaxPatch.Proofs.Row

/-! # Sessions: what calls do to a device

Whatever is called on a device, its patch gets a history, and only of edits that a device makes
(`Edit.ByDevice`). What a call does is said once, for all of them (`Device.Grows`,
`Session.grows_next`):

* the patch goes on by edits of a device;
* parameters are only added, and each has its box;
* the endpoints that the call wires get their cords, at the end and in their order.

So a device is sound after any session (`Device.Sound`, `Session.sound_after`), and a sound device
can always be completed (`finalize_value`). -/

namespace MaxPatch

/-- The edits that a device makes: it adds boxes without attributes or with a text, parameters and
cords, lays out, and sets what the header says. -/
inductive Edit.ByDevice : Edit → Prop
  | add (typeName : String) (contract : Contract) (args : String) :
      ByDevice (.add typeName contract args [])
  | addText (typeName : String) (contract : Contract) (text : String) :
      ByDevice (.add typeName contract "" [("text", .text text)])
  | addParameter (name : String) (options : ParameterOptions) :
      ByDevice (.addParameter name options)
  | connect (source destination : Port) : ByDevice (.connect source destination)
  | setOpensInPresentation (opens : Bool) : ByDevice (.setOpensInPresentation opens)
  | describe (text : String) : ByDevice (.describe text)
  | tag (text : String) : ByDevice (.tag text)
  | layoutEditor : ByDevice .layoutEditor
  | layoutFace (ids : List BoxId) : ByDevice (.layoutFace ids)

namespace Patch

/-- A patch becomes another by edits that a device makes. -/
def Becomes (p q : Patch) : Prop :=
  ∃ history : List Edit, (∀ e ∈ history, e.ByDevice) ∧ q = p.after history

variable {p q r : Patch}

theorem Becomes.refl (p : Patch) : p.Becomes p := ⟨[], by simp, rfl⟩

theorem Becomes.edit (h : p.Becomes q) {e : Edit} (he : e.ByDevice) : p.Becomes (q.edit e) := by
  obtain ⟨history, hall, rfl⟩ := h
  refine ⟨history ++ [e], fun e' he' => ?_, (after_append p history [e]).symm⟩
  rcases List.mem_append.mp he' with he' | he'
  · exact hall e' he'
  · rw [List.mem_singleton.mp he']; exact he

theorem becomes_edit (p : Patch) {e : Edit} (he : e.ByDevice) : p.Becomes (p.edit e) :=
  (Becomes.refl p).edit he

theorem Becomes.trans (h : p.Becomes q) (h' : q.Becomes r) : p.Becomes r := by
  obtain ⟨history, hall, rfl⟩ := h
  obtain ⟨more, hall', rfl⟩ := h'
  refine ⟨history ++ more, fun e he => ?_, (after_append p history more).symm⟩
  rcases List.mem_append.mp he with he | he
  · exact hall e he
  · exact hall' e he

theorem Becomes.extends (h : p.Becomes q) : p.Extends q := by
  obtain ⟨history, -, rfl⟩ := h; exact extends_after p history

theorem Becomes.wellFormed (h : p.Becomes q) (hp : p.WellFormed) : q.WellFormed := by
  obtain ⟨history, -, rfl⟩ := h; exact hp.after history

theorem becomes_chain (p : Patch) (items : List Endpoint) : p.Becomes (p.chain items).2 := by
  fun_induction chain p items with
  | case1 p first second rest n q hl ih =>
    obtain ⟨source, destination, rfl⟩ := edit_of_link hl
    exact (becomes_edit p (.connect source destination)).trans ih
  | case2 => exact Becomes.refl _
  | case3 => exact Becomes.refl _

end Patch

namespace Device

/-! ### One call -/

/-- **What a call does to a device** that wires these endpoints. -/
structure Grows (d : Device) (links : List (Endpoint × Endpoint)) (e : Device) : Prop where
  patch : d.patch.Becomes e.patch
  parameters : d.patch.WellFormed → ∃ more, e.parameters = d.parameters ++ more ∧
    ∀ q ∈ more, (e.patch.box? q.id).isSome
  wires : d.patch.WellFormed → ∃ cords, e.patch.cords = d.patch.cords ++ cords ∧
    List.Forall₂ Cord.Joins cords links

variable {d e f : Device} {links links' : List (Endpoint × Endpoint)}

theorem Grows.trans (h : d.Grows links e) (h' : e.Grows links' f) :
    d.Grows (links ++ links') f where
  patch := h.patch.trans h'.patch
  parameters := fun hd => by
    obtain ⟨more, hmore, hall⟩ := h.parameters hd
    obtain ⟨more', hmore', hall'⟩ := h'.parameters (h.patch.wellFormed hd)
    refine ⟨more ++ more', by rw [hmore', hmore, List.append_assoc], fun q hq => ?_⟩
    rcases List.mem_append.mp hq with hq | hq
    · exact h'.patch.extends.isSome_box? (hall q hq)
    · exact hall' q hq
  wires := fun hd => by
    obtain ⟨cords, hcords, hjoins⟩ := h.wires hd
    obtain ⟨cords', hcords', hjoins'⟩ := h'.wires (h.patch.wellFormed hd)
    refine ⟨cords ++ cords', by rw [hcords', hcords, List.append_assoc], ?_⟩
    exact List.rel_append hjoins hjoins'

theorem grows_of_patch (patch : d.patch.Becomes e.patch) (parameters : e.parameters = d.parameters)
    (cords : e.patch.cords = d.patch.cords) : d.Grows [] e where
  patch := patch
  parameters := fun _ => ⟨[], by rw [parameters, List.append_nil], by simp⟩
  wires := fun _ => ⟨[], by rw [cords, List.append_nil], List.Forall₂.nil⟩

theorem Grows.refl (d : Device) : d.Grows [] d := grows_of_patch (.refl _) rfl rfl

theorem grows_addWith (d : Device) {typeName : String} {contract : Contract} {args : String}
    {attributes : Members} (h : Edit.ByDevice (.add typeName contract args attributes))
    (hsizes : contract.sizes (labelText typeName args) = true) :
    d.Grows [] (d.addWith typeName contract args attributes).2 := by
  have hpatch := Patch.becomes_edit d.patch h
  rw [Patch.edit_add_of_sizes _ _ hsizes] at hpatch
  exact grows_of_patch hpatch rfl rfl

theorem grows_ensureContext (d : Device) : d.Grows [] d.ensureContext.value.2 := by
  unfold ensureContext
  split
  · exact Grows.refl d
  · have h := d.grows_addWith (.add contextType (d.catalog.resolve contextType).value "")
      (Contract.sizes_of_length_le _ (by decide))
    exact ⟨h.patch, h.parameters, h.wires⟩

theorem grows_addParameter (d : Device) (name : String) (o : ParameterOptions) :
    d.Grows [] (d.addParameter name o).2 where
  patch := Patch.becomes_edit d.patch (.addParameter name o)
  parameters := fun hd => by
    refine ⟨[(d.addParameter name o).1], rfl, fun q hq => ?_⟩
    rw [List.mem_singleton.mp hq]
    show (((d.patch.addParameter name o).2).box? d.patch.nextId).isSome
    rw [hd.box?_addParameter, if_pos rfl]
    rfl
  wires := fun _ => by
    have hc := congrArg Skeleton.cords (Patch.skeleton_addParameter d.patch name o)
    exact ⟨[], by rw [List.append_nil]; exact hc, List.Forall₂.nil⟩

/-- The endpoints that a call wires. -/
def linked (d : Device) : DeviceCall → List (Endpoint × Endpoint)
  | .connect source destination => d.patch.linked [source, destination]
  | .chain items => d.patch.linked items
  | _ => []

theorem grows_chain (d : Device) (items : List Endpoint) :
    d.Grows (d.patch.linked items) (d.chain items).2 where
  patch := Patch.becomes_chain d.patch items
  parameters := fun _ => ⟨[], (List.append_nil _).symm, by simp⟩
  wires := fun hd => by
    obtain ⟨cords, hcords, hjoins⟩ := Patch.chain_eq hd items
    exact ⟨cords, congrArg Patch.cords hcords, hjoins⟩

theorem chain_pair (d : Device) (source destination : Endpoint) :
    (d.chain [source, destination]).2 =
      match d.connect source destination with
      | .ok (_, e) => e
      | .error _ => d := by
  unfold chain connect Patch.chain
  cases d.patch.link source destination with
  | error => rfl
  | ok r => rfl

/-! ### Completion -/

theorem layout_eq (d : Device) : d.layout =
    match d.patch.layoutEditor.2.layoutFace (d.parameters.map (·.id)) with
    | (.error e, p) => (.error e, { d with patch := p })
    | (.ok _, p) =>
      (.ok (), { d with patch :=
        { p with opensInPresentation := p.opensInPresentation || !d.parameters.isEmpty } }) := rfl

theorem skeleton_layout (d : Device) : d.layout.2.patch.skeleton = d.patch.skeleton := by
  have h := (Patch.skeleton_layoutFace d.patch.layoutEditor.2 (d.parameters.map (·.id))).trans
    (Patch.skeleton_layoutEditor d.patch)
  rw [layout_eq]
  split
  · next hr => rw [hr] at h; exact h
  · next hr => rw [hr] at h; exact h

theorem grows_layout (d : Device) : d.Grows [] d.layout.2 := by
  have hface : d.patch.Becomes
      (d.patch.layoutEditor.2.layoutFace (d.parameters.map (·.id))).2 :=
    ((Patch.Becomes.refl d.patch).edit .layoutEditor).edit (.layoutFace _)
  have hcords := congrArg Skeleton.cords d.skeleton_layout
  rw [layout_eq] at hcords ⊢
  split
  · next h => rw [h] at hface hcords; exact grows_of_patch hface rfl hcords
  · next h =>
    rw [h] at hface hcords
    exact grows_of_patch (hface.edit (.setOpensInPresentation _)) rfl hcords

/-- What is left of completing a device when its context box is there. -/
def complete (d : Device) : Noted (Except PatchError Document × Device) :=
  match d.layout with
  | (.error e, d) => return (.error e, d)
  | (.ok (), d) => do
    d.suspicions.forM fun s => Noted.report (suspicionNotice s)
    return (.ok d.patch.document, d)

theorem finalize_eq (d : Device) : d.finalize = d.ensureContext >>= fun r => r.2.complete := rfl

theorem complete_device (d : Device) : d.complete.value.2 = d.layout.2 := by
  unfold complete
  split
  · next h => rw [h]; rfl
  · next h => rw [h]; rfl

/-- To complete a device is to lay it out when its context box is there. -/
theorem finalize_device (d : Device) : d.finalize.value.2 = d.ensureContext.value.2.layout.2 := by
  rw [finalize_eq, Noted.value_bind, complete_device]

theorem grows_finalize (d : Device) : d.Grows [] d.finalize.value.2 := by
  rw [finalize_device]
  exact d.grows_ensureContext.trans (grows_layout _)

/-- A device that can be completed: its patch is well-formed and its parameters have their boxes. -/
structure Sound (d : Device) : Prop where
  patch : d.patch.WellFormed
  parameters : ∀ q ∈ d.parameters, (d.patch.box? q.id).isSome

theorem Grows.sound (h : d.Grows links e) (hd : d.Sound) : e.Sound where
  patch := h.patch.wellFormed hd.patch
  parameters := fun q hq => by
    obtain ⟨more, hmore, hall⟩ := h.parameters hd.patch
    rw [hmore, List.mem_append] at hq
    rcases hq with hq | hq
    · exact h.patch.extends.isSome_box? (hd.parameters q hq)
    · exact hall q hq

theorem Sound.face (hd : d.Sound) : ∀ id ∈ d.parameters.map (·.id),
    (d.patch.layoutEditor.2.box? id).isSome := by
  intro id hid
  obtain ⟨q, hq, rfl⟩ := List.mem_map.mp hid
  exact (Patch.extends_edit d.patch .layoutEditor).isSome_box? (hd.parameters q hq)

theorem Sound.layout (hd : d.Sound) : d.layout.1 = .ok () := by
  obtain ⟨width, hw⟩ := Patch.layoutFace_ok hd.face
  rw [layout_eq]
  split
  · next h => rw [h] at hw; cases hw
  · rfl

theorem complete_value (hd : d.Sound) :
    d.complete.value = (.ok d.layout.2.patch.document, d.layout.2) := by
  have hl := hd.layout
  unfold complete
  split
  · next h => rw [h] at hl; cases hl
  · next h => rw [h]; rfl

/-- **A sound device can be completed.** -/
theorem finalize_value (hd : d.Sound) : d.finalize.value =
    (.ok d.finalize.value.2.patch.document, d.finalize.value.2) := by
  have hvalue := complete_value (d.grows_ensureContext.sound hd)
  rw [finalize_eq, Noted.value_bind, hvalue]

theorem save_device (d : Device) (home : String) (o : SaveOptions) (files : FileTree) :
    ((d.save home o : StateM FileTree _) files).1.value.2 = d.finalize.value.2 := by
  have hdevice : d.serialize.value.2 = d.finalize.value.2 := rfl
  rw [← hdevice]
  unfold save
  generalize d.serialize = r
  obtain ⟨⟨result, e⟩, notices⟩ := r
  cases result with
  | error => rfl
  | ok text => rfl

end Device

/-! ### All calls -/

namespace Session

theorem perform_addWith (s : Session) (typeName : String) (contract : Contract) (args : String) :
    s.perform (.addWith typeName contract args) =
      if contract.sizes (labelText typeName args) then
        s.reply .handle (pure (s.device.addWith typeName contract args []))
      else pure (.overflow, s) := by
  rw [perform, Device.addWith?]
  split_ifs <;> rfl

theorem perform_add (s : Session) (typeName args : String) :
    s.perform (.add typeName args) = s.device.catalog.resolve typeName >>= fun contract =>
      s.perform (.addWith typeName contract args) := by
  simp only [perform, replyBox, Device.add?, bind_assoc, pure_bind]

theorem next_add (s : Session) (typeName args : String) :
    (s.next (.add typeName args)).device =
      (s.next (.addWith typeName (s.device.catalog.resolve typeName).value args)).device := rfl

theorem next_addWith (s : Session) (typeName : String) (contract : Contract) (args : String) :
    (s.next (.addWith typeName contract args)).device =
      if contract.sizes (labelText typeName args) then
        (s.device.addWith typeName contract args []).2
      else s.device := by
  rw [next, perform_addWith]
  split_ifs <;> rfl

theorem after_add_of_length_le (s : Session) {typeName args : String}
    (h : (labelText typeName args).length ≤ 1000) : (s.after [.add typeName args]).device =
      (s.device.addWith typeName (s.device.catalog.resolve typeName).value args []).2 := by
  show (s.next (.add typeName args)).device = _
  rw [next_add, next_addWith, if_pos (Contract.sizes_of_length_le _ h)]

theorem next_connect (s : Session) (source destination : Endpoint) :
    (s.next (.connect source destination)).device =
      (s.device.chain [source, destination]).2 := by
  rw [Device.chain_pair, next, perform]
  cases s.device.connect source destination with
  | error => rfl
  | ok r => rfl

theorem next_save (s : Session) (options : SaveOptions) :
    (s.next (.save options)).device = s.device.finalize.value.2 :=
  Device.save_device s.device s.home options s.files

theorem grows_addWith (s : Session) (typeName : String) (contract : Contract) (args : String) :
    s.device.Grows [] (s.next (.addWith typeName contract args)).device := by
  rw [next_addWith]
  split_ifs with hsizes
  · exact s.device.grows_addWith (.add typeName contract args) hsizes
  · exact Device.Grows.refl _

/-- **What a call does to the device of a session.** -/
theorem grows_next (s : Session) (c : DeviceCall) :
    s.device.Grows (s.device.linked c) (s.next c).device := by
  cases c with
  | add typeName args => exact grows_addWith s typeName _ args
  | addWith typeName contract args => exact grows_addWith s typeName contract args
  | comment text =>
    exact s.device.grows_addWith (.addText "comment" _ text)
      (Contract.sizes_of_length_le _ (by decide))
  | message text =>
    exact s.device.grows_addWith (.addText "message" _ text)
      (Contract.sizes_of_length_le _ (by decide))
  | ensureContext => exact s.device.grows_ensureContext
  | addParameter name options => exact s.device.grows_addParameter name options
  | connect source destination =>
    rw [next_connect]
    exact s.device.grows_chain [source, destination]
  | chain items => exact s.device.grows_chain items
  | describe text => exact Device.grows_of_patch (Patch.becomes_edit _ (.describe text)) rfl rfl
  | tag text => exact Device.grows_of_patch (Patch.becomes_edit _ (.tag text)) rfl rfl
  | register => exact Device.grows_of_patch (.refl _) rfl rfl
  | suspicions => exact Device.Grows.refl _
  | finalize => exact s.device.grows_finalize
  | serialize => exact s.device.grows_finalize
  | save options =>
    rw [next_save]
    exact s.device.grows_finalize

/-- The endpoints that calls wire. -/
def linked (s : Session) : List DeviceCall → List (Endpoint × Endpoint)
  | [] => []
  | c :: calls => s.device.linked c ++ (s.next c).linked calls

/-- **What calls do to the device of a session.** -/
theorem grows_after (s : Session) (calls : List DeviceCall) :
    s.device.Grows (s.linked calls) (s.after calls).device := by
  induction calls generalizing s with
  | nil => exact Device.Grows.refl s.device
  | cons c calls ih => exact (s.grows_next c).trans (ih (s.next c))

theorem becomes_start (name : String) (kind : DeviceKind) (catalog : Catalog) (files : FileTree)
    (home : String) :
    Patch.empty.Becomes (start name kind catalog files home).value.device.patch := by
  have hshort : (labelText kind.inputType "").length ≤ 1000 ∧
      (labelText kind.outputType "").length ≤ 1000 := by
    cases kind <;> decide
  have h := ((Patch.Becomes.refl Patch.empty).edit
    (.add kind.inputType (catalog.resolve kind.inputType).value "")).edit
      (.add kind.outputType (catalog.resolve kind.outputType).value "")
  rwa [Patch.edit_add_of_sizes _ _ (Contract.sizes_of_length_le _ hshort.2),
    Patch.edit_add_of_sizes _ _ (Contract.sizes_of_length_le _ hshort.1)] at h

theorem sound_start (name : String) (kind : DeviceKind) (catalog : Catalog) (files : FileTree)
    (home : String) : (start name kind catalog files home).value.device.Sound where
  patch := (becomes_start name kind catalog files home).wellFormed Patch.wellFormed_empty
  parameters := fun _ hq => absurd hq List.not_mem_nil

/-- **Devices stay sound**, whatever is called on them. -/
theorem sound_after {s : Session} (hs : s.device.Sound) (calls : List DeviceCall) :
    (s.after calls).device.Sound := (s.grows_after calls).sound hs

end Session

end MaxPatch
