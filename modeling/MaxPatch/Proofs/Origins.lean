import MaxPatch.Proofs.Chains

/-! # Origins: what boxes are made from

A box has its type and its ports for life, and it has them from the contract of its type at the time
when it was made. Contracts come from the catalog, which can be changed at any time, from the caller
or from a control. So what the boxes of a device are made from is a matter of its history: a list of
origins, which every call continues (`Device.origins`, `Session.origins`).

A patch that goes on by certain origins (`Patch.AddsFrom`) keeps its boxes and gets a box of each
origin, in their order. `adds_next` says so for every call and `adds_after` for all of them. -/

namespace MaxPatch

/-- What a box is made from: its type, and the contract that holds for it. -/
structure Origin where
  typeName : String
  contract : Contract

/-- A box of this make is of this origin. -/
structure Box.Make.StemsFrom (m : Box.Make) (o : Origin) : Prop where
  typeName : m.typeName = o.typeName
  renderClass : m.renderClass = o.contract.renderClass
  inlets : m.inlets = o.contract.inlets
  outlets : m.outlets = o.contract.outlets

namespace Patch

/-- A patch goes on by boxes of these origins. -/
def AddsFrom (p q : Patch) (origins : List Origin) : Prop :=
  ∃ makes, q.skeleton.makes = p.skeleton.makes ++ makes ∧
    List.Forall₂ Box.Make.StemsFrom makes origins

variable {p q r : Patch} {origins origins' : List Origin}

theorem addsFrom_nil (h : q.skeleton.makes = p.skeleton.makes) : p.AddsFrom q [] :=
  ⟨[], by rw [h, List.append_nil], List.Forall₂.nil⟩

theorem AddsFrom.trans (h : p.AddsFrom q origins) (h' : q.AddsFrom r origins') :
    p.AddsFrom r (origins ++ origins') := by
  obtain ⟨makes, hmakes, hstem⟩ := h
  obtain ⟨makes', hmakes', hstem'⟩ := h'
  exact ⟨makes ++ makes', by rw [hmakes', hmakes, List.append_assoc], List.rel_append hstem hstem'⟩

theorem addsFrom_add (p : Patch) (typeName : String) (contract : Contract) (args : String)
    (attributes : Members) :
    p.AddsFrom (p.add typeName contract args attributes).2 [⟨typeName, contract⟩] := by
  refine ⟨[(p.newBox typeName contract args attributes).make], ?_, ?_⟩
  · rw [skeleton_add]
  · exact List.Forall₂.cons ⟨rfl, rfl, rfl, rfl⟩ List.Forall₂.nil

theorem addsFrom_addParameter (p : Patch) (name : String) (o : ParameterOptions) :
    p.AddsFrom (p.addParameter name o).2
      [⟨o.control.renderClass, o.control.contract o.size.1⟩] := by
  refine ⟨[(p.newBox o.control.renderClass (o.control.contract o.size.1) ""
    (o.attributes name)).make], ?_, ?_⟩
  · rw [skeleton_addParameter]
  · exact List.Forall₂.cons ⟨rfl, rfl, rfl, rfl⟩ List.Forall₂.nil

/-! ### Looking an origin up -/

/-- The origin with the number of a box. -/
def originOf? (origins : List Origin) (id : BoxId) : Option Origin :=
  match id.number with
  | 0 => none
  | n + 1 => origins[n]?

/-- **A box is of the origin that has its number**, if all boxes are counted. -/
theorem AddsFrom.origin (h : empty.AddsFrom p origins) {id : BoxId} {b : Box}
    (hb : p.box? id = some b) : ∃ o, originOf? origins id = some o ∧ b.make.StemsFrom o := by
  obtain ⟨makes, hmakes, hstem⟩ := h
  replace hmakes : p.skeleton.makes = makes := hmakes
  obtain ⟨n⟩ := id
  cases n with
  | zero => cases hb
  | succ n =>
    have hmake : makes[n]? = some b.make := by
      rw [← hmakes, skeleton, List.getElem?_map, ← box?_eq_getElem?, hb]
      rfl
    obtain ⟨hn, hget⟩ := List.getElem?_eq_some_iff.mp hmake
    have hn' : n < origins.length := hstem.length_eq ▸ hn
    refine ⟨origins[n], List.getElem?_eq_getElem hn', ?_⟩
    rw [← hget]
    exact hstem.get hn hn'

end Patch

/-! ### What a call adds -/

/-- The boundary of a device of a kind. -/
def DeviceKind.origins (kind : DeviceKind) (catalog : Catalog) : List Origin :=
  [⟨kind.inputType, (catalog.resolve kind.inputType).value⟩,
   ⟨kind.outputType, (catalog.resolve kind.outputType).value⟩]

namespace Device

/-- The origin of a box of a type, as the catalog stands. -/
def originOf (d : Device) (typeName : String) : Origin :=
  ⟨typeName, (d.catalog.resolve typeName).value⟩

/-- The origin of the context box, if the device has still to add it. -/
def contextOrigins (d : Device) : List Origin :=
  match d.context with
  | some _ => []
  | none => [d.originOf contextType]

/-- The origins of the boxes that a call adds. -/
def origins (d : Device) : DeviceCall → List Origin
  | .add typeName args =>
    let o := d.originOf typeName
    if o.contract.sizes (labelText typeName args) then [o] else []
  | .addWith typeName contract args =>
    if contract.sizes (labelText typeName args) then [⟨typeName, contract⟩] else []
  | .comment _ => [d.originOf "comment"]
  | .message _ => [d.originOf "message"]
  | .addParameter _ o => [⟨o.control.renderClass, o.control.contract o.size.1⟩]
  | .ensureContext | .finalize | .serialize | .save _ => d.contextOrigins
  | .connect _ _ | .chain _ | .describe _ | .tag _ | .register _ _ | .suspicions => []

theorem adds_addWith (d : Device) (typeName : String) (contract : Contract) (args : String)
    (attributes : Members) :
    d.patch.AddsFrom (d.addWith typeName contract args attributes).2.patch
      [⟨typeName, contract⟩] :=
  d.patch.addsFrom_add typeName contract args attributes

theorem adds_ensureContext (d : Device) :
    d.patch.AddsFrom d.ensureContext.value.2.patch d.contextOrigins := by
  unfold ensureContext
  split
  · next h =>
    rw [contextOrigins, h]
    exact Patch.addsFrom_nil rfl
  · next h =>
    rw [contextOrigins, h]
    exact d.adds_addWith contextType (d.catalog.resolve contextType).value "" []

theorem adds_chain (d : Device) (items : List Endpoint) :
    d.patch.AddsFrom (d.chain items).2.patch [] := by
  obtain ⟨cords, -, hcords⟩ := Patch.chain_carries (p := d.patch) rfl items
  have hpatch : (d.chain items).2.patch = d.patch.addCords cords := hcords
  exact Patch.addsFrom_nil (by rw [hpatch]; rfl)

theorem adds_finalize (d : Device) :
    d.patch.AddsFrom d.finalize.value.2.patch d.contextOrigins := by
  rw [finalize_device, ← List.append_nil d.contextOrigins]
  exact d.adds_ensureContext.trans
    (Patch.addsFrom_nil (congrArg Skeleton.makes (skeleton_layout _)))

end Device

namespace Session

theorem adds_addWith (s : Session) (typeName : String) (contract : Contract) (args : String) :
    s.device.patch.AddsFrom (s.next (.addWith typeName contract args)).device.patch
      (s.device.origins (.addWith typeName contract args)) := by
  rw [next_addWith, Device.origins]
  split_ifs
  · exact s.device.adds_addWith typeName contract args []
  · exact Patch.addsFrom_nil rfl

/-- **What a call adds.** -/
theorem adds_next (s : Session) (c : DeviceCall) :
    s.device.patch.AddsFrom (s.next c).device.patch (s.device.origins c) := by
  cases c with
  | add typeName args => exact adds_addWith s typeName _ args
  | addWith typeName contract args => exact adds_addWith s typeName contract args
  | comment text => exact s.device.adds_addWith "comment" _ "" _
  | message text => exact s.device.adds_addWith "message" _ "" _
  | ensureContext => exact s.device.adds_ensureContext
  | addParameter name options => exact s.device.patch.addsFrom_addParameter name options
  | connect source destination =>
    rw [next_connect]
    exact s.device.adds_chain [source, destination]
  | chain items => exact s.device.adds_chain items
  | describe text => exact Patch.addsFrom_nil rfl
  | tag text => exact Patch.addsFrom_nil rfl
  | register typeName contract => exact Patch.addsFrom_nil rfl
  | suspicions => exact Patch.addsFrom_nil rfl
  | finalize => exact s.device.adds_finalize
  | serialize => exact s.device.adds_finalize
  | save options =>
    rw [next_save]
    exact s.device.adds_finalize

/-- The origins of the boxes that calls add. -/
def origins (s : Session) : List DeviceCall → List Origin
  | [] => []
  | c :: calls => s.device.origins c ++ (s.next c).origins calls

/-- **What calls add.** -/
theorem adds_after (s : Session) (calls : List DeviceCall) :
    s.device.patch.AddsFrom (s.after calls).device.patch (s.origins calls) := by
  induction calls generalizing s with
  | nil => exact Patch.addsFrom_nil rfl
  | cons c calls ih => exact (s.adds_next c).trans (ih (s.next c))

theorem adds_start (name : String) (kind : DeviceKind) (catalog : Catalog) (files : FileTree)
    (home : String) : Patch.empty.AddsFrom (start name kind catalog files home).value.device.patch
      (kind.origins catalog) :=
  (Patch.empty.addsFrom_add kind.inputType _ "" []).trans
    (Patch.addsFrom_add _ kind.outputType _ "" [])

end Session

end MaxPatch
