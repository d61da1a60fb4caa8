import MaxPatch.Proofs.Observation
import MaxPatch.Proofs.Origins

/-! # The context box: when it is added

A device remembers the context box that it has asked for (`DeviceCall.asksForContext`), and does not
look for one in its patch. So its patch has the boxes of that type that were added by hand
(`DeviceCall.addsContextBox`) and, once it has asked, one more (`Device.Counts`, `counts_next`,
`counts_after`). A device asks again when it is completed; then there is one box more than were
added by hand (`context_box_is_added_once`), also where one was there already
(`context_box_beside_one_by_hand`). -/

namespace MaxPatch

namespace DeviceCall

/-- Whether a call asks for the context box. -/
def asksForContext : DeviceCall → Bool
  | ensureContext | finalize | serialize | save _ => true
  | _ => false

/-- Whether a call adds a box of the type of the context box by hand, by the answer to it. -/
def addsContextBox : DeviceCall → Answer → Bool
  | add typeName _, answer | addWith typeName _ _, answer =>
    typeName = contextType && answer.handle?.isSome
  | _, _ => false

end DeviceCall

namespace Patch

variable {p q : Patch} {origins : List Origin}

/-- The types of the boxes. -/
def typeNames (p : Patch) : List String := p.boxes.map (·.typeName)

theorem typeNames_eq (p : Patch) : p.typeNames = p.skeleton.makes.map (·.typeName) := by
  rw [skeleton, List.map_map]
  rfl

theorem map_typeName_of_stemsFrom {makes : List Box.Make}
    (h : List.Forall₂ Box.Make.StemsFrom makes origins) :
    makes.map (·.typeName) = origins.map (·.typeName) := by
  induction h with
  | nil => rfl
  | cons hstem _ ih => rw [List.map_cons, List.map_cons, hstem.typeName, ih]

theorem AddsFrom.typeNames (h : p.AddsFrom q origins) :
    q.typeNames = p.typeNames ++ origins.map (·.typeName) := by
  obtain ⟨makes, hmakes, hstem⟩ := h
  rw [typeNames_eq, typeNames_eq, hmakes, List.map_append, map_typeName_of_stemsFrom hstem]

end Patch

namespace Device

/-- **What a device counts**: the boxes of the type of the context box that were added by hand, and
the one that it remembers. -/
def Counts (d : Device) (byHand : Nat) : Prop :=
  d.patch.typeNames.count contextType = byHand + d.context.isSome.toNat

theorem map_contextOrigins (d : Device) :
    d.contextOrigins.map (·.typeName) = if d.context.isSome then [] else [contextType] := by
  unfold contextOrigins
  split
  · next h => rw [h]; rfl
  · next h => rw [h]; rfl

theorem renderClass_ne_contextType (c : Control) : c.renderClass ≠ contextType := by
  cases c <;> decide

theorem context_finalize (d : Device) : d.finalize.value.2.context.isSome = true := by
  rw [finalize_device, layout_eq]
  split <;> exact d.context_ensureContext

end Device

namespace Session

theorem count_origins (s : Session) (c : DeviceCall) :
    ((s.device.origins c).map (·.typeName)).count contextType =
      (if c.addsContextBox (s.answer c) then 1 else 0) +
        (c.asksForContext && !s.device.context.isSome).toNat := by
  have hasks : (s.device.contextOrigins.map (·.typeName)).count contextType =
      (!s.device.context.isSome).toNat := by
    rw [Device.map_contextOrigins]
    cases s.device.context.isSome <;> rfl
  have hadd : ∀ typeName contract args,
      ((s.device.origins (.addWith typeName contract args)).map (·.typeName)).count contextType =
        if DeviceCall.addsContextBox (.addWith typeName contract args)
          (s.answer (.addWith typeName contract args)) then 1 else 0 := by
    intro typeName contract args
    rw [answer, perform_addWith, Device.origins]
    by_cases hsizes : contract.sizes (labelText typeName args)
    · simp [hsizes, DeviceCall.addsContextBox, DeviceCall.Answer.handle?, reply,
        List.count_singleton]
    · simp [hsizes, DeviceCall.addsContextBox, DeviceCall.Answer.handle?]
  cases c with
  | add typeName args => exact hadd typeName (s.device.catalog.resolve typeName).value args
  | addWith typeName contract args => exact hadd typeName contract args
  | addParameter name o =>
    -- a control is a live object as well, but never one of this type
    refine List.count_singleton.trans (if_neg ?_)
    simpa using Device.renderClass_ne_contextType o.control
  | ensureContext | finalize | serialize | save =>
    simpa [Device.origins, DeviceCall.addsContextBox, DeviceCall.asksForContext] using hasks
  | _ => rfl

theorem context_addWith (s : Session) (typeName : String) (contract : Contract) (args : String) :
    (s.next (.addWith typeName contract args)).device.context = s.device.context := by
  rw [next_addWith]
  split_ifs <;> rfl

theorem context_next (s : Session) (c : DeviceCall) :
    (s.next c).device.context.isSome = (s.device.context.isSome || c.asksForContext) := by
  cases c with
  | add typeName args => rw [next_add, context_addWith]; exact (Bool.or_false _).symm
  | addWith typeName contract args => rw [context_addWith]; exact (Bool.or_false _).symm
  | ensureContext =>
    exact s.device.context_ensureContext.trans (Bool.or_true _).symm
  | finalize | serialize => exact s.device.context_finalize.trans (Bool.or_true _).symm
  | save options =>
    rw [next_save]
    exact s.device.context_finalize.trans (Bool.or_true _).symm
  | connect source destination =>
    rw [next_connect]
    exact (Bool.or_false _).symm
  | _ => exact (Bool.or_false _).symm

theorem context_after (s : Session) (calls : List DeviceCall) :
    (s.after calls).device.context.isSome =
      (s.device.context.isSome || calls.any (·.asksForContext)) := by
  induction calls generalizing s with
  | nil => exact (Bool.or_false _).symm
  | cons c calls ih =>
    have hrest := ih (s.next c)
    rwa [context_next, Bool.or_assoc, ← List.any_cons] at hrest

/-- **What a call counts.** -/
theorem counts_next {s : Session} {byHand : Nat} (h : s.device.Counts byHand) (c : DeviceCall) :
    (s.next c).device.Counts (byHand + if c.addsContextBox (s.answer c) then 1 else 0) := by
  unfold Device.Counts at h ⊢
  rw [(s.adds_next c).typeNames, List.count_append, count_origins, h, context_next]
  cases s.device.context.isSome <;> cases c.asksForContext <;> simp <;> omega

/-- How many boxes of the type of the context box are added by hand along calls. -/
def addedByHand (s : Session) (calls : List DeviceCall) : Nat :=
  (s.transcript calls).countP fun heard => heard.1.addsContextBox heard.2.value

theorem addedByHand_cons (s : Session) (c : DeviceCall) (calls : List DeviceCall) :
    s.addedByHand (c :: calls) =
      (s.next c).addedByHand calls + if c.addsContextBox (s.answer c) then 1 else 0 :=
  List.countP_cons

/-- **What calls count.** -/
theorem counts_after {s : Session} {byHand : Nat} (h : s.device.Counts byHand)
    (calls : List DeviceCall) :
    (s.after calls).device.Counts (byHand + s.addedByHand calls) := by
  induction calls generalizing s byHand with
  | nil => exact h
  | cons c calls ih =>
    have hrest := ih (counts_next h c)
    rwa [Nat.add_assoc, Nat.add_comm _ ((s.next c).addedByHand calls), ← addedByHand_cons] at hrest

theorem counts_start (name : String) (kind : DeviceKind) (catalog : Catalog) (files : FileTree)
    (home : String) : (start name kind catalog files home).value.device.Counts 0 := by
  unfold Device.Counts
  have hboundary : List.count contextType [kind.inputType, kind.outputType] = 0 := by
    cases kind <;> decide
  rw [(adds_start name kind catalog files home).typeNames]
  exact hboundary

/-- **The context box is added once.** After any calls on a new device, completing it adds no box if
the device has asked for its context box before, and else just that. The document has one box of its
type more than were added by hand. -/
theorem context_box_is_added_once (name : String) (kind : DeviceKind) (catalog : Catalog)
    (files : FileTree) (home : String) (calls : List DeviceCall) :
    let s := (start name kind catalog files home).value
    let d := (s.after calls).device
    let e := d.finalize.value.2
    d.finalize.value.1 = .ok e.patch.document ∧
    (∃ added, e.patch.skeleton.makes = d.patch.skeleton.makes ++ added ∧
      added.map (·.typeName) = if calls.any (·.asksForContext) then [] else [contextType]) ∧
    e.patch.typeNames.count contextType = s.addedByHand calls + 1 := by
  intro s d e
  have hsound : d.Sound := sound_after (sound_start name kind catalog files home) calls
  refine ⟨congrArg Prod.fst (Device.finalize_value hsound), ?_, ?_⟩
  · obtain ⟨added, hadded, hstem⟩ := d.adds_finalize
    refine ⟨added, hadded, ?_⟩
    rw [Patch.map_typeName_of_stemsFrom hstem, Device.map_contextOrigins, context_after]
    rfl
  · -- to complete the device is one call more, after which it has its context box
    have hcounts := counts_next (counts_after (counts_start name kind catalog files home) calls)
      .finalize
    have hcount : e.patch.typeNames.count contextType = _ + e.context.isSome.toNat := hcounts
    rw [hcount, d.context_finalize, Nat.zero_add]
    rfl

theorem context_box_beside_another {s : Session} (hnone : s.device.context = none) :
    let d := (s.after [.add contextType ""]).device
    (d.patch.findType? contextType).isSome = true ∧
    d.patch.typeNames = s.device.patch.typeNames ++ [contextType] ∧
    d.finalize.value.2.patch.typeNames =
      s.device.patch.typeNames ++ [contextType] ++ [contextType] := by
  intro d
  have hd : d = _ := s.after_add_of_length_le (by decide)
  have htypes : d.patch.typeNames = s.device.patch.typeNames ++ [contextType] := by
    rw [hd]
    exact (s.device.adds_addWith contextType _ "" []).typeNames
  have hcontext : d.context = none := by rw [hd]; exact hnone
  refine ⟨?_, htypes, ?_⟩
  · have hmem : contextType ∈ d.patch.typeNames := by rw [htypes]; simp
    obtain ⟨b, hb, htype⟩ := List.mem_map.mp hmem
    rw [Patch.findType?, List.find?_isSome]
    exact ⟨b, hb, decide_eq_true htype⟩
  · rw [d.adds_finalize.typeNames, htypes, Device.map_contextOrigins, hcontext]
    rfl

/-- Where a box of the type was added by hand, it can be found in the patch, and completing the
device adds another one all the same. -/
theorem context_box_beside_one_by_hand :
    let s := (start "fx" .audioEffect .builtin {} "home").value
    let d := (s.after [.add contextType ""]).device
    let e := d.finalize.value.2
    (d.patch.findType? contextType).isSome = true ∧
    d.patch.typeNames = ["plugin~", "plugout~", contextType] ∧
    e.patch.typeNames = ["plugin~", "plugout~", contextType, contextType] :=
  context_box_beside_another rfl

end Session

end MaxPatch
