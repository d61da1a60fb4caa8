import Mathlib.Data.List.TakeWhile
import MaxPatch.Proofs.Agreement

/-! # Observation: looking at a device does not change what it becomes

To complete a device is to write into its patch: the places of all boxes, the faces of the
parameters, the width of the device and the mode it opens in. Devices that agree in all else are
*alike* (`Device.Alike`), and this is as much as anyone can tell:

* completing a device that has its context box leaves it alike, and so does every other observation
  (`Session.alike_next_left`);
* a call that builds gives the same answer and the same notices on devices that are alike, and
  leaves them alike (`Session.alike_next`);
* sound devices that are alike are completed to the same device and the same document
  (`Alike.finalize_eq`).

So all that is left of an observation, for the calls behind it, is that it has asked for the context
box (`DeviceCall.residue`, `Session.alike_residue`), and if the device had that box already, it can
be left out of a session without any other call noticing (`observations_change_nothing`). A context
box that was added by hand is no such box (`context_box_by_hand_is_not_remembered`). -/

namespace MaxPatch

/-- What is left of a call for the calls behind it: an observation that completes the device asks
for the context box, and any other one leaves nothing. -/
def DeviceCall.residue : DeviceCall → List DeviceCall
  | finalize | serialize | save _ => [ensureContext]
  | suspicions => []
  | c => [c]

theorem DeviceCall.residue_of_building {c : DeviceCall} (h : c.isObservation = false) :
    c.residue = [c] := by
  cases c with
  | suspicions | finalize | serialize | save => cases h
  | _ => rfl

namespace Device

/-- Devices that differ at most in what completing them writes. -/
structure Alike (d e : Device) : Prop where
  name : d.name = e.name
  catalog : d.catalog = e.catalog
  boundary : d.boundary = e.boundary
  parameters : d.parameters = e.parameters
  context : d.context = e.context
  patch : d.patch.AgreeExcept (fun _ => True) (fun id => id ∈ d.parameters.map (·.id))
    (d.parameters ≠ []) e.patch

variable {d e : Device}

theorem Alike.refl (d : Device) : d.Alike d := ⟨rfl, rfl, rfl, rfl, rfl, Patch.AgreeExcept.refl _⟩

theorem Alike.with_patch (h : d.Alike e) (p : Patch) :
    ({ d with patch := p } : Device) = { e with patch := p } := by
  rw [h.name, h.catalog, h.boundary, h.parameters, h.context]

theorem Alike.of_patch (h : d.Alike e) {p q : Patch}
    (hpq : p.AgreeExcept (fun _ => True) (fun id => id ∈ d.parameters.map (·.id))
      (d.parameters ≠ []) q) :
    ({ d with patch := p } : Device).Alike { e with patch := q } :=
  ⟨h.name, h.catalog, h.boundary, h.parameters, h.context, hpq⟩

/-! ### Completion -/

/-- **Layouts overwrite what may differ.** -/
theorem Alike.layout_eq (h : d.Alike e) (hd : d.Sound) : d.layout = e.layout := by
  have hplaced := h.patch.layoutEditor hd.patch
  have hshown := List.takeWhile_eq_self_iff.mpr hd.face
  obtain ⟨hres, hface⟩ := hplaced.layoutFace fun id hid => Or.inl (hshown.symm ▸ hid)
  have hwidth := hplaced.deviceWidth_layoutFace hd.face
  obtain ⟨width, hok⟩ := Patch.layoutFace_ok hd.face
  rw [Device.layout_eq d, Device.layout_eq e, ← h.parameters]
  generalize d.patch.layoutEditor.2.layoutFace (d.parameters.map (·.id)) = r
    at hres hface hwidth hok ⊢
  generalize e.patch.layoutEditor.2.layoutFace (d.parameters.map (·.id)) = r'
    at hres hface hwidth ⊢
  obtain ⟨result, p⟩ := r
  obtain ⟨result', q⟩ := r'
  obtain rfl : result = .ok width := hok
  obtain rfl : Except.ok width = result' := hres
  replace hface : p.AgreeExcept _ _ _ q := hface
  replace hwidth : _ → p.deviceWidth = q.deviceWidth := hwidth
  have hpatch :
      ({ p with opensInPresentation := p.opensInPresentation || !d.parameters.isEmpty } : Patch) =
        { q with opensInPresentation := q.opensInPresentation || !d.parameters.isEmpty } := by
    rw [hface.eq]
    -- the frame is set if there are parameters, and else it was never allowed to differ
    by_cases hp : d.parameters = []
    · rw [← hface.deviceWidth (not_not.mpr hp), ← hface.opens (not_not.mpr hp)]
    · rw [← hwidth (by simpa using hp), List.isEmpty_eq_false_iff.mpr hp, Bool.not_false,
        Bool.or_true, Bool.or_true]
  exact congrArg (Prod.mk _) ((h.with_patch _).trans (by rw [hpatch, h.parameters]))

theorem Alike.layout_left (h : d.Alike e) : d.layout.2.Alike e := by
  have hface : (d.patch.layoutEditor.2.layoutFace (d.parameters.map (·.id))).2.AgreeExcept _ _ _
      e.patch := h.patch.layoutEditor_left.layoutFace_left (fun _ hid => hid) (by simp)
  rw [Device.layout_eq]
  split
  · next hr => rw [hr] at hface; exact h.of_patch hface
  · next hr =>
    rw [hr] at hface
    refine h.of_patch { hface with opens := fun hp => ?_ }
    rw [← hface.opens hp, not_not.mp hp]
    simp

/-! ### Calls that build -/

/-- Results that give the same answer and the same notices, and devices that are alike. -/
structure SameReply {α : Type} (r r' : Noted (α × Device)) : Prop where
  answer : r.value.1 = r'.value.1
  notices : r.notices = r'.notices
  device : r.value.2.Alike r'.value.2

theorem Alike.addWith (h : d.Alike e) (hd : d.patch.WellFormed) (typeName : String)
    (contract : Contract) (args : String) (attributes : Members) :
    SameReply (pure (d.addWith typeName contract args attributes))
      (pure (e.addWith typeName contract args attributes)) := by
  obtain ⟨hanswer, hpatch⟩ := h.patch.add hd typeName contract args attributes
  exact ⟨hanswer, rfl, h.of_patch hpatch⟩

theorem Alike.addFrom (h : d.Alike e) (hd : d.patch.WellFormed) (typeName args : String)
    (attributes : Members) :
    SameReply (d.addFrom typeName args attributes) (e.addFrom typeName args attributes) := by
  have hadd := h.addWith hd typeName (d.catalog.resolve typeName).value args attributes
  rw [Device.addFrom, Device.addFrom, ← h.catalog]
  exact ⟨hadd.answer, rfl, hadd.device⟩

theorem Alike.ensureContext (h : d.Alike e) (hd : d.patch.WellFormed) :
    SameReply d.ensureContext e.ensureContext := by
  rw [Device.ensureContext, Device.ensureContext, ← h.context]
  cases d.context with
  | some handle => exact ⟨rfl, rfl, h⟩
  | none =>
    have hadd := h.addFrom hd contextType "" []
    refine ⟨hadd.answer, ?_, hadd.device.name, hadd.device.catalog, hadd.device.boundary,
      hadd.device.parameters, congrArg some hadd.answer, hadd.device.patch⟩
    exact congrArg (· ++ []) hadd.notices

theorem Alike.addParameter (h : d.Alike e) (hd : d.patch.WellFormed) (name : String)
    (o : ParameterOptions) :
    SameReply (pure (d.addParameter name o)) (pure (e.addParameter name o)) := by
  obtain ⟨hanswer, hpatch⟩ := h.patch.addParameter hd name o
  refine ⟨hanswer, rfl, h.name, h.catalog, h.boundary, ?_, h.context, ?_⟩
  · show d.parameters ++ [(d.patch.addParameter name o).1] = _
    rw [hanswer, h.parameters]
    rfl
  · -- from its first parameter on, a device may differ in its frame
    have hgrown : d.parameters ++ [(d.patch.addParameter name o).1] ≠ [] := by simp
    have hkept : (d.patch.addParameter name o).2.AgreeExcept (fun _ => True)
        (fun id => id ∈ (d.parameters ++ [(d.patch.addParameter name o).1]).map (·.id)) _
        (e.patch.addParameter name o).2 :=
      hpatch.mono (fun _ _ _ hm => hm) fun id _ _ hf => by
        rw [List.map_append]; exact List.mem_append_left _ hf
    exact { hkept with
      deviceWidth := fun hf => absurd hgrown hf
      opens := fun hf => absurd hgrown hf }

theorem Alike.chain (h : d.Alike e) (items : List Endpoint) :
    SameReply (pure (d.chain items)) (pure (e.chain items)) := by
  obtain ⟨hanswer, hpatch⟩ := h.patch.chain items
  exact ⟨hanswer, rfl, h.of_patch hpatch⟩

theorem Alike.connect (h : d.Alike e) (source destination : Endpoint) :
    (∃ n d' e', d.connect source destination = .ok (n, d') ∧
      e.connect source destination = .ok (n, e') ∧ d'.Alike e') ∨
    ∃ error, d.connect source destination = .error error ∧
      e.connect source destination = .error error := by
  unfold Device.connect
  rcases h.patch.link source destination with ⟨n, p, q, hp, hq, hpq⟩ | ⟨error, hp, hq⟩
  · rw [hp, hq]; exact Or.inl ⟨n, _, _, rfl, rfl, h.of_patch hpq⟩
  · rw [hp, hq]; exact Or.inr ⟨error, rfl, rfl⟩

/-! ### Completion of devices that are alike -/

theorem finalize_of_context (hc : d.context.isSome) : d.finalize = d.complete := by
  obtain ⟨handle, hh⟩ := Option.isSome_iff_exists.mp hc
  rw [finalize_eq, ensureContext, hh]
  rfl

theorem Alike.complete_eq (h : d.Alike e) (hd : d.Sound) : d.complete = e.complete := by
  rw [complete, complete, h.layout_eq hd]

/-- **Sound devices that are alike are completed to the same device and document.** -/
theorem Alike.finalize_eq (h : d.Alike e) (hd : d.Sound) : d.finalize = e.finalize := by
  have hcontext := h.ensureContext hd.patch
  have hcomplete := hcontext.device.complete_eq (d.grows_ensureContext.sound hd)
  rw [Device.finalize_eq, Device.finalize_eq]
  refine Noted.ext ?_ ?_
  · rw [Noted.value_bind, Noted.value_bind, hcomplete]
  · rw [Noted.notices_bind, Noted.notices_bind, hcontext.notices, hcomplete]

theorem context_ensureContext (d : Device) : d.ensureContext.value.2.context.isSome := by
  unfold ensureContext
  split
  · next h => rw [Noted.value_pure, h]; rfl
  · rfl

/-- **A second completion changes nothing.** -/
theorem finalize_twice (hd : d.Sound) : d.finalize.value.2.finalize.value = d.finalize.value := by
  have hsound := d.grows_ensureContext.sound hd
  have hcontext := d.context_ensureContext
  rw [Device.finalize_eq d, Noted.value_bind, complete_device]
  generalize d.ensureContext.value.2 = e at hsound hcontext ⊢
  have halike : e.layout.2.Alike e := (Alike.refl e).layout_left
  have hdone : e.layout.2.context.isSome := by rw [halike.context]; exact hcontext
  rw [finalize_of_context hdone, halike.complete_eq ((grows_layout e).sound hsound)]

end Device

namespace Session

/-- What one hears from a call: the answer and the notices. -/
def heard (s : Session) (c : DeviceCall) : Noted DeviceCall.Answer :=
  { value := s.answer c, notices := (s.perform c).notices }

variable {s t : Session} {e : Device}

theorem alike_reply {α : Type} {answer : α → DeviceCall.Answer} {r r' : Noted (α × Device)}
    (h : Device.SameReply r r') :
    ({ value := (s.reply answer r).value.1, notices := (s.reply answer r).notices } :
      Noted DeviceCall.Answer) =
      { value := (t.reply answer r').value.1, notices := (t.reply answer r').notices } ∧
    (s.reply answer r).value.2.device.Alike (t.reply answer r').value.2.device := by
  refine ⟨Noted.ext (congrArg answer h.answer) ?_, h.device⟩
  exact congrArg (· ++ []) h.notices

theorem alike_addWith (h : s.device.Alike t.device) (hs : s.device.patch.WellFormed)
    (typeName : String) (contract : Contract) (args : String) :
    s.heard (.addWith typeName contract args) = t.heard (.addWith typeName contract args) ∧
      (s.next (.addWith typeName contract args)).device.Alike
        (t.next (.addWith typeName contract args)).device := by
  unfold heard answer next
  rw [perform_addWith, perform_addWith]
  split_ifs
  · exact alike_reply (h.addWith hs typeName contract args [])
  · exact ⟨rfl, h⟩

/-- **A call that builds cannot tell devices apart that are alike.** -/
theorem alike_next (h : s.device.Alike t.device) (hs : s.device.patch.WellFormed) {c : DeviceCall}
    (hc : c.isObservation = false) :
    s.heard c = t.heard c ∧ (s.next c).device.Alike (t.next c).device := by
  cases c with
  | add typeName args =>
    -- the contract is the same on both sides, and with it the rest
    obtain ⟨hheard, hnext⟩ := alike_addWith h hs typeName (s.device.catalog.resolve typeName).value
      args
    simp only [heard, answer, next, perform_add, ← h.catalog] at hheard hnext ⊢
    exact ⟨Noted.ext (congrArg (·.value) hheard) (congrArg (_ ++ ·.notices) hheard), hnext⟩
  | addWith typeName contract args => exact alike_addWith h hs typeName contract args
  | comment text => exact alike_reply (h.addFrom hs "comment" "" _)
  | message text => exact alike_reply (h.addFrom hs "message" "" _)
  | ensureContext => exact alike_reply (h.ensureContext hs)
  | addParameter name options => exact alike_reply (h.addParameter hs name options)
  | connect source destination =>
    unfold heard next answer perform
    rcases h.connect source destination with ⟨n, d, e, hd, he, hde⟩ | ⟨error, hd, he⟩
    · simp only [hd, he]
      exact alike_reply ⟨rfl, rfl, hde⟩
    · simp only [hd, he]
      exact alike_reply ⟨rfl, rfl, h⟩
  | chain items => exact alike_reply (h.chain items)
  | describe text =>
    exact alike_reply ⟨rfl, rfl, h.of_patch { h.patch with description := rfl }⟩
  | tag text =>
    exact alike_reply ⟨rfl, rfl, h.of_patch { h.patch with tags := rfl }⟩
  | register typeName contract =>
    refine alike_reply ⟨rfl, rfl, h.name, ?_, h.boundary, h.parameters, h.context, h.patch⟩
    exact congrArg (·.register typeName contract) h.catalog
  | suspicions => cases hc
  | finalize => cases hc
  | serialize => cases hc
  | save options => cases hc

/-- **An observation leaves a device alike** that has its context box. -/
theorem alike_next_left (h : s.device.Alike e) {c : DeviceCall} (hc : c.isObservation = true)
    (hcontext : s.device.context.isSome) : (s.next c).device.Alike e := by
  have hfinalize : s.device.finalize.value.2.Alike e := by
    rw [Device.finalize_of_context hcontext, Device.complete_device]
    exact h.layout_left
  cases c with
  | suspicions => exact h
  | finalize => exact hfinalize
  | serialize => exact hfinalize
  | save options =>
    rw [next_save]
    exact hfinalize
  | _ => cases hc

/-- **What is left of a call** does to a device what the call does, but for what completing it
writes. -/
theorem alike_residue (h : s.device.Alike t.device) (hs : s.device.patch.WellFormed)
    (c : DeviceCall) : (s.next c).device.Alike (t.after c.residue).device := by
  have hfinalize : s.device.finalize.value.2.Alike t.device.ensureContext.value.2 := by
    rw [Device.finalize_device]
    exact (h.ensureContext hs).device.layout_left
  cases hobs : c.isObservation with
  | false =>
    rw [DeviceCall.residue_of_building hobs]
    exact (alike_next h hs hobs).2
  | true =>
    cases c with
    | suspicions => exact h
    | finalize => exact hfinalize
    | serialize => exact hfinalize
    | save options =>
      rw [next_save]
      exact hfinalize
    | _ => cases hobs

/-! ### Sessions -/

theorem alike_residues (h : s.device.Alike t.device) (hs : s.device.patch.WellFormed)
    (calls : List DeviceCall) :
    (s.after calls).device.Alike (t.after (calls.flatMap (·.residue))).device := by
  induction calls generalizing s t with
  | nil => exact h
  | cons c calls ih =>
    have hs' : (s.next c).device.patch.WellFormed := (s.grows_next c).patch.wellFormed hs
    have hrest := ih (alike_residue h hs c) hs'
    have hsplit : t.after ((c :: calls).flatMap (·.residue)) =
        (t.after c.residue).after (calls.flatMap (·.residue)) := by
      rw [List.flatMap_cons]
      exact List.foldl_append
    rw [hsplit]
    exact hrest

/-- What one hears along calls. -/
def transcript (s : Session) : List DeviceCall → List (DeviceCall × Noted DeviceCall.Answer)
  | [] => []
  | c :: calls => (c, s.heard c) :: (s.next c).transcript calls

/-- Every observation among the calls is made when the device remembers its context box. One that
was added by hand does not count. -/
def ContextFirst (s : Session) : List DeviceCall → Prop
  | [] => True
  | c :: calls => (c.isObservation = true → s.device.context.isSome = true) ∧
      (s.next c).ContextFirst calls

theorem transcript_filter (h : s.device.Alike t.device) (hs : s.device.patch.WellFormed)
    {calls : List DeviceCall} (hc : s.ContextFirst calls) :
    (s.transcript calls).filter (!·.1.isObservation) =
        t.transcript (calls.filter (!·.isObservation)) ∧
      (s.after calls).device.Alike (t.after (calls.filter (!·.isObservation))).device := by
  induction calls generalizing s t with
  | nil => exact ⟨rfl, h⟩
  | cons c calls ih =>
    obtain ⟨hcontext, hrest⟩ := hc
    have hs' : (s.next c).device.patch.WellFormed := (s.grows_next c).patch.wellFormed hs
    cases hobs : c.isObservation with
    | true =>
      -- only one of the sessions goes on, and its device stays alike
      rw [transcript, List.filter_cons_of_neg (by simp [hobs]),
        List.filter_cons_of_neg (by simp [hobs])]
      exact ih (alike_next_left h hobs (hcontext hobs)) hs' hrest
    | false =>
      obtain ⟨hheard, hnext⟩ := alike_next h hs hobs
      obtain ⟨htranscript, hafter⟩ := ih hnext hs' hrest
      rw [transcript, List.filter_cons_of_pos (by simp [hobs]),
        List.filter_cons_of_pos (by simp [hobs]), transcript, hheard, htranscript]
      exact ⟨rfl, hafter⟩

/-- **Observations change nothing.** After any session a call that builds gives the same answer and
the same notices as if the observations that complete the device had only asked for the context box,
and the device is completed to the same device and document, with the same notices. If all
observations come when the device remembers its context box, the same holds without them. Whatever
the session, the device can then be completed, and completing it a second time gives the same
document and leaves the device as it is. -/
theorem observations_change_nothing (name : String) (kind : DeviceKind) (catalog : Catalog)
    (files : FileTree) (home : String) (calls : List DeviceCall) :
    let s := (start name kind catalog files home).value
    let d := (s.after calls).device
    let residue := calls.flatMap (·.residue)
    let building := calls.filter (!·.isObservation)
    (∀ c, c.isObservation = false → (s.after calls).heard c = (s.after residue).heard c) ∧
    d.finalize = (s.after residue).device.finalize ∧
    (s.ContextFirst calls →
      (s.transcript calls).filter (!·.1.isObservation) = s.transcript building ∧
      d.finalize = (s.after building).device.finalize) ∧
    (∃ document, d.finalize.value.1 = .ok document) ∧
    d.finalize.value.2.finalize.value = d.finalize.value := by
  intro s d residue building
  have hs : s.device.Sound := sound_start name kind catalog files home
  have hd : d.Sound := sound_after hs calls
  have halike := Device.Alike.refl s.device
  have hresidue := alike_residues halike hs.patch calls
  refine ⟨fun c hc => (alike_next hresidue hd.patch hc).1, hresidue.finalize_eq hd, fun hc => ?_,
    ?_, ?_⟩
  · obtain ⟨htranscript, hafter⟩ := transcript_filter halike hs.patch hc
    exact ⟨htranscript, hafter.finalize_eq hd⟩
  · exact ⟨_, congrArg Prod.fst (Device.finalize_value hd)⟩
  · exact Device.finalize_twice hd

/-- A device that is looked at twice while it is built hears what it would have heard anyway. -/
theorem preview_changes_nothing :
    let s := (start "Gain" .audioEffect .builtin {} "/home").value
    let calls : List DeviceCall := [.ensureContext, .finalize,
      .addParameter "Amount" { control := .dial }, .save {}, .comment "done"]
    s.ContextFirst calls ∧
      (s.transcript calls).filter (!·.1.isObservation) =
        s.transcript (calls.filter (!·.isObservation)) := by
  intro s calls
  have hc : s.ContextFirst calls :=
    ⟨by simp [DeviceCall.isObservation], fun _ => rfl, by simp [DeviceCall.isObservation],
      fun _ => rfl, by simp [DeviceCall.isObservation], trivial⟩
  obtain ⟨-, -, hunheard, -⟩ :=
    observations_change_nothing "Gain" .audioEffect .builtin {} "/home" calls
  exact ⟨hc, (hunheard hc).1⟩

/-- A context box that was added by hand can be found in the patch, but the device does not remember
it. To complete the device adds another one, and so the box that comes next has a later number than
it would have had. -/
theorem context_box_by_hand_is_not_remembered :
    let s := (start "fx" .audioEffect .empty {} "home").value
    let byHand := s.after [.add contextType ""]
    let calls : List DeviceCall := [.add contextType "", .finalize, .add "cycle~" ""]
    (byHand.device.patch.findType? contextType).isSome = true ∧
    byHand.device.context.isSome = false ∧
    (byHand.answer (.add "cycle~" "")).handle? = some ⟨⟨4⟩, "cycle~", 1, 1⟩ ∧
    ((byHand.next .finalize).answer (.add "cycle~" "")).handle? = some ⟨⟨5⟩, "cycle~", 1, 1⟩ ∧
    (s.transcript calls).filter (!·.1.isObservation) ≠
      s.transcript (calls.filter (!·.isObservation)) := by
  intro s byHand calls
  have hwithout : (byHand.answer (.add "cycle~" "")).handle? = some ⟨⟨4⟩, "cycle~", 1, 1⟩ := by
    decide +kernel
  have hwith : ((byHand.next .finalize).answer (.add "cycle~" "")).handle? =
      some ⟨⟨5⟩, "cycle~", 1, 1⟩ := by
    decide +kernel
  refine ⟨by decide +kernel, by decide +kernel, hwithout, hwith, fun h => ?_⟩
  have hlast := congrArg (fun heard => heard[1]?.map (·.2.value.handle?)) h
  have hsame : ((byHand.next .finalize).answer (.add "cycle~" "")).handle? =
      (byHand.answer (.add "cycle~" "")).handle? := by
    simpa [byHand, calls, after, heard, transcript, DeviceCall.isObservation] using hlast
  rw [hwith, hwithout] at hsame
  exact absurd hsame (by decide)

end Session

end MaxPatch
