import MaxPatch.Proofs.Observation

/-! # Handles: what one keeps of a box stays true

Handles and parameters are given out once and used much later, when the patch has grown and has
been laid out. A patch honours one of them (`Patch.Honours`) if the box behind it is there, has that
handle and gives the same ports and the same errors; a parameter has its value in range, and a raw
value if its box has a second outlet.

A patch honours what it has just given out (`WellFormed.honours_perform`), and goes on to do so as
it grows (`Honours.extends`). A device also keeps some itself, for its boundary, its context box and
its parameters, and these it honours all along (`Device.Faithful`). `handles_stay_true` says so for
any history and any session, and that any two ports got in this way can be wired. -/

namespace MaxPatch

/-- What an answer gives one to wire with. -/
def Edit.Answer.endpoint? : Edit.Answer → Option Endpoint
  | handle h => some (.box h)
  | parameter r => some (.parameter r)
  | _ => none

/-- What an answer gives one to wire with. -/
def DeviceCall.Answer.endpoint? : DeviceCall.Answer → Option Endpoint
  | handle h => some (.box h)
  | parameter r => some (.parameter r)
  | _ => none

namespace Endpoint

/-- The handle behind a box or a parameter. -/
def handle? : Endpoint → Option Handle
  | box h => some h
  | parameter r => some r.handle
  | port _ => none

/-- The ports that one gets from a box or a parameter. -/
inductive Gives : Endpoint → Port → Prop
  | inlet {e : Endpoint} {h : Handle} {k : Nat} {port : Port} (handle : e.handle? = some h)
      (inRange : h.inlet k = .ok port) : Gives e port
  | outlet {e : Endpoint} {h : Handle} {k : Nat} {port : Port} (handle : e.handle? = some h)
      (inRange : h.outlet k = .ok port) : Gives e port
  | value (r : Parameter) : Gives (.parameter r) r.value
  | raw {r : Parameter} {port : Port} (inRange : r.raw = .ok port) : Gives (.parameter r) port

end Endpoint

theorem Box.handle_eq_of_make {b b' : Box} (h : b'.make = b.make) : b'.handle = b.handle :=
  congrArg (fun m : Box.Make => Handle.mk m.id m.typeName m.inlets m.outlets.length) h

namespace Patch

/-- **A patch honours an endpoint**: the box behind it is there, with the same handle, and answers
for every port as the handle does; and the outlets of a parameter are there. -/
structure Honours (p : Patch) (e : Endpoint) : Prop where
  handle : ∀ h, e.handle? = some h → ∃ b, p.box? h.id = some b ∧ b.handle = h ∧
    ∀ k, h.inlet k = b.inlet k ∧ h.outlet k = b.outlet k
  parameter : ∀ r, e = .parameter r → ∃ b, p.box? r.id = some b ∧ b.outlet 0 = .ok r.value ∧
    ((∃ port, r.raw = .ok port) ↔ 2 ≤ b.outlets.length)

/-- A patch has a port. -/
def Has (p : Patch) (port : Port) : Prop :=
  ∃ b, p.box? port.box = some b ∧ match port.side with
    | .inlet => port.index < b.inlets
    | .outlet => port.index < b.outlets.length

variable {p q : Patch} {e : Endpoint} {h : Handle} {r : Parameter}

/-! ### Handles that are honoured -/

theorem raw_eq_ok_iff : (∃ port, r.raw = .ok port) ↔ 2 ≤ r.handle.outlets := by
  unfold Parameter.raw Handle.outlet
  split_ifs with h2
  · simp [h2]
  · simp only [checkedPort_eq_ok, exists_and_left, exists_eq, and_true]
    omega

theorem honours_box {b : Box} (hb : p.box? h.id = some b) (hh : b.handle = h) :
    p.Honours (.box h) where
  handle := by
    rintro _ ⟨⟩
    subst hh
    exact ⟨b, hb, rfl, fun k => ⟨rfl, rfl⟩⟩
  parameter := by rintro r ⟨⟩

theorem honours_parameter {b : Box} (hb : p.box? r.id = some b) (hh : b.handle = r.handle)
    (hvalue : 0 < r.handle.outlets) : p.Honours (.parameter r) where
  handle := by
    rintro _ ⟨⟩
    exact ⟨b, hb, hh, fun k => by rw [← hh]; exact ⟨rfl, rfl⟩⟩
  parameter := by
    rintro _ ⟨⟩
    have hid : b.id = r.id := congrArg Handle.id hh
    have hcount : b.outlets.length = r.handle.outlets := congrArg Handle.outlets hh
    refine ⟨b, hb, ?_, by rw [raw_eq_ok_iff, hcount]⟩
    rw [Box.outlet, checkedPort_eq_ok, hcount, hid]
    exact ⟨hvalue, rfl⟩

theorem Honours.known (he : p.Honours e) (hh : e.handle? = some h) :
    ∃ b, p.box? h.id = some b ∧ b.handle = h := by
  obtain ⟨b, hb, hbh, -⟩ := he.handle h hh
  exact ⟨b, hb, hbh⟩

theorem Honours.value_lt (he : p.Honours (.parameter r)) : 0 < r.handle.outlets := by
  obtain ⟨b, hb, hh⟩ := he.known rfl
  obtain ⟨b', hb', hvalue, -⟩ := he.parameter r rfl
  obtain rfl : b = b' := Option.some.inj (hb.symm.trans hb')
  rw [Box.outlet, checkedPort_eq_ok] at hvalue
  rw [← hh]
  exact hvalue.1

/-- **What a patch honours it goes on to honour.** -/
theorem Honours.extends (he : p.Honours e) (hpq : p.Extends q) : q.Honours e := by
  have hknown : ∀ h, e.handle? = some h → ∃ b, q.box? h.id = some b ∧ b.handle = h := by
    intro h hh
    obtain ⟨b, hb, rfl⟩ := he.known hh
    obtain ⟨b', hb', hmake⟩ := hpq.box? hb
    exact ⟨b', hb', Box.handle_eq_of_make hmake⟩
  cases e with
  | box h =>
    obtain ⟨b, hb, hh⟩ := hknown h rfl
    exact honours_box hb hh
  | parameter r =>
    obtain ⟨b, hb, hh⟩ := hknown r.handle rfl
    exact honours_parameter hb hh he.value_lt
  | port => exact ⟨by rintro _ ⟨⟩, by rintro _ ⟨⟩⟩

/-! ### Ports that are given out -/

theorem Honours.has (he : p.Honours e) {port : Port} (hg : e.Gives port) : p.Has port := by
  have houtlet : ∀ {h : Handle} {k : Nat} {port : Port}, e.handle? = some h →
      h.outlet k = .ok port → p.Has port := by
    intro h k port hh hk
    obtain ⟨b, hb, rfl⟩ := he.known hh
    obtain ⟨hlt, rfl⟩ := checkedPort_eq_ok.mp hk
    exact ⟨b, hb, hlt⟩
  cases hg with
  | inlet hh hk =>
    obtain ⟨b, hb, rfl⟩ := he.known hh
    obtain ⟨hlt, rfl⟩ := checkedPort_eq_ok.mp hk
    exact ⟨b, hb, hlt⟩
  | outlet hh hk => exact houtlet hh hk
  | value r => exact houtlet (k := 0) rfl (checkedPort_eq_ok.mpr ⟨he.value_lt, rfl⟩)
  | @raw r port hr =>
    unfold Parameter.raw at hr
    split_ifs at hr
    exact houtlet rfl hr

/-- **Ports that a patch has can be wired**, from an outlet to an inlet. -/
theorem WellFormed.connect_ok (hp : p.WellFormed) {source destination : Port} (hs : p.Has source)
    (hd : p.Has destination) (leaves : source.side = .outlet)
    (arrives : destination.side = .inlet) :
    ∃ q, p.connect source destination = .ok (p.cords.length, q) := by
  obtain ⟨b, hb, hi⟩ := hs
  obtain ⟨b', hb', hi'⟩ := hd
  rw [leaves] at hi
  rw [arrives] at hi'
  have hfits : p.Fits { source, destination } := ⟨leaves, arrives, ⟨b, hb, hi⟩, ⟨b', hb', hi'⟩, rfl⟩
  rw [connect_eq, (cordBetween_eq_ok_iff hp).mpr ⟨rfl, hfits⟩, hp.nextCord_eq]
  exact ⟨_, rfl⟩

/-! ### Histories -/

theorem WellFormed.honours_add (hp : p.WellFormed) (typeName : String) (contract : Contract)
    (args : String) (attributes : Members) :
    (p.add typeName contract args attributes).2.Honours
      (.box (p.add typeName contract args attributes).1) := by
  refine honours_box (b := p.newBox typeName contract args attributes) ?_ rfl
  rw [hp.box?_add]
  exact if_pos rfl

theorem WellFormed.honours_addParameter (hp : p.WellFormed) (name : String)
    (o : ParameterOptions) :
    (p.addParameter name o).2.Honours (.parameter (p.addParameter name o).1) := by
  obtain ⟨b, hb, hh⟩ := (hp.honours_add o.control.renderClass (o.control.contract o.size.1) ""
    (o.attributes name)).known rfl
  have hvalue : 0 < o.control.outlets.length := by cases o.control <;> decide
  have hbox : (p.addParameter name o).2.box? (p.addParameter name o).1.id =
      some (b.setEditorRect { x := 0, y := 0, width := o.size.1, height := o.size.2 }) := by
    have hid : (p.addParameter name o).1.id = p.nextId := rfl
    rw [hid, addParameter, box?_update]
    exact (congrArg _ hb).trans (congrArg some (if_pos rfl))
  exact honours_parameter hbox hh hvalue

/-- **A patch honours what it gives out.** -/
theorem WellFormed.honours_perform (hp : p.WellFormed) (edit : Edit)
    (he : (p.perform edit).1.endpoint? = some e) : (p.edit edit).Honours e := by
  cases edit with
  | add typeName contract args attributes =>
    rw [edit_add]
    rw [perform, add?] at he
    split_ifs at he ⊢
    · obtain rfl := Option.some.inj he
      exact hp.honours_add typeName contract args attributes
    · cases he
  | addParameter name options =>
    obtain rfl := Option.some.inj he
    exact hp.honours_addParameter name options
  | connect source destination =>
    simp only [perform] at he
    split at he
    · cases he
    · cases he
  | _ => cases he

theorem WellFormed.honours_answers (hp : p.WellFormed) (history : List Edit) :
    ∀ e ∈ (p.answers history).filterMap (·.endpoint?), (p.after history).Honours e := by
  induction history generalizing p with
  | nil => simp [answers]
  | cons edit history ih =>
    intro e he
    obtain ⟨answer, ha, he⟩ := List.mem_filterMap.mp he
    rcases List.mem_cons.mp ha with rfl | ha
    · exact (hp.honours_perform edit he).extends (extends_after _ history)
    · exact ih (hp.edit edit) e (List.mem_filterMap.mpr ⟨answer, ha, he⟩)

end Patch

/-! ### Devices -/

namespace Device

/-- The boxes and parameters that a device keeps itself: its boundary, its context box and its
parameters. -/
def kept (d : Device) : List Endpoint :=
  .box d.boundary.input :: .box d.boundary.output ::
    (d.context.toList.map .box ++ d.parameters.map .parameter)

/-- A device that honours what it keeps. -/
def Faithful (d : Device) : Prop := ∀ e ∈ d.kept, d.patch.Honours e

variable {d : Device}

theorem Faithful.of_kept {e : Device} (hd : d.Faithful) (hpatch : d.patch.Extends e.patch)
    (hkept : e.kept = d.kept) : e.Faithful := fun x hx => by
  rw [hkept] at hx
  exact (hd x hx).extends hpatch

theorem Faithful.addWith (hd : d.Faithful) (typeName : String) (contract : Contract) (args : String)
    (attributes : Members) : (d.addWith typeName contract args attributes).2.Faithful :=
  hd.of_kept (Patch.extends_add d.patch typeName contract args attributes) rfl

theorem Faithful.addParameter (hd : d.Faithful) (hp : d.patch.WellFormed) (name : String)
    (o : ParameterOptions) : (d.addParameter name o).2.Faithful := by
  intro e he
  have hkept : (d.addParameter name o).2.kept =
      d.kept ++ [.parameter (d.addParameter name o).1] := by
    simp [kept, Device.addParameter]
  rw [hkept, List.mem_append, List.mem_singleton] at he
  rcases he with he | rfl
  · exact (hd e he).extends (Patch.extends_edit d.patch (.addParameter name o))
  · exact hp.honours_addParameter name o

theorem Faithful.ensureContext (hd : d.Faithful) (hp : d.patch.WellFormed) :
    d.ensureContext.value.2.Faithful ∧
      d.ensureContext.value.2.patch.Honours (.box d.ensureContext.value.1) := by
  unfold Device.ensureContext
  split
  · next h hh => exact ⟨hd, hd (.box h) (by simp [kept, hh])⟩
  · next hnone =>
    have hbox := hp.honours_add contextType (d.catalog.resolve contextType).value "" []
    have hold := hd.addWith contextType (d.catalog.resolve contextType).value "" []
    refine ⟨fun e he => ?_, hbox⟩
    -- the context box stands behind the boundary, and before it there was none
    rcases List.mem_cons.mp he with rfl | he
    · exact hold _ List.mem_cons_self
    rcases List.mem_cons.mp he with rfl | he
    · exact hold _ (List.mem_cons_of_mem _ List.mem_cons_self)
    rcases List.mem_append.mp he with he | he
    · obtain rfl : e = _ := List.mem_singleton.mp he
      exact hbox
    · refine hold e ?_
      exact List.mem_cons_of_mem _ (List.mem_cons_of_mem _ (List.mem_append_right _ he))

theorem Faithful.chain (hd : d.Faithful) (items : List Endpoint) : (d.chain items).2.Faithful :=
  hd.of_kept (Patch.becomes_chain d.patch items).extends rfl

theorem boundary_ensureContext (d : Device) :
    d.ensureContext.value.2.boundary = d.boundary := by
  unfold Device.ensureContext
  split
  · rfl
  · rfl

theorem kept_layout (d : Device) :
    d.layout.2.kept = d.kept ∧ d.layout.2.boundary = d.boundary := by
  rw [layout_eq]
  split
  · exact ⟨rfl, rfl⟩
  · exact ⟨rfl, rfl⟩

theorem Faithful.finalize (hd : d.Faithful) (hp : d.patch.WellFormed) :
    d.finalize.value.2.Faithful := by
  rw [finalize_device]
  exact (hd.ensureContext hp).1.of_kept (grows_layout _).patch.extends (kept_layout _).1

theorem boundary_finalize (d : Device) : d.finalize.value.2.boundary = d.boundary := by
  rw [finalize_device, (kept_layout _).2, boundary_ensureContext]

end Device

/-! ### Sessions -/

namespace Session

/-- **What a call keeps to**: the device goes on to honour what it keeps, has its boundary as before
and honours what the call gives out. -/
theorem faithful_next {s : Session} (hs : s.device.Faithful) (hp : s.device.patch.WellFormed)
    (c : DeviceCall) :
    (s.next c).device.Faithful ∧ (s.next c).device.boundary = s.device.boundary ∧
      ∀ e, (s.answer c).endpoint? = some e → (s.next c).device.patch.Honours e := by
  have hadd : ∀ typeName contract args attributes,
      let r := s.device.addWith typeName contract args attributes
      r.2.Faithful ∧ r.2.boundary = s.device.boundary ∧
        ∀ e, some (.box r.1) = some e → r.2.patch.Honours e := by
    intro typeName contract args attributes r
    refine ⟨hs.addWith typeName contract args attributes, rfl, ?_⟩
    rintro _ ⟨⟩
    exact hp.honours_add typeName contract args attributes
  have haddWith : ∀ typeName contract args,
      let c := DeviceCall.addWith typeName contract args
      (s.next c).device.Faithful ∧ (s.next c).device.boundary = s.device.boundary ∧
        ∀ e, (s.answer c).endpoint? = some e → (s.next c).device.patch.Honours e := by
    intro typeName contract args c
    simp only [c, next, answer, perform_addWith]
    split_ifs
    · exact hadd typeName contract args []
    · exact ⟨hs, rfl, by rintro _ ⟨⟩⟩
  cases c with
  | add typeName args => exact haddWith typeName _ args
  | addWith typeName contract args => exact haddWith typeName contract args
  | comment text => exact hadd "comment" _ "" _
  | message text => exact hadd "message" _ "" _
  | ensureContext =>
    refine ⟨(hs.ensureContext hp).1, s.device.boundary_ensureContext, ?_⟩
    rintro _ ⟨⟩
    exact (hs.ensureContext hp).2
  | addParameter name options =>
    refine ⟨hs.addParameter hp name options, rfl, ?_⟩
    rintro _ ⟨⟩
    exact hp.honours_addParameter name options
  | connect source destination =>
    rw [next_connect]
    refine ⟨hs.chain [source, destination], rfl, ?_⟩
    simp only [answer, perform]
    split
    · rintro _ ⟨⟩
    · rintro _ ⟨⟩
  | chain items => exact ⟨hs.chain items, rfl, by rintro _ ⟨⟩⟩
  | describe text =>
    exact ⟨hs.of_kept (s.grows_next (.describe text)).patch.extends rfl, rfl, by rintro _ ⟨⟩⟩
  | tag text =>
    exact ⟨hs.of_kept (s.grows_next (.tag text)).patch.extends rfl, rfl, by rintro _ ⟨⟩⟩
  | register typeName contract =>
    exact ⟨hs.of_kept (Patch.Extends.refl _) rfl, rfl, by rintro _ ⟨⟩⟩
  | suspicions => exact ⟨hs, rfl, by rintro _ ⟨⟩⟩
  | finalize => exact ⟨hs.finalize hp, s.device.boundary_finalize, by rintro _ ⟨⟩⟩
  | serialize => exact ⟨hs.finalize hp, s.device.boundary_finalize, by rintro _ ⟨⟩⟩
  | save options =>
    rw [next_save]
    exact ⟨hs.finalize hp, s.device.boundary_finalize, by rintro _ ⟨⟩⟩

/-- **What a session keeps to**: in the end the device honours what it keeps and whatever its calls
have given out. -/
theorem faithful_after {s : Session} (hs : s.device.Faithful) (hp : s.device.patch.WellFormed)
    (calls : List DeviceCall) :
    (s.after calls).device.Faithful ∧ (s.after calls).device.boundary = s.device.boundary ∧
      ∀ e ∈ (s.transcript calls).filterMap (·.2.value.endpoint?),
        (s.after calls).device.patch.Honours e := by
  induction calls generalizing s with
  | nil => exact ⟨hs, rfl, by simp [transcript]⟩
  | cons c calls ih =>
    obtain ⟨hnext, hboundary, hgiven⟩ := faithful_next hs hp c
    obtain ⟨hafter, hboundary', hgiven'⟩ := ih hnext ((s.grows_next c).patch.wellFormed hp)
    refine ⟨hafter, hboundary'.trans hboundary, fun e he => ?_⟩
    obtain ⟨heard, hh, he⟩ := List.mem_filterMap.mp he
    rcases List.mem_cons.mp hh with rfl | hh
    · exact (hgiven e he).extends ((s.next c).grows_after calls).patch.extends
    · exact hgiven' e (List.mem_filterMap.mpr ⟨heard, hh, he⟩)

theorem faithful_start (name : String) (kind : DeviceKind) (catalog : Catalog) (files : FileTree)
    (home : String) : (start name kind catalog files home).value.device.Faithful := by
  set input := (catalog.resolve kind.inputType).value
  set output := (catalog.resolve kind.outputType).value
  have hempty := Patch.wellFormed_empty
  have hinput := hempty.honours_add kind.inputType input "" []
  have houtput := (hempty.add kind.inputType input "" []).honours_add kind.outputType output "" []
  intro e he
  rcases List.mem_cons.mp he with rfl | he
  · exact hinput.extends (Patch.extends_add _ kind.outputType output "" [])
  · obtain rfl : e = _ := List.mem_singleton.mp he
    exact houtput

end Session

/-! ### Channels -/

/-- **What a boundary box opens** of a number of channels, if it has a number of ports: the channels
that are among both, and no others; a channel is out of range just when the device has not so
many. -/
structure DeviceKind.Opens (kind : DeviceKind) (channels ports : Nat)
    (port : Nat → Except DeviceError Port) : Prop where
  opened : ∀ c, (∃ found, port c = .ok found) ↔ c < channels ∧ c < ports
  outOfRange : ∀ c k n m, port c = .error (.channelOutOfRange k n m) ↔
    channels ≤ c ∧ k = kind ∧ n = channels ∧ m = c

theorem Boundary.opens_channelPort (kind : DeviceKind) (channels ports : Nat) (id : BoxId)
    (typeName : String) (side : Side) : kind.Opens channels ports fun c =>
      channelPort kind channels c (checkedPort id typeName side c ports) where
  opened := fun c => by
    unfold channelPort checkedPort
    split_ifs with hc hp
    · exact ⟨by rintro ⟨_, ⟨⟩⟩, fun h => by omega⟩
    · exact ⟨fun _ => ⟨by omega, hp⟩, fun _ => ⟨_, rfl⟩⟩
    · exact ⟨by rintro ⟨_, ⟨⟩⟩, fun h => absurd h.2 hp⟩
  outOfRange := fun c k n m => by
    unfold channelPort checkedPort
    split_ifs with hc hp
    · simp [hc, eq_comm]
    · exact ⟨by rintro ⟨⟩, fun h => absurd h.1 hc⟩
    · exact ⟨by rintro ⟨⟩, fun h => absurd h.1 hc⟩

theorem Boundary.channelPort_eq_ok {kind : DeviceKind} {channels channel : Nat}
    {port : Except PatchError Port} {found : Port}
    (h : channelPort kind channels channel port = .ok found) : port = .ok found := by
  unfold channelPort at h
  split_ifs at h
  cases port with
  | error e => cases h
  | ok _ => cases h; rfl

theorem Device.channel_gives {d : Device} {c : Nat} {port : Port}
    (h : d.input c = .ok port ∨ d.output c = .ok port) : ∃ e ∈ d.kept, e.Gives port := by
  rcases h with h | h
  · exact ⟨.box d.boundary.input, by simp [kept], .outlet rfl (Boundary.channelPort_eq_ok h)⟩
  · exact ⟨.box d.boundary.output, by simp [kept], .inlet rfl (Boundary.channelPort_eq_ok h)⟩

/-! ### Wiring what was given out -/

/-- What one has got from a patch along a history: handles and parameters from its answers, and the
handles of its boxes at any time. -/
inductive Patch.Given (history : List Edit) : Endpoint → Prop
  | answer {e : Endpoint} (mem : e ∈ (empty.answers history).filterMap (·.endpoint?)) :
      Given history e
  | box {before more : List Edit} {b : Box} (split : history = before ++ more)
      (mem : b ∈ (empty.after before).boxes) : Given history (.box b.handle)

/-- What one has got from a device along calls: handles and parameters from its answers, and at any
time what it keeps and the handles of its boxes. -/
inductive Session.Given (s : Session) (calls : List DeviceCall) : Endpoint → Prop
  | answer {e : Endpoint} (mem : e ∈ (s.transcript calls).filterMap (·.2.value.endpoint?)) :
      Given s calls e
  | kept {before more : List DeviceCall} {e : Endpoint} (split : calls = before ++ more)
      (mem : e ∈ (s.after before).device.kept) : Given s calls e
  | box {before more : List DeviceCall} {b : Box} (split : calls = before ++ more)
      (mem : b ∈ (s.after before).device.patch.boxes) : Given s calls (.box b.handle)

/-- The ports that one has got from a device along calls: those of what it has given, and at any
time those of its channels. -/
inductive Session.Offered (s : Session) (calls : List DeviceCall) : Port → Prop
  | given {e : Endpoint} {port : Port} (given : s.Given calls e) (gives : e.Gives port) :
      Offered s calls port
  | channel {before more : List DeviceCall} {c : Nat} {port : Port} (split : calls = before ++ more)
      (opened : (s.after before).device.input c = .ok port ∨
        (s.after before).device.output c = .ok port) : Offered s calls port

/-- Any two of these ports can be wired, from an outlet to an inlet. -/
def Patch.Accepts (p : Patch) (ports : Port → Prop) : Prop :=
  ∀ source destination, ports source → ports destination → source.side = .outlet →
    destination.side = .inlet → ∃ q, p.connect source destination = .ok (p.cords.length, q)

theorem Patch.WellFormed.accepts {p : Patch} (hp : p.WellFormed) {ports : Port → Prop}
    (h : ∀ port, ports port → p.Has port) : p.Accepts ports :=
  fun _ _ hs hd leaves arrives => hp.connect_ok (h _ hs) (h _ hd) leaves arrives

theorem Patch.WellFormed.honours_handle {p : Patch} (hp : p.WellFormed) {b : Box}
    (hb : b ∈ p.boxes) : p.Honours (.box b.handle) :=
  honours_box (hp.box?_eq_some_iff.mpr ⟨hb, rfl⟩) rfl

theorem Patch.Given.honours {history : List Edit} {e : Endpoint} (h : Given history e) :
    (empty.after history).Honours e := by
  cases h with
  | answer mem => exact wellFormed_empty.honours_answers history e mem
  | @box before more b split mem =>
    rw [split, after_append]
    exact ((wellFormed_after before).honours_handle mem).extends (extends_after _ more)

theorem Session.Given.honours {s : Session} (hs : s.device.Faithful) (hsound : s.device.Sound)
    {calls : List DeviceCall} {e : Endpoint} (h : s.Given calls e) :
    (s.after calls).device.patch.Honours e := by
  have hlater : ∀ before more : List DeviceCall,
      (s.after before).device.patch.Extends (s.after (before ++ more)).device.patch := by
    intro before more
    have hafter : s.after (before ++ more) = (s.after before).after more := List.foldl_append
    rw [hafter]
    exact ((s.after before).grows_after more).patch.extends
  cases h with
  | answer mem => exact (faithful_after hs hsound.patch calls).2.2 e mem
  | @kept before more e split mem =>
    rw [split]
    exact ((faithful_after hs hsound.patch before).1 e mem).extends (hlater before more)
  | @box before more b split mem =>
    rw [split]
    exact ((sound_after hsound before).patch.honours_handle mem).extends (hlater before more)

theorem Session.Offered.exists_given {s : Session} {calls : List DeviceCall} {port : Port}
    (h : s.Offered calls port) : ∃ e, s.Given calls e ∧ e.Gives port := by
  cases h with
  | given he hg => exact ⟨_, he, hg⟩
  | channel split hc =>
    obtain ⟨e, hkept, hg⟩ := Device.channel_gives hc
    exact ⟨e, .kept split hkept, hg⟩

/-- **Handles stay true.** At the end of any history a patch honours all handles and parameters that
one has got from it, and so does a device at the end of any session; any two ports that one gets
from these, or from the channels of the device, can be wired. A device opens the channels that its
kind has, as far as the box has ports for them by the contract with which it was made. -/
theorem handles_stay_true (history : List Edit) (name : String) (kind : DeviceKind)
    (catalog : Catalog) (files : FileTree) (home : String) (calls : List DeviceCall) :
    (let p := Patch.empty.after history
     (∀ e, Patch.Given history e → p.Honours e) ∧
     p.Accepts fun port => ∃ e, Patch.Given history e ∧ e.Gives port) ∧
    (let s := (Session.start name kind catalog files home).value
     let d := (s.after calls).device
     (∀ e, s.Given calls e → d.patch.Honours e) ∧
     d.patch.Accepts (s.Offered calls) ∧
     kind.Opens kind.inputChannels (catalog.resolve kind.inputType).value.outlets.length d.input ∧
     kind.Opens kind.outputChannels (catalog.resolve kind.outputType).value.inlets d.output) := by
  constructor
  · refine ⟨fun _ => Patch.Given.honours, (Patch.wellFormed_after history).accepts ?_⟩
    rintro port ⟨e, he, hg⟩
    exact he.honours.has hg
  · intro s d
    have hstart : s.device.Faithful := Session.faithful_start name kind catalog files home
    have hsound : s.device.Sound := Session.sound_start name kind catalog files home
    obtain ⟨-, hboundary, -⟩ := Session.faithful_after hstart hsound.patch calls
    have hpatch : d.patch.WellFormed := (Session.sound_after hsound calls).patch
    refine ⟨fun _ => Session.Given.honours hstart hsound, hpatch.accepts ?_, ?_, ?_⟩
    · intro port hport
      obtain ⟨e, he, hg⟩ := hport.exists_given
      exact (he.honours hstart hsound).has hg
    · show kind.Opens _ _ d.boundary.inputPort
      rw [hboundary]
      exact Boundary.opens_channelPort kind kind.inputChannels _ _ _ .outlet
    · show kind.Opens _ _ d.boundary.outputPort
      rw [hboundary]
      exact Boundary.opens_channelPort kind kind.outputChannels _ _ _ .inlet

/-- A handle from the beginning of a session still wires when its type has been filed anew and the
device has been completed; an input whose box was made with one outlet has one channel, not two. -/
theorem old_handle_still_wires :
    let catalog := Catalog.empty.register "plugin~" { inlets := 2, outlets := [.signal] }
    let calls : List DeviceCall := [.addWith "gain~" { inlets := 2, outlets := [.signal] } "",
      .register "gain~" { inlets := 0, outlets := [] }, .addParameter "Level" { control := .dial },
      .finalize, .add "gain~" ""]
    let gain : Handle := { id := ⟨3⟩, typeName := "gain~", inlets := 2, outlets := 1 }
    ∃ s d, s = (Session.start "Gain" .audioEffect catalog {} "/home").value ∧
      d = (s.after calls).device ∧ s.Given calls (.box gain) ∧ d.patch.Honours (.box gain) ∧
      (∃ q, d.patch.connect ⟨⟨3⟩, .outlet, 0⟩ ⟨⟨3⟩, .inlet, 1⟩ = .ok (d.patch.cords.length, q)) ∧
      (∃ port, d.input 0 = .ok port) ∧ ¬ ∃ port, d.input 1 = .ok port := by
  intro catalog calls gain
  refine ⟨_, _, rfl, rfl, ?_⟩
  obtain ⟨hhonours, haccepts, hinput, -⟩ :=
    (handles_stay_true [] "Gain" .audioEffect catalog {} "/home" calls).2
  have hgiven : (Session.start "Gain" .audioEffect catalog {} "/home").value.Given calls
      (.box gain) := .answer List.mem_cons_self
  refine ⟨hgiven, hhonours _ hgiven, ?_, ?_, fun h => ?_⟩
  · have hout : gain.outlet 0 = .ok ⟨⟨3⟩, .outlet, 0⟩ := rfl
    have hin : gain.inlet 1 = .ok ⟨⟨3⟩, .inlet, 1⟩ := rfl
    exact haccepts _ _ (.given hgiven (.outlet rfl hout)) (.given hgiven (.inlet rfl hin)) rfl rfl
  · exact (hinput.opened 0).mpr (by decide)
  · exact absurd ((hinput.opened 1).mp h).2 (by decide)

end MaxPatch
