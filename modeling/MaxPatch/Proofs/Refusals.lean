import MaxPatch.Proofs.Handles

/-! # Refusals: which cords are taken, and what is said of the others

Six things can be wrong with a cord that is asked for, and several of them at once. `Patch.Fault`
lists them with their rank, the order in which they are looked for; what a patch answers is the
first one (`connect_eq_error_iff`). If there is none, the cord fits and is added, and nothing else
happens (`WellFormed.connect_eq_ok_iff`).

Two endpoints are wired through the ports that they stand for (`Endpoint.standsFor`). Here two more
things can be wrong, and they come first: a box without outlets where the cord begins, and a box or
a parameter without inlets where it ends (`Patch.LinkFault`).

`connections_are_exact` says so for the patch after any history and the device after any calls, and
that neither is changed by a connection that is refused. -/

namespace MaxPatch

/-- The error of the fault of least rank. -/
def IsFirst (fault : Nat → PatchError → Prop) (e : PatchError) : Prop :=
  ∃ rank, fault rank e ∧ ∀ other e', fault other e' → rank ≤ other

theorem IsFirst.unique {fault : Nat → PatchError → Prop}
    (hfault : ∀ rank e e', fault rank e → fault rank e' → e = e') {e e' : PatchError}
    (h : IsFirst fault e) (h' : IsFirst fault e') : e = e' := by
  obtain ⟨rank, he, hleast⟩ := h
  obtain ⟨rank', he', hleast'⟩ := h'
  obtain rfl : rank = rank' := Nat.le_antisymm (hleast _ _ he') (hleast' _ _ he)
  exact hfault rank e e' he he'

/-- A computation names the first fault if it names none but the first, and there is none where it
succeeds. -/
theorem isFirst_iff {α : Type} {fault : Nat → PatchError → Prop} {x : Except PatchError α}
    (hfault : ∀ rank e e', fault rank e → fault rank e' → e = e')
    (hfirst : ∀ e, x = .error e → IsFirst fault e)
    (hnone : ∀ a, x = .ok a → ∀ rank e, ¬ fault rank e) {e : PatchError} :
    x = .error e ↔ IsFirst fault e := by
  refine ⟨hfirst e, fun h => ?_⟩
  cases x with
  | ok a =>
    obtain ⟨rank, hf, -⟩ := h
    exact absurd hf (hnone a rfl rank e)
  | error e' => rw [(hfirst e' rfl).unique hfault h]

namespace Endpoint

/-- The port that an endpoint stands for: an explicit port for itself, a box or a parameter for its
first port on a side. -/
def standsFor (side : Side) : Endpoint → Port
  | box h => { box := h.id, side, index := 0 }
  | parameter r => { box := r.id, side, index := 0 }
  | port p => p

end Endpoint

namespace Patch

/-- What is wrong with a cord between two ports, in the order in which it is looked for. -/
inductive Fault (p : Patch) (source destination : Port) : Nat → PatchError → Prop
  | sourceSide (h : source.side ≠ .outlet) :
      Fault p source destination 0 (.wrongSide source .outlet)
  | destinationSide (h : destination.side ≠ .inlet) :
      Fault p source destination 1 (.wrongSide destination .inlet)
  | sourceBox (h : p.box? source.box = none) :
      Fault p source destination 2 (.boxNotFound source.box)
  | sourcePort {b : Box} (hb : p.box? source.box = some b) (h : b.outlets.length ≤ source.index) :
      Fault p source destination 3
        (.portOutOfRange b.typeName .outlet source.index b.outlets.length)
  | destinationBox (h : p.box? destination.box = none) :
      Fault p source destination 4 (.boxNotFound destination.box)
  | destinationPort {b : Box} (hb : p.box? destination.box = some b)
      (h : b.inlets ≤ destination.index) :
      Fault p source destination 5 (.portOutOfRange b.typeName .inlet destination.index b.inlets)

/-- What is wrong with a cord between two endpoints, in the order in which it is looked for. -/
inductive LinkFault (p : Patch) (first second : Endpoint) : Nat → PatchError → Prop
  | noOutlet {h : Handle} (hbox : first = .box h) (h0 : h.outlets = 0) :
      LinkFault p first second 0 (.portOutOfRange h.typeName .outlet 0 0)
  | noInlet {h : Handle} (hhandle : second.handle? = some h) (h0 : h.inlets = 0) :
      LinkFault p first second 1 (.portOutOfRange h.typeName .inlet 0 0)
  | cord {rank : Nat} {e : PatchError}
      (h : p.Fault (first.standsFor .outlet) (second.standsFor .inlet) rank e) :
      LinkFault p first second (rank + 2) e

variable {p : Patch} {source destination : Port} {first second : Endpoint} {e : PatchError}

/-! ### How the single looks fail -/

theorem bind_eq_error {ε α β : Type} {x : Except ε α} {f : α → Except ε β} {e : ε} :
    (x >>= f) = .error e ↔ x = .error e ∨ ∃ a, x = .ok a ∧ f a = .error e := by
  cases x with
  | error e' => simp [bind, Except.bind]
  | ok a => simp [bind, Except.bind]

theorem expectSide_eq_error {port : Port} {side : Side} :
    expectSide port side = .error e ↔ port.side ≠ side ∧ e = .wrongSide port side := by
  unfold expectSide; split_ifs with h <;> simp [h, eq_comm]

theorem needBox_eq_error {id : BoxId} :
    p.needBox id = .error e ↔ p.box? id = none ∧ e = .boxNotFound id := by
  unfold needBox
  split
  · next h => simp [h]
  · next h => simp [h, eq_comm]

theorem checkedPort_eq_error {id : BoxId} {typeName : String} {side : Side} {index count : Nat} :
    checkedPort id typeName side index count = .error e ↔
      count ≤ index ∧ e = .portOutOfRange typeName side index count := by
  unfold checkedPort
  split_ifs with h
  · simp only [false_iff, not_and]; omega
  · simp only [Except.error.injEq, eq_comm]
    exact ⟨fun he => ⟨by omega, he⟩, fun he => he.2⟩

/-! ### Cords between ports -/

theorem Fault.unique {rank : Nat} {e' : PatchError} (h : p.Fault source destination rank e)
    (h' : p.Fault source destination rank e') : e = e' := by
  cases h with
  | sourceSide | destinationSide | sourceBox | destinationBox => cases h'; rfl
  | sourcePort hb =>
    cases h' with
    | sourcePort hb' => obtain rfl := Option.some.inj (hb.symm.trans hb'); rfl
  | destinationPort hb =>
    cases h' with
    | destinationPort hb' => obtain rfl := Option.some.inj (hb.symm.trans hb'); rfl

theorem Fault.two_le {rank : Nat} (hf : p.Fault source destination rank e)
    (hs : source.side = .outlet) (hd : destination.side = .inlet) : 2 ≤ rank := by
  cases hf with
  | sourceSide h => exact absurd hs h
  | destinationSide h => exact absurd hd h
  | _ => decide

theorem Fault.four_le {rank : Nat} (hf : p.Fault source destination rank e)
    (hs : source.side = .outlet) (hd : destination.side = .inlet) {b : Box}
    (hb : p.box? source.box = some b) (hi : source.index < b.outlets.length) : 4 ≤ rank := by
  have htwo := hf.two_le hs hd
  cases hf with
  | sourceSide | destinationSide => omega
  | sourceBox h => rw [hb] at h; cases h
  | sourcePort hc h =>
    obtain rfl := Option.some.inj (hb.symm.trans hc)
    omega
  | _ => decide

theorem not_fault_of_ok {c : Cord} (h : p.cordBetween source destination = .ok c) (rank : Nat) :
    ¬ p.Fault source destination rank e := by
  simp only [cordBetween, Box.outlet, Box.inlet, bind_eq_ok, expectSide_eq_ok, needBox_eq_ok,
    checkedPort_eq_ok] at h
  obtain ⟨-, hs, -, hd, b, hb, -, ⟨hi, -⟩, b', hb', -, ⟨hi', -⟩, -⟩ := h
  intro hf
  have hfour := hf.four_le hs hd hb hi
  cases hf with
  | destinationBox h => rw [hb'] at h; cases h
  | destinationPort hc h =>
    obtain rfl := Option.some.inj (hb'.symm.trans hc)
    omega
  | _ => omega

/-- **A look at a cord stops at the first fault.** -/
theorem first_fault (h : p.cordBetween source destination = .error e) :
    IsFirst (p.Fault source destination) e := by
  simp only [cordBetween, Box.outlet, Box.inlet, bind_eq_error, expectSide_eq_error,
    expectSide_eq_ok, needBox_eq_error, needBox_eq_ok, checkedPort_eq_error, checkedPort_eq_ok,
    pure, Except.pure, reduceCtorEq, and_false, exists_false, or_false] at h
  -- at each look the ones before it have found nothing, so no fault has a lower rank
  rcases h with ⟨hs, rfl⟩ | ⟨-, hs, ⟨hd, rfl⟩ | ⟨-, hd, ⟨hb, rfl⟩ | ⟨b, hb, ⟨hi, rfl⟩ |
    ⟨-, ⟨hi, -⟩, ⟨hb', rfl⟩ | ⟨b', hb', hi', rfl⟩⟩⟩⟩⟩
  · exact ⟨0, .sourceSide hs, fun _ _ _ => Nat.zero_le _⟩
  · refine ⟨1, .destinationSide hd, fun _ _ hf => ?_⟩
    cases hf with
    | sourceSide h => exact absurd hs h
    | _ => decide
  · exact ⟨2, .sourceBox hb, fun _ _ hf => hf.two_le hs hd⟩
  · refine ⟨3, .sourcePort hb hi, fun _ _ hf => ?_⟩
    have htwo := hf.two_le hs hd
    cases hf with
    | sourceBox h => rw [hb] at h; cases h
    | _ => omega
  · exact ⟨4, .destinationBox hb', fun _ _ hf => hf.four_le hs hd hb hi⟩
  · refine ⟨5, .destinationPort hb' hi', fun _ _ hf => ?_⟩
    have hfour := hf.four_le hs hd hb hi
    cases hf with
    | destinationBox h => rw [hb'] at h; cases h
    | _ => omega

theorem cordBetween_eq_error_iff : p.cordBetween source destination = .error e ↔
    IsFirst (p.Fault source destination) e :=
  isFirst_iff (fun _ _ _ hf hf' => hf.unique hf') (fun _ => first_fault)
    fun _ hc rank _ => not_fault_of_ok hc rank

/-- **A connection that is refused** names the first fault. -/
theorem connect_eq_error_iff : p.connect source destination = .error e ↔
    IsFirst (p.Fault source destination) e := by
  rw [connect_eq, ← cordBetween_eq_error_iff]
  cases p.cordBetween source destination with
  | ok c => simp [Except.map]
  | error e' => simp [Except.map]

/-- **A connection that is taken** adds a cord that fits, and nothing else. -/
theorem WellFormed.connect_eq_ok_iff (hp : p.WellFormed) {n : Nat} {q : Patch} :
    p.connect source destination = .ok (n, q) ↔ p.Fits { source, destination } ∧
      n = p.cords.length ∧ q = { p with
        cords := p.cords ++ [{ source, destination }], nextCord := p.nextCord + 1 } := by
  rw [connect_eq]
  constructor
  · intro h
    cases hc : p.cordBetween source destination with
    | error e => rw [hc] at h; cases h
    | ok c =>
      rw [hc] at h
      obtain ⟨rfl, hfits⟩ := (cordBetween_eq_ok_iff hp).mp hc
      cases h
      exact ⟨hfits, hp.nextCord_eq, rfl⟩
  · rintro ⟨hfits, rfl, rfl⟩
    rw [(cordBetween_eq_ok_iff hp).mpr ⟨rfl, hfits⟩, ← hp.nextCord_eq]
    rfl

/-! ### Cords between endpoints -/

theorem asSource_eq_ok : first.asSource = .ok source ↔
    (∀ h, first = .box h → 0 < h.outlets) ∧ source = first.standsFor .outlet := by
  cases first with
  | box h => simp [Endpoint.asSource, Endpoint.standsFor, Handle.outlet, checkedPort_eq_ok]
  | parameter r =>
    simp [Endpoint.asSource, Endpoint.standsFor, Parameter.value, eq_comm]
  | port q => simp [Endpoint.asSource, Endpoint.standsFor, eq_comm]

theorem asSource_eq_error : first.asSource = .error e ↔
    ∃ h, first = .box h ∧ h.outlets = 0 ∧ e = .portOutOfRange h.typeName .outlet 0 0 := by
  cases first with
  | box h =>
    simp only [Endpoint.asSource, Handle.outlet, checkedPort_eq_error, Nat.le_zero_eq,
      Endpoint.box.injEq, exists_eq_left']
    exact and_congr_right fun h0 => by rw [h0]
  | parameter r => simp [Endpoint.asSource]
  | port q => simp [Endpoint.asSource]

theorem asDestination_eq_ok : second.asDestination = .ok destination ↔
    (∀ h, second.handle? = some h → 0 < h.inlets) ∧
      destination = second.standsFor .inlet := by
  cases second with
  | box h =>
    simp [Endpoint.asDestination, Endpoint.standsFor, Endpoint.handle?, Handle.inlet,
      checkedPort_eq_ok]
  | parameter r =>
    simp [Endpoint.asDestination, Endpoint.standsFor, Endpoint.handle?, Parameter.inlet,
      Parameter.id, Handle.inlet, checkedPort_eq_ok]
  | port q => simp [Endpoint.asDestination, Endpoint.standsFor, Endpoint.handle?, eq_comm]

theorem asDestination_eq_error : second.asDestination = .error e ↔
    ∃ h, second.handle? = some h ∧ h.inlets = 0 ∧ e = .portOutOfRange h.typeName .inlet 0 0 := by
  have hinlet : ∀ h : Handle, h.inlet 0 = .error e ↔
      h.inlets = 0 ∧ e = .portOutOfRange h.typeName .inlet 0 0 := fun h => by
    rw [Handle.inlet, checkedPort_eq_error, Nat.le_zero_eq]
    exact and_congr_right fun h0 => by rw [h0]
  cases second with
  | box h => simp [Endpoint.asDestination, Endpoint.handle?, hinlet]
  | parameter r => simp [Endpoint.asDestination, Endpoint.handle?, Parameter.inlet, hinlet]
  | port q => simp [Endpoint.asDestination, Endpoint.handle?]

theorem LinkFault.unique {rank : Nat} {e' : PatchError} (h : p.LinkFault first second rank e)
    (h' : p.LinkFault first second rank e') : e = e' := by
  cases h with
  | noOutlet hbox h0 =>
    cases h' with
    | noOutlet hbox' => rw [hbox] at hbox'; cases hbox'; rfl
  | noInlet hhandle h0 =>
    cases h' with
    | noInlet hhandle' => rw [hhandle] at hhandle'; cases hhandle'; rfl
  | cord hf =>
    cases h' with
    | cord hf' => exact hf.unique hf'

/-- **A look at a link stops at the first fault.** -/
theorem first_linkFault (h : p.linkCord first second = .error e) :
    IsFirst (p.LinkFault first second) e := by
  simp only [linkCord, bind_eq_error, asSource_eq_error, asSource_eq_ok, asDestination_eq_error,
    asDestination_eq_ok] at h
  rcases h with ⟨h, hbox, h0, rfl⟩ | ⟨-, ⟨hout, rfl⟩, ⟨h, hh, h0, rfl⟩ | ⟨-, ⟨hin, rfl⟩, hc⟩⟩
  · exact ⟨0, .noOutlet hbox h0, fun _ _ _ => Nat.zero_le _⟩
  · refine ⟨1, .noInlet hh h0, fun _ _ hf => ?_⟩
    cases hf with
    | noOutlet hbox h0 => have := hout _ hbox; omega
    | _ => omega
  · obtain ⟨rank, hf, hleast⟩ := first_fault hc
    refine ⟨rank + 2, .cord hf, fun _ _ hf' => ?_⟩
    cases hf' with
    | noOutlet hbox h0 => have := hout _ hbox; omega
    | noInlet hh h0 => have := hin _ hh; omega
    | cord hf' => have := hleast _ _ hf'; omega

theorem not_linkFault_of_ok {c : Cord} (h : p.linkCord first second = .ok c) (rank : Nat) :
    ¬ p.LinkFault first second rank e := by
  simp only [linkCord, bind_eq_ok, asSource_eq_ok, asDestination_eq_ok] at h
  obtain ⟨-, ⟨hout, rfl⟩, -, ⟨hin, rfl⟩, hc⟩ := h
  intro hf
  cases hf with
  | noOutlet hbox h0 => have := hout _ hbox; omega
  | noInlet hh h0 => have := hin _ hh; omega
  | cord hf => exact not_fault_of_ok hc _ hf

/-- **A link that is refused** names the first fault. -/
theorem link_eq_error_iff :
    p.link first second = .error e ↔ IsFirst (p.LinkFault first second) e := by
  have hcord : p.linkCord first second = .error e ↔ IsFirst (p.LinkFault first second) e :=
    isFirst_iff (fun _ _ _ hf hf' => hf.unique hf') (fun _ => first_linkFault)
      fun _ hc rank _ => not_linkFault_of_ok hc rank
  rw [link_eq, ← hcord]
  cases p.linkCord first second with
  | ok c => simp [Except.map]
  | error e' => simp [Except.map]

/-- **A link that is taken** adds a cord that fits between the ports that the endpoints stand for,
and nothing else. -/
theorem WellFormed.link_eq_ok_iff (hp : p.WellFormed) {n : Nat} {q : Patch} :
    p.link first second = .ok (n, q) ↔
      (∀ h, first = .box h → 0 < h.outlets) ∧ (∀ h, second.handle? = some h → 0 < h.inlets) ∧
      p.Fits { source := first.standsFor .outlet, destination := second.standsFor .inlet } ∧
      n = p.cords.length ∧
      q = { p with
        cords := p.cords ++
          [{ source := first.standsFor .outlet, destination := second.standsFor .inlet }]
        nextCord := p.nextCord + 1 } := by
  have hlink : p.link first second = .ok (n, q) ↔ ∃ source, first.asSource = .ok source ∧
      ∃ destination, second.asDestination = .ok destination ∧
        p.connect source destination = .ok (n, q) := by
    rw [link, bind_eq_ok]
    simp only [bind_eq_ok]
  rw [hlink]
  simp only [asSource_eq_ok, asDestination_eq_ok, hp.connect_eq_ok_iff]
  constructor
  · rintro ⟨-, ⟨hout, rfl⟩, -, ⟨hin, rfl⟩, h⟩; exact ⟨hout, hin, h⟩
  · rintro ⟨hout, hin, h⟩; exact ⟨_, ⟨hout, rfl⟩, _, ⟨hin, rfl⟩, h⟩

end Patch

namespace Device

variable {d e : Device} {first second : Endpoint} {n : Nat} {error : PatchError}

theorem connect_eq_ok_iff : d.connect first second = .ok (n, e) ↔
    ∃ q, d.patch.link first second = .ok (n, q) ∧ e = { d with patch := q } := by
  unfold connect
  cases d.patch.link first second with
  | ok r => simp [Prod.ext_iff, eq_comm, and_comm]
  | error => simp

theorem connect_eq_error_iff : d.connect first second = .error error ↔
    IsFirst (d.patch.LinkFault first second) error := by
  rw [← Patch.link_eq_error_iff]
  unfold connect
  cases d.patch.link first second with
  | ok r => simp
  | error => simp

end Device

/-! ### Histories and sessions -/

/-- **Connections are exact.** After any history a patch takes a cord between two ports if it fits,
and adds it under the number of cords there were before; else it names the first fault and stays as
it is. After any calls a device does the same with two endpoints, of which a box needs an outlet
where the cord begins, and a box or a parameter an inlet where it ends. -/
theorem connections_are_exact (history : List Edit) (name : String) (kind : DeviceKind)
    (catalog : Catalog) (files : FileTree) (home : String) (calls : List DeviceCall) :
    (let p := Patch.empty.after history
     ∀ source destination : Port,
      (∀ n q, p.connect source destination = .ok (n, q) ↔
        p.Fits { source, destination } ∧ n = p.cords.length ∧
        q = { p with
          cords := p.cords ++ [{ source, destination, order := 0 }]
          nextCord := p.nextCord + 1 }) ∧
      ∀ e, (p.connect source destination = .error e ↔ IsFirst (p.Fault source destination) e) ∧
        (p.connect source destination = .error e →
          p.perform (.connect source destination) = (.cord (.error e), p))) ∧
    (let s := (Session.start name kind catalog files home).value.after calls
     let d := s.device
     ∀ first second : Endpoint,
      (∀ n e, d.connect first second = .ok (n, e) ↔
        (∀ h, first = .box h → 0 < h.outlets) ∧ (∀ h, second.handle? = some h → 0 < h.inlets) ∧
        d.patch.Fits
          { source := first.standsFor .outlet, destination := second.standsFor .inlet } ∧
        n = d.patch.cords.length ∧
        e = { d with patch := { d.patch with
          cords := d.patch.cords ++ [{
            source := first.standsFor .outlet
            destination := second.standsFor .inlet
            order := 0 }]
          nextCord := d.patch.nextCord + 1 } }) ∧
      ∀ error, (d.connect first second = .error error ↔
          IsFirst (d.patch.LinkFault first second) error) ∧
        (d.connect first second = .error error →
          s.perform (.connect first second) = pure (.cord (.error error), s))) := by
  constructor
  · intro p source destination
    have hp : p.WellFormed := Patch.wellFormed_after history
    refine ⟨fun n q => hp.connect_eq_ok_iff, fun e => ⟨Patch.connect_eq_error_iff, fun he => ?_⟩⟩
    rw [Patch.perform, he]
  · intro s d first second
    have hp : d.patch.WellFormed :=
      (Session.sound_after (Session.sound_start name kind catalog files home) calls).patch
    refine ⟨fun n e => ?_, fun error => ⟨Device.connect_eq_error_iff, fun he => ?_⟩⟩
    · simp only [Device.connect_eq_ok_iff, hp.link_eq_ok_iff]
      constructor
      · rintro ⟨q, ⟨hout, hin, hfits, hn, rfl⟩, he⟩; exact ⟨hout, hin, hfits, hn, he⟩
      · rintro ⟨hout, hin, hfits, hn, he⟩; exact ⟨_, ⟨hout, hin, hfits, hn, rfl⟩, he⟩
    · rw [Session.perform, he]
      rfl

end MaxPatch
