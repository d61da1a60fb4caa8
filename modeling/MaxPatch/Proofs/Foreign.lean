import MaxPatch.Proofs.Refusals

/-! # Foreign ports: what a patch can tell of the ports of another

A port says the number of its box, its side and its index, and not which patch it comes from. Every
patch numbers its boxes from 1, so a patch has ports in common with another one, and cannot tell
those from its own: `stranger_taken_for_own` wires a box through the port of a box of another patch.

Other foreign ports are refused at either end, whatever is at the other end, since there is nothing
that they could lead to (`foreign_ports`). -/

namespace MaxPatch

namespace Patch

variable {p : Patch} {port other : Port} {c : Cord}

theorem Fits.has (h : p.Fits c) : p.Has c.source ∧ p.Has c.destination := by
  obtain ⟨b, hb, hi⟩ := h.source
  obtain ⟨b', hb', hi'⟩ := h.destination
  refine ⟨⟨b, hb, ?_⟩, b', hb', ?_⟩
  · rw [h.leaves]; exact hi
  · rw [h.arrives]; exact hi'

/-- **A patch gives out the ports that it has**, and no others. -/
theorem has_iff_given (history : List Edit) : (empty.after history).Has port ↔
    ∃ own, Given history own ∧ own.Gives port := by
  constructor
  · rintro ⟨b, hb, hi⟩
    obtain ⟨hmem, hid⟩ := (wellFormed_after history).box?_eq_some_iff.mp hb
    refine ⟨.box b.handle, .box (List.append_nil history).symm hmem, ?_⟩
    obtain ⟨id, side, index⟩ := port
    obtain rfl : b.id = id := hid
    cases side with
    | inlet => exact .inlet rfl (checkedPort_eq_ok.mpr ⟨hi, rfl⟩)
    | outlet => exact .outlet rfl (checkedPort_eq_ok.mpr ⟨hi, rfl⟩)
  · rintro ⟨own, hgiven, hgives⟩
    exact hgiven.honours.has hgives

/-- A port that the patch has not got is refused at both ends of a cord. -/
theorem WellFormed.refuses (hp : p.WellFormed) (h : ¬ p.Has port) (other : Port) :
    (∃ e, p.perform (.connect port other) = (.cord (.error e), p)) ∧
      ∃ e, p.perform (.connect other port) = (.cord (.error e), p) := by
  have hrefused : ∀ source destination : Port, ¬ (p.Has source ∧ p.Has destination) →
      ∃ e, p.perform (.connect source destination) = (.cord (.error e), p) := by
    intro source destination hends
    rw [perform]
    cases hc : p.connect source destination with
    | error e => exact ⟨e, rfl⟩
    | ok r => exact absurd (hp.connect_eq_ok_iff.mp hc).1.has hends
  exact ⟨hrefused port other fun hends => h hends.1, hrefused other port fun hends => h hends.2⟩

/-- **Foreign ports.** A port that comes from one patch is refused by another at both ends of a cord
and leaves that patch as it is, unless the other patch gives out the same port: then it is wired
like any port of its own. -/
theorem foreign_ports (history history' : List Edit) :
    let p := empty.after history
    ∀ (e : Endpoint) (port : Port), Given history' e → e.Gives port →
      ((∀ own, Given history own → ¬ own.Gives port) → ∀ other,
        (∃ error, p.perform (.connect port other) = (.cord (.error error), p)) ∧
        ∃ error, p.perform (.connect other port) = (.cord (.error error), p)) ∧
      ((∃ own, Given history own ∧ own.Gives port) →
        p.Accepts fun port' => port' = port ∨ ∃ own, Given history own ∧ own.Gives port') := by
  intro p e port _ _
  have hp : p.WellFormed := wellFormed_after history
  constructor
  · intro hstrange
    refine hp.refuses fun hport => ?_
    obtain ⟨own, hgiven, hgives⟩ := (has_iff_given history).mp hport
    exact hstrange own hgiven hgives
  · intro hown
    refine hp.accepts ?_
    rintro port' (rfl | hown')
    · exact (has_iff_given history).mpr hown
    · exact (has_iff_given history).mpr hown'

/-- The first tests of a foreign port: the third box of another patch, of which this one has only
one, and the second outlet of its first box, of which the box here has none. -/
theorem strangers_refused :
    let osc : Contract := { inlets := 2, outlets := [.signal] }
    let pair : Contract := { inlets := 2, outlets := [.signal, .signal] }
    let history : List Edit := [.add "cycle~" osc "" []]
    let history' : List Edit :=
      [.add "plugin~" pair "" [], .add "cycle~" osc "" [], .add "plugin~" pair "" []]
    let stray : Endpoint := .box { id := ⟨3⟩, typeName := "plugin~", inlets := 2, outlets := 2 }
    let wide : Endpoint := .box { id := ⟨1⟩, typeName := "plugin~", inlets := 2, outlets := 2 }
    let p := empty.after history
    (Given history' stray ∧ stray.Gives ⟨⟨3⟩, .outlet, 1⟩ ∧
      ∃ error, p.perform (.connect ⟨⟨3⟩, .outlet, 1⟩ ⟨⟨1⟩, .inlet, 0⟩) = (.cord (.error error), p)) ∧
    Given history' wide ∧ wide.Gives ⟨⟨1⟩, .outlet, 1⟩ ∧
      ∃ error, p.perform (.connect ⟨⟨1⟩, .outlet, 1⟩ ⟨⟨1⟩, .inlet, 0⟩) = (.cord (.error error), p) := by
  intro osc pair history history' stray wide p
  have hstray : Given history' stray := .answer (by decide)
  have hwide : Given history' wide := .answer (by decide)
  have hthird : stray.Gives ⟨⟨3⟩, .outlet, 1⟩ := .outlet rfl (k := 1) rfl
  have hsecond : wide.Gives ⟨⟨1⟩, .outlet, 1⟩ := .outlet rfl (k := 1) rfl
  have hnobox : ¬ p.Has ⟨⟨3⟩, .outlet, 1⟩ := by
    rintro ⟨b, ⟨⟩, -⟩
  have hnoport : ¬ p.Has ⟨⟨1⟩, .outlet, 1⟩ := by
    rintro ⟨b, ⟨⟩, h⟩
    exact absurd h (by decide)
  have hrefused := fun e port given gives => (foreign_ports history history' e port given gives).1
  refine ⟨⟨hstray, hthird, ?_⟩, hwide, hsecond, ?_⟩
  · refine (hrefused stray _ hstray hthird (fun own hown hgives => hnobox ?_) _).1
    exact (has_iff_given history).mpr ⟨own, hown, hgives⟩
  · refine (hrefused wide _ hwide hsecond (fun own hown hgives => hnoport ?_) _).1
    exact (has_iff_given history).mpr ⟨own, hown, hgives⟩

/-- **A stranger is taken for one's own.** Each of two patches has one box, an oscillator here and
an audio input there. The first outlet of the input is wired in the patch of the oscillator, which
now sends to itself. -/
theorem stranger_taken_for_own :
    let history : List Edit := [.add "cycle~" { inlets := 2, outlets := [.signal] } "" []]
    let history' : List Edit :=
      [.add "plugin~" { inlets := 2, outlets := [.signal, .signal] } "" []]
    let input : Endpoint := .box { id := ⟨1⟩, typeName := "plugin~", inlets := 2, outlets := 2 }
    let port : Port := { box := ⟨1⟩, side := .outlet, index := 0 }
    let inlet : Port := { box := ⟨1⟩, side := .inlet, index := 0 }
    let p := empty.after history
    Given history' input ∧ input.Gives port ∧ p.boxes.map (·.typeName) = ["cycle~"] ∧
      p.perform (.connect port inlet) =
        (.cord (.ok 0), { p with cords := [⟨port, inlet, 0⟩], nextCord := 1 }) := by
  intro history history' input port inlet p
  have hgiven : Given history' input := .answer (by decide)
  have hgives : input.Gives port := .outlet rfl (k := 0) rfl
  exact ⟨hgiven, hgives, rfl, rfl⟩

end Patch

end MaxPatch
