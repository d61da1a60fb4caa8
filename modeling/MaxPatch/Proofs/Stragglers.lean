import Mathlib.Logic.Relation
import Mathlib.Order.WellFoundedSet
import MaxPatch.Proofs.Columns
import MaxPatch.Proofs.Coverage

/-! # Stragglers: what the layering never reaches

A box is out of reach for a reason of its own in three cases: it lies on a cycle of cords, a control
feeds it (`Blocked`), or some box sends to it twice (`Doubled`). Whatever lies behind such a box is
out of reach as well, and nothing else is: `stragglers_behind_obstacles`. The third case is easily
overlooked. A pair of stereo cords is enough for it, in a patch that has no cycle and no control:
`stereo_pair_straggles`.

Behind a settled box there is no way back to an obstacle, as all that sends to a settled box is
settled and of smaller depth (`Settled.of_path`, `Settled.depth_lt`). The other way round, a box
without an obstacle before it is settled by induction along the cords before it: they have no cycle
and there are only finitely many boxes (`settled_of_clear`). -/

namespace MaxPatch.Patch

open Relation

/-! ### Obstacles -/

/-- A cord leads from one box to another, and neither is a control. -/
def LogicCord (p : Patch) (u v : BoxId) : Prop := u ∈ p.logic ∧ v ∈ p.logic ∧ u ∈ p.sources v

/-- A box on a cycle of boxes that are no controls, or fed by a control. -/
def Blocked (p : Patch) (v : BoxId) : Prop :=
  TransGen p.LogicCord v v ∨ ∃ u ∈ p.controls, u ∈ p.sources v

/-- A box to which some box sends twice. -/
def Doubled (p : Patch) (v : BoxId) : Prop := ¬ (p.sources v).Nodup

variable {p : Patch} {u v : BoxId}

/-! ### Before a settled box there is no obstacle -/

theorem Settled.source (h : p.Settled v) (hu : u ∈ p.sources v) : p.Settled u := by
  obtain ⟨-, -, before⟩ := h
  exact before u hu

theorem Settled.of_path (h : p.Settled v) (hp : ReflTransGen p.LogicCord u v) : p.Settled u := by
  induction hp using ReflTransGen.head_induction_on with
  | refl => exact h
  | head hcord _ ih => exact ih.source hcord.2.2

theorem Settled.depth_lt (h : p.Settled v) (hp : TransGen p.LogicCord u v) :
    p.depth u < p.depth v := by
  have hstep : ∀ {u w}, p.Settled w → u ∈ p.sources w → p.depth u < p.depth w := fun hw hu =>
    ((isDepth_depth p).le_iff hw).mp le_rfl _ hu
  induction hp using TransGen.head_induction_on with
  | single hcord => exact hstep h hcord.2.2
  | head hcord hrest ih =>
    have hw := h.of_path hrest.to_reflTransGen
    have := hstep hw hcord.2.2
    omega

theorem Settled.not_blocked (hl : ∀ u ∈ p.controls, u ∉ p.logic) (h : p.Settled v) :
    ¬ p.Blocked v := by
  rintro (hcycle | ⟨u, hu, hsource⟩)
  · have := h.depth_lt hcycle
    omega
  · exact hl u hu (h.source hsource).mem_logic

theorem Settled.not_doubled (h : p.Settled v) : ¬ p.Doubled v := by
  obtain ⟨-, once, -⟩ := h
  exact not_not.mpr once

/-! ### Without an obstacle before it a box is settled -/

theorem WellFormed.mem_ids_of_source (h : p.WellFormed) (hu : u ∈ p.sources v) : u ∈ p.ids := by
  obtain ⟨c, hc, rfl, -⟩ := mem_sources.mp hu
  obtain ⟨b, hb, -⟩ := (h.wired c hc).source
  obtain ⟨hmem, hid⟩ := h.box?_eq_some_iff.mp hb
  exact List.mem_map.mpr ⟨b, hmem, hid⟩

theorem settled_of_clear (hw : p.WellFormed) (hv : v ∈ p.logic)
    (clear : ∀ u, ReflTransGen p.LogicCord u v → ¬ p.Blocked u ∧ ¬ p.Doubled u) : p.Settled v := by
  -- along the cords on the way to `v`, in any number of steps: a strict order, as none leads back
  let before : BoxId → BoxId → Prop :=
    TransGen fun u w => p.LogicCord u w ∧ ReflTransGen p.LogicCord w v
  have hirrefl : ∀ u, ¬ before u u := by
    intro u hu
    have hcycle : TransGen p.LogicCord u u := hu.lift id fun _ _ h => h.1
    obtain ⟨w, -, -, hpath⟩ := TransGen.tail'_iff.mp hu
    exact (clear u hpath).1 (Or.inl hcycle)
  have : IsStrictOrder BoxId before :=
    { irrefl := hirrefl, trans := fun _ _ _ => TransGen.trans }
  have hfinite : {u | u ∈ p.logic}.WellFoundedOn before := p.logic.finite_toSet.wellFoundedOn
  refine hfinite.induction (P := fun w => ReflTransGen p.LogicCord w v → p.Settled w) hv
    (fun w hwl ih hpath => ?_) ReflTransGen.refl
  obtain ⟨hblocked, hdoubled⟩ := clear w hpath
  refine Settled.intro hwl (not_not.mp hdoubled) fun u hu => ?_
  have hlogic : u ∈ p.logic := by
    rcases mem_ids_iff.mp (hw.mem_ids_of_source hu) with hc | hl
    · exact absurd (Or.inr ⟨u, hc, hu⟩) hblocked
    · exact hl
  have hcord : p.LogicCord u w := ⟨hlogic, hwl, hu⟩
  exact ih u hlogic (TransGen.single ⟨hcord, hpath⟩) (ReflTransGen.head hcord hpath)

/-! ### The stragglers of a layout -/

theorem mem_stragglers (hw : p.WellFormed) :
    v ∈ p.editorLayout.stragglers ↔ v ∈ p.logic ∧ ¬ p.Settled v := by
  rw [(hw.byDepth (isDepth_depth p)).stragglers]
  simp

/-- **Stragglers lie behind obstacles.** -/
theorem stragglers_behind_obstacles (history : List Edit) :
    let p := empty.after history
    let l := p.layoutEditor.1
    (∀ v, v ∈ l.stragglers ↔
      ∃ u ∈ p.logic, (p.Blocked u ∨ p.Doubled u) ∧ ReflTransGen p.LogicCord u v) ∧
    ((∀ u ∈ p.logic, ¬ p.Blocked u ∧ ¬ p.Doubled u) → l.stragglers = []) := by
  intro p l
  have hw : p.WellFormed := wellFormed_after history
  have hiff : ∀ v, v ∈ l.stragglers ↔
      ∃ u ∈ p.logic, (p.Blocked u ∨ p.Doubled u) ∧ ReflTransGen p.LogicCord u v := by
    intro v
    rw [show l = p.editorLayout from rfl, mem_stragglers hw]
    constructor
    · rintro ⟨hv, hs⟩
      by_contra hnone
      refine hs (settled_of_clear hw hv fun u hpath => ?_)
      have hu : u ∈ p.logic := by
        rcases ReflTransGen.cases_head hpath with rfl | ⟨w, hcord, -⟩
        · exact hv
        · exact hcord.1
      rw [← not_or]
      exact fun h => hnone ⟨u, hu, h, hpath⟩
    · rintro ⟨u, hu, hobstacle, hpath⟩
      refine ⟨?_, fun hs => ?_⟩
      · rcases ReflTransGen.cases_tail hpath with rfl | ⟨w, -, hcord⟩
        · exact hu
        · exact hcord.2.1
      · have hsettled := hs.of_path hpath
        rcases hobstacle with h | h
        · exact hsettled.not_blocked hw.not_mem_logic h
        · exact hsettled.not_doubled h
  refine ⟨hiff, fun hclear => List.eq_nil_iff_forall_not_mem.mpr fun v hv => ?_⟩
  obtain ⟨u, hu, hobstacle, -⟩ := (hiff v).mp hv
  rcases hobstacle with h | h
  · exact (hclear u hu).1 h
  · exact (hclear u hu).2 h

/-- Cycles and controls alone do not explain the stragglers: both channels of a stereo cord leave
the second box behind. -/
theorem stereo_pair_straggles :
    let stereo : Contract := { inlets := 2, outlets := [.signal, .signal] }
    let p := empty.after
      [.add "plugin~" stereo "" [], .add "plugout~" stereo "" [],
        .connect ⟨⟨1⟩, .outlet, 0⟩ ⟨⟨2⟩, .inlet, 0⟩, .connect ⟨⟨1⟩, .outlet, 1⟩ ⟨⟨2⟩, .inlet, 1⟩]
    (∀ v, ¬ p.Blocked v) ∧ p.layoutEditor.1.stragglers = [⟨2⟩] ∧
    ¬ ∀ v, v ∈ p.layoutEditor.1.stragglers ↔
      ∃ u ∈ p.logic, p.Blocked u ∧ ReflTransGen p.LogicCord u v := by
  intro stereo p
  have hcontrols : p.controls = [] := by decide
  have hstragglers : p.layoutEditor.1.stragglers = [⟨2⟩] := by decide
  have hcord : ∀ {u v}, p.LogicCord u v → u = ⟨1⟩ ∧ v = ⟨2⟩ := by
    rintro u v ⟨-, -, hu⟩
    obtain ⟨c, hc, rfl, rfl⟩ := mem_sources.mp hu
    have hall : ∀ c ∈ p.cords, c.source.box = ⟨1⟩ ∧ c.destination.box = ⟨2⟩ := by decide
    exact hall c hc
  have hfree : ∀ v, ¬ p.Blocked v := by
    rintro v (hcycle | ⟨u, hu, -⟩)
    · -- a cycle through `v` would begin and end with the only pair of boxes that is joined
      obtain ⟨w, hfirst, -⟩ := TransGen.head'_iff.mp hcycle
      obtain ⟨t, -, hlast⟩ := TransGen.tail'_iff.mp hcycle
      have h1 := (hcord hfirst).1
      have h2 := (hcord hlast).2
      rw [h1] at h2
      exact absurd h2 (by decide)
    · rw [hcontrols] at hu
      exact absurd hu List.not_mem_nil
  refine ⟨hfree, hstragglers, fun h => ?_⟩
  obtain ⟨u, -, hblocked, -⟩ := (h ⟨2⟩).mp (by rw [hstragglers]; exact List.mem_singleton_self _)
  exact hfree u hblocked

end MaxPatch.Patch
