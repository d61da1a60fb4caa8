import Mathlib.Logic.Relation
import MaxPatch.Proofs.Stragglers

/-! # Ripples: how far a new cord is felt

A new cord adds a source to the box where it ends, and to no other box (`WithCord`). So it settles
nothing that was not settled before, and makes no box less deep (`WithCord.settled`,
`WithCord.depth_le`). And only what can be reached from where it ends may notice it: for all other
boxes, all that lies before them is as it was (`WithCord.settled_iff`, `WithCord.depth_eq`). For the
columns this means: `cords_push_downstream`. -/

namespace MaxPatch.Patch

open Relation

/-- A cord leads from one box to another. -/
def Sends (p : Patch) (u v : BoxId) : Prop := u ∈ p.sources v

/-- A box that is no control and no straggler. -/
def Reached (p : Patch) (v : BoxId) : Prop := v ∈ p.logic ∧ v ∉ p.layoutEditor.1.stragglers

theorem WellFormed.reached_iff {p : Patch} (h : p.WellFormed) {v : BoxId} :
    p.Reached v ↔ p.Settled v := by
  have hs : v ∈ p.layoutEditor.1.stragglers ↔ _ := mem_stragglers h
  rw [Reached, hs, not_and, not_not]
  exact ⟨fun ⟨hv, himp⟩ => himp hv, fun hv => ⟨hv.mem_logic, fun _ => hv⟩⟩

theorem WellFormed.columnOf?_of_settled {p : Patch} (h : p.WellFormed) {v : BoxId}
    (hv : p.Settled v) : p.layoutEditor.1.columnOf? v = some (p.depth v) :=
  (h.byDepth (isDepth_depth p)).columnOf v hv

/-! ### One cord more -/

/-- The patch `q` has the boxes of `p` and one cord more, which leads from `source` to `target`. -/
structure WithCord (p q : Patch) (source target : BoxId) : Prop where
  boxes : q.boxes = p.boxes
  sources : ∀ v, q.sources v = if v = target then p.sources v ++ [source] else p.sources v

theorem WellFormed.withCord {p q : Patch} (h : p.WellFormed) {source destination : Port}
    {number : Nat} (hc : p.connect source destination = .ok (number, q)) :
    p.WithCord q source.box destination.box := by
  rw [connect_eq] at hc
  cases hcord : p.cordBetween source destination with
  | error e => rw [hcord] at hc; cases hc
  | ok c =>
    rw [hcord] at hc
    cases hc
    obtain ⟨rfl, -⟩ := (cordBetween_eq_ok_iff h).mp hcord
    refine ⟨rfl, fun v => ?_⟩
    unfold Patch.sources
    rw [cords_addCords, List.filter_append, List.map_append]
    by_cases hv : v = destination.box
    · subst hv; simp
    · simp [hv, Ne.symm hv]

section WithCord
variable {p q : Patch} {source target v : BoxId} (h : p.WithCord q source target)
include h

theorem WithCord.logic : q.logic = p.logic := by unfold Patch.logic; rw [h.boxes]

theorem WithCord.sources_sublist (v : BoxId) : (p.sources v).Sublist (q.sources v) := by
  rw [h.sources]
  split_ifs
  · exact List.sublist_append_left _ _
  · exact List.Sublist.refl _

theorem WithCord.reflTransGen_iff :
    ReflTransGen q.Sends target v ↔ ReflTransGen p.Sends target v := by
  constructor
  · intro hpath
    induction hpath with
    | refl => exact ReflTransGen.refl
    | @tail u w _ hstep ih =>
      unfold Sends at hstep
      rw [h.sources] at hstep
      split_ifs at hstep with hw
      · rw [hw]
      · exact ih.tail hstep
  · exact fun hpath => hpath.lift id fun u w hstep => (h.sources_sublist w).subset hstep

/-! ### Nothing comes forward -/

theorem WithCord.settled (hv : q.Settled v) : p.Settled v :=
  hv.of_fewer_sources (P := fun _ => True) h.logic.symm
    (fun v _ => ⟨(h.sources_sublist v).subperm, fun _ _ => trivial⟩) trivial

theorem WithCord.depth_le (hv : q.Settled v) : p.depth v ≤ q.depth v :=
  depth_le_of_fewer_sources (P := fun _ => True)
    (fun v _ => ⟨(h.sources_sublist v).subset, fun _ _ => trivial⟩) (h.settled hv) hv trivial

/-! ### What cannot be reached stays -/

/-- A box that cannot be reached from where the cord ends has the sources that it had, and these
cannot be reached either. -/
theorem WithCord.sources_of_not_reached (hv : ¬ ReflTransGen p.Sends target v) :
    q.sources v = p.sources v ∧ ∀ u ∈ p.sources v, ¬ ReflTransGen p.Sends target u := by
  have hne : v ≠ target := fun hvt => hv (hvt ▸ ReflTransGen.refl)
  exact ⟨by rw [h.sources, if_neg hne], fun u hu hpath => hv (hpath.tail hu)⟩

theorem WithCord.settled_iff (hv : ¬ ReflTransGen p.Sends target v) :
    q.Settled v ↔ p.Settled v := by
  refine ⟨h.settled, fun hs => hs.of_fewer_sources
    (P := fun w => ¬ ReflTransGen p.Sends target w) h.logic (fun w hw => ?_) hv⟩
  obtain ⟨hsources, hbefore⟩ := h.sources_of_not_reached hw
  exact ⟨hsources ▸ List.Subperm.refl _, hsources ▸ hbefore⟩

theorem WithCord.depth_eq (hv : ¬ ReflTransGen p.Sends target v) (hs : p.Settled v) :
    q.depth v = p.depth v := by
  have hsq := (h.settled_iff hv).mpr hs
  refine Nat.le_antisymm (depth_le_of_fewer_sources
    (P := fun w => ¬ ReflTransGen p.Sends target w) (fun w hw => ?_) hsq hs hv) (h.depth_le hsq)
  obtain ⟨hsources, hbefore⟩ := h.sources_of_not_reached hw
  exact ⟨hsources ▸ List.Subset.refl _, hsources ▸ hbefore⟩

end WithCord

/-! ### The columns -/

/-- **A new cord pushes downstream**, after any history. What is reached with the new cord was reached
before, and in no later column. What cannot be reached from where the cord ends is left as it is: it
is reached if it was before, and in the same column. (The new cord opens no way from there that
there was not before.) -/
theorem cords_push_downstream (history : List Edit) (source destination : Port) (number : Nat)
    (q : Patch) :
    let p := empty.after history
    let l := p.layoutEditor.1
    let m := q.layoutEditor.1
    p.connect source destination = .ok (number, q) →
      (∀ v, q.Reached v → p.Reached v ∧
        ∃ i j, l.columnOf? v = some i ∧ m.columnOf? v = some j ∧ i ≤ j) ∧
      (∀ v ∈ p.logic, ¬ ReflTransGen p.Sends destination.box v →
        (q.Reached v ↔ p.Reached v) ∧
        (p.Reached v → ∃ i, l.columnOf? v = some i ∧ m.columnOf? v = some i)) ∧
      ∀ v, ReflTransGen q.Sends destination.box v ↔ ReflTransGen p.Sends destination.box v := by
  intro p l m hc
  have hp : p.WellFormed := wellFormed_after history
  have h : p.WithCord q source.box destination.box := hp.withCord hc
  have hq : q.WellFormed := by
    have hedit := hp.edit (.connect source destination)
    simpa only [edit, perform, hc] using hedit
  refine ⟨fun v hv => ?_, fun v _ hv => ⟨?_, fun hr => ?_⟩, fun v => h.reflTransGen_iff⟩
  · rw [hq.reached_iff] at hv
    refine ⟨hp.reached_iff.mpr (h.settled hv), _, _, hp.columnOf?_of_settled (h.settled hv),
      hq.columnOf?_of_settled hv, h.depth_le hv⟩
  · rw [hq.reached_iff, hp.reached_iff]
    exact h.settled_iff hv
  · rw [hp.reached_iff] at hr
    refine ⟨_, hp.columnOf?_of_settled hr, ?_⟩
    rw [← h.depth_eq hv hr]
    exact hq.columnOf?_of_settled ((h.settled_iff hv).mpr hr)

/-- Two pairs of boxes become one chain: the first pair stands as before, and the second one is
pushed to the right. -/
theorem joined_pairs_push :
    let node : Contract := { inlets := 1, outlets := [.bang] }
    let out := fun (u : Nat) => (⟨⟨u⟩, .outlet, 0⟩ : Port)
    let into := fun (v : Nat) => (⟨⟨v⟩, .inlet, 0⟩ : Port)
    let history := List.replicate 4 (Edit.add "t" node "" []) ++
      [.connect (out 1) (into 2), .connect (out 3) (into 4)]
    let p := empty.after history
    let q : Patch := { p with
      cords := p.cords ++ [{ source := out 2, destination := into 3 }], nextCord := 3 }
    p.connect (out 2) (into 3) = .ok (2, q) ∧
    p.layoutEditor.1.columns = [[⟨1⟩, ⟨3⟩], [⟨2⟩, ⟨4⟩]] ∧
    q.layoutEditor.1.columns = [[⟨1⟩], [⟨2⟩], [⟨3⟩], [⟨4⟩]] ∧
    p.Reached ⟨4⟩ ∧ (q.Reached ⟨2⟩ ↔ p.Reached ⟨2⟩) := by
  intro node out into history p q
  have hc : p.connect (out 2) (into 3) = .ok (2, q) := rfl
  obtain ⟨hforward, hstays, -⟩ := cords_push_downstream history (out 2) (into 3) 2 q hc
  have hreached : q.Reached ⟨4⟩ := ⟨by decide, by decide⟩
  -- what sends to box 2 is box 1, and nothing sends to that
  have hsecond : p.sources ⟨2⟩ = [⟨1⟩] := by decide
  have hfirst : p.sources ⟨1⟩ = [] := by decide
  have hapart : ¬ ReflTransGen p.Sends ⟨3⟩ ⟨2⟩ := fun hpath => by
    rcases ReflTransGen.cases_tail hpath with h | ⟨u, hu, hs⟩
    · cases h
    · obtain rfl : u = ⟨1⟩ := by simpa [Sends, hsecond] using hs
      rcases ReflTransGen.cases_tail hu with h | ⟨t, -, ht⟩
      · cases h
      · simp [Sends, hfirst] at ht
  exact ⟨hc, by decide, by decide, (hforward _ hreached).1, (hstays ⟨2⟩ (by decide) hapart).1⟩

end MaxPatch.Patch
