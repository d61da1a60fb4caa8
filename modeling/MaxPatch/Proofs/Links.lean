import MaxPatch.Proofs.Histories

/-! # Links: what wiring adds to a patch

Whether two endpoints can be wired depends on the makes of the boxes only (`linkCord_congr`), and a
link that is taken adds its cord at the end and changes nothing else (`link_eq`). So a chain does
what its links do one by one: it adds a cord for every pair of neighbours before the first that is
refused (`linked`, `chain_eq`). -/

namespace MaxPatch

/-- A cord leads from the port that the first of two endpoints stands for to the one that the second
stands for. -/
structure Cord.Joins (c : Cord) (ends : Endpoint × Endpoint) : Prop where
  source : ends.1.asSource = .ok c.source
  destination : ends.2.asDestination = .ok c.destination

namespace Patch

/-! ### Makes decide -/

theorem map_make_box? (p : Patch) (id : BoxId) :
    (p.box? id).map (·.make) = match id.number with
      | 0 => none
      | n + 1 => p.skeleton.makes[n]? := by
  obtain ⟨n⟩ := id
  cases n with
  | zero => rfl
  | succ n => rw [box?_eq_getElem?]; exact List.getElem?_map.symm

theorem map_make_needBox {p q : Patch} (h : p.skeleton.makes = q.skeleton.makes) (id : BoxId) :
    Box.make <$> p.needBox id = Box.make <$> q.needBox id := by
  have hb : (p.box? id).map (·.make) = (q.box? id).map (·.make) := by
    rw [map_make_box?, map_make_box?, h]
  unfold needBox
  cases hp : p.box? id with
  | none =>
    rw [hp, Option.map_none, eq_comm, Option.map_eq_none_iff] at hb
    rw [hb]
  | some b =>
    rw [hp, Option.map_some, eq_comm, Option.map_eq_some_iff] at hb
    obtain ⟨b', hb', hm⟩ := hb
    rw [hb']
    exact congrArg Except.ok hm.symm

theorem cordBetween_eq (p : Patch) (source destination : Port) :
    p.cordBetween source destination = (do
      expectSide source .outlet
      expectSide destination .inlet
      let m ← Box.make <$> p.needBox source.box
      let source ← checkedPort m.id m.typeName .outlet source.index m.outlets.length
      let m ← Box.make <$> p.needBox destination.box
      let destination ← checkedPort m.id m.typeName .inlet destination.index m.inlets
      return { source, destination }) := by
  simp only [cordBetween, bind_map_left]
  rfl

theorem cordBetween_congr {p q : Patch} (h : p.skeleton.makes = q.skeleton.makes)
    (source destination : Port) :
    p.cordBetween source destination = q.cordBetween source destination := by
  rw [cordBetween_eq p, cordBetween_eq q, map_make_needBox h, map_make_needBox h]

/-! ### Links -/

/-- The cord that a link makes, or the first fault that is found. -/
def linkCord (p : Patch) (first second : Endpoint) : Except PatchError Cord := do
  let source ← first.asSource
  let destination ← second.asDestination
  p.cordBetween source destination

theorem linkCord_congr {p q : Patch} (h : p.skeleton.makes = q.skeleton.makes)
    (first second : Endpoint) : p.linkCord first second = q.linkCord first second := by
  simp only [linkCord, cordBetween_congr h]

theorem linkCord_eq_ok_iff {p : Patch} (h : p.WellFormed) {first second : Endpoint} {c : Cord} :
    p.linkCord first second = .ok c ↔ c.Joins (first, second) ∧ p.Fits c := by
  simp only [linkCord, bind_eq_ok, cordBetween_eq_ok_iff h]
  constructor
  · rintro ⟨source, hs, destination, hd, rfl, hc⟩; exact ⟨⟨hs, hd⟩, hc⟩
  · rintro ⟨⟨hs, hd⟩, hc⟩
    obtain ⟨source, destination, order⟩ := c
    obtain rfl : order = 0 := hc.order
    exact ⟨source, hs, destination, hd, rfl, hc⟩

/-- **A link** adds the cord that it makes at the end, if it makes one. -/
theorem link_eq (p : Patch) (first second : Endpoint) :
    p.link first second = (p.linkCord first second).map fun c => (p.nextCord, p.addCords [c]) := by
  unfold link linkCord
  cases first.asSource with
  | error e => rfl
  | ok source =>
    cases second.asDestination with
    | error e => rfl
    | ok destination => exact connect_eq p source destination

theorem link_eq_ok_iff {p : Patch} {first second : Endpoint} {r : Nat × Patch} :
    p.link first second = .ok r ↔
      ∃ c, p.linkCord first second = .ok c ∧ r = (p.nextCord, p.addCords [c]) := by
  rw [link_eq]
  cases p.linkCord first second with
  | error e => simp [Except.map]
  | ok c => simp [Except.map, eq_comm]

theorem edit_of_link {p q : Patch} {first second : Endpoint} {n : Nat}
    (h : p.link first second = .ok (n, q)) : ∃ source destination,
      p.edit (.connect source destination) = q := by
  unfold link at h
  obtain ⟨source, -, h⟩ := bind_eq_ok.mp h
  obtain ⟨destination, -, h⟩ := bind_eq_ok.mp h
  exact ⟨source, destination, by simp only [edit, perform, h]⟩

/-! ### Chains -/

/-- The neighbours in a chain that are wired: those before the first two that are refused. -/
def linked (p : Patch) : List Endpoint → List (Endpoint × Endpoint)
  | first :: second :: rest =>
    match p.link first second with
    | .ok (_, p) => (first, second) :: p.linked (second :: rest)
    | .error _ => []
  | _ => []

/-- **A chain adds a cord for each pair of neighbours that is wired**, in their order. -/
theorem chain_eq {p : Patch} (h : p.WellFormed) (items : List Endpoint) :
    ∃ cords, (p.chain items).2 = p.addCords cords ∧
      List.Forall₂ Cord.Joins cords (p.linked items) := by
  fun_induction linked p items with
  | case1 p first second rest n q hl ih =>
    -- the rest of the chain is wired to a patch that is well-formed as well
    obtain ⟨source, destination, hq⟩ := edit_of_link hl
    obtain ⟨c, hc, hr⟩ := link_eq_ok_iff.mp hl
    obtain ⟨cords, hcords, hjoins⟩ := ih (hq ▸ h.edit _)
    obtain rfl : q = p.addCords [c] := congrArg Prod.snd hr
    refine ⟨c :: cords, ?_, List.Forall₂.cons ((linkCord_eq_ok_iff h).mp hc).1 hjoins⟩
    rw [chain, hl]
    exact hcords.trans (addCords_append p [c] cords).symm
  | case2 p first second rest e hl =>
    refine ⟨[], ?_, List.Forall₂.nil⟩
    rw [chain, hl, addCords_nil]
  | case3 p items hitems =>
    refine ⟨[], ?_, List.Forall₂.nil⟩
    rw [chain, addCords_nil]
    exact hitems

end Patch

end MaxPatch
