import MaxPatch.Proofs.Precedence
import MaxPatch.Proofs.Sums

/-! # Tables: the flow of a whole patch

`adjacency` and `inDegrees` come out of one pass over the cords. One cord changes the entry of one
box: in the one table of the box that it leaves (`noteSuccessor`), in the other of the box at which
it arrives (`countArrival`). So in the end the entries hold what `successors` and `inDegree` say of
each box (`adjacency_eq`, `WellFormed.inDegrees_eq`), which is what the layering asks.

The tables treat parallel cords differently, and that decides whom the layering can reach: a box is
named by at most as many others as cords arrive at it, and by as many only if no two of these cords
come from one box. `tables_agree_with_cords` says so for the patch after any history. -/

namespace MaxPatch.Patch

/-! ### The table of successors -/

theorem foldl_noteSuccessor (cords : List Cord) (table : List (BoxId × List BoxId)) :
    cords.foldl (fun table c => noteSuccessor table c.source.box c.destination.box) table =
      table.map fun (id, noted) =>
        (id, ((cords.filter (·.source.box = id)).map (·.destination.box)).foldl
          (fun seen v => if v ∈ seen then seen else seen ++ [v]) noted) := by
  induction cords generalizing table with
  | nil => simp
  | cons c cords ih =>
    rw [List.foldl_cons, ih, noteSuccessor, List.map_map]
    refine List.map_congr_left fun ⟨id, noted⟩ _ => ?_
    by_cases hc : c.source.box = id
    · simp [hc]
    · simp [hc, Ne.symm hc]

/-- **The table of successors** has for every box what it sends to. -/
theorem adjacency_eq (p : Patch) : p.adjacency = p.ids.map fun id => (id, p.successors id) := by
  rw [adjacency, foldl_noteSuccessor, List.map_map]
  rfl

/-! ### The table of counts -/

theorem sum_countArrival (id : BoxId) (table : List (BoxId × Nat)) :
    ((countArrival id table).map (·.2)).sum = (table.map (·.2)).sum + 1 := by
  induction table with
  | nil => rfl
  | cons e table ih =>
    obtain ⟨other, n⟩ := e
    rw [countArrival]
    split_ifs <;> simp only [List.map_cons, List.sum_cons, ih] <;> omega

theorem sum_foldl_countArrival (cords : List Cord) (table : List (BoxId × Nat)) :
    ((cords.foldl (fun table c => countArrival c.destination.box table) table).map (·.2)).sum =
      (table.map (·.2)).sum + cords.length := by
  induction cords generalizing table with
  | nil => rfl
  | cons c cords ih =>
    rw [List.foldl_cons, ih, sum_countArrival, List.length_cons]
    omega

/-- **The counts add up to the number of cords.** -/
theorem sum_inDegrees (p : Patch) : (p.inDegrees.map (·.2)).sum = p.cords.length := by
  rw [inDegrees, sum_foldl_countArrival, List.map_map]
  simp [Function.comp_def]

theorem countArrival_eq {ids : List BoxId} (hids : ids.Pairwise fun u v => u.number < v.number)
    {v : BoxId} (hv : v ∈ ids) (count : BoxId → Nat) :
    countArrival v (ids.map fun id => (id, count id)) =
      ids.map fun id => (id, count id + if v = id then 1 else 0) := by
  induction ids with
  | nil => cases hv
  | cons u ids ih =>
    obtain ⟨hu, hids⟩ := List.pairwise_cons.mp hids
    rw [List.map_cons, countArrival, List.map_cons]
    rcases List.mem_cons.mp hv with rfl | hv
    · rw [if_pos rfl, if_pos rfl]
      refine congrArg _ (List.map_congr_left fun w hw => ?_)
      have hne : v ≠ w := fun h => Nat.lt_irrefl _ (h ▸ hu w hw)
      rw [if_neg hne, Nat.add_zero]
    · have hlt := hu v hv
      have hne : v ≠ u := fun h => Nat.lt_irrefl _ (h ▸ hlt)
      rw [if_neg hne.symm, if_neg (by omega), if_neg hne, Nat.add_zero, ih hids hv]

theorem foldl_countArrival {ids : List BoxId} (hids : ids.Pairwise fun u v => u.number < v.number)
    {cords : List Cord} (hcords : ∀ c ∈ cords, c.destination.box ∈ ids) (count : BoxId → Nat) :
    cords.foldl (fun table c => countArrival c.destination.box table)
        (ids.map fun id => (id, count id)) =
      ids.map fun id => (id, count id + (cords.filter (·.destination.box = id)).length) := by
  induction cords generalizing count with
  | nil => rfl
  | cons c cords ih =>
    obtain ⟨hc, hcords⟩ := List.forall_mem_cons.mp hcords
    rw [List.foldl_cons, countArrival_eq hids hc, ih hcords]
    refine List.map_congr_left fun id _ => ?_
    by_cases hid : c.destination.box = id
    · simp [hid]; omega
    · simp [hid]

theorem WellFormed.ids_ordered {p : Patch} (h : p.WellFormed) :
    p.ids.Pairwise fun u v => u.number < v.number := by
  refine List.pairwise_iff_getElem.mpr fun i j hi hj hij => ?_
  rw [ids, List.length_map] at hi hj
  have hbox : ∀ (k : Nat) (hk : k < p.boxes.length), p.boxes[k].id = ⟨k + 1⟩ := fun k hk =>
    h.numbered k _ (List.getElem?_eq_getElem hk)
  simp only [ids, List.getElem_map, hbox]
  omega

/-- **The table of counts** has for every box how many cords arrive at it. -/
theorem WellFormed.inDegrees_eq {p : Patch} (h : p.WellFormed) :
    p.inDegrees = p.ids.map fun id => (id, p.inDegree id) := by
  have hcords : ∀ c ∈ p.cords, c.destination.box ∈ p.ids := fun c hc => by
    obtain ⟨b, hb, -⟩ := (h.wired c hc).destination
    obtain ⟨hmem, hid⟩ := h.box?_eq_some_iff.mp hb
    exact List.mem_map.mpr ⟨b, hmem, hid⟩
  rw [inDegrees, foldl_countArrival h.ids_ordered hcords fun _ => 0]
  simp only [Nat.zero_add]
  rfl

/-! ### What the entries say -/

theorem pairwise_firstCord (p : Patch) (u : BoxId) :
    (p.successors u).Pairwise fun v w => p.firstCord u v < p.firstCord u w := by
  refine List.pairwise_iff_getElem.mpr fun i j hi hj hij => ?_
  have hnodup := nodup_successors (p := p) u
  have hplace : ∀ (k : Nat) (hk : k < (p.successors u).length),
      u ∈ p.sources (p.successors u)[k] ∧ (p.successors u).idxOf (p.successors u)[k] = k :=
    fun k hk => ⟨mem_successors.mp (List.getElem_mem hk), hnodup.idxOf_getElem k hk⟩
  obtain ⟨hvi, hi'⟩ := hplace i hi
  obtain ⟨hvj, hj'⟩ := hplace j hj
  rcases Nat.lt_trichotomy (p.firstCord u (p.successors u)[i])
      (p.firstCord u (p.successors u)[j]) with hlt | heq | hgt
  · exact hlt
  · have hsame := firstCord_inj hvi hvj heq
    rw [hsame, hj'] at hi'
    omega
  · have hbefore := successors_before hvj hgt
    omega

theorem nodup_sources_iff {p : Patch} {v : BoxId} : (p.sources v).Nodup ↔
    p.cords.Pairwise fun c c' => c.destination.box = v → c'.destination.box = v →
      c.source.box ≠ c'.source.box := by
  rw [sources, List.Nodup, List.pairwise_map, List.pairwise_filter]
  simp only [decide_eq_true_eq]

theorem countP_adjacency (p : Patch) (v : BoxId) :
    p.adjacency.countP (v ∈ ·.2) = (p.ids.flatMap p.successors).count v := by
  rw [count_flatMap_successors, adjacency_eq, List.countP_map, List.countP_eq_length_filter]
  refine congrArg List.length (List.filter_congr fun u _ => ?_)
  exact decide_eq_decide.mpr mem_successors

/-- **The tables agree with the cords.** After any history both tables have one entry for every box,
in order. The entry of successors names, once each and in the order of the first cords to them, the
boxes that a cord leads to; the other entry is the number of cords that arrive, and all of these add
up to the number of cords. A box is named at most as often as cords arrive at it, and as often if
and only if no two cords arrive from one box. These are the answers that the layering works with. -/
theorem tables_agree_with_cords (history : List Edit) :
    let p := empty.after history
    (p.adjacency.map (·.1) = p.ids ∧ p.inDegrees.map (·.1) = p.ids ∧ p.ids.Nodup) ∧
    (∀ u named, (u, named) ∈ p.adjacency → named = p.successors u ∧
      (∀ v, v ∈ named ↔ ∃ c ∈ p.cords, c.source.box = u ∧ c.destination.box = v) ∧
      named.Nodup ∧ named.Pairwise fun v w => p.firstCord u v < p.firstCord u w) ∧
    (∀ v n, (v, n) ∈ p.inDegrees → n = p.inDegree v ∧ n = p.cords.countP (·.destination.box = v)) ∧
    (p.inDegrees.map (·.2)).sum = p.cords.length ∧
    ∀ v n, (v, n) ∈ p.inDegrees → p.adjacency.countP (v ∈ ·.2) ≤ n ∧
      (p.adjacency.countP (v ∈ ·.2) = n ↔
        p.cords.Pairwise fun c c' => c.destination.box = v → c'.destination.box = v →
          c.source.box ≠ c'.source.box) := by
  intro p
  have hw : p.WellFormed := wellFormed_after history
  have hcount : ∀ v n, (v, n) ∈ p.inDegrees → n = p.inDegree v := by
    intro v n hn
    rw [hw.inDegrees_eq, List.mem_map] at hn
    obtain ⟨_, -, he⟩ := hn
    cases he
    rfl
  refine ⟨⟨?_, ?_, hw.nodup_ids⟩, fun u named hu => ?_, fun v n hn => ?_, sum_inDegrees p,
    fun v n hn => ?_⟩
  · rw [adjacency_eq, List.map_map]
    exact List.map_id _
  · rw [hw.inDegrees_eq, List.map_map]
    exact List.map_id _
  · rw [adjacency_eq, List.mem_map] at hu
    obtain ⟨_, -, he⟩ := hu
    cases he
    exact ⟨rfl, fun v => mem_successors.trans mem_sources, nodup_successors u,
      pairwise_firstCord p u⟩
  · refine ⟨hcount v n hn, ?_⟩
    rw [hcount v n hn, inDegree, List.countP_eq_length_filter]
  · have hle := count_flatMap_successors_le (p := p) hw.nodup_ids v
    have hiff := inDegree_le_count_iff (p := p) hw.nodup_ids v
    rw [hcount v n hn, countP_adjacency, ← nodup_sources_iff]
    refine ⟨hle, ?_⟩
    rw [Nat.le_antisymm_iff, and_iff_right hle, hiff]
    exact and_iff_left fun u hu => hw.mem_ids_of_source hu

/-- Both channels of a stereo cord: the second box is named once and has two cords. -/
example :
    let stereo : Contract := { inlets := 2, outlets := [.signal, .signal] }
    let p := empty.after
      [.add "plugin~" stereo "" [], .add "plugout~" stereo "" [],
        .connect ⟨⟨1⟩, .outlet, 0⟩ ⟨⟨2⟩, .inlet, 0⟩, .connect ⟨⟨1⟩, .outlet, 1⟩ ⟨⟨2⟩, .inlet, 1⟩]
    p.adjacency = [(⟨1⟩, [⟨2⟩]), (⟨2⟩, [])] ∧ p.inDegrees = [(⟨1⟩, 0), (⟨2⟩, 2)] := by decide

end MaxPatch.Patch
