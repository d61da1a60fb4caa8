import MaxPatch.Proofs.Sessions

/-! # Chains: how far a chain of links gets

A chain wires neighbours one after the other, so each link is looked at by a patch that the links
before it have changed. But these have only added cords, and whether two endpoints can be wired
depends on the makes of the boxes. So the patch before the chain may be asked about every link: it
carries the chain up to the first link that it refuses (`Patch.Carries`, `chain_carries`).
`chains_link_the_longest_prefix` says so for devices, in terms of what `Device.connect` would do. -/

namespace MaxPatch

/-- The neighbours in a chain. -/
def neighbours (items : List Endpoint) : List (Endpoint × Endpoint) := items.zip items.tail

namespace Patch

/-- Whether a patch takes a link. -/
def takes (p : Patch) (link : Endpoint × Endpoint) : Bool := (p.linkCord link.1 link.2).isOk

/-- **How far a patch carries links**: it takes each with the cord that it makes of it, up to the
first link that it refuses. -/
inductive Carries (p : Patch) :
    List (Endpoint × Endpoint) → List Cord → Except PatchError Unit → Prop
  | done : Carries p [] [] (.ok ())
  | refused {link : Endpoint × Endpoint} {links : List (Endpoint × Endpoint)} {e : PatchError}
      (h : p.linkCord link.1 link.2 = .error e) : Carries p (link :: links) [] (.error e)
  | taken {link : Endpoint × Endpoint} {links : List (Endpoint × Endpoint)} {c : Cord}
      {cords : List Cord} {result : Except PatchError Unit}
      (h : p.linkCord link.1 link.2 = .ok c) (rest : Carries p links cords result) :
      Carries p (link :: links) (c :: cords) result

variable {p q : Patch} {links : List (Endpoint × Endpoint)} {link : Endpoint × Endpoint}
  {cords : List Cord} {result : Except PatchError Unit} {c : Cord} {e : PatchError}

theorem takes_of_ok (h : p.linkCord link.1 link.2 = .ok c) : p.takes link = true := by
  rw [takes, h]
  rfl

theorem takes_of_error (h : p.linkCord link.1 link.2 = .error e) : p.takes link = false := by
  rw [takes, h]
  rfl

/-! ### What a chain comes to -/

theorem Carries.cords_of_taken (h : p.Carries links cords result) :
    List.Forall₂ (fun c link => p.linkCord link.1 link.2 = .ok c) cords
      (links.takeWhile p.takes) := by
  induction h with
  | done => exact List.Forall₂.nil
  | refused he =>
    rw [List.takeWhile_cons_of_neg (by simp [takes_of_error he])]
    exact List.Forall₂.nil
  | taken hc _ ih =>
    rw [List.takeWhile_cons_of_pos (takes_of_ok hc)]
    exact List.Forall₂.cons hc ih

theorem Carries.eq_ok_iff (h : p.Carries links cords result) :
    result = .ok () ↔ ∀ link ∈ links, p.takes link = true := by
  induction h with
  | done => simp
  | refused he => simp [takes_of_error he]
  | taken hc _ ih => simp [takes_of_ok hc, ih]

theorem Carries.eq_error (h : p.Carries links cords result)
    (hl : links[(links.takeWhile p.takes).length]? = some link) :
    ∃ e, p.linkCord link.1 link.2 = .error e ∧ result = .error e := by
  induction h with
  | done => cases hl
  | refused he =>
    rw [List.takeWhile_cons_of_neg (by simp [takes_of_error he])] at hl
    obtain rfl := Option.some.inj hl
    exact ⟨_, he, rfl⟩
  | taken hc _ ih =>
    rw [List.takeWhile_cons_of_pos (takes_of_ok hc), List.length_cons,
      List.getElem?_cons_succ] at hl
    exact ih hl

/-- **A chain gets as far as any patch with the same boxes carries its links.** -/
theorem chain_carries (h : q.skeleton.makes = p.skeleton.makes) (items : List Endpoint) :
    ∃ cords, p.Carries (neighbours items) cords (q.chain items).1 ∧
      (q.chain items).2 = q.addCords cords := by
  fun_induction chain q items with
  | case1 q first second rest n r hl ih =>
    -- a link adds no box, so `p` has the same boxes still
    obtain ⟨c, hc, hr⟩ := link_eq_ok_iff.mp hl
    obtain rfl : r = q.addCords [c] := congrArg Prod.snd hr
    obtain ⟨cords, hcarries, hcords⟩ := ih h
    rw [linkCord_congr h] at hc
    exact ⟨c :: cords, .taken hc hcarries, hcords.trans (addCords_append q [c] cords).symm⟩
  | case2 q first second rest e hl =>
    rw [link_eq, linkCord_congr h] at hl
    refine ⟨[], .refused ?_, (addCords_nil q).symm⟩
    cases hc : p.linkCord first second with
    | error e' => rw [hc] at hl; cases hl; rfl
    | ok c => rw [hc] at hl; cases hl
  | case3 items q hitems =>
    have hnone : neighbours items = [] := by
      cases items with
      | nil => rfl
      | cons first items =>
        cases items with
        | nil => rfl
        | cons second rest => exact absurd rfl (hitems first second rest)
    rw [hnone]
    exact ⟨[], .done, (addCords_nil _).symm⟩

end Patch

/-! ### Devices -/

namespace Device

theorem connect_eq (d : Device) (first second : Endpoint) : d.connect first second =
    (d.patch.linkCord first second).map fun c =>
      (d.patch.nextCord, { d with patch := d.patch.addCords [c] }) := by
  rw [connect, Patch.link_eq]
  cases d.patch.linkCord first second with
  | error e => rfl
  | ok c => rfl

theorem isOk_connect (d : Device) (link : Endpoint × Endpoint) :
    (d.connect link.1 link.2).isOk = d.patch.takes link := by
  rw [connect_eq, Patch.takes]
  cases d.patch.linkCord link.1 link.2 with
  | error e => rfl
  | ok c => rfl

/-- **Chains link the longest prefix.** Of the neighbours in a chain, those before the first that
the device as it was would refuse are wired, and nothing else happens: for each of them in turn the
chain adds the cord that `connect` alone would add. It succeeds if the device would take all of
them, and else fails as the first link that the device would refuse. -/
theorem chains_link_the_longest_prefix (d : Device) (items : List Endpoint) :
    let links := neighbours items
    let good := links.takeWhile fun link => (d.connect link.1 link.2).isOk
    let chained := d.chain items
    (∃ cords : List Cord,
      List.Forall₂ (fun c link => d.connect link.1 link.2 = .ok (d.patch.nextCord,
        { d with patch := { d.patch with
          cords := d.patch.cords ++ [c], nextCord := d.patch.nextCord + 1 } })) cords good ∧
      chained.2 = { d with patch := { d.patch with
        cords := d.patch.cords ++ cords, nextCord := d.patch.nextCord + cords.length } }) ∧
    (chained.1 = .ok () ↔ ∀ link ∈ links, (d.connect link.1 link.2).isOk = true) ∧
    (∀ link, links[good.length]? = some link → ∃ e,
      d.connect link.1 link.2 = .error e ∧ chained.1 = .error e) ∧
    (items.length < 2 → chained = (.ok (), d)) := by
  intro links good chained
  obtain ⟨cords, hcarries, hcords⟩ := Patch.chain_carries (p := d.patch) rfl items
  have hgood : good = links.takeWhile d.patch.takes := by
    simp only [good, isOk_connect]
  have hchained : chained.2 = { d with patch := d.patch.addCords cords } :=
    congrArg (fun p => { d with patch := p }) hcords
  refine ⟨⟨cords, ?_, hchained⟩, ?_, ?_, ?_⟩
  · rw [hgood]
    refine hcarries.cords_of_taken.imp fun c link hc => ?_
    rw [connect_eq, hc]
    rfl
  · simp only [isOk_connect]
    exact hcarries.eq_ok_iff
  · intro link hlink
    rw [hgood] at hlink
    obtain ⟨e, he, hresult⟩ := hcarries.eq_error hlink
    refine ⟨e, ?_, hresult⟩
    rw [connect_eq, he]
    rfl
  · intro hshort
    cases items with
    | nil => rfl
    | cons first items =>
      rw [List.length_cons] at hshort
      obtain rfl : items = [] := List.eq_nil_of_length_eq_zero (by omega)
      rfl

/-- A chain that comes to an inlet from which no cord can begin: the link before it stays, and the
link behind it is not made. -/
example :
    let d := (create "Thru" .audioEffect .empty).value
    let inlet : Port := { box := ⟨2⟩, side := .inlet, index := 0 }
    let chained := d.chain [.box d.boundary.input, .port inlet, .box d.boundary.output,
      .box d.boundary.input]
    chained.1 = .error (.wrongSide inlet .outlet) ∧
      chained.2.patch.cords = [{ source := ⟨⟨1⟩, .outlet, 0⟩, destination := inlet }] :=
  ⟨rfl, rfl⟩

end Device

end MaxPatch
