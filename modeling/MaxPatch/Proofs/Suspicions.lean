import MaxPatch.Proofs.Origins
import MaxPatch.Proofs.Refusals

/-! # Suspicions: which cords are warned about

A suspicion is raised by the look at a patch, when it is asked for. But it depends on two things
only: on what was wired, and on what the boxes at both ends were made from. So it can be told from
the history of a device: a link brings something to a box (`Delivery`, `Delivery.Between`), and that
is suspicious or not once and for all (`Delivery.Suspicious`, `suspicion?_of_fits`).

Growth of a patch does not change what is said about its cords (`suspicion?_extends`), so a call can
only add to the suspicions, and only if it wires something (`suspicions_of_grows`).
`suspicions_are_exact` puts this together with what completing a device reports. -/

namespace MaxPatch

/-- What a link brings to a box: of which kind, from which type and outlet, and to which type and
inlet. -/
structure Delivery where
  sourceType : String
  sourceIndex : Nat
  kind : OutletKind
  destinationType : String
  destinationIndex : Nat

namespace Delivery

/-- **What a link brings**, if boxes are of these origins. -/
structure Between (origins : List Origin) (ends : Endpoint × Endpoint) (d : Delivery) : Prop where
  source : ∃ o, Patch.originOf? origins (ends.1.standsFor .outlet).box = some o ∧
    d.sourceType = o.typeName ∧ o.contract.outlets[d.sourceIndex]? = some d.kind
  sourceIndex : d.sourceIndex = (ends.1.standsFor .outlet).index
  destination : ∃ o, Patch.originOf? origins (ends.2.standsFor .inlet).box = some o ∧
    d.destinationType = o.typeName
  destinationIndex : d.destinationIndex = (ends.2.standsFor .inlet).index

/-- **What is suspicious**: anything but audio or a bang, at the first inlet of a type that ends in
a tilde and is not known to take messages. -/
def Suspicious (d : Delivery) : Prop :=
  d.destinationIndex = 0 ∧ d.destinationType.toList.getLast? = some '~' ∧
    d.destinationType ∉ messageTolerantTypes ∧
    d.kind ∉ [.signal, .multichannelSignal, .bang]

instance : DecidablePred Suspicious := fun d => by unfold Suspicious; infer_instance

/-- The suspicion about it. -/
def suspicion (d : Delivery) : Suspicion :=
  { sourceType := d.sourceType, sourceIndex := d.sourceIndex, destinationType := d.destinationType }

end Delivery

theorem OutletKind.feedsAudio_iff (k : OutletKind) :
    k.feedsAudio = true ↔ k ∈ [.signal, .multichannelSignal, .bang] := by
  cases k <;> decide

/-- The tests that are made one after the other come to one question. -/
theorem Delivery.tests_eq (d : Delivery) :
    (if d.kind.feedsAudio then none
      else if d.destinationIndex ≠ 0 || !takesAudio d.destinationType then none
      else if messageTolerantTypes.contains d.destinationType then none
      else some d.suspicion) = if d.Suspicious then some d.suspicion else none := by
  by_cases hkind : d.kind.feedsAudio = true
  · rw [if_pos hkind, if_neg fun h => h.2.2.2 (d.kind.feedsAudio_iff.mp hkind)]
  rw [if_neg hkind]
  by_cases haudio : d.destinationIndex = 0 ∧ takesAudio d.destinationType = true
  swap
  · have hother : (d.destinationIndex ≠ 0 || !takesAudio d.destinationType) = true := by
      simpa [imp_iff_not_or] using haudio
    rw [if_pos hother, if_neg fun h => haudio ⟨h.1, decide_eq_true h.2.1⟩]
  have hfirst : ¬ (d.destinationIndex ≠ 0 || !takesAudio d.destinationType) = true := by
    simp [haudio.1, haudio.2]
  rw [if_neg hfirst]
  by_cases htolerant : d.destinationType ∈ messageTolerantTypes
  · rw [if_pos (List.contains_iff_mem.mpr htolerant), if_neg fun h => h.2.2.1 htolerant]
  · have hsuspicious : d.Suspicious := ⟨haudio.1, of_decide_eq_true haudio.2, htolerant,
      fun h => hkind (d.kind.feedsAudio_iff.mpr h)⟩
    rw [if_neg fun h => htolerant (List.contains_iff_mem.mp h), if_pos hsuspicious]

namespace Patch

variable {p q : Patch} {origins : List Origin} {c : Cord} {ends : Endpoint × Endpoint}

/-! ### One cord -/

/-- **What is said about a cord that fits** is what its link brings. -/
theorem suspicion?_of_fits (hp : empty.AddsFrom p origins) (hc : p.Fits c) (hj : c.Joins ends) :
    ∃ d : Delivery, d.Between origins ends ∧
      p.suspicion? c = if d.Suspicious then some d.suspicion else none := by
  obtain ⟨b, hb, hi⟩ := hc.source
  obtain ⟨b', hb', -⟩ := hc.destination
  -- the boxes at both ends, with what they were made from
  obtain ⟨o, ho, hstem⟩ := hp.origin hb
  obtain ⟨o', ho', hstem'⟩ := hp.origin hb'
  have hkind : b.outlets[c.source.index]? = some b.outlets[c.source.index] :=
    List.getElem?_eq_getElem hi
  have hsource := (asSource_eq_ok.mp hj.source).2
  have hdestination := (asDestination_eq_ok.mp hj.destination).2
  let d : Delivery :=
    { sourceType := b.typeName, sourceIndex := c.source.index, kind := b.outlets[c.source.index]
      destinationType := b'.typeName, destinationIndex := c.destination.index }
  refine ⟨d, ⟨⟨o, ?_, hstem.typeName, ?_⟩, ?_, ⟨o', ?_, hstem'.typeName⟩, ?_⟩, ?_⟩
  · rw [← hsource]; exact ho
  · rw [← hstem.outlets]; exact hkind
  · rw [← hsource]
  · rw [← hdestination]; exact ho'
  · rw [← hdestination]
  · unfold suspicion?
    rw [hb, hb']
    simp only [hkind, Option.any_some]
    exact d.tests_eq

/-- **Growth does not change what is said** about a cord that fits. -/
theorem suspicion?_extends (hpq : p.Extends q) (hc : p.Fits c) :
    q.suspicion? c = p.suspicion? c := by
  obtain ⟨b, hb, -⟩ := hc.source
  obtain ⟨b', hb', -⟩ := hc.destination
  obtain ⟨d, hd, hmake⟩ := hpq.box? hb
  obtain ⟨d', hd', hmake'⟩ := hpq.box? hb'
  unfold suspicion?
  rw [hb, hb', hd, hd']
  have htype : d.typeName = b.typeName := congrArg Box.Make.typeName hmake
  have houtlets : d.outlets = b.outlets := congrArg Box.Make.outlets hmake
  have htype' : d'.typeName = b'.typeName := congrArg Box.Make.typeName hmake'
  simp only [htype, houtlets, htype']

/-! ### All cords -/

/-- **What is said about cords** is what their links bring, one after the other. -/
theorem suspicions_of_joins {cords : List Cord} {links : List (Endpoint × Endpoint)}
    (hp : empty.AddsFrom p origins) (hc : ∀ c ∈ cords, p.Fits c)
    (hj : List.Forall₂ Cord.Joins cords links) :
    ∃ deliveries, List.Forall₂ (Delivery.Between origins) links deliveries ∧
      cords.filterMap p.suspicion? =
        (deliveries.filter (·.Suspicious)).map (·.suspicion) := by
  induction hj with
  | nil => exact ⟨[], List.Forall₂.nil, rfl⟩
  | @cons c ends cords links hj _ ih =>
    obtain ⟨d, hd, hsaid⟩ := suspicion?_of_fits hp (hc c List.mem_cons_self) hj
    obtain ⟨deliveries, hall, heq⟩ := ih fun c' hc' => hc c' (List.mem_cons_of_mem _ hc')
    refine ⟨d :: deliveries, List.Forall₂.cons hd hall, ?_⟩
    by_cases hs : d.Suspicious
    · rw [if_pos hs] at hsaid
      rw [List.filterMap_cons_some hsaid, heq, List.filter_cons_of_pos (by simpa using hs),
        List.map_cons]
    · rw [if_neg hs] at hsaid
      rw [List.filterMap_cons_none hsaid, heq, List.filter_cons_of_neg (by simpa using hs)]

end Patch

/-! ### Calls -/

/-- Whether a call wires endpoints. -/
def DeviceCall.isWiring : DeviceCall → Bool
  | connect _ _ | chain _ => true
  | _ => false

namespace Device

variable {d e : Device} {links : List (Endpoint × Endpoint)}

theorem linked_of_not_wiring (d : Device) {c : DeviceCall} (h : c.isWiring = false) :
    d.linked c = [] := by
  cases c with
  | connect | chain => cases h
  | _ => rfl

/-- **Suspicions stay**, and there are no more of them if nothing is wired. -/
theorem suspicions_of_grows (h : d.Grows links e) (hd : d.Sound) :
    ∃ more, e.suspicions = d.suspicions ++ more ∧ (links = [] → more = []) := by
  obtain ⟨cords, hcords, hjoins⟩ := h.wires hd.patch
  refine ⟨cords.filterMap e.patch.suspicion?, ?_, ?_⟩
  · have hsame : d.patch.cords.filterMap e.patch.suspicion? =
        d.patch.cords.filterMap d.patch.suspicion? :=
      List.filterMap_congr fun c hc =>
        Patch.suspicion?_extends h.patch.extends (hd.patch.wired c hc)
    rw [suspicions, Patch.suspicions, hcords, List.filterMap_append, hsame]
    rfl
  · rintro rfl
    cases hjoins
    rfl

/-! ### What completing reports -/

theorem notices_forM_report {α : Type} (f : α → Notice) (l : List α) :
    (l.forM fun a => Noted.report (f a)).notices = l.map f := by
  induction l with
  | nil => rfl
  | cons a l ih => exact congrArg (f a :: ·) ih

theorem complete_notices (hd : d.Sound) :
    d.complete.notices = d.layout.2.suspicions.map suspicionNotice := by
  have hl := hd.layout
  unfold complete
  split
  · next h => rw [h] at hl; cases hl
  · next h =>
    rw [h, Noted.notices_bind, notices_forM_report, Noted.notices_pure, List.append_nil]

/-- **What completing reports**: that the type of the context box is not known, if so, and then the
suspicions. -/
theorem finalize_notices (hd : d.Sound) : d.finalize.notices =
    d.ensureContext.notices ++ d.suspicions.map suspicionNotice := by
  have hcontext := d.grows_ensureContext.sound hd
  obtain ⟨more, hmore, hnone⟩ :=
    suspicions_of_grows (d.grows_ensureContext.trans (grows_layout _)) hd
  rw [finalize_eq, Noted.notices_bind, complete_notices hcontext, hmore, hnone rfl,
    List.append_nil]

theorem resolve_notices (catalog : Catalog) (typeName : String) :
    ∀ n ∈ (catalog.resolve typeName).notices, n = Catalog.unknownNotice typeName := by
  unfold Catalog.resolve
  split
  · exact fun n hn => absurd hn List.not_mem_nil
  · exact fun n hn => List.mem_singleton.mp hn

theorem ensureContext_notices (d : Device) :
    ∀ n ∈ d.ensureContext.notices, n = Catalog.unknownNotice contextType := by
  unfold ensureContext
  split
  · exact fun n hn => absurd hn List.not_mem_nil
  · intro n hn
    simp only [add, addFrom, Noted.notices_bind, Noted.notices_pure, List.append_nil] at hn
    exact resolve_notices d.catalog contextType n hn

end Device

namespace Session

/-- **Suspicions are exact.** After any calls on a new device the suspicions are, in the order of
wiring and one for each link, those of the links that bring something suspicious, where boxes have
the types and outlets that they were made with. Any further call only adds to them, and only if it
wires endpoints. What completing the device reports about cords is just these suspicions. -/
theorem suspicions_are_exact (name : String) (kind : DeviceKind) (catalog : Catalog)
    (files : FileTree) (home : String) (calls : List DeviceCall) :
    let s := (start name kind catalog files home).value
    let t := s.after calls
    (∃ deliveries,
      List.Forall₂ (Delivery.Between (kind.origins catalog ++ s.origins calls))
        (s.linked calls) deliveries ∧
      t.answer .suspicions =
        .suspicions ((deliveries.filter (·.Suspicious)).map (·.suspicion))) ∧
    (∀ c : DeviceCall, ∃ more,
      (t.next c).device.suspicions = t.device.suspicions ++ more ∧
      (c.isWiring = false → more = [])) ∧
    t.device.finalize.notices = t.device.ensureContext.notices ++
      t.device.suspicions.map Device.suspicionNotice ∧
    ∀ n ∈ t.device.ensureContext.notices, n = Catalog.unknownNotice contextType := by
  intro s t
  have hs : s.device.Sound := sound_start name kind catalog files home
  have ht : t.device.Sound := sound_after hs calls
  refine ⟨?_, fun c => ?_, Device.finalize_notices ht, t.device.ensureContext_notices⟩
  · have horigins := (adds_start name kind catalog files home).trans (s.adds_after calls)
    obtain ⟨cords, hcords, hjoins⟩ := (s.grows_after calls).wires hs.patch
    replace hcords : t.device.patch.cords = cords := hcords
    obtain ⟨deliveries, hall, hsaid⟩ := Patch.suspicions_of_joins horigins
      (fun c hc => ht.patch.wired c (hcords ▸ hc)) hjoins
    refine ⟨deliveries, hall, ?_⟩
    show DeviceCall.Answer.suspicions (t.device.patch.cords.filterMap _) = _
    rw [hcords, hsaid]
  · obtain ⟨more, hmore, hnone⟩ := Device.suspicions_of_grows (t.grows_next c) ht
    exact ⟨more, hmore, fun hc => hnone (t.device.linked_of_not_wiring hc)⟩

end Session

end MaxPatch
