import Mathlib.Data.List.Nodup
import MaxPatch.Patch.Edit

/-! # Histories: what lasts in a patch

Of a box its *make* never changes: its number, type, class, ports and arguments. The makes of all
boxes, the cords and the counters of both are the *skeleton* of a patch. Both layouts and every
change of geometry or attributes leave the skeleton as it is; the other edits add one box or one
cord at its end (`edit_cases`). Two things follow for a history of any length.

* A patch only grows (`Extends`, `extends_after`): makes and cords stay where they are.
* A patch stays well-formed (`WellFormed`, `wellFormed_after`): boxes are numbered from 1 in their
  order, every cord leads from an outlet to an inlet that exist, and the counters keep up with both.

`connect_eq` parts a connection into the question whether a cord fits (`cordBetween`) and the growth
of the patch; for well-formed patches `cordBetween_eq_ok_iff` answers the question. -/

namespace MaxPatch

/-- What a box keeps for life. -/
structure Box.Make where
  id : BoxId
  typeName : String
  renderClass : String
  inlets : Nat
  outlets : List OutletKind
  args : String
  deriving DecidableEq, Repr

/-- The make of a box. -/
def Box.make (b : Box) : Box.Make :=
  { id := b.id, typeName := b.typeName, renderClass := b.renderClass, inlets := b.inlets
    outlets := b.outlets, args := b.args }

/-- The makes of the boxes of a patch, its cords, and the counters of both. -/
structure Skeleton where
  makes : List Box.Make
  cords : List Cord
  lastBox : Nat
  nextCord : Nat
  deriving DecidableEq, Repr

/-- Makes are numbered in their order, and the counters keep up with makes and cords. -/
structure Skeleton.Numbered (s : Skeleton) : Prop where
  makes : ∀ (i : Nat) (m : Box.Make), s.makes[i]? = some m → m.id = ⟨i + 1⟩
  lastBox_eq : s.lastBox = s.makes.length
  nextCord_eq : s.nextCord = s.cords.length

theorem Skeleton.Numbered.addMake {s : Skeleton} (h : s.Numbered) {m : Box.Make}
    (hm : m.id = ⟨s.lastBox + 1⟩) :
    { s with makes := s.makes ++ [m], lastBox := s.lastBox + 1 : Skeleton }.Numbered where
  makes := fun i m' hm' => by
    rw [List.getElem?_append] at hm'
    split_ifs at hm' with hi
    · exact h.makes i m' hm'
    · -- the box added stands behind all others, where its number leads
      rw [List.getElem?_singleton] at hm'
      split_ifs at hm' with h0
      cases hm'
      rw [hm, h.lastBox_eq, show i = s.makes.length by omega]
  lastBox_eq := by rw [List.length_append, h.lastBox_eq]; rfl
  nextCord_eq := h.nextCord_eq

theorem Skeleton.Numbered.addCord {s : Skeleton} (h : s.Numbered) (c : Cord) :
    { s with cords := s.cords ++ [c], nextCord := s.nextCord + 1 : Skeleton }.Numbered where
  makes := h.makes
  lastBox_eq := h.lastBox_eq
  nextCord_eq := by rw [List.length_append, h.nextCord_eq]; rfl

namespace Patch

/-- The skeleton of a patch. -/
def skeleton (p : Patch) : Skeleton :=
  { makes := p.boxes.map (·.make), cords := p.cords, lastBox := p.lastBox, nextCord := p.nextCord }

/-! ### What leaves the skeleton as it is -/

theorem boxes_update (p : Patch) (id : BoxId) (f : Box → Box) (i : Nat) :
    (p.update id f).boxes[i]? =
      p.boxes[i]?.map fun b => if id.number = i + 1 then f b else b := by
  unfold update
  split
  · next h => simp [h]
  · next n h => simp [h, List.getElem?_modify]

theorem box?_eq_getElem? (p : Patch) (n : Nat) : p.box? ⟨n + 1⟩ = p.boxes[n]? := rfl

theorem box?_congr {p q : Patch} (h : p.boxes = q.boxes) : p.box? = q.box? := by
  funext id
  unfold box?
  rw [h]

theorem box?_update (p : Patch) (id : BoxId) (f : Box → Box) (other : BoxId) :
    (p.update id f).box? other = (p.box? other).map fun b => if id = other then f b else b := by
  obtain ⟨n⟩ := other
  cases n with
  | zero => rfl
  | succ n =>
    rw [box?_eq_getElem?, box?_eq_getElem?, boxes_update]
    simp only [show ∀ m, id.number = m ↔ id = ⟨m⟩ from fun m => by cases id; simp]

theorem isSome_box?_update (p : Patch) (id : BoxId) (f : Box → Box) (other : BoxId) :
    ((p.update id f).box? other).isSome = (p.box? other).isSome := by
  rw [box?_update, Option.isSome_map]

theorem map_box?_update {α : Type} (p : Patch) (id : BoxId) {f : Box → Box} {g : Box → α}
    (h : ∀ b, g (f b) = g b) (other : BoxId) :
    ((p.update id f).box? other).map g = (p.box? other).map g := by
  rw [box?_update, Option.map_map]
  refine congrArg (fun f => Option.map f (p.box? other)) (funext fun b => ?_)
  simp only [Function.comp_apply]
  split_ifs
  · exact h b
  · rfl

theorem update_eq (p : Patch) (id : BoxId) (f : Box → Box) :
    p.update id f = { p with boxes := (p.update id f).boxes } := by
  unfold update; split <;> rfl

theorem cords_update (p : Patch) (id : BoxId) (f : Box → Box) :
    (p.update id f).cords = p.cords := by
  unfold update; split <;> rfl

theorem map_boxes_update {α : Type} (p : Patch) (id : BoxId) {f : Box → Box} {g : Box → α}
    (h : ∀ b, g (f b) = g b) : (p.update id f).boxes.map g = p.boxes.map g := by
  refine List.ext_getElem? fun i => ?_
  rw [List.getElem?_map, List.getElem?_map]
  exact map_box?_update p id h ⟨i + 1⟩

theorem skeleton_update (p : Patch) (id : BoxId) {f : Box → Box}
    (hf : ∀ b, (f b).make = b.make) : (p.update id f).skeleton = p.skeleton := by
  rw [skeleton, map_boxes_update p id hf, update_eq]
  rfl

/-- **The layout of the editor only moves boxes.** -/
theorem layoutEditor_preserves {P : Patch → Prop}
    (move : ∀ (q : Patch) (id : BoxId) (x y : Pixels), P q → P (q.update id (·.moveTo x y)))
    {p : Patch} (hp : P p) : P p.layoutEditor.2 := by
  have hstack : ∀ (x y : Pixels) (ids : List BoxId) (q : Patch), P q → P (q.stack x y ids) := by
    intro x y ids
    induction ids generalizing y with
    | nil => exact fun q hq => hq
    | cons id ids ih =>
      intro q hq
      rw [stack]
      split
      · exact ih _ _ (move q id x y hq)
      · exact ih y q hq
  have hcolumns : ∀ (l : EditorLayout) (columns : List (List BoxId)) (i : Nat) (q : Patch),
      P q → P (stackColumns l i columns q) := by
    intro l columns
    induction columns with
    | nil => exact fun i q hq => hq
    | cons column columns ih => exact fun i q hq => ih (i + 1) _ (hstack _ _ column q hq)
  exact hcolumns _ _ 0 _ (hstack _ _ _ p hp)

theorem showRow_preserves {P : Patch → Prop} {ids : List BoxId}
    (face : ∀ (q : Patch) (id : BoxId) (r : Rect), id ∈ ids → P q →
      P (q.update id (·.setFace true (some r))))
    (x : Pixels) {p : Patch} (hp : P p) : P (p.showRow x ids).2 := by
  induction ids generalizing x p with
  | nil => exact hp
  | cons id ids ih =>
    rw [showRow]
    split
    · exact hp
    · exact ih (fun q id' r hid => face q id' r (List.mem_cons_of_mem _ hid)) _
        (face p id _ List.mem_cons_self hp)

/-- **The layout of the face only shows the boxes named**, and sets the width if there are any. -/
theorem layoutFace_preserves {P : Patch → Prop} {ids : List BoxId}
    (face : ∀ (q : Patch) (id : BoxId) (r : Rect), id ∈ ids → P q →
      P (q.update id (·.setFace true (some r))))
    (width : ids ≠ [] → ∀ (q : Patch) (w : Pixels), P q → P { q with deviceWidth := w })
    {p : Patch} (hp : P p) : P (p.layoutFace ids).2 := by
  rw [layoutFace]
  split
  · exact hp
  · next hne =>
    have h := showRow_preserves face faceMargin hp
    split
    · next hs => rw [hs] at h; exact h
    · next hs => rw [hs] at h; exact width hne _ _ h

theorem skeleton_layoutEditor (p : Patch) : p.layoutEditor.2.skeleton = p.skeleton := by
  refine layoutEditor_preserves (P := fun q => q.skeleton = p.skeleton) (fun q id x y hq => ?_) rfl
  rw [skeleton_update q id, hq]
  exact fun _ => rfl

theorem length_boxes_layoutEditor (p : Patch) :
    p.layoutEditor.2.boxes.length = p.boxes.length := by
  have hmakes := congrArg (fun s => s.makes.length) (skeleton_layoutEditor p)
  simpa [skeleton] using hmakes

theorem skeleton_layoutFace (p : Patch) (ids : List BoxId) :
    (p.layoutFace ids).2.skeleton = p.skeleton := by
  refine layoutFace_preserves (P := fun q => q.skeleton = p.skeleton) (fun q id r _ hq => ?_)
    (fun _ _ _ hq => hq) rfl
  rw [skeleton_update q id, hq]
  exact fun _ => rfl

/-! ### Boxes and cords that are added -/

/-- The box that `add` puts at the end. -/
def newBox (p : Patch) (typeName : String) (contract : Contract) (args : String)
    (attributes : Members) : Box :=
  Box.ofContract p.nextId typeName contract args attributes

theorem skeleton_add (p : Patch) (typeName : String) (contract : Contract) (args : String)
    (attributes : Members) : (p.add typeName contract args attributes).2.skeleton =
      { p.skeleton with
        makes := p.skeleton.makes ++ [(p.newBox typeName contract args attributes).make]
        lastBox := p.lastBox + 1 } := by
  simp only [add, skeleton, List.map_append, List.map_cons, List.map_nil]
  rfl

theorem skeleton_addParameter (p : Patch) (name : String) (o : ParameterOptions) :
    (p.addParameter name o).2.skeleton =
      { p.skeleton with
        makes := p.skeleton.makes ++ [(p.newBox o.control.renderClass
          (o.control.contract o.size.1) "" (o.attributes name)).make]
        lastBox := p.lastBox + 1 } := by
  rw [addParameter, ← skeleton_add]
  exact skeleton_update _ _ fun _ => rfl

/-- The patch with more cords. -/
def addCords (p : Patch) (cords : List Cord) : Patch :=
  { p with cords := p.cords ++ cords, nextCord := p.nextCord + cords.length }

theorem cords_addCords (p : Patch) (cords : List Cord) :
    (p.addCords cords).cords = p.cords ++ cords := rfl

theorem addCords_nil (p : Patch) : p.addCords [] = p := by
  rw [addCords, List.append_nil]
  rfl

theorem addCords_append (p : Patch) (cords more : List Cord) :
    p.addCords (cords ++ more) = (p.addCords cords).addCords more := by
  simp only [addCords, List.append_assoc, List.length_append, Nat.add_assoc]

/-- The cord between two ports, or the first fault that is found. -/
def cordBetween (p : Patch) (source destination : Port) : Except PatchError Cord := do
  expectSide source .outlet
  expectSide destination .inlet
  let sourceBox ← p.needBox source.box
  let source ← sourceBox.outlet source.index
  let destinationBox ← p.needBox destination.box
  let destination ← destinationBox.inlet destination.index
  return { source, destination }

/-- **A connection** asks whether the cord is admitted, and then adds it at the end. -/
theorem connect_eq (p : Patch) (source destination : Port) :
    p.connect source destination = (p.cordBetween source destination).map fun c =>
      (p.nextCord, p.addCords [c]) := by
  change _ = (fun c => (p.nextCord, p.addCords [c])) <$> _
  simp only [connect, cordBetween, map_bind, map_pure]
  rfl

theorem bind_eq_ok {ε α β : Type} {x : Except ε α} {f : α → Except ε β} {b : β} :
    (x >>= f) = .ok b ↔ ∃ a, x = .ok a ∧ f a = .ok b := by
  cases x with
  | error e => exact ⟨fun h => (by cases h), fun ⟨a, h, _⟩ => (by cases h)⟩
  | ok a => exact ⟨fun h => ⟨a, rfl, h⟩, fun ⟨a', h, hf⟩ => by cases h; exact hf⟩

theorem expectSide_eq_ok {port : Port} {side : Side} {u : Unit} :
    expectSide port side = .ok u ↔ port.side = side := by
  unfold expectSide; split_ifs with h <;> simp [h]

theorem needBox_eq_ok {p : Patch} {id : BoxId} {b : Box} :
    p.needBox id = .ok b ↔ p.box? id = some b := by
  unfold needBox; split <;> simp_all

theorem checkedPort_eq_ok {id : BoxId} {typeName : String} {side : Side} {index count : Nat}
    {port : Port} : checkedPort id typeName side index count = .ok port ↔
      index < count ∧ port = { box := id, side, index } := by
  unfold checkedPort; split_ifs with h <;> simp [h, eq_comm]

/-- A cord leads from an outlet of a box of the patch to an inlet of one. -/
structure Fits (p : Patch) (c : Cord) : Prop where
  leaves : c.source.side = .outlet
  arrives : c.destination.side = .inlet
  source : ∃ b, p.box? c.source.box = some b ∧ c.source.index < b.outlets.length
  destination : ∃ b, p.box? c.destination.box = some b ∧ c.destination.index < b.inlets
  order : c.order = 0

/-- Boxes are numbered in their order, cords fit, and the counters keep up with both. -/
structure WellFormed (p : Patch) : Prop where
  numbered : ∀ (i : Nat) (b : Box), p.boxes[i]? = some b → b.id = ⟨i + 1⟩
  wired : ∀ c ∈ p.cords, p.Fits c
  lastBox_eq : p.lastBox = p.boxes.length
  nextCord_eq : p.nextCord = p.cords.length

theorem WellFormed.id_of_box? {p : Patch} (h : p.WellFormed) {id : BoxId} {b : Box}
    (hb : p.box? id = some b) : b.id = id := by
  obtain ⟨n⟩ := id
  cases n with
  | zero => cases hb
  | succ n => exact h.numbered n b hb

/-- **What is admitted**: the cord between two ports, if it fits. -/
theorem cordBetween_eq_ok_iff {p : Patch} (h : p.WellFormed) {source destination : Port}
    {c : Cord} : p.cordBetween source destination = .ok c ↔
      c = { source, destination } ∧ p.Fits c := by
  simp only [cordBetween, Box.outlet, Box.inlet, bind_eq_ok, expectSide_eq_ok, needBox_eq_ok,
    checkedPort_eq_ok, pure, Except.pure, Except.ok.injEq]
  constructor
  · rintro ⟨-, hs, -, ht, b, hb, _, ⟨hi, rfl⟩, b', hb', _, ⟨hi', rfl⟩, rfl⟩
    rw [h.id_of_box? hb, h.id_of_box? hb', ← hs, ← ht]
    exact ⟨rfl, hs, ht, ⟨b, hb, hi⟩, ⟨b', hb', hi'⟩, rfl⟩
  · rintro ⟨rfl, hs, ht, ⟨b, hb, hi⟩, ⟨b', hb', hi'⟩, -⟩
    refine ⟨(), hs, (), ht, b, hb, _, ⟨hi, rfl⟩, b', hb', _, ⟨hi', rfl⟩, ?_⟩
    rw [h.id_of_box? hb, h.id_of_box? hb', ← hs, ← ht]

/-! ### One edit -/

theorem edit_add (p : Patch) (typeName : String) (contract : Contract) (args : String)
    (attributes : Members) : p.edit (.add typeName contract args attributes) =
      if contract.sizes (labelText typeName args) then (p.add typeName contract args attributes).2
      else p := by
  rw [edit, perform, add?]
  split_ifs <;> rfl

theorem edit_add_of_sizes (p : Patch) {typeName : String} {contract : Contract} {args : String}
    (attributes : Members) (h : contract.sizes (labelText typeName args) = true) :
    p.edit (.add typeName contract args attributes) =
      (p.add typeName contract args attributes).2 := by
  rw [edit_add, if_pos h]

/-- **What an edit can do to the skeleton**: nothing, or add a box with the next number, or add a
cord that is admitted. -/
theorem edit_cases (p : Patch) (e : Edit) :
    (p.edit e).skeleton = p.skeleton ∨
    (∃ m : Box.Make, m.id = p.nextId ∧
      (p.edit e).skeleton = { p.skeleton with
        makes := p.skeleton.makes ++ [m], lastBox := p.lastBox + 1 }) ∨
    (∃ source destination c, p.cordBetween source destination = .ok c ∧
      (p.edit e).skeleton = { p.skeleton with
        cords := p.cords ++ [c], nextCord := p.nextCord + 1 }) := by
  cases e with
  | add typeName contract args attributes =>
    rw [edit_add]
    split_ifs
    · exact Or.inr (Or.inl ⟨_, rfl, skeleton_add p typeName contract args attributes⟩)
    · exact Or.inl rfl
  | addParameter name options =>
    exact Or.inr (Or.inl ⟨_, rfl, skeleton_addParameter p name options⟩)
  | connect source destination =>
    unfold edit perform
    simp only [connect_eq]
    cases hc : p.cordBetween source destination with
    | error => exact Or.inl rfl
    | ok c => exact Or.inr (Or.inr ⟨source, destination, c, hc, rfl⟩)
  | setEditorRect id rect => exact Or.inl (skeleton_update p id fun _ => rfl)
  | setFace id shown rect => exact Or.inl (skeleton_update p id fun _ => rfl)
  | setAttribute id key value => exact Or.inl (skeleton_update p id fun _ => rfl)
  | setDeviceWidth => exact Or.inl rfl
  | setOpensInPresentation => exact Or.inl rfl
  | describe => exact Or.inl rfl
  | tag => exact Or.inl rfl
  | layoutEditor => exact Or.inl (skeleton_layoutEditor p)
  | layoutFace ids => exact Or.inl (skeleton_layoutFace p ids)

/-! ### Growth -/

/-- A later patch: the makes and cords of the earlier one stand at its beginning. -/
structure Extends (p q : Patch) : Prop where
  makes : p.skeleton.makes <+: q.skeleton.makes
  cords : p.cords <+: q.cords

theorem Extends.refl (p : Patch) : p.Extends p := ⟨List.prefix_rfl, List.prefix_rfl⟩

theorem Extends.trans {p q r : Patch} (h : p.Extends q) (h' : q.Extends r) : p.Extends r :=
  ⟨h.makes.trans h'.makes, h.cords.trans h'.cords⟩

theorem extends_edit (p : Patch) (e : Edit) : p.Extends (p.edit e) := by
  have hgrow : p.skeleton.makes <+: (p.edit e).skeleton.makes ∧
      p.skeleton.cords <+: (p.edit e).skeleton.cords := by
    rcases edit_cases p e with h | ⟨m, -, h⟩ | ⟨s, t, c, -, h⟩
    · rw [h]; exact ⟨List.prefix_rfl, List.prefix_rfl⟩
    · rw [h]; exact ⟨List.prefix_append _ _, List.prefix_rfl⟩
    · rw [h]; exact ⟨List.prefix_rfl, List.prefix_append _ _⟩
  exact ⟨hgrow.1, hgrow.2⟩

theorem extends_add (p : Patch) (typeName : String) (contract : Contract) (args : String)
    (attributes : Members) : p.Extends (p.add typeName contract args attributes).2 where
  makes := by rw [skeleton_add]; exact List.prefix_append _ _
  cords := List.prefix_rfl

/-- **A patch only grows**, whatever its history. -/
theorem extends_after (p : Patch) (history : List Edit) : p.Extends (p.after history) := by
  induction history generalizing p with
  | nil => exact Extends.refl p
  | cons e history ih => exact (extends_edit p e).trans (ih (p.edit e))

theorem Extends.box {p q : Patch} (h : p.Extends q) {i : Nat} {b : Box}
    (hb : p.boxes[i]? = some b) : ∃ b', q.boxes[i]? = some b' ∧ b'.make = b.make := by
  have hm : p.skeleton.makes[i]? = some b.make := by
    rw [skeleton, List.getElem?_map, hb]; rfl
  have hm' : q.skeleton.makes[i]? = some b.make := by
    obtain ⟨rest, hr⟩ := h.makes
    have hi : i < p.skeleton.makes.length := (List.getElem?_eq_some_iff.mp hm).1
    rw [← hr, List.getElem?_append_left hi, hm]
  rw [skeleton, List.getElem?_map, Option.map_eq_some_iff] at hm'
  exact hm'

theorem Extends.box? {p q : Patch} (h : p.Extends q) {id : BoxId} {b : Box}
    (hb : p.box? id = some b) : ∃ b', q.box? id = some b' ∧ b'.make = b.make := by
  obtain ⟨n⟩ := id
  cases n with
  | zero => cases hb
  | succ n => exact h.box hb

theorem Extends.isSome_box? {p q : Patch} (h : p.Extends q) {id : BoxId}
    (hid : (p.box? id).isSome) : (q.box? id).isSome := by
  obtain ⟨b, hb⟩ := Option.isSome_iff_exists.mp hid
  obtain ⟨b', hb', -⟩ := h.box? hb
  exact Option.isSome_iff_exists.mpr ⟨b', hb'⟩

theorem Fits.extends {p q : Patch} {c : Cord} (h : p.Fits c) (hpq : p.Extends q) : q.Fits c where
  leaves := h.leaves
  arrives := h.arrives
  source := by
    obtain ⟨b, hb, hi⟩ := h.source
    obtain ⟨b', hb', hm⟩ := hpq.box? hb
    have ho : b'.outlets = b.outlets := congrArg Box.Make.outlets hm
    exact ⟨b', hb', by rw [ho]; exact hi⟩
  destination := by
    obtain ⟨b, hb, hi⟩ := h.destination
    obtain ⟨b', hb', hm⟩ := hpq.box? hb
    have hn : b'.inlets = b.inlets := congrArg Box.Make.inlets hm
    exact ⟨b', hb', by rw [hn]; exact hi⟩
  order := h.order

/-! ### Well-formed patches stay so -/

theorem numbered_iff_makes {p : Patch} :
    (∀ (i : Nat) (b : Box), p.boxes[i]? = some b → b.id = ⟨i + 1⟩) ↔
      ∀ (i : Nat) (m : Box.Make), p.skeleton.makes[i]? = some m → m.id = ⟨i + 1⟩ := by
  constructor
  · intro h i m hm
    rw [skeleton, List.getElem?_map, Option.map_eq_some_iff] at hm
    obtain ⟨b, hb, rfl⟩ := hm
    exact h i b hb
  · intro h i b hb
    exact h i b.make (by rw [skeleton, List.getElem?_map, hb]; rfl)

theorem wellFormed_iff {p : Patch} :
    p.WellFormed ↔ p.skeleton.Numbered ∧ ∀ c ∈ p.cords, p.Fits c := by
  have hlength : p.skeleton.makes.length = p.boxes.length := List.length_map _
  constructor
  · intro h
    exact ⟨⟨numbered_iff_makes.mp h.numbered, h.lastBox_eq.trans hlength.symm, h.nextCord_eq⟩,
      h.wired⟩
  · rintro ⟨h, hwired⟩
    exact ⟨numbered_iff_makes.mpr h.makes, hwired, h.lastBox_eq.trans hlength, h.nextCord_eq⟩

theorem wellFormed_empty : empty.WellFormed where
  numbered := fun i b hb => by simp [empty] at hb
  wired := fun c hc => by simp [empty] at hc
  lastBox_eq := rfl
  nextCord_eq := rfl

theorem WellFormed.of_skeleton {p q : Patch} (hp : p.WellFormed) (h : q.skeleton = p.skeleton) :
    q.WellFormed := by
  have hcords : q.cords = p.cords := congrArg Skeleton.cords h
  have hgrow : p.Extends q := ⟨h ▸ List.prefix_rfl, hcords ▸ List.prefix_rfl⟩
  refine wellFormed_iff.mpr ⟨h ▸ (wellFormed_iff.mp hp).1, fun c hc => ?_⟩
  rw [hcords] at hc
  exact (hp.wired c hc).extends hgrow

theorem WellFormed.of_addMake {p q : Patch} (hp : p.WellFormed) (hgrow : p.Extends q)
    {m : Box.Make} (hm : m.id = p.nextId)
    (h : q.skeleton = { p.skeleton with
      makes := p.skeleton.makes ++ [m], lastBox := p.lastBox + 1 }) : q.WellFormed := by
  have hcords : q.cords = p.cords := congrArg Skeleton.cords h
  refine wellFormed_iff.mpr ⟨h ▸ (wellFormed_iff.mp hp).1.addMake hm, fun c hc => ?_⟩
  rw [hcords] at hc
  exact (hp.wired c hc).extends hgrow

theorem WellFormed.add {p : Patch} (hp : p.WellFormed) (typeName : String) (contract : Contract)
    (args : String) (attributes : Members) :
    (p.add typeName contract args attributes).2.WellFormed :=
  hp.of_addMake (p.extends_add ..) rfl (p.skeleton_add ..)

theorem WellFormed.edit {p : Patch} (hp : p.WellFormed) (e : Edit) : (p.edit e).WellFormed := by
  have hgrow := extends_edit p e
  have hids := (wellFormed_iff.mp hp).1
  rcases edit_cases p e with h | ⟨m, hm, h⟩ | ⟨s, t, c, hc, h⟩
  · exact hp.of_skeleton h
  · exact hp.of_addMake hgrow hm h
  · have hcords : (p.edit e).cords = p.cords ++ [c] := congrArg Skeleton.cords h
    refine wellFormed_iff.mpr ⟨h ▸ hids.addCord c, fun c' hc' => ?_⟩
    rw [hcords, List.mem_append, List.mem_singleton] at hc'
    rcases hc' with hc' | rfl
    · exact (hp.wired c' hc').extends hgrow
    · exact ((cordBetween_eq_ok_iff hp).mp hc).2.extends hgrow

/-- **A well-formed patch stays so**, whatever its history. -/
theorem WellFormed.after {p : Patch} (hp : p.WellFormed) (history : List Edit) :
    (p.after history).WellFormed := by
  induction history generalizing p with
  | nil => exact hp
  | cons e history ih => exact ih (hp.edit e)

theorem wellFormed_after (history : List Edit) : (empty.after history).WellFormed :=
  wellFormed_empty.after history

/-! ### Looking a box up -/

theorem WellFormed.box?_eq_some_iff {p : Patch} (h : p.WellFormed) {id : BoxId} {b : Box} :
    p.box? id = some b ↔ b ∈ p.boxes ∧ b.id = id := by
  constructor
  · intro hb
    refine ⟨?_, h.id_of_box? hb⟩
    obtain ⟨n⟩ := id
    cases n with
    | zero => cases hb
    | succ n => exact List.mem_of_getElem? hb
  · rintro ⟨hb, rfl⟩
    obtain ⟨i, hi⟩ := List.mem_iff_getElem?.mp hb
    rw [h.numbered i b hi]
    exact hi

theorem box?_eq_none_iff {p : Patch} {id : BoxId} :
    p.box? id = none ↔ id.number = 0 ∨ p.boxes.length < id.number := by
  obtain ⟨n⟩ := id
  cases n with
  | zero => exact ⟨fun _ => Or.inl rfl, fun _ => rfl⟩
  | succ n =>
    rw [box?_eq_getElem?, List.getElem?_eq_none_iff]
    simp only
    omega

theorem WellFormed.box?_nextId {p : Patch} (h : p.WellFormed) : p.box? p.nextId = none := by
  rw [box?_eq_none_iff, nextId, h.lastBox_eq]
  exact Or.inr (Nat.lt_succ_self _)

theorem WellFormed.box?_add {p : Patch} (h : p.WellFormed) (typeName : String)
    (contract : Contract) (args : String) (attributes : Members) (id : BoxId) :
    (p.add typeName contract args attributes).2.box? id =
      if id = p.nextId then some (p.newBox typeName contract args attributes) else p.box? id := by
  obtain ⟨n⟩ := id
  cases n with
  | zero => rfl
  | succ n =>
    rw [box?_eq_getElem?, box?_eq_getElem?]
    simp only [Patch.add, nextId, newBox, h.lastBox_eq, BoxId.mk.injEq, Nat.add_right_cancel_iff,
      List.getElem?_append, List.getElem?_singleton]
    rcases Nat.lt_trichotomy n p.boxes.length with hn | hn | hn
    · rw [if_pos hn, if_neg (by omega)]
    · rw [if_neg (by omega), if_pos (by omega), if_pos hn]
    · rw [if_neg (by omega), if_neg (by omega), if_neg (by omega),
        List.getElem?_eq_none (by omega)]

theorem WellFormed.box?_addParameter {p : Patch} (h : p.WellFormed) (name : String)
    (o : ParameterOptions) (id : BoxId) : (p.addParameter name o).2.box? id =
      if id = p.nextId then
        some ((p.newBox o.control.renderClass (o.control.contract o.size.1) ""
          (o.attributes name)).setEditorRect ⟨0, 0, o.size.1, o.size.2⟩)
      else p.box? id := by
  have hadd := h.box?_add o.control.renderClass (o.control.contract o.size.1) ""
    (o.attributes name) id
  refine ((box?_update _ _ _ _).trans (congrArg (Option.map _) hadd)).trans ?_
  by_cases hid : id = p.nextId
  · rw [if_pos hid, if_pos hid, hid]
    exact congrArg some (if_pos rfl)
  · rw [if_neg hid, if_neg hid]
    cases p.box? id with
    | none => rfl
    | some b => exact congrArg some (if_neg (Ne.symm hid))

theorem WellFormed.nodup_ids {p : Patch} (h : p.WellFormed) : p.ids.Nodup := by
  refine List.nodup_iff_getElem?_ne_getElem?.mpr fun i j hij hj heq => ?_
  rw [ids, List.length_map] at hj
  have hi : i < p.boxes.length := by omega
  obtain ⟨b, hb⟩ : ∃ b, p.boxes[i]? = some b := ⟨_, List.getElem?_eq_getElem hi⟩
  obtain ⟨b', hb'⟩ : ∃ b', p.boxes[j]? = some b' := ⟨_, List.getElem?_eq_getElem hj⟩
  rw [ids, List.getElem?_map, List.getElem?_map, hb, hb', Option.map_some, Option.map_some,
    Option.some.injEq, h.numbered i b hb, h.numbered j b' hb', BoxId.mk.injEq] at heq
  omega

/-! ### Histories -/

theorem after_append (p : Patch) (history more : List Edit) :
    p.after (history ++ more) = (p.after history).after more := List.foldl_append

/-- **What lasts in every history.** At any point of it the boxes are numbered from 1 in their order
and found by their numbers, the counters stand at the numbers of boxes and of cords, so the number
of the next cord is the number of cords, and every cord fits. From there on no cord and no box is
lost or moved, and no box changes its make. -/
theorem numbers_and_cords_last (history more : List Edit) :
    let p := empty.after history
    let q := p.after more
    (∀ (i : Nat) (b : Box), p.boxes[i]? = some b → b.id = ⟨i + 1⟩) ∧
    (∀ (id : BoxId) (b : Box), p.box? id = some b ↔ b ∈ p.boxes ∧ b.id = id) ∧
    (∀ id : BoxId, p.box? id = none ↔ id.number = 0 ∨ p.boxes.length < id.number) ∧
    p.lastBox = p.boxes.length ∧ p.nextCord = p.cords.length ∧
    (∀ (source destination : Port) (number : Nat) (r : Patch),
      p.connect source destination = .ok (number, r) → number = p.cords.length) ∧
    (∀ c ∈ p.cords, p.Fits c) ∧
    p.cords <+: q.cords ∧
    ∀ (i : Nat) (b : Box), p.boxes[i]? = some b →
      ∃ b', q.boxes[i]? = some b' ∧ b'.make = b.make := by
  intro p q
  have hp : p.WellFormed := wellFormed_after history
  have hq : p.Extends q := extends_after p more
  refine ⟨hp.numbered, fun _ _ => hp.box?_eq_some_iff, fun _ => box?_eq_none_iff, hp.lastBox_eq,
    hp.nextCord_eq, ?_, hp.wired, hq.cords, fun i b hb => hq.box hb⟩
  intro source destination number r h
  rw [connect_eq] at h
  cases hc : p.cordBetween source destination with
  | error e => rw [hc] at h; cases h
  | ok c => rw [hc] at h; cases h; exact hp.nextCord_eq

end Patch

end MaxPatch
