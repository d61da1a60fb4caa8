import MaxPatch.Proofs.Coverage
import MaxPatch.Proofs.Sessions

/-! # Agreement: what the layouts write and do not read

Two patches agree except for some places and faces (`Patch.AgreeExcept`) if their boxes differ at
most in where the boxes of `moved` stand in the editor and in how those of `faced` are shown on the
face. With `framed` the width of the device and the mode it opens in may differ as well.

* A layout goes no further than that: `AgreeExcept.layoutEditor_left`,
  `AgreeExcept.layoutFace_left`.
* Layouts of patches that agree have the same results, and what a layout writes agrees afterwards:
  `AgreeExcept.layoutEditor` for the places of all boxes, `AgreeExcept.layoutFace` for the faces of
  the boxes named.
* Boxes and cords are added to patches that agree with the same answers, and they go on to agree:
  `AgreeExcept.add`, `AgreeExcept.chain`. -/

namespace MaxPatch

/-- Boxes that are the same, except where they stand in the editor, if `moved`, and how they are
shown on the face, if `faced`. -/
structure Box.AgreeExcept (moved faced : Prop) (b c : Box) : Prop where
  make : b.make = c.make
  attributes : b.attributes = c.attributes
  width : b.editorRect.width = c.editorRect.width
  height : b.editorRect.height = c.editorRect.height
  place : ¬ moved → b.editorRect = c.editorRect
  shown : ¬ faced → b.shown = c.shown
  faceRect : ¬ faced → b.faceRect = c.faceRect

namespace Box

/-- Whether boxes of this make are controls. -/
def Make.isControl (m : Make) : Bool :=
  "live.".toList.isPrefixOf m.renderClass.toList && !systemClasses.contains m.renderClass

variable {moved faced moved' faced' : Prop} {b c : Box}

theorem AgreeExcept.refl (b : Box) : b.AgreeExcept moved faced b :=
  ⟨rfl, rfl, rfl, rfl, fun _ => rfl, fun _ => rfl, fun _ => rfl⟩

theorem AgreeExcept.mono (h : b.AgreeExcept moved faced c) (hm : moved → moved')
    (hf : faced → faced') : b.AgreeExcept moved' faced' c :=
  ⟨h.make, h.attributes, h.width, h.height, fun h' => h.place fun hm' => h' (hm hm'),
    fun h' => h.shown fun hf' => h' (hf hf'), fun h' => h.faceRect fun hf' => h' (hf hf')⟩

theorem AgreeExcept.eq (h : b.AgreeExcept moved faced c) (hm : ¬ moved) (hf : ¬ faced) : b = c := by
  have hmake := h.make
  have hattributes := h.attributes
  have hplace := h.place hm
  have hshown := h.shown hf
  have hface := h.faceRect hf
  cases b
  cases c
  simp only [Box.make, Make.mk.injEq] at hmake
  simp_all

theorem AgreeExcept.symm (h : b.AgreeExcept moved faced c) : c.AgreeExcept moved faced b :=
  ⟨h.make.symm, h.attributes.symm, h.width.symm, h.height.symm, fun hm => (h.place hm).symm,
    fun hf => (h.shown hf).symm, fun hf => (h.faceRect hf).symm⟩

theorem AgreeExcept.trans {e : Box} (h : b.AgreeExcept moved faced c)
    (h' : c.AgreeExcept moved faced e) : b.AgreeExcept moved faced e :=
  ⟨h.make.trans h'.make, h.attributes.trans h'.attributes, h.width.trans h'.width,
    h.height.trans h'.height, fun hm => (h.place hm).trans (h'.place hm),
    fun hf => (h.shown hf).trans (h'.shown hf), fun hf => (h.faceRect hf).trans (h'.faceRect hf)⟩

theorem AgreeExcept.eq_of_both (h : b.AgreeExcept True False c) (h' : b.AgreeExcept False True c) :
    b = c :=
  have hall : b.AgreeExcept False False c :=
    ⟨h.make, h.attributes, h.width, h.height, h'.place, h.shown, h.faceRect⟩
  hall.eq not_false not_false

theorem AgreeExcept.moveTo (h : b.AgreeExcept moved faced c) (x y : Pixels) :
    (b.moveTo x y).AgreeExcept moved' faced (c.moveTo x y) where
  make := h.make
  attributes := h.attributes
  width := h.width
  height := h.height
  place := fun _ => by
    simp only [Box.moveTo, setEditorRect, Rect.movedTo, h.width, h.height]
  shown := h.shown
  faceRect := h.faceRect

theorem AgreeExcept.setFace (h : b.AgreeExcept moved faced c) (r : Rect) :
    (b.setFace true (some r)).AgreeExcept moved faced' (c.setFace true (some r)) :=
  ⟨h.make, h.attributes, h.width, h.height, h.place, fun _ => rfl, fun _ => rfl⟩

end Box

namespace Patch

/-- Patches that are the same, except where the boxes of `moved` stand in the editor, how those of
`faced` are shown on the face and, if `framed`, how wide the device is and how it opens. -/
structure AgreeExcept (moved faced : BoxId → Prop) (framed : Prop) (p q : Patch) : Prop where
  boxes : ∀ id, Option.Rel (Box.AgreeExcept (moved id) (faced id)) (p.box? id) (q.box? id)
  cords : p.cords = q.cords
  lastBox : p.lastBox = q.lastBox
  nextCord : p.nextCord = q.nextCord
  description : p.description = q.description
  tags : p.tags = q.tags
  deviceWidth : ¬ framed → p.deviceWidth = q.deviceWidth
  opens : ¬ framed → p.opensInPresentation = q.opensInPresentation

variable {moved faced moved' faced' : BoxId → Prop} {framed : Prop} {p q : Patch}

theorem AgreeExcept.refl (p : Patch) : p.AgreeExcept moved faced framed p where
  boxes := fun id => by
    cases p.box? id with
    | none => exact Option.Rel.none
    | some b => exact Option.Rel.some (Box.AgreeExcept.refl b)
  cords := rfl
  lastBox := rfl
  nextCord := rfl
  description := rfl
  tags := rfl
  deviceWidth := fun _ => rfl
  opens := fun _ => rfl

theorem AgreeExcept.box? (h : p.AgreeExcept moved faced framed q) (id : BoxId) :
    (p.box? id = none ∧ q.box? id = none) ∨ ∃ b c, p.box? id = some b ∧ q.box? id = some c ∧
      b.AgreeExcept (moved id) (faced id) c := by
  have hid := h.boxes id
  generalize p.box? id = b at hid ⊢
  generalize q.box? id = c at hid ⊢
  cases hid with
  | none => exact Or.inl ⟨rfl, rfl⟩
  | some hbc => exact Or.inr ⟨_, _, rfl, rfl, hbc⟩

theorem AgreeExcept.mono (h : p.AgreeExcept moved faced framed q)
    (hm : ∀ id b, p.box? id = some b → moved id → moved' id)
    (hf : ∀ id b, p.box? id = some b → faced id → faced' id) :
    p.AgreeExcept moved' faced' framed q where
  boxes := fun id => by
    rcases h.box? id with ⟨hp, hq⟩ | ⟨b, c, hp, hq, hbc⟩
    · rw [hp, hq]; exact Option.Rel.none
    · rw [hp, hq]; exact Option.Rel.some (hbc.mono (hm id b hp) (hf id b hp))
  cords := h.cords
  lastBox := h.lastBox
  nextCord := h.nextCord
  description := h.description
  tags := h.tags
  deviceWidth := h.deviceWidth
  opens := h.opens

theorem AgreeExcept.symm (h : p.AgreeExcept moved faced framed q) :
    q.AgreeExcept moved faced framed p where
  boxes := fun id => by
    rcases h.box? id with ⟨hp, hq⟩ | ⟨b, c, hp, hq, hbc⟩
    · rw [hp, hq]; exact Option.Rel.none
    · rw [hp, hq]; exact Option.Rel.some hbc.symm
  cords := h.cords.symm
  lastBox := h.lastBox.symm
  nextCord := h.nextCord.symm
  description := h.description.symm
  tags := h.tags.symm
  deviceWidth := fun hf => (h.deviceWidth hf).symm
  opens := fun hf => (h.opens hf).symm

theorem AgreeExcept.trans {r : Patch} (h : p.AgreeExcept moved faced framed q)
    (h' : q.AgreeExcept moved faced framed r) : p.AgreeExcept moved faced framed r where
  boxes := fun id => by
    have hr := h'.boxes id
    rcases h.box? id with ⟨hp, hq⟩ | ⟨b, c, hp, hq, hbc⟩
    · rw [hp]; rw [hq] at hr; exact hr
    · rw [hp]
      rw [hq] at hr
      generalize r.box? id = e at hr ⊢
      cases hr with
      | some hce => exact Option.Rel.some (hbc.trans hce)
  cords := h.cords.trans h'.cords
  lastBox := h.lastBox.trans h'.lastBox
  nextCord := h.nextCord.trans h'.nextCord
  description := h.description.trans h'.description
  tags := h.tags.trans h'.tags
  deviceWidth := fun hf => (h.deviceWidth hf).trans (h'.deviceWidth hf)
  opens := fun hf => (h.opens hf).trans (h'.opens hf)

theorem AgreeExcept.makes (h : p.AgreeExcept moved faced framed q) :
    p.skeleton.makes = q.skeleton.makes := by
  refine List.ext_getElem? fun i => ?_
  have hp := map_make_box? p ⟨i + 1⟩
  have hq := map_make_box? q ⟨i + 1⟩
  simp only at hp hq
  rw [← hp, ← hq]
  rcases h.box? ⟨i + 1⟩ with ⟨hp, hq⟩ | ⟨b, c, hp, hq, hbc⟩
  · rw [hp, hq]
  · rw [hp, hq, Option.map_some, Option.map_some, hbc.make]

theorem AgreeExcept.skeleton (h : p.AgreeExcept moved faced framed q) :
    p.skeleton = q.skeleton := by
  have hm := h.makes
  rw [Patch.skeleton, Patch.skeleton] at hm ⊢
  rw [Skeleton.mk.injEq]
  exact ⟨hm, h.cords, h.lastBox, h.nextCord⟩

theorem AgreeExcept.eq (h : p.AgreeExcept (fun _ => False) (fun _ => False) framed q) :
    q = { p with deviceWidth := q.deviceWidth, opensInPresentation := q.opensInPresentation } := by
  have hboxes : p.boxes = q.boxes := List.ext_getElem? fun i => by
    rw [← box?_eq_getElem?, ← box?_eq_getElem?]
    rcases h.box? ⟨i + 1⟩ with ⟨hp, hq⟩ | ⟨b, c, hp, hq, hbc⟩
    · rw [hp, hq]
    · rw [hp, hq, hbc.eq not_false not_false]
  rw [hboxes, h.cords, h.lastBox, h.nextCord, h.description, h.tags]

theorem AgreeExcept.eq_of_frame (h : p.AgreeExcept (fun _ => False) (fun _ => False) False q) :
    p = q := by
  rw [h.eq, ← h.deviceWidth not_false, ← h.opens not_false]

theorem AgreeExcept.eq_of_both (h : p.AgreeExcept (fun _ => True) (fun _ => False) False q)
    (h' : p.AgreeExcept (fun _ => False) (fun _ => True) True q) : p = q := by
  refine eq_of_frame { h with boxes := fun id => ?_ }
  have hid' := h'.boxes id
  rcases h.box? id with ⟨hp, hq⟩ | ⟨b, c, hp, hq, hbc⟩
  · rw [hp, hq]; exact Option.Rel.none
  · rw [hp, hq] at hid' ⊢
    cases hid' with
    | some hbc' =>
      rw [hbc.eq_of_both hbc']
      exact Option.Rel.some (Box.AgreeExcept.refl c)

/-! ### Changes of one box -/

theorem AgreeExcept.update (h : p.AgreeExcept moved faced framed q) (id : BoxId) (f g : Box → Box)
    (here : ∀ b c : Box, b.AgreeExcept (moved id) (faced id) c →
      (f b).AgreeExcept (moved' id) (faced' id) (g c))
    (elsewhere : ∀ other, other ≠ id → (moved other → moved' other) ∧
      (faced other → faced' other)) :
    (p.update id f).AgreeExcept moved' faced' framed (q.update id g) where
  boxes := fun other => by
    rw [box?_update, box?_update]
    rcases h.box? other with ⟨hp, hq⟩ | ⟨b, c, hp, hq, hbc⟩
    · rw [hp, hq]; exact Option.Rel.none
    · rw [hp, hq]
      refine Option.Rel.some ?_
      by_cases ho : id = other
      · subst ho; simpa using here b c hbc
      · simpa [ho] using hbc.mono (elsewhere other (Ne.symm ho)).1 (elsewhere other (Ne.symm ho)).2
  cords := by rw [cords_update, cords_update, h.cords]
  lastBox := by rw [update_eq p, update_eq q]; exact h.lastBox
  nextCord := by rw [update_eq p, update_eq q]; exact h.nextCord
  description := by rw [update_eq p, update_eq q]; exact h.description
  tags := by rw [update_eq p, update_eq q]; exact h.tags
  deviceWidth := by rw [update_eq p, update_eq q]; exact h.deviceWidth
  opens := by rw [update_eq p, update_eq q]; exact h.opens

theorem update_self (p : Patch) (id : BoxId) : p.update id (fun b => b) = p := by
  unfold update
  split
  · rfl
  · next n _ => exact congrArg (fun bs => { p with boxes := bs }) (List.modify_id n p.boxes)

theorem AgreeExcept.update_left (h : p.AgreeExcept moved faced framed q) (id : BoxId)
    (f : Box → Box) (here : ∀ b c : Box, b.AgreeExcept (moved id) (faced id) c →
      (f b).AgreeExcept (moved id) (faced id) c) :
    (p.update id f).AgreeExcept moved faced framed q := by
  have h' := h.update id f (fun b => b) here fun _ _ => ⟨fun hm => hm, fun hf => hf⟩
  rw [update_self q] at h'
  exact h'

/-! ### The layout of the editor -/

theorem controls_eq (p : Patch) :
    p.controls = (p.skeleton.makes.filter (·.isControl)).map (·.id) := by
  unfold controls skeleton
  rw [List.filter_map, List.map_map]
  rfl

theorem logic_eq (p : Patch) :
    p.logic = (p.skeleton.makes.filter (!·.isControl)).map (·.id) := by
  unfold logic skeleton
  rw [List.filter_map, List.map_map]
  rfl

theorem editorLayout_congr (h : p.skeleton = q.skeleton) : p.editorLayout = q.editorLayout := by
  have hcords : p.cords = q.cords := congrArg Skeleton.cords h
  have hd : p.inDegree = q.inDegree := by funext id; unfold inDegree; rw [hcords]
  have hs : p.successors = q.successors := by funext id; unfold successors; rw [hcords]
  unfold editorLayout layering
  rw [controls_eq p, controls_eq q, logic_eq p, logic_eq q, h, hd, hs]

/-- **Every box has a place in the editor.** -/
theorem mem_editorLayout (hp : p.WellFormed) {id : BoxId} {b : Box} (hb : p.box? id = some b) :
    id ∈ p.editorLayout.controls ++ p.editorLayout.columns.flatten := by
  obtain ⟨hmem, rfl⟩ := hp.box?_eq_some_iff.mp hb
  have hid : b.id ∈ p.ids := List.mem_map_of_mem hmem
  exact hp.covers_editorLayout.placed.mem_iff.mpr hid

theorem rest_of_cons {before after : BoxId → Prop} {id : BoxId} {ids : List BoxId}
    (h : ∀ other, before other → other ∈ id :: ids ∨ after other) :
    ∀ other, before other ∧ other ≠ id → other ∈ ids ∨ after other := by
  rintro other ⟨ho, hne⟩
  rcases h other ho with ho | ho
  · exact Or.inl ((List.mem_cons.mp ho).resolve_left hne)
  · exact Or.inr ho

theorem AgreeExcept.stack (h : p.AgreeExcept moved faced framed q) {ids : List BoxId}
    (hm : ∀ id, moved id → id ∈ ids ∨ moved' id) (x y : Pixels) :
    (p.stack x y ids).AgreeExcept moved' faced framed (q.stack x y ids) := by
  induction ids generalizing y p q moved with
  | nil =>
    exact h.mono (fun id _ _ hid => (hm id hid).resolve_left List.not_mem_nil) fun _ _ _ hf => hf
  | cons id ids ih =>
    have hrest := rest_of_cons hm
    rcases h.box? id with ⟨hp, hq⟩ | ⟨b, c, hp, hq, hbc⟩
    · rw [Patch.stack, Patch.stack, hp, hq]
      refine ih (h.mono (fun other b hb ho => ⟨ho, ?_⟩) fun _ _ _ hf => hf) hrest y
      rintro rfl
      rw [hp] at hb
      cases hb
    · rw [Patch.stack, Patch.stack, hp, hq]
      simp only [hbc.height]
      refine ih (h.update id _ _ (fun b c hbc => ?_) fun other ho => ⟨fun hm => ?_, ?_⟩) hrest _
      · exact hbc.moveTo x y
      · exact ⟨hm, ho⟩
      · exact fun hf => hf

theorem AgreeExcept.stackColumns (h : p.AgreeExcept moved faced framed q)
    {columns : List (List BoxId)} (hm : ∀ id, moved id → id ∈ columns.flatten ∨ moved' id)
    (l : EditorLayout) (i : Nat) :
    (p.stackColumns l i columns).AgreeExcept moved' faced framed (q.stackColumns l i columns) := by
  induction columns generalizing i p q moved with
  | nil =>
    exact h.mono (fun id _ _ hid => (hm id hid).resolve_left List.not_mem_nil) fun _ _ _ hf => hf
  | cons column columns ih =>
    refine ih (h.stack (fun id hid => ?_) (l.columnX i) editorTop) (fun id hid => hid) (i + 1)
    have := hm id hid
    rwa [List.flatten_cons, List.mem_append, or_assoc] at this

/-- **The layout of the editor puts every box in its place**, wherever it stood before. -/
theorem AgreeExcept.layoutEditor (h : p.AgreeExcept moved faced framed q) (hp : p.WellFormed) :
    p.layoutEditor.2.AgreeExcept (fun _ => False) faced framed q.layoutEditor.2 := by
  have hl := editorLayout_congr h.skeleton
  -- what may be moved is among the boxes that are stacked, so nothing is left that may differ
  have hcover : p.AgreeExcept
      (fun id => id ∈ p.editorLayout.controls ++ p.editorLayout.columns.flatten) faced framed q :=
    h.mono (fun id b hb _ => mem_editorLayout hp hb) fun _ _ _ hf => hf
  rw [Patch.layoutEditor, Patch.layoutEditor, ← hl]
  exact (hcover.stack (fun id => List.mem_append.mp) editorLeft editorTop).stackColumns
    (fun id => Or.inl) p.editorLayout 0

theorem AgreeExcept.layoutEditor_left (h : p.AgreeExcept (fun _ => True) faced framed q) :
    p.layoutEditor.2.AgreeExcept (fun _ => True) faced framed q := by
  refine layoutEditor_preserves (P := fun p => p.AgreeExcept (fun _ => True) faced framed q)
    (fun p id x y h => ?_) h
  refine h.update_left id _ fun b c hbc => ?_
  exact ⟨hbc.make, hbc.attributes, hbc.width, hbc.height, fun hm => absurd trivial hm, hbc.shown,
    hbc.faceRect⟩

theorem agreeExcept_layoutEditor (p : Patch) :
    p.layoutEditor.2.AgreeExcept (fun _ => True) (fun _ => False) False p :=
  (AgreeExcept.refl p).layoutEditor_left

/-! ### The layout of the face -/

/-- The row ends before the first box that does not exist; what is in it agrees afterwards. -/
theorem AgreeExcept.showRow (h : p.AgreeExcept moved faced framed q) {ids : List BoxId}
    (hf : ∀ id, faced id → id ∈ ids.takeWhile (fun id => (p.box? id).isSome) ∨ faced' id)
    (x : Pixels) : (p.showRow x ids).1 = (q.showRow x ids).1 ∧
      (p.showRow x ids).2.AgreeExcept moved faced' framed (q.showRow x ids).2 := by
  induction ids generalizing x p q faced with
  | nil =>
    exact ⟨rfl, h.mono (fun _ _ _ hm => hm) fun id _ _ hid =>
      (hf id hid).resolve_left List.not_mem_nil⟩
  | cons id ids ih =>
    rcases h.box? id with ⟨hp, hq⟩ | ⟨b, c, hp, hq, hbc⟩
    · rw [Patch.showRow, Patch.showRow, hp, hq]
      rw [List.takeWhile_cons_of_neg (by simp [hp])] at hf
      exact ⟨rfl, h.mono (fun _ _ _ hm => hm) fun other _ _ ho =>
        (hf other ho).resolve_left List.not_mem_nil⟩
    · rw [Patch.showRow, Patch.showRow, hp, hq]
      rw [List.takeWhile_cons_of_pos (by simp [hp])] at hf
      have hrest : ∀ (f : Box → Box) (other : BoxId), faced other ∧ other ≠ id →
          other ∈ ids.takeWhile (fun other => ((p.update id f).box? other).isSome) ∨
            faced' other := fun f => by
        simp only [isSome_box?_update]
        exact rest_of_cons hf
      simp only [hbc.width, hbc.height]
      refine ih (h.update id _ _ (fun b c hbc => ?_) fun other ho => ⟨?_, fun hf => ?_⟩)
        (hrest _) _
      · exact hbc.setFace _
      · exact fun hm => hm
      · exact ⟨hf, ho⟩

/-- **The layout of the face shows the boxes named in their row**, however they were shown before.
-/
theorem AgreeExcept.layoutFace (h : p.AgreeExcept moved faced framed q) {ids : List BoxId}
    (hf : ∀ id, faced id → id ∈ ids.takeWhile (fun id => (p.box? id).isSome) ∨ faced' id) :
    (p.layoutFace ids).1 = (q.layoutFace ids).1 ∧
      (p.layoutFace ids).2.AgreeExcept moved faced' framed (q.layoutFace ids).2 := by
  obtain ⟨hres, hrow⟩ := h.showRow hf faceMargin
  rw [Patch.layoutFace, Patch.layoutFace]
  by_cases hne : ids = []
  · subst hne
    exact ⟨rfl, hrow⟩
  · rw [if_neg hne, if_neg hne]
    generalize p.showRow faceMargin ids = rp at hres hrow ⊢
    generalize q.showRow faceMargin ids = rq at hres hrow ⊢
    obtain ⟨resp, p'⟩ := rp
    obtain ⟨resq, q'⟩ := rq
    obtain rfl : resp = resq := hres
    cases resp with
    | error e => exact ⟨rfl, hrow⟩
    | ok x =>
      exact ⟨rfl, { hrow with deviceWidth := fun _ => rfl }⟩

theorem AgreeExcept.deviceWidth_layoutFace (h : p.AgreeExcept moved faced framed q)
    {ids : List BoxId} (hids : ∀ id ∈ ids, (p.box? id).isSome) (hne : ids ≠ []) :
    (p.layoutFace ids).2.deviceWidth = (q.layoutFace ids).2.deviceWidth := by
  have hp := congrArg Prod.fst (layoutFace_eq hne hids)
  have hq : (q.layoutFace ids).1 = _ := (h.layoutFace fun _ => Or.inr).1.symm.trans hp
  rw [deviceWidth_of_layoutFace hp, deviceWidth_of_layoutFace hq]

theorem AgreeExcept.layoutFace_left (h : p.AgreeExcept moved faced framed q) {ids : List BoxId}
    (hids : ∀ id ∈ ids, faced id) (hframed : ids ≠ [] → framed) :
    (p.layoutFace ids).2.AgreeExcept moved faced framed q := by
  refine layoutFace_preserves (P := fun p => p.AgreeExcept moved faced framed q)
    (fun p id r hid h => ?_) (fun hne p w h => ?_) h
  · refine h.update_left id _ fun b c hbc => ?_
    exact ⟨hbc.make, hbc.attributes, hbc.width, hbc.height, hbc.place,
      fun hf => absurd (hids id hid) hf, fun hf => absurd (hids id hid) hf⟩
  · exact { h with deviceWidth := fun hf => absurd (hframed hne) hf }

theorem agreeExcept_layoutFace (p : Patch) (ids : List BoxId) :
    (p.layoutFace ids).2.AgreeExcept (fun _ => False) (fun _ => True) True p :=
  (AgreeExcept.refl p).layoutFace_left (fun _ _ => trivial) fun _ => trivial

/-! ### Growth -/

theorem AgreeExcept.nextId (h : p.AgreeExcept moved faced framed q) : p.nextId = q.nextId := by
  rw [Patch.nextId, Patch.nextId, h.lastBox]

theorem AgreeExcept.newBox (h : p.AgreeExcept moved faced framed q) (typeName : String)
    (contract : Contract) (args : String) (attributes : Members) :
    p.newBox typeName contract args attributes = q.newBox typeName contract args attributes := by
  rw [Patch.newBox, Patch.newBox, h.nextId]

theorem AgreeExcept.add (h : p.AgreeExcept moved faced framed q) (hp : p.WellFormed)
    (typeName : String) (contract : Contract) (args : String) (attributes : Members) :
    (p.add typeName contract args attributes).1 = (q.add typeName contract args attributes).1 ∧
      (p.add typeName contract args attributes).2.AgreeExcept moved faced framed
        (q.add typeName contract args attributes).2 := by
  have hnew := h.newBox typeName contract args attributes
  have hq : q.WellFormed := hp.of_skeleton h.skeleton.symm
  refine ⟨congrArg Box.handle hnew, { h with
    boxes := fun id => ?_
    lastBox := congrArg (· + 1) h.lastBox }⟩
  rw [hp.box?_add, hq.box?_add, h.nextId, hnew]
  split_ifs
  · exact Option.Rel.some (Box.AgreeExcept.refl _)
  · exact h.boxes id

theorem AgreeExcept.addParameter (h : p.AgreeExcept moved faced framed q) (hp : p.WellFormed)
    (name : String) (o : ParameterOptions) : (p.addParameter name o).1 = (q.addParameter name o).1 ∧
      (p.addParameter name o).2.AgreeExcept moved faced framed (q.addParameter name o).2 := by
  obtain ⟨hhandle, hadd⟩ := h.add hp o.control.renderClass (o.control.contract o.size.1) ""
    (o.attributes name)
  rw [Patch.addParameter, Patch.addParameter]
  simp only [hhandle]
  refine ⟨trivial, hadd.update _ _ _ (fun b c hbc => ?_) fun _ _ => ⟨fun hm => hm, fun hf => hf⟩⟩
  exact ⟨hbc.make, hbc.attributes, rfl, rfl, fun _ => rfl, hbc.shown, hbc.faceRect⟩

theorem AgreeExcept.addCords (h : p.AgreeExcept moved faced framed q) (cords : List Cord) :
    (p.addCords cords).AgreeExcept moved faced framed (q.addCords cords) :=
  { h with
    cords := congrArg (· ++ cords) h.cords
    nextCord := congrArg (· + cords.length) h.nextCord }

theorem AgreeExcept.link (h : p.AgreeExcept moved faced framed q) (first second : Endpoint) :
    (∃ n p' q', p.link first second = .ok (n, p') ∧ q.link first second = .ok (n, q') ∧
      p'.AgreeExcept moved faced framed q') ∨
    ∃ e, p.link first second = .error e ∧ q.link first second = .error e := by
  rw [link_eq p, link_eq q, linkCord_congr h.makes, h.nextCord]
  cases q.linkCord first second with
  | error e => exact Or.inr ⟨e, rfl, rfl⟩
  | ok c => exact Or.inl ⟨_, _, _, rfl, rfl, h.addCords [c]⟩

theorem AgreeExcept.chain (h : p.AgreeExcept moved faced framed q) (items : List Endpoint) :
    (p.chain items).1 = (q.chain items).1 ∧
      (p.chain items).2.AgreeExcept moved faced framed (q.chain items).2 := by
  induction items generalizing p q with
  | nil => simpa [Patch.chain] using h
  | cons first items ih =>
    cases items with
    | nil => simpa [Patch.chain] using h
    | cons second rest =>
      rw [Patch.chain, Patch.chain]
      rcases h.link first second with ⟨n, p', q', hp, hq, h'⟩ | ⟨e, hp, hq⟩
      · rw [hp, hq]; exact ih h'
      · rw [hp, hq]; exact ⟨rfl, h⟩

end Patch

end MaxPatch
