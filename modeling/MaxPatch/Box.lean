import MaxPatch.Contract
import MaxPatch.Json
import MaxPatch.Patch.Error

/-! # Boxes: the objects of a patch

A box has its ports from the contract it was made by, and they never change; its geometry and its
attributes may. A handle is what one keeps of a box to wire it: its number, its type and how many
ports it has. Both give out ports only after checking that they exist. -/

namespace MaxPatch

/-! ## Sizes -/

/-- The width of a character of a label. -/
def charWidth : Pixels := 7

/-- The least width of a box that shows a label. -/
def minBoxWidth : Pixels := 40

/-- The margin around a label. -/
def boxMargin : Pixels := 16

/-- Whether the width for a label of so many characters can be worked out in 32 bits. The number of
characters is cut off to 32 bits before; what is asked for it must not overflow. -/
def labelFits (chars : Nat) : Bool :=
  (UInt32.ofNat chars).toNat * charWidth.toNat + boxMargin.toNat ≤ Pixels.top

/-- The width of a box for a label of so many characters, if the label fits. For others the
arithmetic has no result, and without the check for that it wraps around. -/
def labelWidth (chars : Nat) : Pixels :=
  max minBoxWidth (UInt32.ofNat chars * charWidth + boxMargin)

/-- The width of a box for a label, unless the arithmetic overflows. -/
def labelWidth? (chars : Nat) : Option Pixels :=
  if labelFits chars then some (labelWidth chars) else none

/-- The width of a box that shows a text, unless the arithmetic overflows. -/
def boxWidth? (text : String) : Option Pixels := labelWidth? text.length

/-- The rectangle of a box that nobody has moved or sized. -/
def defaultRect : Rect := { x := 0, y := 0, width := 120, height := 22 }

/-! ## Handles -/

/-- What one keeps of a box to wire it. -/
structure Handle where
  id : BoxId
  typeName : String
  inlets : Nat
  outlets : Nat
  deriving DecidableEq, Repr

/-- The port of a box if it has so many of them. -/
def checkedPort (id : BoxId) (typeName : String) (side : Side) (index count : Nat) :
    Except PatchError Port :=
  if index < count then .ok { box := id, side, index }
  else .error (.portOutOfRange typeName side index count)

namespace Handle

/-- An inlet. -/
def inlet (h : Handle) (index : Nat) : Except PatchError Port :=
  checkedPort h.id h.typeName .inlet index h.inlets

/-- An outlet. -/
def outlet (h : Handle) (index : Nat) : Except PatchError Port :=
  checkedPort h.id h.typeName .outlet index h.outlets

end Handle

/-! ## Boxes -/

/-- An object of a patch. -/
structure Box where
  id : BoxId
  typeName : String
  renderClass : String
  inlets : Nat
  outlets : List OutletKind
  args : String
  editorRect : Rect
  shown : Bool
  faceRect : Rect
  attributes : Members

/-- The label of a box: its type and, after a space, its arguments. -/
def labelText (typeName args : String) : String :=
  if args = "" then typeName else typeName ++ " " ++ args

/-- Whether a box made by a contract gets a width: if it is made for its label, that has to fit. -/
def Contract.sizes (c : Contract) (label : String) : Bool :=
  c.width.isSome || !c.isGeneric || labelFits label.length

theorem labelFits_iff (chars : Nat) :
    labelFits chars ↔ 7 * (chars % (Pixels.top + 1)) + 16 ≤ Pixels.top := by
  have hasked : (UInt32.ofNat chars).toNat * charWidth.toNat + boxMargin.toNat =
      7 * (chars % (Pixels.top + 1)) + 16 := by
    rw [UInt32.toNat_ofNat', Nat.mul_comm]
    rfl
  rw [labelFits, decide_eq_true_iff, hasked]

theorem Contract.sizes_of_length_le (c : Contract) {label : String} (h : label.length ≤ 1000) :
    c.sizes label = true := by
  have hfits : labelFits label.length = true := by
    rw [labelFits_iff]
    change 7 * (label.length % 4294967296) + 16 ≤ 4294967295
    omega
  rw [Contract.sizes, hfits, Bool.or_true]

namespace Box

/-- A new box. Its width is the one of the contract, or else the one for the label if it shows one.
-/
def ofContract (id : BoxId) (typeName : String) (contract : Contract) (args : String)
    (attributes : Members) : Box :=
  let width := match contract.width with
    | some w => w
    | none =>
      if contract.isGeneric then labelWidth (labelText typeName args).length else defaultRect.width
  { id, typeName, args, attributes
    renderClass := contract.renderClass
    inlets := contract.inlets
    outlets := contract.outlets
    editorRect := { defaultRect with width }
    shown := false
    faceRect := defaultRect }

/-- The handle of a box. -/
def handle (b : Box) : Handle :=
  { id := b.id, typeName := b.typeName, inlets := b.inlets, outlets := b.outlets.length }

/-- An inlet. -/
def inlet (b : Box) (index : Nat) : Except PatchError Port :=
  checkedPort b.id b.typeName .inlet index b.inlets

/-- An outlet. -/
def outlet (b : Box) (index : Nat) : Except PatchError Port :=
  checkedPort b.id b.typeName .outlet index b.outlets.length

/-- The text shown on the box: ordinary boxes have one. -/
def label? (b : Box) : Option String :=
  if b.renderClass = genericClass then some (labelText b.typeName b.args) else none

/-- The rectangle on the device face, for a box that is shown there. -/
def faceRect? (b : Box) : Option Rect := if b.shown then some b.faceRect else none

/-- The classes of live objects that a user does not operate. -/
def systemClasses : List String :=
  ["live.thisdevice", "live.object", "live.path", "live.observer", "live.remote~"]

/-- Whether the box is a control that a user operates. -/
def isControl (b : Box) : Bool :=
  "live.".toList.isPrefixOf b.renderClass.toList && !systemClasses.contains b.renderClass

/-! ## Changes -/

/-- Gives the box another rectangle in the editor. -/
def setEditorRect (b : Box) (r : Rect) : Box := { b with editorRect := r }

/-- Moves the box in the editor; its size stays. -/
def moveTo (b : Box) (x y : Pixels) : Box := b.setEditorRect (b.editorRect.movedTo x y)

/-- Shows or hides the box on the device face and, if a rectangle is given, puts it there. -/
def setFace (b : Box) (shown : Bool) (r : Option Rect) : Box :=
  { b with shown, faceRect := r.getD b.faceRect }

/-- Sets an attribute. -/
def setAttribute (b : Box) (key : String) (value : Json) : Box :=
  { b with attributes := b.attributes.insert key value }

end Box

end MaxPatch
