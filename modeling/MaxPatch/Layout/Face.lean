import MaxPatch.Patch

/-! # The device face: parameters in a row

The parameters stand side by side, each in the size it has in the editor, and the device is as wide
as the row. A box that does not exist ends the row: the boxes before it are in place, and the width
of the device is left as it was. -/

namespace MaxPatch

/-- The margin at both ends of the row. -/
def faceMargin : Pixels := 4

/-- The top of the row. -/
def faceTop : Pixels := 4

/-- The gap between the parameters of the row. -/
def faceGap : Pixels := 8

namespace Patch

/-- Shows boxes side by side from `x` on. The answer is where the next one would go. -/
def showRow : Pixels → List BoxId → Patch → Except PatchError Pixels × Patch
  | x, [], p => (.ok x, p)
  | x, id :: ids, p =>
    match p.box? id with
    | none => (.error (.boxNotFound id), p)
    | some b =>
      let rect := { b.editorRect with x, y := faceTop }
      showRow ((x.plus rect.width).plus faceGap) ids (p.update id (·.setFace true (some rect)))

/-- Lays out the device face. The answer is the width of the device, if anything is shown. -/
def layoutFace (p : Patch) (ids : List BoxId) : Except PatchError (Option Pixels) × Patch :=
  if ids = [] then (.ok none, p)
  else
    match p.showRow faceMargin ids with
    | (.error e, p) => (.error e, p)
    | (.ok x, p) =>
      let width := x.plus faceMargin
      (.ok (some width), { p with deviceWidth := width })

end Patch

end MaxPatch
