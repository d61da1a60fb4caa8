import MaxPatch.Layout.Layering

/-! # The editor: boxes in columns

Controls stand in a column of their own at the left, and the columns of the layering stand to the
right of it. In each column the boxes are stacked from the top with a gap between them. Only corners
change: every box keeps its size. -/

namespace MaxPatch

/-- The left edge of the first column. -/
def editorLeft : Pixels := 30

/-- The top of every column. -/
def editorTop : Pixels := 30

/-- The distance from a column to the next. -/
def columnStep : Pixels := 180

/-- The gap between the boxes of a column. -/
def boxGap : Pixels := 50

/-- Where the boxes of a patch stand: the controls, and the columns of the other boxes. -/
structure EditorLayout where
  controls : List BoxId := []
  columns : List (List BoxId) := []
  stragglers : List BoxId := []
  deriving DecidableEq, Repr

namespace EditorLayout

/-- The column that a box stands in, counted from 0 behind the controls. -/
def columnOf? (l : EditorLayout) (id : BoxId) : Option Nat :=
  l.columns.findIdx? (·.contains id)

/-- The left edge of a column; its number is taken in 32 bits. -/
def columnX (l : EditorLayout) (column : Nat) : Pixels :=
  let start := if l.controls = [] then editorLeft else editorLeft + columnStep
  start.plus (Pixels.times (UInt32.ofNat column) columnStep)

end EditorLayout

namespace Patch

/-- Where the next box goes below a box of this height. -/
def below (y height : Pixels) : Pixels := (y.plus height).plus boxGap

/-- Stacks boxes downwards from `y`; numbers that belong to no box are passed over. -/
def stack (x : Pixels) : Pixels → List BoxId → Patch → Patch
  | _, [], p => p
  | y, id :: ids, p =>
    match p.box? id with
    | some b => stack x (below y b.editorRect.height) ids (p.update id (·.moveTo x y))
    | none => stack x y ids p

/-- Stacks columns, of which the first has the number `i`. -/
def stackColumns (l : EditorLayout) : Nat → List (List BoxId) → Patch → Patch
  | _, [], p => p
  | i, column :: columns, p =>
    stackColumns l (i + 1) columns (p.stack (l.columnX i) editorTop column)

/-- Where the boxes of a patch are to stand. -/
def editorLayout (p : Patch) : EditorLayout :=
  let layering := p.layering
  { controls := p.controls, columns := layering.columns, stragglers := layering.stragglers }

/-- Puts every box in its place in the editor. -/
def layoutEditor (p : Patch) : EditorLayout × Patch :=
  let l := p.editorLayout
  (l, stackColumns l 0 l.columns (p.stack editorLeft editorTop l.controls))

end Patch

end MaxPatch
