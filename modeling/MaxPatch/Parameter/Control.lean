import MaxPatch.Contract

/-! # Controls: how a parameter is operated

Each control is a live object with one inlet. Its first outlet sends the value as it is shown; the
controls with more outlets send the raw value from the second. -/

namespace MaxPatch

/-- How a parameter is operated. -/
inductive Control where
  | dial
  | slider
  | menu
  | toggle
  | button
  | tab
  | numbox
  deriving DecidableEq, Repr

namespace Control

/-- Every control. -/
def all : List Control := [dial, slider, menu, toggle, button, tab, numbox]

/-- The name of a control. -/
def name : Control → String
  | dial => "dial"
  | slider => "slider"
  | menu => "menu"
  | toggle => "toggle"
  | button => "button"
  | tab => "tab"
  | numbox => "numbox"

/-- The control with a name. -/
def ofName? (s : String) : Option Control := all.find? (·.name = s)

/-- The render class of a control, which is also its type. -/
def renderClass (c : Control) : String := "live." ++ c.name

/-- The width and height of a control. -/
def defaultSize : Control → Pixels × Pixels
  | dial => (44, 48)
  | slider => (40, 80)
  | menu => (100, 15)
  | toggle => (15, 15)
  | button => (15, 15)
  | tab => (100, 20)
  | numbox => (44, 15)

/-- What the outlets of a control send. -/
def outlets : Control → List OutletKind
  | dial | slider | numbox => [.message, .message]
  | menu | tab => [.message, .message, .message]
  | toggle => [.message]
  | button => [.bang]

/-- The host's code for the type of the value: 2 for a choice among entries, else 0. -/
def typeCode : Control → Nat
  | menu | tab => 2
  | _ => 0

/-- The contract of a control of a given width. -/
def contract (c : Control) (width : Pixels) : Contract :=
  { inlets := 1, outlets := c.outlets, renderClass := c.renderClass, width := some width }

end Control

end MaxPatch
