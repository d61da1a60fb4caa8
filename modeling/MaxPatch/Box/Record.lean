import MaxPatch.Box

/-! # Records: how a document describes a box

A record starts with the structural members: name, class, ports and rectangle. The attributes
follow; one that has the key of a structural member takes that member's place. The label and the
presentation come last and win over attributes of the same key. -/

namespace MaxPatch

/-- A rectangle of a document: corner, width and height. -/
def Rect.toJson (r : Rect) : Json :=
  .list [.nat r.x.toNat, .nat r.y.toNat, .nat r.width.toNat, .nat r.height.toNat]

namespace Box

/-- The members that describe the structure of a box. -/
def structuralMembers (b : Box) : Members :=
  [("id", .text b.id.name),
   ("maxclass", .text b.renderClass),
   ("numinlets", .nat b.inlets),
   ("numoutlets", .nat b.outlets.length),
   ("outlettype", .texts (b.outlets.map (·.tag))),
   ("patching_rect", b.editorRect.toJson)]

/-- The member for the label, on a box that has one. -/
def labelMembers (b : Box) : Members :=
  match b.label? with
  | some label => [("text", .text label)]
  | none => []

/-- The members for the presentation, on a box that is shown there. -/
def faceMembers (b : Box) : Members :=
  match b.faceRect? with
  | some r => [("presentation", .flag true), ("presentation_rect", r.toJson)]
  | none => []

/-- What a document says about a box. -/
def record (b : Box) : Members :=
  ((b.structuralMembers.insertAll b.attributes).insertAll b.labelMembers).insertAll b.faceMembers

end Box

end MaxPatch
