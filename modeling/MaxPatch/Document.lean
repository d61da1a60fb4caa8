import MaxPatch.Box.Record
import MaxPatch.Json.Text
import MaxPatch.Patch

/-! # Documents: a patch as the host reads it

A document is what a patch looks like at one moment: a record for every box and a line for every
cord, in their order, behind a header that is always the same but for the width of the device, the
mode it opens in, the description and the tags. -/

namespace MaxPatch

/-- A patch at one moment. -/
structure Document where
  records : List Members
  cords : List Cord
  deviceWidth : Pixels
  opensInPresentation : Bool
  description : String
  tags : String

/-- A port of a document: the name of the box and the index. -/
def Port.toJson (p : Port) : Json := .list [.text p.box.name, .nat p.index]

/-- A cord of a document. -/
def Cord.toJson (c : Cord) : Json :=
  .object [("source", c.source.toJson), ("destination", c.destination.toJson),
    ("order", .nat c.order)]

namespace Document

/-- The version of the host that documents are written for. -/
def hostVersion : Json :=
  .object [("major", .int 8), ("minor", .int 6), ("revision", .int 5),
    ("architecture", .text "x64"), ("modernui", .int 1)]

/-- The members of a document before its width. -/
def header (opensInPresentation : Bool) : Members :=
  [("fileversion", .int 1),
   ("appversion", hostVersion),
   ("classnamespace", .text "box"),
   ("rect", .list [.int 0, .int 0, .int 900, .int 700]),
   ("bglocked", .int 0),
   ("openinpresentation", .flag opensInPresentation),
   ("default_fontsize", .int 12),
   ("default_fontface", .int 0),
   ("default_fontname", .text "Arial"),
   ("gridonopen", .int 1),
   ("gridsize", .list [.int 15, .int 15]),
   ("gridsnaponopen", .int 1),
   ("objectsnaponopen", .int 1),
   ("statusbarvisible", .int 2),
   ("toolbarvisible", .int 1),
   ("lefttoolbarpinned", .int 0),
   ("toptoolbarpinned", .int 0),
   ("righttoolbarpinned", .int 0),
   ("bottomtoolbarpinned", .int 0),
   ("toolbars_unpinned_last_save", .int 0),
   ("tallnewobj", .int 0),
   ("boxanimatetime", .int 200),
   ("enablehscroll", .int 1),
   ("enablevscroll", .int 1)]

/-- The members of a document from its width to its boxes. -/
def face (d : Document) : Members :=
  [("devicewidth", .nat d.deviceWidth.toNat),
   ("description", .text d.description),
   ("digest", .text ""),
   ("tags", .text d.tags),
   ("style", .text ""),
   ("subpatcher_template", .text ""),
   ("assistshowspatchername", .int 0)]

/-- The boxes and the cords of a document, and what follows them. -/
def content (d : Document) : Members :=
  [("boxes", .list (d.records.map fun r => .object [("box", .object r)])),
   ("lines", .list (d.cords.map fun c => .object [("patchline", c.toJson)])),
   ("parameters", .object []),
   ("dependency_cache", .list []),
   ("autosave", .int 0)]

/-- The document as a value. -/
def toJson (d : Document) : Json :=
  .object [("patcher", .object (header d.opensInPresentation ++ d.face ++ d.content))]

/-- The text of the document. -/
def text (d : Document) : String := d.toJson.pretty 0

end Document

/-- The document of a patch. -/
def Patch.document (p : Patch) : Document :=
  { records := p.boxes.map (·.record)
    cords := p.cords
    deviceWidth := p.deviceWidth
    opensInPresentation := p.opensInPresentation
    description := p.description
    tags := p.tags }

end MaxPatch
