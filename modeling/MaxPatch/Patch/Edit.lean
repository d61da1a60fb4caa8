import MaxPatch.Layout.Editor
import MaxPatch.Layout.Face
import MaxPatch.Patch.Endpoint

/-! # Edits: what can be done to a patch

An edit is a call on a patch as a value, so a history of a patch is a list of edits. `Patch.perform`
gives the answer to an edit and the patch after it, `Patch.after` the patch after a history and
`Patch.answers` all answers along it. A refused edit answers with the cause.

An edit whose arithmetic overflows stops the program, so nothing comes after it. Its answer here is
`overflow`, and the patch stays as it was. -/

namespace MaxPatch

/-- A call on a patch. -/
inductive Edit where
  | add (typeName : String) (contract : Contract) (args : String) (attributes : Members)
  | addParameter (name : String) (options : ParameterOptions)
  | connect (source destination : Port)
  | setEditorRect (id : BoxId) (rect : Rect)
  | setFace (id : BoxId) (shown : Bool) (rect : Option Rect)
  | setAttribute (id : BoxId) (key : String) (value : Json)
  | setDeviceWidth (width : Pixels)
  | setOpensInPresentation (opens : Bool)
  | describe (text : String)
  | tag (text : String)
  | layoutEditor
  | layoutFace (ids : List BoxId)

/-- What a patch answers to an edit. -/
inductive Edit.Answer where
  | done
  | handle (h : Handle)
  | parameter (p : Parameter)
  | cord (result : Except PatchError Nat)
  | columns (l : EditorLayout)
  | face (result : Except PatchError (Option Pixels))
  | overflow

namespace Patch

/-- The answer to an edit and the patch after it. -/
def perform (p : Patch) : Edit → Edit.Answer × Patch
  | .add typeName contract args attributes =>
    match p.add? typeName contract args attributes with
    | some (h, p) => (.handle h, p)
    | none => (.overflow, p)
  | .addParameter name options =>
    let (parameter, p) := p.addParameter name options
    (.parameter parameter, p)
  | .connect source destination =>
    match p.connect source destination with
    | .ok (number, p) => (.cord (.ok number), p)
    | .error e => (.cord (.error e), p)
  | .setEditorRect id rect => (.done, p.update id (·.setEditorRect rect))
  | .setFace id shown rect => (.done, p.update id (·.setFace shown rect))
  | .setAttribute id key value => (.done, p.update id (·.setAttribute key value))
  | .setDeviceWidth width => (.done, { p with deviceWidth := width })
  | .setOpensInPresentation opens => (.done, { p with opensInPresentation := opens })
  | .describe text => (.done, { p with description := text })
  | .tag text => (.done, { p with tags := text })
  | .layoutEditor =>
    let (l, p) := p.layoutEditor
    (.columns l, p)
  | .layoutFace ids =>
    let (result, p) := p.layoutFace ids
    (.face result, p)

/-- The patch after an edit. -/
def edit (p : Patch) (e : Edit) : Patch := (p.perform e).2

/-- The patch after a history. -/
def after (p : Patch) (history : List Edit) : Patch := history.foldl edit p

/-- The answers along a history. -/
def answers : Patch → List Edit → List Edit.Answer
  | _, [] => []
  | p, e :: history => (p.perform e).1 :: answers (p.edit e) history

end Patch

end MaxPatch
