import MaxPatch.Device.Kind
import MaxPatch.Text.Quoted

/-! # Scaffolds: the source of a new device

A scaffold is the text of a program that builds a first version of a device. It is a template with
four placeholders. They are filled in one after the other, each wherever it stands in the text so
far, the parts that earlier ones brought in included.

The file of a scaffold is named by `snakeCase`: the letters and digits of the name of the device in
lower case, with one underscore for everything else between them. -/

namespace MaxPatch.Scaffold

/-! ## Names -/

/-- One step of `snakeCase`, on the characters so far in reverse order. -/
def snakeStep (reversed : List Char) (c : Char) : List Char :=
  if c.isAlphanum then c.toLower :: reversed
  else
    match reversed with
    | [] => []
    | '_' :: rest => '_' :: rest
    | last => '_' :: last

/-- The name of a device as a file name. -/
def snakeCase (name : String) : String :=
  String.ofList ((name.toList.foldl snakeStep []).dropWhile (· = '_')).reverse

/-! ## Filling in -/

/-- Puts a text in place of every occurrence of another, from the front. The count bounds the number
of steps; each takes at least one character. -/
def replaceIn (old new : List Char) : Nat → List Char → List Char
  | 0, cs => cs
  | _, [] => []
  | n + 1, c :: cs =>
    if old.isPrefixOf (c :: cs) then new ++ replaceIn old new n ((c :: cs).drop old.length)
    else c :: replaceIn old new n cs

/-- Puts a text in place of every occurrence of another, which is not empty. -/
def replaceAll (text old new : String) : String :=
  String.ofList (replaceIn old.toList new.toList text.length text.toList)

/-! ## The template -/

/-- The name of the device. -/
def namePlaceholder : String := "@NAME@"

/-- The name of the device as a literal. -/
def literalPlaceholder : String := "@NAME_LITERAL@"

/-- The kind of the device. -/
def kindPlaceholder : String := "@CONSTRUCTOR@"

/-- The boxes and cords of the device. -/
def bodyPlaceholder : String := "@BODY@"

/-- Lines, each with its end. -/
def lines (ls : List String) : String := String.join (ls.map (· ++ "\n"))

/-- The template. -/
def template : String := lines [
  "//! @NAME@",
  "",
  "use patchkit_device::\x7bDevice, DeviceError, ParamKind, ParamOptions, SaveOptions, UnitStyle\x7d;",
  "",
  "pub fn build() -> Result<Device, DeviceError> \x7b",
  "    let mut d = Device::@CONSTRUCTOR@(@NAME_LITERAL@);",
  "    d.description(\"\");",
  "",
  "    let level = d.param(",
  "        \"Level\",",
  "        &ParamOptions::new(ParamKind::Dial)",
  "            .range(0.0, 100.0)",
  "            .initial(100.0)",
  "            .unit(UnitStyle::Percent),",
  "    );",
  "@BODY@",
  "    Ok(d)",
  "\x7d",
  "",
  "fn main() -> Result<(), DeviceError> \x7b",
  "    let path = build()?.save(&SaveOptions::new())?;",
  "    println!(\"Saved \x7b\x7d\", path.display());",
  "    Ok(())",
  "\x7d"]

/-- The boxes and cords of an audio effect. -/
def audioBody : String := lines [
  "",
  "    let scale = d.add(\"scale\", \"0 100 0. 1.\");",
  "    let gain = d.add(\"sig~\", \"\");",
  "    let amp_l = d.add(\"*~\", \"\");",
  "    let amp_r = d.add(\"*~\", \"\");",
  "",
  "    d.connect(&level, &scale)?;",
  "    d.connect(&scale, &gain)?;",
  "    d.connect(d.input(0)?, &amp_l)?;",
  "    d.connect(&gain, amp_l.inlet(1)?)?;",
  "    d.connect(d.input(1)?, &amp_r)?;",
  "    d.connect(&gain, amp_r.inlet(1)?)?;",
  "    d.connect(&amp_l, d.output(0)?)?;",
  "    d.connect(&amp_r, d.output(1)?)?;"]

/-- The boxes and cords of a MIDI effect. -/
def midiBody : String := lines [
  "",
  "    let midiparse = d.add(\"midiparse\", \"\");",
  "    let midiformat = d.add(\"midiformat\", \"\");",
  "    let velocity = d.add(\"scale\", \"0 100 0. 1.\");",
  "    let scaled = d.add(\"*\", \"1.\");",
  "",
  "    d.connect(d.input(0)?, &midiparse)?;",
  "    d.connect(&midiparse, &midiformat)?;",
  "    d.connect(&level, &velocity)?;",
  "    d.connect(&velocity, scaled.inlet(1)?)?;",
  "    d.connect(midiparse.outlet(1)?, &scaled)?;",
  "    d.connect(&scaled, midiformat.inlet(1)?)?;",
  "    d.connect(&midiformat, d.output(0)?)?;"]

/-- The boxes and cords of an instrument. -/
def instrumentBody : String := lines [
  "",
  "    let midiparse = d.add(\"midiparse\", \"\");",
  "    let stripnote = d.add(\"stripnote\", \"\");",
  "    let mtof = d.add(\"mtof~\", \"\");",
  "    let osc = d.add(\"saw~\", \"\");",
  "    let scale = d.add(\"scale\", \"0 100 0. 1.\");",
  "    let gain = d.add(\"sig~\", \"\");",
  "    let amp = d.add(\"*~\", \"\");",
  "",
  "    d.connect(d.input(0)?, &midiparse)?;",
  "    d.connect(&midiparse, &stripnote)?;",
  "    d.connect(midiparse.outlet(1)?, stripnote.inlet(1)?)?;",
  "    d.chain([&stripnote, &mtof, &osc, &amp])?;",
  "    d.connect(&level, &scale)?;",
  "    d.connect(&scale, &gain)?;",
  "    d.connect(&gain, amp.inlet(1)?)?;",
  "    d.connect(&amp, d.output(0)?)?;",
  "    d.connect(&amp, d.output(1)?)?;"]

/-- The boxes and cords of a kind of device. -/
def body : DeviceKind → String
  | .audioEffect => audioBody
  | .midiEffect => midiBody
  | .instrument => instrumentBody

/-- A text without the ends of lines at its end. -/
def dropFinalNewlines (s : String) : String :=
  String.ofList (s.toList.reverse.dropWhile (· = '\n')).reverse

/-- The scaffold of a device. -/
def render (name : String) (kind : DeviceKind) : String :=
  let text := replaceAll template literalPlaceholder (Text.literal name)
  let text := replaceAll text namePlaceholder name
  let text := replaceAll text kindPlaceholder kind.name
  replaceAll text bodyPlaceholder (dropFinalNewlines (body kind))

end MaxPatch.Scaffold
