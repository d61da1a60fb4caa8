import MaxPatch.Text.Ascii
import MaxPatch.Text.Blank

/-! # Kinds of devices

A host loads three kinds of devices. The kind fixes the two boundary boxes through which audio or
notes come in and go out, how many channels each of them gives the device, and the folder of the
host's library where the device belongs. -/

namespace MaxPatch

/-- A kind of device. -/
inductive DeviceKind where
  | audioEffect
  | midiEffect
  | instrument
  deriving DecidableEq, Repr

namespace DeviceKind

/-- Every kind. -/
def all : List DeviceKind := [audioEffect, midiEffect, instrument]

/-- The name in identifiers. -/
def name : DeviceKind → String
  | audioEffect => "audio_effect"
  | midiEffect => "midi_effect"
  | instrument => "instrument"

/-- The name in sentences. -/
def title : DeviceKind → String
  | audioEffect => "audio effect"
  | midiEffect => "MIDI effect"
  | instrument => "instrument"

/-- The type of the box through which the device is fed. -/
def inputType : DeviceKind → String
  | audioEffect => "plugin~"
  | midiEffect | instrument => "midiin"

/-- The type of the box through which the device answers. -/
def outputType : DeviceKind → String
  | audioEffect | instrument => "plugout~"
  | midiEffect => "midiout"

/-- How many channels come in. -/
def inputChannels : DeviceKind → Nat
  | audioEffect => 2
  | midiEffect | instrument => 1

/-- How many channels go out. -/
def outputChannels : DeviceKind → Nat
  | audioEffect | instrument => 2
  | midiEffect => 1

/-- The folder of the host's library for devices of this kind. -/
def libraryFolder : DeviceKind → String
  | audioEffect => "Audio Effects/Max Audio Effect"
  | midiEffect => "MIDI Effects/Max MIDI Effect"
  | instrument => "Instruments/Max Instrument"

/-- A typed name as it is compared: without blanks around it, in lower case, and with underscores
for hyphens and spaces. -/
def typedKey (typed : String) : String :=
  String.ofList ((Text.lower (Text.trim typed)).toList.map fun c =>
    if c = '-' || c = ' ' then '_' else c)

/-- The kind that a typed name means. -/
def find? (typed : String) : Option DeviceKind :=
  let key := typedKey typed
  if key = "audio" || key = "audio_effect" then some audioEffect
  else if key = "midi" || key = "midi_effect" then some midiEffect
  else if key = "instrument" || key = "inst" then some instrument
  else none

end DeviceKind

end MaxPatch
