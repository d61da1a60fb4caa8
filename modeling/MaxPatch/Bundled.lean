import MaxPatch.Bundled.Notes

/-! # Bundled devices

The devices that come with the library. Each has an identifier by which it can be asked for, and its
name does as well, in any case. -/

namespace MaxPatch

/-- A device that comes with the library. -/
structure BundledDevice where
  id : String
  name : String
  kind : DeviceKind
  description : String
  steps : Assembly Unit

namespace BundledDevice

/-- Every bundled device. -/
def all : List BundledDevice :=
  [{ id := "simple-delay"
     name := Bundled.simpleDelayName
     kind := .audioEffect
     description := Bundled.simpleDelayDescription
     steps := Bundled.simpleDelay },
   { id := "grainy-delay"
     name := Bundled.grainyDelayName
     kind := .audioEffect
     description := Bundled.grainyDelayDescription
     steps := Bundled.grainyDelay },
   { id := "basic-synth"
     name := Bundled.basicSynthName
     kind := .instrument
     description := Bundled.basicSynthDescription
     steps := Bundled.basicSynth },
   { id := "midi-echo"
     name := Bundled.midiEchoName
     kind := .midiEffect
     description := Bundled.midiEchoDescription
     steps := Bundled.midiEcho }]

/-- The bundled device with an identifier or a name, in any case. -/
def find? (key : String) : Option BundledDevice :=
  all.find? fun d => Text.sameIgnoringCase d.id key || Text.sameIgnoringCase d.name key

/-- Builds a bundled device. -/
def build (d : BundledDevice) : Noted (Except DeviceError Device) :=
  Assembly.build d.name d.kind d.steps

end BundledDevice

end MaxPatch
