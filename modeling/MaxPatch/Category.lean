import MaxPatch.Text.Ascii

/-! # Categories: the domains of the catalog

Every type of the catalog belongs to one category. `Category.find?` reads a loosely typed name: only
its letters and digits count, and any beginning of a category's name will do; the first category of
`Category.all` that fits is meant. -/

namespace MaxPatch

/-- The domain of a type. -/
inductive Category where
  | audioIo
  | midiIo
  | dsp
  | oscillator
  | envelope
  | amplitude
  | conversion
  | math
  | routing
  | timing
  | storage
  | ui
  | live
  | utility
  | subpatcher
  | jitter
  | custom
  deriving DecidableEq, Repr

namespace Category

/-- Every category, in the order of the catalog. -/
def all : List Category :=
  [audioIo, midiIo, dsp, oscillator, envelope, amplitude, conversion, math, routing, timing,
   storage, ui, live, utility, subpatcher, jitter, custom]

/-- The name shown to users. -/
def name : Category → String
  | audioIo => "Audio I/O"
  | midiIo => "MIDI I/O"
  | dsp => "DSP"
  | oscillator => "Oscillators"
  | envelope => "Envelopes"
  | amplitude => "Amplitude"
  | conversion => "Conversion"
  | math => "Math"
  | routing => "Routing"
  | timing => "Timing"
  | storage => "Data Storage"
  | ui => "UI"
  | live => "Live"
  | utility => "Utility"
  | subpatcher => "Subpatchers"
  | jitter => "Jitter"
  | custom => "Custom"

/-- The category a loosely typed name means. A name without letters and digits means none. -/
def find? (typed : String) : Option Category :=
  let key := Text.letterKey typed
  if key = [] then none else all.find? fun c => key.isPrefixOf (Text.letterKey c.name)

end Category

end MaxPatch
