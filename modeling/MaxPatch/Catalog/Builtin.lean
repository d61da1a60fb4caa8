import MaxPatch.Catalog

/-! # The built-in catalog

The types that every patch may use, category by category. -/

namespace MaxPatch.Catalog

/-- An ordinary type: its name, how many inlets it has and what its outlets send. -/
def plain (name : String) (inlets : Nat) (outlets : List OutletKind) : String × Contract :=
  (name, { inlets, outlets })

/-- A type drawn by a class of its own, named like the type. -/
def faced (name : String) (inlets : Nat) (outlets : List OutletKind)
    (width : Option Pixels := none) : String × Contract :=
  (name, { inlets, outlets, renderClass := name, width })

/-- Audio between the device and its host. -/
def audioIoTypes : List (String × Contract) :=
  [plain "plugin~" 2 [.signal, .signal], plain "plugout~" 2 [], plain "adc~" 1 [.signal, .signal],
   plain "dac~" 2 [], plain "mc.plugin~" 1 [.multichannelSignal], plain "mc.plugout~" 1 []]

/-- Notes and controls between the device and its host. -/
def midiIoTypes : List (String × Contract) :=
  [plain "midiin" 1 [.int], plain "midiout" 1 [], plain "notein" 1 [.int, .int, .int],
   plain "noteout" 3 [], plain "ctlin" 1 [.int, .int, .int], plain "ctlout" 3 [],
   plain "pgmin" 1 [.int, .int], plain "pgmout" 2 [], plain "bendin" 1 [.int, .int],
   plain "bendout" 2 [], plain "makenote" 3 [.int, .int], plain "stripnote" 2 [.int, .int],
   plain "midiparse" 1 [.message, .message, .message, .message, .message, .message, .message],
   plain "midiformat" 7 [.int], plain "flush" 1 [.message],
   plain "borax" 1 [.int, .int, .int, .int, .int, .int, .int, .int]]

/-- Filters, delays and arithmetic on signals. -/
def dspTypes : List (String × Contract) :=
  [plain "delay~" 2 [.signal], plain "tapin~" 1 [.signal], plain "tapout~" 1 [.signal],
   plain "*~" 2 [.signal], plain "+~" 2 [.signal], plain "-~" 2 [.signal], plain "/~" 2 [.signal],
   plain "clip~" 3 [.signal], plain "abs~" 1 [.signal], plain "avg~" 1 [.signal],
   plain "biquad~" 6 [.signal], plain "cascade~" 2 [.signal],
   plain "filtercoeff~" 6 [.signal, .signal, .signal, .signal, .signal, .signal],
   plain "svf~" 3 [.signal, .signal, .signal, .signal], plain "lores~" 3 [.signal],
   plain "reson~" 3 [.signal], plain "onepole~" 2 [.signal], plain "allpass~" 3 [.signal],
   plain "comb~" 4 [.signal]]

/-- Oscillators and noise. -/
def oscillatorTypes : List (String × Contract) :=
  [plain "cycle~" 2 [.signal], plain "saw~" 2 [.signal], plain "rect~" 3 [.signal],
   plain "tri~" 2 [.signal], plain "phasor~" 2 [.signal], plain "noise~" 1 [.signal],
   plain "pink~" 1 [.signal]]

/-- Envelopes and ramps. -/
def envelopeTypes : List (String × Contract) :=
  [plain "adsr~" 5 [.signal, .signal, .bang, .message], plain "line~" 2 [.signal, .bang],
   plain "curve~" 3 [.signal, .bang], plain "function" 1 [.float, .message, .bang, .message]]

/-- Gain and meters. -/
def amplitudeTypes : List (String × Contract) :=
  [faced "gain~" 2 [.signal, .int] (some 22), faced "meter~" 1 [.float],
   faced "levelmeter~" 1 [.message]]

/-- Conversion between units, and between signals and messages. -/
def conversionTypes : List (String × Contract) :=
  [plain "mtof" 1 [.message], plain "ftom" 1 [.message], plain "mtof~" 1 [.signal],
   plain "ftom~" 1 [.signal], plain "atodb" 1 [.message], plain "dbtoa" 1 [.message],
   plain "atodb~" 1 [.signal], plain "dbtoa~" 1 [.signal], plain "sig~" 1 [.signal],
   plain "snapshot~" 2 [.float], faced "number~" 2 [.signal, .bang]]

/-- Arithmetic on messages. -/
def mathTypes : List (String × Contract) :=
  [plain "+" 2 [.int], plain "-" 2 [.int], plain "*" 2 [.int], plain "/" 2 [.int],
   plain "%" 2 [.int], plain "expr" 1 [.message], plain "scale" 6 [.message],
   plain "clip" 3 [.message], plain "split" 1 [.message, .message], plain "random" 2 [.int]]

/-- Gates, switches and lists. -/
def routingTypes : List (String × Contract) :=
  [plain "gate" 2 [.message], plain "gate~" 2 [.signal], plain "switch" 3 [.message],
   plain "select" 1 [.bang, .message], plain "route" 1 [.message, .message],
   plain "trigger" 1 [.message, .message], plain "pack" 2 [.message],
   plain "unpack" 1 [.message, .message], plain "swap" 2 [.message, .message],
   plain "if" 1 [.message, .message]]

/-- Clocks, delays and counters. -/
def timingTypes : List (String × Contract) :=
  [plain "metro" 2 [.bang], plain "delay" 2 [.bang], plain "pipe" 2 [.message],
   plain "timer" 2 [.float], plain "clocker" 2 [.float], plain "line" 2 [.message, .bang],
   plain "counter" 5 [.int, .int, .int, .int],
   plain "transport" 1 [.int, .int, .float, .float, .float]]

/-- Values, tables and buffers. -/
def storageTypes : List (String × Contract) :=
  [plain "int" 2 [.int], plain "float" 2 [.float], plain "value" 1 [.message],
   plain "table" 2 [.int, .bang], plain "coll" 1 [.message, .message, .message, .bang],
   plain "dict" 2 [.message, .message, .message, .message], plain "buffer~" 1 [.float, .bang],
   plain "groove~" 3 [.signal, .signal, .signal], plain "play~" 2 [.signal, .bang],
   plain "record~" 3 [.signal], faced "waveform~" 5 [.float, .float, .float, .float]]

/-- Boxes with a face of their own. -/
def uiTypes : List (String × Contract) :=
  [faced "number" 1 [.message, .bang], faced "flonum" 1 [.message, .bang],
   faced "slider" 1 [.message], faced "toggle" 1 [.int], faced "button" 1 [.bang],
   faced "message" 2 [.message], faced "comment" 1 [],
   ("bang", { inlets := 1, outlets := [.bang], renderClass := "button" })]

/-- Controls of a device, and access to its host. -/
def liveTypes : List (String × Contract) :=
  [faced "live.dial" 1 [.message, .message] (some 44),
   faced "live.slider" 1 [.message, .message] (some 40),
   faced "live.menu" 1 [.message, .message, .message] (some 100),
   faced "live.toggle" 1 [.message] (some 15), faced "live.button" 1 [.bang] (some 15),
   faced "live.tab" 1 [.message, .message, .message] (some 100),
   faced "live.numbox" 1 [.message, .message] (some 44),
   faced "live.text" 1 [.message, .message] (some 44),
   faced "live.gain~" 2 [.signal, .message, .float, .message, .message] (some 48),
   faced "live.meter~" 1 [.message], faced "live.scope~" 3 [.message],
   faced "live.thisdevice" 1 [.message], plain "live.object" 2 [.message],
   plain "live.path" 1 [.message, .message, .message, .message, .message, .message],
   plain "live.observer" 2 [.message, .message, .message], plain "live.remote~" 2 []]

/-- Sending, loading and small helpers. -/
def utilityTypes : List (String × Contract) :=
  [plain "selector~" 3 [.signal], plain "matrix~" 1 [.signal], plain "send~" 1 [],
   plain "receive~" 1 [.signal], plain "send" 1 [], plain "receive" 1 [.message],
   plain "loadbang" 1 [.bang], plain "closebang" 1 [.bang], plain "deferlow" 1 [.message],
   plain "append" 2 [.message], plain "prepend" 2 [.message], plain "thresh" 2 [.list],
   plain "speedlim" 2 [.message], plain "change" 1 [.message, .bang], plain "past" 2 [.bang],
   plain "minimum" 2 [.message, .message], plain "maximum" 2 [.message, .message],
   plain "drunk" 3 [.int]]

/-- Voices and patches within patches. -/
def subpatcherTypes : List (String × Contract) :=
  [plain "poly~" 1 [.signal, .message], plain "thispoly~" 1 [.message, .int],
   plain "patcher" 1 [.message], faced "bpatcher" 1 [.message]]

/-- Matrices. -/
def jitterTypes : List (String × Contract) :=
  [plain "jit.matrix" 1 [.message, .message], faced "jit.pwindow" 1 [.message, .message]]

/-- The types of every category. -/
def builtinTypes : List (Category × List (String × Contract)) :=
  [(.audioIo, audioIoTypes), (.midiIo, midiIoTypes), (.dsp, dspTypes),
   (.oscillator, oscillatorTypes), (.envelope, envelopeTypes), (.amplitude, amplitudeTypes),
   (.conversion, conversionTypes), (.math, mathTypes), (.routing, routingTypes),
   (.timing, timingTypes), (.storage, storageTypes), (.ui, uiTypes), (.live, liveTypes),
   (.utility, utilityTypes), (.subpatcher, subpatcherTypes), (.jitter, jitterTypes)]

/-- Every built-in type, filed under its category. -/
def builtin : Catalog :=
  builtinTypes.foldl (fun c (category, types) =>
    types.foldl (fun c (name, contract) => c.file category name contract) c) empty

end MaxPatch.Catalog
