import MaxPatch.Bundled.Delays

/-! # Bundled note devices

A monophonic synthesizer, in which notes set the pitch of a saw wave and their velocity opens an
envelope, and an echo that repeats notes three times, each time more softly. -/

namespace MaxPatch.Bundled

/-- The name of the synthesizer. -/
def basicSynthName : String := "Basic Synth"

/-- What the synthesizer is. -/
def basicSynthDescription : String := "Simple subtractive synthesizer"

/-- The synthesizer. -/
def basicSynth : Assembly Unit := do
  Assembly.describe basicSynthDescription
  let cutoff ← .parameter "Cutoff" { dial 20 20000 5000 .hertz with exponent := some 3 }
  let resonance ← .parameter "Resonance" (dial 0 100 20 .percent)
  let attack ← .parameter "Attack" (dial 1 5000 10 .time)
  let release ← .parameter "Release" (dial 1 5000 200 .time)
  let volume ← .parameter "Volume" (dial (-70) 6 (-6) .decibel)
  let parse ← .box "midiparse"
  let stripnote ← .box "stripnote"
  let pitch ← .box "mtof~"
  let velocityScale ← .box "scale" "0 127 0. 1."
  let saw ← .box "saw~"
  let resonanceScale ← .box "scale" "0 100 0. 1."
  let filter ← .box "lores~" "5000 0.5"
  let envelope ← .box "adsr~" "10 50 0.7 200"
  let amplifier ← .box "*~"
  let level ← .box "dbtoa~"
  let master ← .box "*~"
  let noteOff ← .box "select" "0"
  .connect (← .input 0) parse
  .connect parse stripnote
  .connect (← .outlet parse 1) (← .inlet stripnote 1)
  .chain [stripnote, pitch, saw]
  .connect (← .outlet stripnote 1) velocityScale
  .connect velocityScale envelope
  .connect (← .outlet parse 1) noteOff
  .connect noteOff envelope
  .connect attack (← .inlet envelope 1)
  .connect release (← .inlet envelope 4)
  .connect saw filter
  .connect cutoff (← .inlet filter 1)
  .connect resonance resonanceScale
  .connect resonanceScale (← .inlet filter 2)
  .connect filter amplifier
  .connect envelope (← .inlet amplifier 1)
  .connect volume level
  .connect level (← .inlet master 1)
  .connect amplifier master
  .connect master (← .output 0)
  .connect master (← .output 1)

/-- The name of the echo. -/
def midiEchoName : String := "MIDI Echo"

/-- What the echo is. -/
def midiEchoDescription : String := "MIDI note echo with velocity decay"

/-- The repeats: the arguments of the pipe that delays them, and the factor of their velocity. -/
def echoTaps : List (String × String) :=
  [("0 0 250", "0.7"), ("0 0 500", "0.49"), ("0 0 750", "0.343")]

/-- A pipe for three values: it has an inlet and an outlet for each of its arguments. -/
def pipeContract : Contract := { inlets := 3, outlets := [.message, .message, .message] }

/-- The echo. -/
def midiEcho : Assembly Unit := do
  Assembly.describe midiEchoDescription
  let _ ← .parameter "Delay" (dial 50 2000 250 .time)
  let _ ← .parameter "Repeats" { dial 1 8 3 .int with steps := some 8 }
  let _ ← .parameter "Decay" (dial 10 100 70 .percent)
  let parse ← .box "midiparse"
  let format ← .box "midiformat"
  let pipes : List Handle ← echoTaps.mapM fun (delays, _) => .boxWith "pipe" delays pipeContract
  let velocities : List Handle ← echoTaps.mapM fun (_, factor) => .box "*" factor
  let notes : List Handle ← echoTaps.mapM fun _ => .box "makenote" "64 250"
  .connect (← .input 0) parse
  -- the notes themselves pass straight through
  .connect parse format
  .connect (← .outlet parse 1) (← .inlet format 1)
  for (pipe, velocity, note) in pipes.zip (velocities.zip notes) do
    .connect parse pipe
    .connect (← .outlet parse 1) velocity
    .connect velocity (← .inlet pipe 1)
    .connect pipe note
    .connect (← .outlet pipe 1) (← .inlet note 1)
    .connect note format
    .connect (← .outlet note 1) (← .inlet format 1)
  .connect format (← .output 0)

end MaxPatch.Bundled
