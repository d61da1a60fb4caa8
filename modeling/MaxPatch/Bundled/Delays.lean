import MaxPatch.Device.Assembly

/-! # Bundled delays

Two stereo delays. In both, each channel runs through a delay line, a share of what comes out is fed
back, and dry and delayed sound are mixed. In the plain delay each channel feeds back into itself;
in the grainy one the repeats pass a lowpass and cross over to the other channel, and slow
oscillators wobble the delay times. -/

namespace MaxPatch.Bundled

/-- A dial with a range, an initial value and a unit. -/
def dial (least greatest initial : Binary64) (unit : UnitStyle) : ParameterOptions :=
  { control := .dial
    least := some least
    greatest := some greatest
    initial := some initial
    unit }

/-- The name of the plain delay. -/
def simpleDelayName : String := "Simple Delay"

/-- What the plain delay is. -/
def simpleDelayDescription : String := "Stereo delay with feedback and dry/wet mix"

/-- The plain delay. -/
def simpleDelay : Assembly Unit := do
  Assembly.describe simpleDelayDescription
  let delayTime ← .parameter "Delay Time" (dial 1 2000 250 .time)
  let feedback ← .parameter "Feedback" (dial 0 95 40 .percent)
  let mix ← .parameter "Mix" (dial 0 100 50 .percent)
  let tapinL ← .box "tapin~" "5000"
  let tapoutL ← .box "tapout~" "250"
  let tapinR ← .box "tapin~" "5000"
  let tapoutR ← .box "tapout~" "250"
  let feedbackL ← .box "*~" "0.4"
  let feedbackR ← .box "*~" "0.4"
  let feedbackScale ← .box "scale" "0 95 0. 0.95"
  let dryL ← .box "*~" "0.5"
  let dryR ← .box "*~" "0.5"
  let wetL ← .box "*~" "0.5"
  let wetR ← .box "*~" "0.5"
  let sumL ← .box "+~"
  let sumR ← .box "+~"
  let mixScale ← .box "scale" "0 100 0. 1."
  let dryLevel ← .box "expr" "1. - $f1"
  -- the delay time goes to the left inlet of the tap
  .connect delayTime tapoutL
  .connect delayTime tapoutR
  .connect feedback feedbackScale
  .connect feedbackScale (← .inlet feedbackL 1)
  .connect feedbackScale (← .inlet feedbackR 1)
  .connect (← .input 0) tapinL
  .chain [tapinL, tapoutL, feedbackL, tapinL]
  .connect (← .input 1) tapinR
  .chain [tapinR, tapoutR, feedbackR, tapinR]
  .connect mix mixScale
  .connect mixScale (← .inlet wetL 1)
  .connect mixScale (← .inlet wetR 1)
  .connect mixScale dryLevel
  .connect dryLevel (← .inlet dryL 1)
  .connect dryLevel (← .inlet dryR 1)
  .connect (← .input 0) dryL
  .connect (← .input 1) dryR
  .connect tapoutL wetL
  .connect tapoutR wetR
  .connect dryL sumL
  .connect wetL (← .inlet sumL 1)
  .connect dryR sumR
  .connect wetR (← .inlet sumR 1)
  .connect sumL (← .output 0)
  .connect sumR (← .output 1)

/-- The name of the grainy delay. -/
def grainyDelayName : String := "Grainy Delay"

/-- What the grainy delay is. -/
def grainyDelayDescription : String := "Diffuse granular-textured stereo delay"

/-- The grainy delay. -/
def grainyDelay : Assembly Unit := do
  Assembly.describe grainyDelayDescription
  let time ← .parameter "Time" (dial 10 1500 300 .time)
  let rate ← .parameter "Rate" (dial 0.05 5 0.4 .float)
  let depth ← .parameter "Depth" (dial 0 25 6 .float)
  let feedback ← .parameter "Feedback" (dial 0 90 40 .percent)
  let tone ← .parameter "Tone" { dial 200 18000 3500 .hertz with exponent := some 3 }
  let mix ← .parameter "Mix" (dial 0 100 35 .percent)
  -- the oscillators of the two sides are slightly detuned
  let lfoL ← .box "cycle~" "0.4"
  let lfoR ← .box "cycle~" "0.57"
  let depthSignal ← .box "sig~"
  let wobbleL ← .box "*~"
  let wobbleR ← .box "*~"
  let timeSignal ← .box "sig~"
  let delayTimeL ← .box "+~"
  let delayTimeR ← .box "+~"
  let tapinL ← .box "tapin~" "5000"
  let tapoutL ← .box "tapout~" "300"
  let tapinR ← .box "tapin~" "5000"
  let tapoutR ← .box "tapout~" "300"
  -- there are two ways across, so each has half of the loop gain
  let feedbackScale ← .box "scale" "0 90 0. 0.45"
  let feedbackSignal ← .box "sig~"
  let feedbackL ← .box "*~"
  let feedbackR ← .box "*~"
  let filterL ← .box "lores~" "3500 0.15"
  let filterR ← .box "lores~" "3500 0.15"
  let sumL ← .box "+~"
  let sumR ← .box "+~"
  let mixScale ← .box "scale" "0 100 0. 1."
  let dryLevel ← .box "expr" "1. - $f1"
  let drySignal ← .box "sig~"
  let wetSignal ← .box "sig~"
  let dryL ← .box "*~"
  let dryR ← .box "*~"
  let wetL ← .box "*~"
  let wetR ← .box "*~"
  let outL ← .box "+~"
  let outR ← .box "+~"
  .connect rate lfoL
  .connect rate lfoR
  .connect depth depthSignal
  .connect lfoL wobbleL
  .connect depthSignal (← .inlet wobbleL 1)
  .connect lfoR wobbleR
  .connect depthSignal (← .inlet wobbleR 1)
  .connect time timeSignal
  .connect timeSignal delayTimeL
  .connect wobbleL (← .inlet delayTimeL 1)
  .connect timeSignal delayTimeR
  .connect wobbleR (← .inlet delayTimeR 1)
  .connect delayTimeL tapoutL
  .connect delayTimeR tapoutR
  .connect (← .input 0) sumL
  .connect (← .input 1) sumR
  .chain [sumL, tapinL, tapoutL]
  .chain [sumR, tapinR, tapoutR]
  .connect feedback feedbackScale
  .connect feedbackScale feedbackSignal
  .connect tapoutL feedbackL
  .connect feedbackSignal (← .inlet feedbackL 1)
  .connect feedbackL filterL
  .connect tone (← .inlet filterL 1)
  .connect filterL sumR
  .connect tapoutR feedbackR
  .connect feedbackSignal (← .inlet feedbackR 1)
  .connect feedbackR filterR
  .connect tone (← .inlet filterR 1)
  .connect filterR sumL
  .connect mix mixScale
  .connect mixScale wetSignal
  .connect mixScale dryLevel
  .connect dryLevel drySignal
  .connect (← .input 0) dryL
  .connect drySignal (← .inlet dryL 1)
  .connect (← .input 1) dryR
  .connect drySignal (← .inlet dryR 1)
  .connect tapoutL wetL
  .connect wetSignal (← .inlet wetL 1)
  .connect tapoutR wetR
  .connect wetSignal (← .inlet wetR 1)
  .connect dryL outL
  .connect wetL (← .inlet outL 1)
  .connect dryR outR
  .connect wetR (← .inlet outR 1)
  .connect outL (← .output 0)
  .connect outR (← .output 1)

end MaxPatch.Bundled
