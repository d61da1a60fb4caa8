import MaxPatch.Patch

/-! # Suspicions: messages sent where audio is expected

The first inlet of an object whose type ends in a tilde takes audio. A cord that brings it anything
but audio or a bang is suspicious, unless the object is known to take messages there as well. A
suspicion is only a warning: the cord stays. -/

namespace MaxPatch

/-- The types of audio objects whose first inlet takes messages too. -/
def messageTolerantTypes : List String :=
  ["sig~", "number~", "line~", "curve~", "adsr~", "snapshot~", "tapout~", "tapin~", "lores~",
   "reson~", "onepole~", "allpass~", "comb~", "delay~", "mtof~", "ftom~", "atodb~", "dbtoa~",
   "cycle~", "saw~", "rect~", "tri~", "phasor~", "svf~", "biquad~", "groove~", "play~", "buffer~",
   "record~", "filtercoeff~"]

/-- A cord that brings messages where audio is expected. -/
structure Suspicion where
  sourceType : String
  sourceIndex : Nat
  destinationType : String
  deriving DecidableEq, Repr

namespace Suspicion

/-- What a user is told. -/
def message (s : Suspicion) : String :=
  "[warn] Message outlet " ++ s.sourceType ++ ":" ++ toString s.sourceIndex ++ " → signal inlet "
    ++ s.destinationType ++ ":0 (may need sig~ conversion)"

end Suspicion

/-- Whether the objects of a type take audio. -/
def takesAudio (typeName : String) : Bool := typeName.toList.getLast? = some '~'

/-- Whether an outlet of this kind may feed an audio inlet. -/
def OutletKind.feedsAudio (k : OutletKind) : Bool := k.isSignal || k = .bang

namespace Patch

/-- The suspicion about a cord, if any. -/
def suspicion? (p : Patch) (c : Cord) : Option Suspicion :=
  match p.box? c.source.box, p.box? c.destination.box with
  | some source, some destination =>
    if source.outlets[c.source.index]?.any (·.feedsAudio) then none
    else if c.destination.index ≠ 0 || !takesAudio destination.typeName then none
    else if messageTolerantTypes.contains destination.typeName then none
    else some {
      sourceType := source.typeName
      sourceIndex := c.source.index
      destinationType := destination.typeName }
  | _, _ => none

/-- The suspicions about all cords, in their order. -/
def suspicions (p : Patch) : List Suspicion := p.cords.filterMap p.suspicion?

end Patch

end MaxPatch
