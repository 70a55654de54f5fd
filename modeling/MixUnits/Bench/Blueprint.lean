import MixUnits.Device

/-!
# Blueprints

A blueprint tells the kind of a device and what it works on: a file, a deck of cards,
a sink, a source, or just its size.
-/

namespace MixUnits

/-- What a device is built from. -/
inductive Blueprint where
  | tape (path : String)
  | disk (path : String)
  | paperTape (path : String)
  | cardReader (deck : String)
  | cardPunch (deck : String)
  | linePrinter (sink : SinkKind)
  | typewriter (source : List Keystroke)
  | inert (geometry : Geometry)
  | probe (geometry : Geometry) (transferWords : Nat) (latency : UInt64)

/-- Builds a device. -/
def Blueprint.build
    (files : FileSystem) :
    Blueprint → Device × List Notice
  | .tape path => (Drive.mount files path).map .tape id
  | .disk path => (Drive.mount files path).map .disk id
  | .paperTape path => (.paperTape (.mount path), [])
  | .cardReader deck => (.cardReader (.mount deck), [])
  | .cardPunch deck => (.cardPunch (.mount deck), [])
  | .linePrinter kind => (.linePrinter (.mount ⟨kind, [], 0, 0⟩), [])
  | .typewriter source => (.typewriter (.mount source), [])
  | .inert geometry => (.inert (.mount geometry), [])
  | .probe geometry transferWords latency =>
    (.probe (.mount geometry transferWords latency), [])

end MixUnits
