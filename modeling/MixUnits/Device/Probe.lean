import MixUnits.Device.Answer

/-!
# Units that do little

An inert unit has blocks and refuses every operation.  A probe accepts transfers of
any chosen size, numbers the words of an input, and keeps a note of everything that
it was asked; it accepts even control modes only.
-/

namespace MixUnits

/-- A unit that refuses every operation. -/
structure Inert where
  geometry : Geometry
  store : BlockStore geometry

/-- An inert unit of a given size. -/
def Inert.mount (geometry : Geometry) : Inert :=
  ⟨geometry, .blank geometry⟩

/-- What a probe was asked, with the words that came with it. -/
inductive ProbeNote where
  | input (words : Buffer)
  | output (words : Buffer)
  | control (mode : UInt32)
  deriving DecidableEq

/-- A unit that takes note of what it is asked. -/
structure Probe where
  geometry : Geometry
  store : BlockStore geometry
  transferWords : Nat
  latency : UInt64
  notes : List ProbeNote

namespace Probe

/-- A probe with blocks of a given size and transfers of another. -/
def mount
    (geometry : Geometry)
    (transferWords : Nat)
    (latency : UInt64) :
    Probe where
  geometry := geometry
  store := .blank geometry
  transferWords := transferWords
  latency := latency
  notes := []

/-- Numbers the words of a buffer from one on. -/
def numbered (buffer : Buffer) : Buffer :=
  buffer.mapIdx fun index _ => .truncate .positive (index + 1)

/-- Takes note of a buffer and numbers its words. -/
def input
    (probe : Probe)
    (now : UInt64)
    (buffer : Buffer) :
    Received Probe where
  accepted := true
  unit :=
    { probe with
      store := probe.store.markBusy now probe.latency
      notes := probe.notes ++ [.input buffer] }
  buffer := numbered buffer
  notices := []

/-- Takes note of a buffer. -/
def output
    (probe : Probe)
    (now : UInt64)
    (buffer : Buffer) :
    Answer Probe where
  accepted := true
  unit :=
    { probe with
      store := probe.store.markBusy now probe.latency
      notes := probe.notes ++ [.output buffer] }
  notices := []

/-- Takes note of a mode and accepts an even one. -/
def control
    (probe : Probe)
    (mode : UInt32) :
    Answer Probe where
  accepted := mode.toNat % 2 = 0
  unit := { probe with notes := probe.notes ++ [.control mode] }
  notices := []

end Probe

end MixUnits
