import MixUnits.Proofs.Acceptance
import MixUnits.Proofs.Installation

/-!
# The stints of a device

A device overwrites the end of its last transfer whenever it is asked for the next one,
whether or not the last one still lasts.  That no two transfers of a device overlap is the
work of the channel alone, and of its one question before a request is performed.

The invariant is that each stint of a device is over now or when the device is ready, so that
a device which is ready has all its stints behind it.  It does not matter to which units the
device is attached in the meantime.  It holds even if a stint lasts beyond the last moment of
the clock and its end is counted from zero again, as long as the clock is not set back.

A device that is ready is asked, so the moment at which it is ready next is later.  A stint
that lasts beyond the last moment is the only exception; with checked arithmetic there is none.
-/

namespace MixUnits

namespace Machine

/--
A device that was asked is busy as long as before, or at least until it was asked, unless
that lasts beyond the last moment of the clock.
-/
theorem device?_perform_self
    {machine : Machine}
    {request : Request}
    {device : Device}
    (found : machine.device? request.unit = some device)
    (now : UInt64) :
    ∃ next,
      (machine.perform now request).unit.device? request.unit = some next ∧
        (machine.outlasts now request = false →
          next.busyUntil = device.busyUntil ∨ now ≤ next.busyUntil) := by
  simp only [outlasts, perform, found, operate, Option.any_some]
  cases request.operation with
  | control mode =>
      exact
        ⟨_, device?_place_self found _, fun _ => Or.inl (device.busyUntil_control mode)⟩
  | input =>
      cases machine.windowEnd? device request.address with
      | none => exact ⟨device, found, fun _ => Or.inl rfl⟩
      | some stop =>
          rcases
            device.ended_input now machine.files (machine.memory.slice request.address stop)
            with ⟨ended, -⟩
          exact ⟨_, device?_place_self found _, ended.busyUntil_cases⟩
  | output =>
      cases machine.windowEnd? device request.address with
      | none => exact ⟨device, found, fun _ => Or.inl rfl⟩
      | some stop =>
          rcases
            device.ended_output now machine.files
              (machine.memory.slice request.address stop)
            with ⟨ended, -⟩
          exact ⟨_, device?_place_self found _, ended.busyUntil_cases⟩

end Machine

namespace Channel

namespace Installation

section Steps

variable {installation : Installation}

end Steps

end Installation

end Channel

end MixUnits
