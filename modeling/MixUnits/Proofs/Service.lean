import MixUnits.Channel.Checked
import MixUnits.Proofs.Rest

/-!
# Serving requests in order

Serving is what a channel is for, said without a queue: requests are performed one after
the other, each at the first moment at which the one before it was issued and its unit is
ready.  Performing requests outright is even less: one after the other, all at one
moment, whether or not their units are ready.

Both come to the same, but for the ends of the transfers.
-/

namespace MixUnits.Machine

/--
The moment at which a request for a unit is issued if the request before it was issued
at `now`.  An empty unit keeps nobody waiting.
-/
def issueMoment
    (machine : Machine)
    (now : UInt64)
    (unit : Nat) :
    UInt64 :=
  match machine.device? unit with
  | none => now
  | some device => max now device.busyUntil

/-- A machine after some requests, the moment, how each request ended, and the reports. -/
structure Service where
  machine : Machine
  now : UInt64
  completions : List Completion
  notices : List Notice

/-- Performs requests one after the other, each as soon as its unit is ready. -/
def serve
    (machine : Machine)
    (now : UInt64) :
    List Request → Service
  | [] => ⟨machine, now, [], []⟩
  | request :: rest =>
    let moment := machine.issueMoment now request.unit
    let performed := machine.perform moment request
    let completion : Completion := ⟨request, performed.accepted, moment⟩
    let following := performed.unit.serve moment rest
    { following with
      completions := completion :: following.completions
      notices := performed.notices ++ Channel.refusal completion ++ following.notices }

/-- Whether serving requests begins a transfer that lasts beyond the last moment. -/
def serviceOutlasts
    (machine : Machine)
    (now : UInt64) :
    List Request → Bool
  | [] => false
  | request :: rest =>
    let moment := machine.issueMoment now request.unit
    machine.outlasts moment request ||
      (machine.perform moment request).unit.serviceOutlasts moment rest

/-- A machine after some requests, and which of them were accepted. -/
structure Performance where
  machine : Machine
  accepted : List Bool

/-- Performs requests one after the other, all of them at one moment. -/
def performAll
    (machine : Machine)
    (moment : UInt64) :
    List Request → Performance
  | [] => ⟨machine, []⟩
  | request :: rest =>
    let performed := machine.perform moment request
    let following := performed.unit.performAll moment rest
    { following with accepted := performed.accepted :: following.accepted }

theorem issueMoment_of_ready
    {machine : Machine}
    {now : UInt64}
    {unit : Nat}
    (ready : machine.busy now unit = false) :
    machine.issueMoment now unit = now := by
  rw [Machine.busy] at ready
  rw [issueMoment]
  cases found : machine.device? unit with
  | none => rfl
  | some device =>
      have past : device.busyUntil ≤ now := by
        simpa [found, Device.busy, BlockStore.busy, Device.busyUntil] using ready
      exact Moment.max_eq_left past

theorem issueMoment_issueMoment
    (machine : Machine)
    (now : UInt64)
    (unit : Nat) :
    machine.issueMoment (machine.issueMoment now unit) unit =
      machine.issueMoment now unit := by
  unfold issueMoment
  cases machine.device? unit with
  | none => rfl
  | some device =>
      exact Moment.max_eq_left (Moment.le_max_right now device.busyUntil)

theorem perform_of_empty
    {machine : Machine}
    {request : Request}
    (now : UInt64)
    (empty : machine.device? request.unit = none) :
    machine.perform now request = Answer.refused machine [.unitEmpty request.unit] := by
  simp only [perform, empty]

theorem perform_of_no_window
    {machine : Machine}
    {request : Request}
    {device : Device}
    (now : UInt64)
    (found : machine.device? request.unit = some device)
    (transfer : ∀ mode, request.operation ≠ .control mode)
    (outside : machine.windowEnd? device request.address = none) :
    (machine.perform now request).accepted = false ∧
      (machine.perform now request).unit = machine := by
  simp only [perform, found, operate]
  cases asked : request.operation with
  | control mode => exact absurd asked (transfer mode)
  | input =>
      rw [outside]
      exact ⟨rfl, rfl⟩
  | output =>
      rw [outside]
      exact ⟨rfl, rfl⟩

theorem requests_serve
    (machine : Machine)
    (now : UInt64)
    (requests : List Request) :
    (machine.serve now requests).completions.map Completion.request = requests := by
  induction requests generalizing machine now with
  | nil => rfl
  | cons request rest ih =>
      exact congrArg (List.cons request) (ih _ _)

/--
Serving requests comes to the same as performing them outright, but for the ends of the
transfers.
-/
theorem serve_eq_performAll
    {one other : Machine}
    (same : one.atRest = other.atRest)
    (now moment : UInt64)
    (requests : List Request) :
    (one.serve now requests).machine.atRest =
        (other.performAll moment requests).machine.atRest ∧
      (one.serve now requests).completions.map Completion.accepted =
        (other.performAll moment requests).accepted := by
  induction requests generalizing one other now with
  | nil => exact ⟨same, rfl⟩
  | cons request rest ih =>
      have alike :=
        perform_eq_of_atRest_eq same (one.issueMoment now request.unit) moment request
      simp only [Answer.map, Answer.mk.injEq] at alike
      rcases alike with ⟨accepted, unit, -⟩
      rcases ih unit (one.issueMoment now request.unit) with ⟨machine, following⟩
      refine ⟨machine, ?_⟩
      simp only [serve, performAll, List.map_cons, accepted, following]

end MixUnits.Machine
