import MixUnits.Channel.Run

/-!
# The channel by either arithmetic

With checked arithmetic a run stops at the first transfer that lasts beyond the last moment
of the clock, and has no outcome.  Up to there it takes the same turns as with wrapping
arithmetic.
-/

namespace MixUnits

/-- The cost of a word in an operation, if that is a transfer that the device supports. -/
def Device.cost?
    (device : Device) :
    Operation → Option UInt64
  | .input => device.readCost?
  | .output => device.writeCost?
  | .control _ => none

/-- Whether a request begins a transfer that lasts beyond the last moment of the clock. -/
def Machine.outlasts
    (machine : Machine)
    (now : UInt64)
    (request : Request) :
    Bool :=
  (machine.perform now request).accepted &&
    (machine.device? request.unit).any fun device =>
      device.outlasts (device.cost? request.operation) now

namespace Channel

/-- Whether the next completion is that of such a request. -/
def outlasts (channel : Channel) : Bool :=
  channel.step?.any fun issued =>
    channel.machine.outlasts channel.now issued.completion.request

theorem outlasts_of_ready
    {channel : Channel}
    {request : Request}
    {rest : List Request}
    (held : channel.pending = request :: rest)
    (ready : channel.machine.busy channel.now request.unit = false) :
    channel.outlasts = channel.machine.outlasts channel.now request := by
  rw [outlasts, step?_of_ready held ready]
  rfl

theorem outlasts_of_waiting
    {channel : Channel}
    (waiting : channel.step? = none) :
    channel.outlasts = false := by
  rw [outlasts, waiting]
  rfl

/-- Whether a run stops in its next turn. -/
def Feed.stops
    (arithmetic : Arithmetic)
    (feed : Feed) :
    Bool :=
  arithmetic = .checked && feed.refill.1.channel.outlasts

/-- Takes turns by either arithmetic until the run is over or interrupted, or stops. -/
def Feed.proceed?
    (arithmetic : Arithmetic)
    (interrupted : Nat → Bool)
    (turn : Nat)
    (feed : Feed)
    (steps : Array Step) :
    Option Run :=
  if interrupted turn then
    some ⟨feed.channel, false, steps⟩
  else if feed.stops arithmetic then
    none
  else
    let turned := feed.turn
    if _ongoing : turned.ended = false then
      turned.feed.proceed? arithmetic interrupted (turn + 1) (steps ++ turned.steps)
    else
      some ⟨turned.feed.channel, true, steps ++ turned.steps⟩
  termination_by feed.toil
  decreasing_by exact toil_turn_lt _ongoing

/-- A run of the channel on a list of requests by either arithmetic. -/
def run?
    (arithmetic : Arithmetic)
    (channel : Channel)
    (requests : List Request) :
    Option Run :=
  (Feed.start channel requests).proceed? arithmetic (fun _ => false) 0 #[]

/-- Wrapping arithmetic never stops a run. -/
theorem Feed.proceed?_wrapping
    (interrupted : Nat → Bool)
    (turn : Nat)
    (feed : Feed)
    (steps : Array Step) :
    feed.proceed? .wrapping interrupted turn steps =
      some (feed.proceed interrupted turn steps) := by
  fun_induction proceed interrupted turn feed steps with
  | case1 turn feed steps stopped => rw [proceed?, if_pos stopped]
  | case2 turn feed steps onward turned ongoing ih =>
      rw [proceed?, if_neg onward, dif_pos ongoing]
      exact ih
  | case3 turn feed steps onward turned ended =>
      rw [proceed?, if_neg onward, dif_neg ended]
      rfl

end Channel

end MixUnits
