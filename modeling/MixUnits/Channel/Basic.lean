import MixUnits.Machine

/-!
# The channel

The channel performs requests in the order in which they were queued, the first one
as soon as its unit is not in the midst of a transfer.  It holds eight requests at
most.

A wait moves time forward to the moment at which the unit of the first request is
ready.  So a wait is always followed by a completion.
-/

namespace MixUnits

/-- The number of requests that the channel holds. -/
def queueLimit : Nat := 8

/-- A machine, the moment, and the requests that wait. -/
structure Channel where
  machine : Machine
  now : UInt64
  pending : List Request
  length_pending_le : pending.length ≤ queueLimit

namespace Channel

/-- A channel at the beginning of time with nothing queued. -/
def idle (machine : Machine) : Channel where
  machine := machine
  now := 0
  pending := []
  length_pending_le := Nat.zero_le _

/-- Whether the channel can hold no more requests. -/
def isFull (channel : Channel) : Bool :=
  channel.pending.length = queueLimit

/-- Whether nothing is queued. -/
def isIdle (channel : Channel) : Bool :=
  channel.pending.isEmpty

/-- The moment at which the unit of the first request is ready, if it has a device. -/
def readyAt? (channel : Channel) : Option UInt64 :=
  channel.pending.head?.bind fun request =>
    (channel.machine.device? request.unit).map Device.busyUntil

/-- Queues a request behind the others, unless the channel is full. -/
def submit
    (channel : Channel)
    (request : Request) :
    Answer Channel :=
  if room : channel.pending.length < queueLimit then
    { accepted := true
      unit :=
        { channel with
          pending := channel.pending ++ [request]
          length_pending_le := by simpa [Nat.succ_le_iff] using room }
      notices := [] }
  else
    Answer.refused channel [.queueFull request]

/-- A channel after it completed a request. -/
structure Issued where
  channel : Channel
  completion : Completion
  notices : List Notice

/-- Takes the first request off the queue and performs `request`. -/
def complete
    (channel : Channel)
    (request : Request) :
    Issued :=
  let performed := channel.machine.perform channel.now request
  { channel :=
      { channel with
        machine := performed.unit
        pending := channel.pending.tail
        length_pending_le := by
          have held := channel.length_pending_le
          rw [List.length_tail]
          omega }
    completion :=
      { request := request
        accepted := performed.accepted
        issuedAt := channel.now }
    notices := performed.notices }

/--
Completes the first request.  Nothing happens if nothing is queued, or if the unit of
the first request is in the midst of a transfer.
-/
def step? (channel : Channel) : Option Issued :=
  match channel.pending.head? with
  | none => none
  | some request =>
    if channel.machine.busy channel.now request.unit then
      none
    else
      some (channel.complete request)

/-- Moves time forward to the moment at which the first request can be issued. -/
def await (channel : Channel) : Channel :=
  { channel with now := max channel.now (channel.readyAt?.getD 0) }

@[simp]
theorem pending_await (channel : Channel) :
    channel.await.pending = channel.pending :=
  rfl

@[simp]
theorem machine_await (channel : Channel) :
    channel.await.machine = channel.machine :=
  rfl

/-- A channel that is not full has room for a request. -/
theorem room_of_not_isFull
    {channel : Channel}
    (notFull : ¬ channel.isFull = true) :
    channel.pending.length < queueLimit := by
  have held := channel.length_pending_le
  simp only [isFull, decide_eq_true_eq] at notFull
  exact Nat.lt_of_le_of_ne held notFull

/-- Where there is room a request is taken, behind the others. -/
theorem submit_of_room
    {channel : Channel}
    (request : Request)
    (room : channel.pending.length < queueLimit) :
    (channel.submit request).accepted = true ∧
      (channel.submit request).unit.pending = channel.pending ++ [request] ∧
      (channel.submit request).notices = [] := by
  rw [submit, dif_pos room]
  exact ⟨rfl, rfl, rfl⟩

/-- Where there is no room a request is refused and nothing changes. -/
theorem submit_of_no_room
    {channel : Channel}
    (request : Request)
    (full : ¬ channel.pending.length < queueLimit) :
    channel.submit request = Answer.refused channel [.queueFull request] := by
  rw [submit, dif_neg full]

/-- Queueing a request leaves the machine alone and takes no time. -/
theorem machine_submit
    (channel : Channel)
    (request : Request) :
    (channel.submit request).unit.machine = channel.machine ∧
      (channel.submit request).unit.now = channel.now := by
  rw [submit]
  split <;> exact ⟨rfl, rfl⟩

/-- Nothing is completed if nothing is queued. -/
theorem step?_of_empty
    {channel : Channel}
    (empty : channel.pending = []) :
    channel.step? = none := by
  rw [step?, empty]
  rfl

/-- Nothing is completed while the unit of the first request is in the midst of a transfer. -/
theorem step?_of_busy
    {channel : Channel}
    {request : Request}
    {rest : List Request}
    (held : channel.pending = request :: rest)
    (busy : channel.machine.busy channel.now request.unit = true) :
    channel.step? = none := by
  simp only [step?, held, List.head?_cons, busy, if_true]

/-- The first request is completed as soon as its unit is ready. -/
theorem step?_of_ready
    {channel : Channel}
    {request : Request}
    {rest : List Request}
    (held : channel.pending = request :: rest)
    (ready : channel.machine.busy channel.now request.unit = false) :
    channel.step? = some (channel.complete request) := by
  simp only [step?, held, List.head?_cons, ready, Bool.false_eq_true, if_false]

/-- A completion takes the first request off the queue. -/
theorem pending_complete
    {channel : Channel}
    {request : Request}
    {rest : List Request}
    (held : channel.pending = request :: rest) :
    (channel.complete request).channel.pending = rest := by
  simp only [complete, held, List.tail_cons]

/-- After a wait the unit of the first request is ready. -/
theorem busy_await
    {channel : Channel}
    {request : Request}
    {rest : List Request}
    (held : channel.pending = request :: rest) :
    channel.await.machine.busy channel.await.now request.unit = false := by
  simp only [await, readyAt?, held, List.head?_cons, Option.bind_some, Machine.busy]
  cases channel.machine.device? request.unit with
  | none => rfl
  | some device =>
      simp only [Device.busy, BlockStore.busy, Device.busyUntil, Option.map_some,
        Option.getD_some]
      exact decide_eq_false (UInt64.not_lt.2 (Moment.le_max_right _ _))

end Channel

end MixUnits
