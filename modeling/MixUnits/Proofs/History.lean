import MixUnits.Channel.Basic
import MixUnits.Clock

/-!
# Histories of a channel

A history is what has become of a channel through any actions on it and around it:
devices come and go, requests are queued, first requests are completed or have to wait,
the clock is moved also backwards, memory and files are changed.  It keeps the requests
that the channel took and the completions that it gave back.

The invariant is an account: the requests taken are those completed, in the order of
their completions, followed by those that wait.  A completion moves one request from one
side to the other, and nothing else touches the queue but the taking of a request.
-/

namespace MixUnits.Channel

theorem device?_of_unitCount_le
    (machine : Machine)
    {unit : Nat}
    (outside : unitCount ≤ unit) :
    machine.device? unit = none := by
  rw [Machine.device?, Vector.getElem?_eq_none outside]
  rfl

theorem device?_place_none
    (machine : Machine)
    (unit : Nat) :
    (machine.place unit none).device? unit = none := by
  rw [Machine.device?, Machine.place, Vector.getElem?_setIfInBounds_self]
  split <;> rfl

theorem busy_eq_true_iff
    (machine : Machine)
    (now : UInt64)
    (unit : Nat) :
    machine.busy now unit = true ↔
      ∃ device, machine.device? unit = some device ∧ device.busy now = true := by
  rw [Machine.busy]
  cases machine.device? unit with
  | none => simp
  | some device => simp

/-- Nothing is completed exactly if nothing is queued or the first request has to wait. -/
theorem step?_eq_none_iff (channel : Channel) :
    channel.step? = none ↔
      channel.pending = [] ∨
        ∃ request rest device,
          channel.pending = request :: rest ∧
            channel.machine.device? request.unit = some device ∧
              device.busy channel.now = true := by
  constructor
  · intro stepped
    cases held : channel.pending with
    | nil => exact Or.inl rfl
    | cons request rest =>
        cases busy : channel.machine.busy channel.now request.unit with
        | false =>
            rw [step?_of_ready held busy] at stepped
            contradiction
        | true =>
            rcases (busy_eq_true_iff _ _ _).1 busy with ⟨device, found, lasting⟩
            exact Or.inr ⟨request, rest, device, rfl, found, lasting⟩
  · rintro (empty | ⟨request, rest, device, held, found, lasting⟩)
    · exact step?_of_empty empty
    · exact step?_of_busy held ((busy_eq_true_iff _ _ _).2 ⟨device, found, lasting⟩)

/-- A request for an empty unit is completed at once, refused, and changes nothing. -/
theorem step?_of_missing
    {channel : Channel}
    {request : Request}
    {rest : List Request}
    (held : channel.pending = request :: rest)
    (missing : channel.machine.device? request.unit = none) :
    channel.step? = some (channel.complete request) ∧
      (channel.complete request).completion = ⟨request, false, channel.now⟩ ∧
      (channel.complete request).channel.pending = rest ∧
      (channel.complete request).channel.machine = channel.machine ∧
      (channel.complete request).channel.now = channel.now := by
  have ready : channel.machine.busy channel.now request.unit = false := by
    simp only [Machine.busy, missing]
  refine ⟨step?_of_ready held ready, ?_, pending_complete held, ?_, rfl⟩
  · simp only [complete, Machine.perform, missing, Answer.refused]
  · simp only [complete, Machine.perform, missing, Answer.refused]

/-- What can happen to a channel and around it. -/
inductive Action where
  | attach (unit : Nat) (device : Device)
  | detach (unit : Nat)
  | submit (request : Request)
  | step
  | moveClock (move : ClockMove)
  | setMemory (memory : Buffer)
  | setFiles (files : FileSystem)

/-- A channel, the requests that it took, and the completions that it gave back. -/
structure History where
  channel : Channel
  accepted : List Request
  completed : List Completion

namespace History

/-- The history of a new channel, with no devices, over some files. -/
def new (files : FileSystem) : History :=
  ⟨.idle (.blank files), [], []⟩

/-- A history after the machine behind the channel was changed. -/
def mapMachine
    (history : History)
    (change : Machine → Machine) :
    History :=
  { history with
    channel := { history.channel with machine := change history.channel.machine } }

/-- A history after a request was offered to the channel. -/
def submit
    (history : History)
    (request : Request) :
    History :=
  let answer := history.channel.submit request
  { history with
    channel := answer.unit
    accepted := history.accepted ++ if answer.accepted then [request] else [] }

/-- A history after the channel was asked to complete its first request. -/
def step (history : History) : History :=
  match history.channel.step? with
  | none => history
  | some issued =>
    { history with
      channel := issued.channel
      completed := history.completed ++ [issued.completion] }

/-- A history after one more action. -/
def act
    (history : History) :
    Action → History
  | .attach unit device =>
    history.mapMachine fun machine => (machine.attach unit device).unit
  | .detach unit => history.mapMachine fun machine => machine.place unit none
  | .submit request => history.submit request
  | .step => history.step
  | .moveClock move =>
    { history with
      channel := { history.channel with now := move.apply history.channel.now } }
  | .setMemory memory => history.mapMachine fun machine => { machine with memory := memory }
  | .setFiles files => history.mapMachine fun machine => { machine with files := files }

/-- The history of a new channel after some actions. -/
def replay
    (files : FileSystem)
    (actions : List Action) :
    History :=
  actions.foldl act (new files)

/-- Every request that the channel took is completed or waits, once and in order. -/
def Balanced (history : History) : Prop :=
  history.accepted =
    history.completed.map Completion.request ++ history.channel.pending

theorem balanced_submit
    {history : History}
    (balanced : history.Balanced)
    (request : Request) :
    (history.submit request).Balanced := by
  rw [Balanced] at balanced ⊢
  by_cases room : history.channel.pending.length < queueLimit
  · rcases submit_of_room request room with ⟨accepted, pending, -⟩
    simp only [submit, accepted, pending, if_true, balanced, List.append_assoc]
  · have refused := submit_of_no_room request room
    simpa [submit, refused, Answer.refused] using balanced

theorem balanced_step
    {history : History}
    (balanced : history.Balanced) :
    history.step.Balanced := by
  rw [Balanced] at balanced ⊢
  rw [step]
  cases held : history.channel.pending with
  | nil =>
      rw [step?_of_empty held]
      simpa [held] using balanced
  | cons request rest =>
      cases busy : history.channel.machine.busy history.channel.now request.unit with
      | false =>
          rw [step?_of_ready held busy]
          simp [balanced, held, complete]
      | true =>
          rw [step?_of_busy held busy]
          simpa [held] using balanced

theorem balanced_act
    {history : History}
    (balanced : history.Balanced)
    (action : Action) :
    (history.act action).Balanced := by
  cases action with
  | attach unit device => exact balanced
  | detach unit => exact balanced
  | submit request => exact balanced_submit balanced request
  | step => exact balanced_step balanced
  | moveClock move => exact balanced
  | setMemory memory => exact balanced
  | setFiles files => exact balanced

theorem balanced_replay
    (files : FileSystem)
    (actions : List Action) :
    (replay files actions).Balanced := by
  have whatever
      (history : History)
      (balanced : history.Balanced) :
      (actions.foldl act history).Balanced := by
    induction actions generalizing history with
    | nil => exact balanced
    | cons action rest ih => exact ih _ (balanced_act balanced action)
  exact whatever (new files) rfl

theorem step_of_missing
    {history : History}
    {request : Request}
    {rest : List Request}
    (held : history.channel.pending = request :: rest)
    (missing : history.channel.machine.device? request.unit = none) :
    history.step.completed =
        history.completed ++ [⟨request, false, history.channel.now⟩] ∧
      history.step.accepted = history.accepted ∧
      history.step.channel.pending = rest ∧
      history.step.channel.machine = history.channel.machine ∧
      history.step.channel.now = history.channel.now := by
  rcases step?_of_missing held missing with ⟨stepped, completion, pending, machine, now⟩
  rw [step, stepped]
  exact ⟨by rw [← completion], rfl, pending, machine, now⟩

/--
No request is lost, doubled or moved before another, whatever happens to a new channel.
The requests taken are those completed followed by those that wait.  Eight can wait at
most, a ninth is refused, and a refusal changes nothing.  Nothing is completed exactly if
nothing waits or the device of the first request is in the midst of a transfer, and then
nothing changes.  A request whose unit has no device, or no longer has one, or does not
exist, is completed by the next step, refused, and leaves no other trace.
-/
theorem replay_accounts_for_requests
    (files : FileSystem)
    (actions : List Action) :
    let history := replay files actions
    let channel := history.channel
    history.accepted =
        history.completed.map Completion.request ++ channel.pending ∧
      channel.pending.length ≤ 8 ∧
      (∀ request,
        ((channel.submit request).accepted = false ↔ channel.pending.length = 8) ∧
          ((channel.submit request).accepted = false →
            history.act (.submit request) = history)) ∧
      (channel.step? = none ↔
        channel.pending = [] ∨
          ∃ request rest device,
            channel.pending = request :: rest ∧
              channel.machine.device? request.unit = some device ∧
                device.busy channel.now = true) ∧
      (channel.step? = none → history.act .step = history) ∧
      (∀ unit, 21 ≤ unit → channel.machine.device? unit = none) ∧
      ∀ request rest,
        channel.pending = request :: rest →
          (channel.machine.device? request.unit = none →
            let after := history.act .step
            after.completed = history.completed ++ [⟨request, false, channel.now⟩] ∧
              after.accepted = history.accepted ∧ after.channel.pending = rest ∧
              after.channel.machine = channel.machine ∧
              after.channel.now = channel.now) ∧
            let detached := history.act (.detach request.unit)
            let after := detached.act .step
            after.completed = history.completed ++ [⟨request, false, channel.now⟩] ∧
              after.accepted = history.accepted ∧ after.channel.pending = rest ∧
              after.channel.machine = detached.channel.machine ∧
              after.channel.now = channel.now := by
  intro history channel
  have held := channel.length_pending_le
  refine ⟨balanced_replay files actions, held, ?_, step?_eq_none_iff channel, ?_, ?_, ?_⟩
  · intro request
    by_cases room : channel.pending.length < queueLimit
    · rcases submit_of_room request room with ⟨accepted, -, -⟩
      simp only [queueLimit] at room
      rw [accepted]
      exact ⟨⟨nofun, fun full => absurd full (Nat.ne_of_lt room)⟩, nofun⟩
    · have refused := submit_of_no_room request room
      have full : channel.pending.length = 8 := by
        simp only [queueLimit] at room held
        omega
      have unchanged : history.act (.submit request) = history := by
        simp only [act, submit]
        rw [refused]
        simp [Answer.refused, channel]
      exact ⟨⟨fun _ => full, fun _ => by rw [refused]; rfl⟩, fun _ => unchanged⟩
  · intro stepped
    simp only [act, step]
    rw [stepped]
  · intro unit outside
    exact device?_of_unitCount_le channel.machine outside
  · intro request rest first
    refine ⟨step_of_missing first, ?_⟩
    exact
      step_of_missing
        (show (history.act (.detach request.unit)).channel.pending = request :: rest
          from first)
        (device?_place_none channel.machine request.unit)

end History

end MixUnits.Channel
