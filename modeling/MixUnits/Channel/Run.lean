import MixUnits.Channel.Basic

/-!
# Runs of the channel

A run feeds a list of requests through the channel, of any length, in turns.  A turn
first queues requests from the front of the list while there is room.  The run is over
once the end of the list was met and nothing is queued; otherwise the first request is
completed, or, if its unit is in the midst of a transfer, time moves to the moment at
which the unit is ready.

A run can be interrupted at the beginning of a turn.  Every wait is followed by a
completion, so a run that is not interrupted comes to an end.
-/

namespace MixUnits.Channel

/--
A run under way: the channel, the requests that are still to be queued, and whether the
end of their list was met.
-/
structure Feed where
  channel : Channel
  requests : List Request
  exhausted : Bool
  requests_eq_nil : exhausted = true → requests = []

/-- What happens in a run. -/
inductive Event where
  | queued (request : Request) (accepted : Bool)
  | waited (moment : UInt64)
  | completed (completion : Completion)
  deriving DecidableEq, Repr

/-- An event with what was reported about it. -/
structure Step where
  event : Event
  notices : List Notice

/-- Queues requests from the front of a list while there is room or until its end is met. -/
def refill
    (channel : Channel)
    (requests : List Request) :
    Feed × List Step :=
  if channel.isFull then
    (⟨channel, requests, false, nofun⟩, [])
  else
    match requests with
    | [] => (⟨channel, [], true, fun _ => rfl⟩, [])
    | request :: rest =>
      let answer := channel.submit request
      let filled := answer.unit.refill rest
      (filled.1, ⟨.queued request answer.accepted, answer.notices⟩ :: filled.2)

namespace Feed

/-- A run that begins. -/
def start
    (channel : Channel)
    (requests : List Request) :
    Feed :=
  ⟨channel, requests, false, nofun⟩

/-- Queues requests, unless the end of their list was met. -/
def refill (feed : Feed) : Feed × List Step :=
  if feed.exhausted then (feed, []) else feed.channel.refill feed.requests

/-- All requests that a run has still to complete, in order. -/
def outstanding (feed : Feed) : List Request :=
  feed.channel.pending ++ feed.requests

/-- A run with another channel. -/
def withChannel
    (feed : Feed)
    (channel : Channel) :
    Feed :=
  { feed with channel := channel }

@[simp]
theorem channel_withChannel
    (feed : Feed)
    (channel : Channel) :
    (feed.withChannel channel).channel = channel :=
  rfl

end Feed

/-- The end of a turn: whether the run is over, and what happened. -/
structure Turn where
  feed : Feed
  ended : Bool
  steps : List Step

/-- A turn of a run. -/
def Feed.turn (feed : Feed) : Turn :=
  let filled := feed.refill
  if filled.1.exhausted && filled.1.channel.isIdle then
    ⟨filled.1, true, filled.2⟩
  else
    match filled.1.channel.step? with
    | some issued =>
      ⟨filled.1.withChannel issued.channel, false,
        filled.2 ++ [⟨.completed issued.completion, issued.notices⟩]⟩
    | none =>
      let waiting := filled.1.channel.await
      ⟨filled.1.withChannel waiting, false, filled.2 ++ [⟨.waited waiting.now, []⟩]⟩

theorem outstanding_refill
    (channel : Channel)
    (requests : List Request) :
    (channel.refill requests).1.outstanding = channel.pending ++ requests := by
  induction requests generalizing channel with
  | nil =>
      rw [refill]
      split <;> rfl
  | cons request rest shorter =>
      rw [refill]
      split
      · rfl
      · rename_i notFull
        rcases submit_of_room request (room_of_not_isFull notFull) with ⟨-, pending, -⟩
        simp only [shorter, pending, List.append_assoc, List.singleton_append]

theorem exhausted_or_isFull_refill
    (channel : Channel)
    (requests : List Request) :
    (channel.refill requests).1.exhausted = true ∨
      (channel.refill requests).1.channel.isFull = true := by
  induction requests generalizing channel with
  | nil =>
      rw [refill]
      split
      · exact Or.inr ‹_›
      · exact Or.inl rfl
  | cons request rest shorter =>
      rw [refill]
      split
      · exact Or.inr ‹_›
      · exact shorter _

namespace Feed

@[simp]
theorem outstanding_refill (feed : Feed) :
    feed.refill.1.outstanding = feed.outstanding := by
  rw [refill]
  split
  · rfl
  · exact Channel.outstanding_refill feed.channel feed.requests

theorem exhausted_or_isFull (feed : Feed) :
    feed.refill.1.exhausted = true ∨ feed.refill.1.channel.isFull = true := by
  rw [refill]
  split
  · exact Or.inl ‹_›
  · exact exhausted_or_isFull_refill feed.channel feed.requests

theorem refill_eq_self
    {feed : Feed}
    (settled : feed.exhausted = true ∨ feed.channel.isFull = true) :
    feed.refill = (feed, []) := by
  rw [refill]
  split
  · rfl
  · rename_i ongoing
    have full : feed.channel.isFull = true := settled.resolve_left ongoing
    cases feed with
    | mk channel requests exhausted requests_eq_nil =>
        obtain rfl : exhausted = false := by simpa using ongoing
        unfold Channel.refill
        rw [if_pos full]

/-- Unless the last turn has come, a request is queued once requests are queued. -/
theorem pending_ne_nil_of_ongoing
    {feed : Feed}
    (ongoing :
      ¬ (feed.refill.1.exhausted && feed.refill.1.channel.isIdle) = true) :
    feed.refill.1.channel.pending ≠ [] := by
  intro empty
  have idle : feed.refill.1.channel.isIdle = true := by simp [isIdle, empty]
  rcases exhausted_or_isFull feed with exhausted | full
  · exact ongoing (by simp [exhausted, idle])
  · simp [isFull, empty, queueLimit] at full

/-- A turn is the last one, or completes the first request, or waits for its unit. -/
theorem turn_cases (feed : Feed) :
    (feed.outstanding = [] ∧ feed.turn = ⟨feed.refill.1, true, feed.refill.2⟩) ∨
      ∃ request rest,
        feed.refill.1.channel.pending = request :: rest ∧
          (feed.turn =
              ⟨feed.refill.1.withChannel (feed.refill.1.channel.complete request).channel,
                false,
                feed.refill.2 ++
                  [⟨.completed (feed.refill.1.channel.complete request).completion,
                    (feed.refill.1.channel.complete request).notices⟩]⟩ ∧
              feed.refill.1.channel.machine.busy feed.refill.1.channel.now request.unit =
                false ∨
            feed.turn =
              ⟨feed.refill.1.withChannel feed.refill.1.channel.await, false,
                feed.refill.2 ++ [⟨.waited feed.refill.1.channel.await.now, []⟩]⟩ ∧
              feed.refill.1.channel.machine.busy feed.refill.1.channel.now request.unit =
                true) := by
  by_cases last : (feed.refill.1.exhausted && feed.refill.1.channel.isIdle) = true
  · refine Or.inl ⟨?_, if_pos last⟩
    rw [Bool.and_eq_true] at last
    have idle : feed.refill.1.channel.pending = [] := by simpa [isIdle] using last.2
    rw [← outstanding_refill, outstanding, idle, feed.refill.1.requests_eq_nil last.1,
      List.append_nil]
  · obtain ⟨request, rest, held⟩ :=
      List.exists_cons_of_ne_nil (pending_ne_nil_of_ongoing last)
    refine Or.inr ⟨request, rest, held, ?_⟩
    cases busy : feed.refill.1.channel.machine.busy feed.refill.1.channel.now request.unit with
    | false =>
        refine Or.inl ⟨?_, rfl⟩
        simp only [turn, if_neg last, step?_of_ready held busy]
    | true =>
        refine Or.inr ⟨?_, rfl⟩
        simp only [turn, if_neg last, step?_of_busy held busy]

/-- Whether the first request has to wait once requests are queued. -/
def isBlocked (feed : Feed) : Bool :=
  feed.refill.1.channel.step?.isNone

/-- What a run has still to do: two turns for a request, but one if it need not wait. -/
def toil (feed : Feed) : Nat :=
  2 * feed.outstanding.length + feed.isBlocked.toNat

/-- The first request need not wait again after a wait. -/
theorem isBlocked_await
    {feed : Feed}
    {request : Request}
    {rest : List Request}
    (held : feed.refill.1.channel.pending = request :: rest) :
    (feed.refill.1.withChannel feed.refill.1.channel.await).isBlocked = false := by
  have unchanged :
      (feed.refill.1.withChannel feed.refill.1.channel.await).refill =
        (feed.refill.1.withChannel feed.refill.1.channel.await, []) :=
    refill_eq_self (exhausted_or_isFull feed)
  have ready :
      feed.refill.1.channel.await.step? =
        some (feed.refill.1.channel.await.complete request) :=
    step?_of_ready held (busy_await held)
  rw [isBlocked, unchanged, channel_withChannel, ready, Option.isNone_some]

/-- Every turn but the last one brings the run nearer to its end. -/
theorem toil_turn_lt
    {feed : Feed}
    (ongoing : feed.turn.ended = false) :
    feed.turn.feed.toil < feed.toil := by
  have kept := congrArg List.length (outstanding_refill feed)
  rcases feed.turn_cases with
    ⟨-, last⟩ | ⟨request, rest, held, ⟨completed, ready⟩ | ⟨waited, busy⟩⟩
  · simp [last] at ongoing
  · -- One request less makes up for a wait that the next one may need.
    have fewer := congrArg List.length (pending_complete held)
    have blocked :=
      (feed.refill.1.withChannel
        (feed.refill.1.channel.complete request).channel).isBlocked.toNat_le
    rw [completed]
    simp only [toil, outstanding, withChannel, held, List.length_append,
      List.length_cons] at kept fewer blocked ⊢
    omega
  · have blocked : feed.isBlocked = true := by
      rw [isBlocked, step?_of_busy held busy, Option.isNone_none]
    have same :
        (feed.refill.1.withChannel feed.refill.1.channel.await).outstanding =
          feed.refill.1.outstanding :=
      rfl
    rw [waited]
    simp only [toil, isBlocked_await held, blocked, same, kept, Bool.toNat_true,
      Bool.toNat_false]
    omega

end Feed

/-- A run at its end: whether it got there uninterrupted, and what happened, in order. -/
structure Run where
  channel : Channel
  finished : Bool
  steps : Array Step

/-- Takes turns, the next one with number `turn`, until the run is over or interrupted. -/
def Feed.proceed
    (interrupted : Nat → Bool)
    (turn : Nat)
    (feed : Feed)
    (steps : Array Step) :
    Run :=
  if interrupted turn then
    ⟨feed.channel, false, steps⟩
  else
    let turned := feed.turn
    if _ongoing : turned.ended = false then
      turned.feed.proceed interrupted (turn + 1) (steps ++ turned.steps)
    else
      ⟨turned.feed.channel, true, steps ++ turned.steps⟩
  termination_by feed.toil
  decreasing_by exact toil_turn_lt _ongoing

/-- A run of the channel on a list of requests, which can be interrupted before any turn. -/
def runUnless
    (channel : Channel)
    (interrupted : Nat → Bool)
    (requests : List Request) :
    Run :=
  (Feed.start channel requests).proceed interrupted 0 #[]

/-- A run of the channel on a list of requests. -/
def run
    (channel : Channel)
    (requests : List Request) :
    Run :=
  channel.runUnless (fun _ => false) requests

/-- What a run adds to the report about a request that was refused. -/
def refusal (completion : Completion) : List Notice :=
  if completion.accepted then [] else [.requestRefused completion.request]

/-- What a run reports at an event. -/
def Step.account (step : Step) : List Notice :=
  step.notices ++
    match step.event with
    | .completed completion => refusal completion
    | .queued .. | .waited _ => []

/-- What a run reports. -/
def Run.notices (run : Run) : List Notice :=
  run.steps.toList.flatMap Step.account

end MixUnits.Channel
