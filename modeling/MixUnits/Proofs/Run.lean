import MixUnits.Proofs.Service

/-!
# What a run of the channel comes to

A run with its queue, its waits and its turns does nothing but serve the requests that
are outstanding.  The invariant is what a feed has still to serve: a turn that is not the
last one serves at most the first request of it and leaves the rest as it was, whether
requests are queued in the turn or not.
-/

namespace MixUnits.Channel

/-- The request of an event that queues one, and whether the channel took it. -/
def Event.submission? : Event → Option (Request × Bool)
  | .queued request accepted => some (request, accepted)
  | .waited _ | .completed _ => none

/-- The completion of an event that is one. -/
def Event.completion? : Event → Option Completion
  | .completed completion => some completion
  | .queued .. | .waited _ => none

/-- The requests that were to be queued in some steps. -/
def submissions (steps : List Step) : List (Request × Bool) :=
  steps.filterMap fun step => step.event.submission?

/-- The requests that were completed in some steps. -/
def completions (steps : List Step) : List Completion :=
  steps.filterMap fun step => step.event.completion?

/-- What is reported at some steps. -/
def accounts (steps : List Step) : List Notice :=
  steps.flatMap Step.account

@[simp]
theorem submissions_append (one other : List Step) :
    submissions (one ++ other) = submissions one ++ submissions other :=
  List.filterMap_append

@[simp]
theorem completions_append (one other : List Step) :
    completions (one ++ other) = completions one ++ completions other :=
  List.filterMap_append

@[simp]
theorem accounts_append (one other : List Step) :
    accounts (one ++ other) = accounts one ++ accounts other :=
  List.flatMap_append

theorem machine_refill
    (channel : Channel)
    (requests : List Request) :
    (channel.refill requests).1.channel.machine = channel.machine ∧
      (channel.refill requests).1.channel.now = channel.now := by
  induction requests generalizing channel with
  | nil =>
      rw [refill]
      split <;> exact ⟨rfl, rfl⟩
  | cons request rest ih =>
      rw [refill]
      split
      · exact ⟨rfl, rfl⟩
      · rcases ih (channel.submit request).unit with ⟨machine, now⟩
        rcases channel.machine_submit request with ⟨sameMachine, sameNow⟩
        exact ⟨machine.trans sameMachine, now.trans sameNow⟩

/--
Every request that is to be queued is taken without a word, and the others are left for
later.
-/
theorem submissions_refill
    (channel : Channel)
    (requests : List Request) :
    submissions (channel.refill requests).2 ++
          (channel.refill requests).1.requests.map (·, true) =
        requests.map (·, true) ∧
      completions (channel.refill requests).2 = [] ∧
      accounts (channel.refill requests).2 = [] := by
  induction requests generalizing channel with
  | nil =>
      rw [refill]
      split <;> exact ⟨rfl, rfl, rfl⟩
  | cons request rest ih =>
      rw [refill]
      split
      · exact ⟨rfl, rfl, rfl⟩
      · rename_i notFull
        rcases submit_of_room request (room_of_not_isFull notFull) with
          ⟨accepted, -, silent⟩
        rcases ih (channel.submit request).unit with ⟨submitted, uncompleted, unreported⟩
        refine ⟨?_, uncompleted, ?_⟩
        · simp only [submissions, List.filterMap_cons, Event.submission?, accepted]
            at submitted ⊢
          exact congrArg (List.cons (request, true)) submitted
        · simpa [accounts, Step.account, silent] using unreported

theorem now_await
    {channel : Channel}
    {request : Request}
    {rest : List Request}
    (held : channel.pending = request :: rest) :
    channel.await.now = channel.machine.issueMoment channel.now request.unit := by
  simp only [await, readyAt?, held, List.head?_cons, Option.bind_some,
    Machine.issueMoment]
  cases channel.machine.device? request.unit with
  | none => exact Moment.max_eq_left UInt64.zero_le
  | some device => rfl

namespace Feed

theorem machine_refill (feed : Feed) :
    feed.refill.1.channel.machine = feed.channel.machine ∧
      feed.refill.1.channel.now = feed.channel.now := by
  rw [refill]
  split
  · exact ⟨rfl, rfl⟩
  · exact Channel.machine_refill feed.channel feed.requests

theorem submissions_refill (feed : Feed) :
    submissions feed.refill.2 ++ feed.refill.1.requests.map (·, true) =
        feed.requests.map (·, true) ∧
      completions feed.refill.2 = [] ∧ accounts feed.refill.2 = [] := by
  rw [refill]
  split
  · exact ⟨rfl, rfl, rfl⟩
  · exact Channel.submissions_refill feed.channel feed.requests

/-- What becomes of a feed if its outstanding requests are served. -/
def served (feed : Feed) : Machine.Service :=
  feed.channel.machine.serve feed.channel.now feed.outstanding

section Turns

variable
  {feed : Feed}
  {request : Request}
  {rest : List Request}
  (held : feed.refill.1.channel.pending = request :: rest)

include held

theorem outstanding_of_held :
    feed.outstanding = request :: (rest ++ feed.refill.1.requests) := by
  rw [← feed.outstanding_refill, outstanding, held, List.cons_append]

theorem outstanding_complete :
    (feed.refill.1.withChannel
        (feed.refill.1.channel.complete request).channel).outstanding =
      rest ++ feed.refill.1.requests := by
  rw [outstanding, channel_withChannel, pending_complete held]
  rfl

theorem outstanding_await :
    (feed.refill.1.withChannel feed.refill.1.channel.await).outstanding =
      request :: (rest ++ feed.refill.1.requests) :=
  feed.outstanding_refill.trans (outstanding_of_held held)

/-- A wait is for the moment at which the first request is issued. -/
theorem now_await_refill :
    feed.refill.1.channel.await.now =
      feed.channel.machine.issueMoment feed.channel.now request.unit := by
  rw [now_await held, feed.machine_refill.1, feed.machine_refill.2]

end Turns

/-- A turn that is not the last one serves what it completes and leaves the rest. -/
theorem served_turn
    {feed : Feed}
    (ongoing : feed.turn.ended = false) :
    feed.served =
      { feed.turn.feed.served with
        completions :=
          completions feed.turn.steps ++ feed.turn.feed.served.completions
        notices := accounts feed.turn.steps ++ feed.turn.feed.served.notices } := by
  rcases feed.machine_refill with ⟨machine, now⟩
  rcases feed.submissions_refill with ⟨-, uncompleted, unreported⟩
  rcases feed.turn_cases with
    ⟨-, last⟩ | ⟨request, rest, held, ⟨completed, ready⟩ | ⟨waited, busy⟩⟩
  · simp [last] at ongoing
  · have moment := Machine.issueMoment_of_ready ready
    rw [completed]
    simp only [served, outstanding_of_held held, outstanding_complete held, Machine.serve,
      completions_append, accounts_append, uncompleted, unreported, List.nil_append]
    rw [← machine, ← now, moment]
    simp [completions, accounts, Event.completion?, Step.account, complete]
  · rw [waited]
    simp only [served, outstanding_of_held held, outstanding_await held, channel_withChannel,
      machine_await, machine, now_await_refill held, Machine.serve,
      Machine.issueMoment_issueMoment, completions_append, accounts_append, uncompleted,
      unreported, List.nil_append]
    rfl

/-- The last turn finds everything served and leaves it at that. -/
theorem served_of_ended
    {feed : Feed}
    (ended : feed.turn.ended = true) :
    feed.served =
        ⟨feed.turn.feed.channel.machine, feed.turn.feed.channel.now,
          completions feed.turn.steps, accounts feed.turn.steps⟩ ∧
      feed.turn.feed.outstanding = [] := by
  rcases feed.machine_refill with ⟨machine, now⟩
  rcases feed.submissions_refill with ⟨-, uncompleted, unreported⟩
  rcases feed.turn_cases with
    ⟨nothing, last⟩ | ⟨request, rest, -, ⟨completed, -⟩ | ⟨waited, -⟩⟩
  · rw [last]
    refine ⟨?_, feed.outstanding_refill.trans nothing⟩
    simp only [served, nothing, Machine.serve, machine, now, uncompleted, unreported]
  · simp [completed] at ended
  · simp [waited] at ended

/-- A turn submits the requests that it takes off the list, and each is taken. -/
theorem submissions_turn (feed : Feed) :
    submissions feed.turn.steps ++ feed.turn.feed.requests.map (·, true) =
      feed.requests.map (·, true) := by
  rcases feed.submissions_refill with ⟨submitted, -, -⟩
  rcases feed.turn_cases with
    ⟨-, last⟩ | ⟨request, rest, -, ⟨completed, -⟩ | ⟨waited, -⟩⟩
  · rw [last]
    exact submitted
  · rw [completed, submissions_append]
    simpa [withChannel, submissions, Event.submission?] using submitted
  · rw [waited, submissions_append]
    simpa [withChannel, submissions, Event.submission?] using submitted

/-- Whether serving what is outstanding begins a transfer that lasts beyond the last moment. -/
def outlasts (feed : Feed) : Bool :=
  feed.channel.machine.serviceOutlasts feed.channel.now feed.outstanding

/-- A turn performs one request of the service, or none, and leaves the rest. -/
theorem outlasts_turn
    {feed : Feed}
    (ongoing : feed.turn.ended = false) :
    feed.outlasts = (feed.refill.1.channel.outlasts || feed.turn.feed.outlasts) := by
  rcases feed.machine_refill with ⟨machine, now⟩
  rcases feed.turn_cases with
    ⟨-, last⟩ | ⟨request, rest, held, ⟨completed, ready⟩ | ⟨waited, busy⟩⟩
  · simp [last] at ongoing
  · rw [completed, outlasts_of_ready held ready]
    simp only [outlasts, outstanding_of_held held, outstanding_complete held,
      Machine.serviceOutlasts]
    rw [← machine, ← now, Machine.issueMoment_of_ready ready]
    rfl
  · rw [waited, outlasts_of_waiting (step?_of_busy held busy), Bool.false_or]
    simp only [outlasts, outstanding_of_held held, outstanding_await held,
      channel_withChannel, machine_await, machine, now_await_refill held,
      Machine.serviceOutlasts, Machine.issueMoment_issueMoment]

/-- In its last turn a run performs nothing. -/
theorem outlasts_of_ended
    {feed : Feed}
    (ended : feed.turn.ended = true) :
    feed.outlasts = false ∧ feed.refill.1.channel.outlasts = false := by
  rcases feed.turn_cases with
    ⟨nothing, -⟩ | ⟨request, rest, -, ⟨completed, -⟩ | ⟨waited, -⟩⟩
  · refine ⟨?_, ?_⟩
    · rw [outlasts, nothing]
      rfl
    · rw [← outstanding_refill] at nothing
      exact outlasts_of_waiting (step?_of_empty (List.append_eq_nil_iff.1 nothing).1)
  · simp [completed] at ended
  · simp [waited] at ended

/-- Checked arithmetic stops a run if its service begins a transfer that outlasts the clock. -/
theorem proceed?_checked
    (turn : Nat)
    (feed : Feed)
    (steps : Array Step) :
    feed.proceed? .checked (fun _ => false) turn steps =
      if feed.outlasts then none else some (feed.proceed (fun _ => false) turn steps) := by
  fun_induction proceed (fun _ => false) turn feed steps with
  | case1 turn feed steps interrupted => contradiction
  | case2 turn feed steps onward turned ongoing ih =>
      rw [proceed?, if_neg onward, outlasts_turn ongoing]
      cases stopped : feed.refill.1.channel.outlasts with
      | true => simp only [stops, stopped, decide_true, Bool.and_self, if_true, Bool.true_or]
      | false =>
          simp only [stops, stopped, decide_true, Bool.and_false, Bool.false_eq_true, if_false,
            Bool.false_or]
          rw [dif_pos ongoing]
          exact ih
  | case3 turn feed steps onward turned ended =>
      have last : feed.turn.ended = true := by simpa using ended
      rcases outlasts_of_ended last with ⟨unserved, still⟩
      rw [proceed?, if_neg onward, unserved]
      simp only [stops, still, decide_true, Bool.and_false, Bool.false_eq_true, if_false]
      rw [dif_neg ended]

/-- What it means that a run which took some steps before has served the rest of a feed. -/
structure ServedBy
    (feed : Feed)
    (before : List Step)
    (run : Run) :
    Prop where
  finished : run.finished = true
  idle : run.channel.pending = []
  machine : run.channel.machine = feed.served.machine
  now : run.channel.now = feed.served.now
  completed :
    completions run.steps.toList = completions before ++ feed.served.completions
  reported : accounts run.steps.toList = accounts before ++ feed.served.notices
  submitted :
    submissions run.steps.toList = submissions before ++ feed.requests.map (·, true)

/-- A run that nobody interrupts serves all that is outstanding. -/
theorem servedBy_proceed
    (turn : Nat)
    (feed : Feed)
    (steps : Array Step) :
    feed.ServedBy steps.toList (feed.proceed (fun _ => false) turn steps) := by
  fun_induction proceed (fun _ => false) turn feed steps with
  | case1 turn feed steps interrupted => contradiction
  | case2 turn feed steps _ turned ongoing ih =>
      have served := served_turn ongoing
      have submitted := feed.submissions_turn
      exact
        { finished := ih.finished
          idle := ih.idle
          machine := by rw [ih.machine, served]
          now := by rw [ih.now, served]
          completed := by
            rw [ih.completed, served, Array.toList_appendList, completions_append,
              List.append_assoc]
          reported := by
            rw [ih.reported, served, Array.toList_appendList, accounts_append,
              List.append_assoc]
          submitted := by
            rw [ih.submitted, ← submitted, Array.toList_appendList, submissions_append,
              List.append_assoc] }
  | case3 turn feed steps _ turned ended =>
      have last : feed.turn.ended = true := by simpa using ended
      rcases served_of_ended last with ⟨everything, nothing⟩
      rcases List.append_eq_nil_iff.1 nothing with ⟨idle, unqueued⟩
      have submitted := feed.submissions_turn
      rw [unqueued, List.map_nil, List.append_nil] at submitted
      exact
        { finished := rfl
          idle := idle
          machine := by rw [everything]
          now := by rw [everything]
          completed := by rw [everything, Array.toList_appendList, completions_append]
          reported := by rw [everything, Array.toList_appendList, accounts_append]
          submitted := by rw [← submitted, Array.toList_appendList, submissions_append] }

end Feed

theorem servedBy_run
    (channel : Channel)
    (requests : List Request) :
    (Feed.start channel requests).ServedBy [] (channel.run requests) :=
  Feed.servedBy_proceed 0 (Feed.start channel requests) #[]

/-- By either arithmetic a run comes to the same, or it stops. -/
theorem run?_eq
    (arithmetic : Arithmetic)
    (channel : Channel)
    (requests : List Request) :
    channel.run? arithmetic requests =
      arithmetic.outcome?
        (channel.machine.serviceOutlasts channel.now (channel.pending ++ requests))
        (channel.run requests) := by
  cases arithmetic with
  | wrapping => exact Feed.proceed?_wrapping _ _ _ _
  | checked => exact Feed.proceed?_checked _ _ _

/--
A run adds nothing to the requests and takes nothing away.  It comes to its end with
nothing queued, and the channel takes every request of the list.  All requests, those
that were queued before the first, are completed once and in order, each at the first
moment at which the one before it was issued and its unit is ready; what is reported is
reported about them.  What the units, the memory and the files have become in the end is
the same as if the requests had been performed outright, at any one moment, but for the
ends of the transfers.  A request for an empty unit, or without a window of memory for
its transfer, changes nothing.  Moments are counted in 64 bits, whatever the clock shows at
the beginning; checked arithmetic gives the same run, or none if one of the requests begins
a transfer that lasts beyond the last moment.
-/
theorem run_performs_outstanding
    (channel : Channel)
    (requests : List Request)
    (moment : UInt64) :
    let run := channel.run requests
    let outstanding := channel.pending ++ requests
    let service := channel.machine.serve channel.now outstanding
    let performance := channel.machine.performAll moment outstanding
    run.finished = true ∧ run.channel.pending = [] ∧
      submissions run.steps.toList = requests.map (·, true) ∧
      completions run.steps.toList = service.completions ∧
      service.completions.map Completion.request = outstanding ∧
      service.completions.map Completion.accepted = performance.accepted ∧
      run.channel.machine = service.machine ∧ run.channel.now = service.now ∧
      run.notices = service.notices ∧
      (∀ arithmetic,
        channel.run? arithmetic requests =
          if arithmetic = .checked ∧
              channel.machine.serviceOutlasts channel.now outstanding = true then
            none
          else
            some run) ∧
      run.channel.machine.memory = performance.machine.memory ∧
      run.channel.machine.files = performance.machine.files ∧
      (∀ unit,
        (run.channel.machine.device? unit).map Device.atRest =
          (performance.machine.device? unit).map Device.atRest) ∧
      (∀ (machine : Machine) now (request : Request),
        machine.device? request.unit = none →
          (machine.perform now request).accepted = false ∧
            (machine.perform now request).unit = machine) ∧
      ∀ (machine : Machine) now (request : Request) device,
        machine.device? request.unit = some device →
          (∀ mode, request.operation ≠ .control mode) →
            machine.windowEnd? device request.address = none →
              (machine.perform now request).accepted = false ∧
                (machine.perform now request).unit = machine := by
  intro run outstanding service performance
  have served := servedBy_run channel requests
  have same : run.channel.machine = service.machine := served.machine
  rcases Machine.serve_eq_performAll rfl channel.now moment outstanding with
    ⟨alike, accepted⟩
  rw [← same] at alike
  refine ⟨served.finished, served.idle, served.submitted, served.completed,
    Machine.requests_serve channel.machine channel.now outstanding, accepted, same,
    served.now, served.reported, ?_, ?_, ?_, ?_, ?_, ?_⟩
  · intro arithmetic
    rw [run?_eq, Arithmetic.outcome?_eq_ite]
  · rw [← Machine.memory_atRest, alike, Machine.memory_atRest]
  · rw [← Machine.files_atRest, alike, Machine.files_atRest]
  · intro unit
    rw [← Machine.device?_atRest, ← Machine.device?_atRest, alike]
  · intro machine now request empty
    rw [Machine.perform_of_empty now empty]
    exact ⟨rfl, rfl⟩
  · intro machine now request device found transfer outside
    exact Machine.perform_of_no_window now found transfer outside

end MixUnits.Channel
