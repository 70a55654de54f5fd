import MixUnits.Proofs.Run

/-!
# Transfers between units and memory

A request for a unit with a block of its own size is a transfer between the unit and a
window of that size.  An input lays what it delivers over the window, an output may
change the files, a control operation changes the unit only, and every other unit stays
as it was.

The jobs use the leading words of memory only.  So memory is, all the time, a page with
zeros behind it, and what is delivered to the leading words is the next page.
-/

namespace MixUnits

namespace Buffer

variable (buffer source other : Buffer)

/-- What is laid over a run covers what was laid there before, if it is as long. -/
theorem overlay_overlay_of_size_le (long : source.size ≤ other.size) :
    (buffer.overlay 0 source).overlay 0 other = buffer.overlay 0 other := by
  apply Array.ext_getElem?
  intro index
  simp only [getElem?_overlay, Option.map_map, Nat.zero_le, if_true, Nat.sub_zero]
  refine congrArg (fun change => buffer[index]?.map change) (funext fun word => ?_)
  rw [Function.comp_apply]
  by_cases covered : index < other.size
  · rw [Array.getElem?_eq_getElem covered, Option.getD_some, Option.getD_some]
  · have behind := Nat.le_of_not_lt covered
    rw [Array.getElem?_eq_none behind, Array.getElem?_eq_none (Nat.le_trans long behind)]
    rfl

theorem slice_overlay_of_size
    {stop : Nat}
    (size : source.size = stop)
    (room : stop ≤ buffer.size) :
    (buffer.overlay 0 source).slice 0 stop = source := by
  apply Array.ext_getElem?
  intro index
  rw [getElem?_slice, Nat.zero_add, getElem?_overlay, Nat.sub_zero]
  by_cases within : index < stop
  · rw [if_pos within, Array.getElem?_eq_getElem (Nat.lt_of_lt_of_le within room),
      Array.getElem?_eq_getElem (Nat.lt_of_lt_of_eq within size.symm), Option.map_some,
      if_pos (Nat.zero_le index), Option.getD_some]
  · rw [if_neg within, Array.getElem?_eq_none]
    exact Nat.le_trans (Nat.le_of_eq size) (Nat.le_of_not_lt within)

end Buffer

/-- A memory of the usual size that begins with a page and is blank behind it. -/
def memoryOf (page : Buffer) : Buffer :=
  (Buffer.blank memorySize).overlay 0 page

@[simp]
theorem size_memoryOf (page : Buffer) : (memoryOf page).size = memorySize := by
  simp [memoryOf]

theorem getElem?_memoryOf
    (page : Buffer)
    {index : Nat}
    (within : index < memorySize) :
    (memoryOf page)[index]? = some (page[index]?.getD .zero) := by
  have blank : (Buffer.blank memorySize)[index]? = some .zero := by
    simp [Buffer.blank, within]
  rw [memoryOf, Buffer.getElem?_overlay, blank, Option.map_some, if_pos (Nat.zero_le index),
    Nat.sub_zero]

theorem memoryOf_blank
    {size : Nat} :
    memoryOf (Buffer.blank size) = Buffer.blank memorySize := by
  apply Array.ext_getElem?
  intro index
  by_cases within : index < memorySize
  · rw [getElem?_memoryOf _ within]
    simp only [Buffer.blank, Array.getElem?_replicate, within, if_true]
    split
    · rfl
    · rfl
  · have beyond := Nat.le_of_not_lt within
    rw [Array.getElem?_eq_none (by simpa using beyond),
      Array.getElem?_eq_none (by simpa using beyond)]

/-- A page of the same size takes the place of the one before it. -/
theorem overlay_memoryOf
    {page next : Buffer}
    (same : page.size = next.size) :
    (memoryOf page).overlay 0 next = memoryOf next :=
  Buffer.overlay_overlay_of_size_le _ page next (Nat.le_of_eq same)

theorem slice_memoryOf
    {page : Buffer}
    {stop : Nat}
    (size : page.size = stop)
    (room : stop ≤ memorySize) :
    (memoryOf page).slice 0 stop = page :=
  Buffer.slice_overlay_of_size _ page size (by simpa using room)

namespace Machine

variable
  {machine : Machine}
  {unit address : Nat}
  {device : Device}

/-- What is put in the place of a device is the device of the unit from then on. -/
theorem device?_place_self
    (found : machine.device? unit = some device)
    (next? : Option Device) :
    (machine.place unit next?).device? unit = next? := by
  have there : unit < unitCount := by
    apply Nat.lt_of_not_le
    intro outside
    rw [device?, Vector.getElem?_eq_none outside] at found
    contradiction
  rw [device?, place, Vector.getElem?_setIfInBounds_self, if_pos there, Option.join_some]

theorem device?_place_of_ne
    (machine : Machine)
    {other : Nat}
    (apart : other ≠ unit)
    (device? : Option Device) :
    (machine.place unit device?).device? other = machine.device? other := by
  simp [Machine.device?, place, apart.symm]

theorem machine_performAll_cons
    (machine : Machine)
    (moment : UInt64)
    (request : Request)
    (rest : List Request) :
    (machine.performAll moment (request :: rest)).machine =
      ((machine.perform moment request).unit.performAll moment rest).machine :=
  rfl

theorem performAll_append
    (machine : Machine)
    (moment : UInt64)
    (early late : List Request) :
    machine.performAll moment (early ++ late) =
      (let first := machine.performAll moment early
      let second := first.machine.performAll moment late
      ⟨second.machine, first.accepted ++ second.accepted⟩) := by
  induction early generalizing machine with
  | nil => rfl
  | cons request rest ih =>
      rw [List.cons_append, performAll, ih]
      rfl

theorem machine_performAll_append
    (machine : Machine)
    (moment : UInt64)
    (early late : List Request) :
    (machine.performAll moment (early ++ late)).machine =
      ((machine.performAll moment early).machine.performAll moment late).machine := by
  rw [performAll_append]

/-- A device whose transfers move one block has the window of the block. -/
theorem windowEnd?_of_room
    (whole : device.transferWords = device.blockSize)
    (room : address + device.blockSize ≤ machine.memory.size) :
    machine.windowEnd? device address = some (address + device.blockSize) := by
  rw [windowEnd?, if_pos room, whole, Nat.min_eq_left room]

/-- An input lays what the device delivers over the window and leaves the files alone. -/
theorem perform_input_of_windowEnd?
    (found : machine.device? unit = some device)
    {stop : Nat}
    (fits : machine.windowEnd? device address = some stop)
    (now : UInt64) :
    let received := device.input now machine.files (machine.memory.slice address stop)
    let performed := machine.perform now ⟨unit, .input, address⟩
    performed.accepted = received.accepted ∧
      performed.unit.device? unit = some received.unit ∧
        performed.unit.memory = machine.memory.overlay address received.buffer ∧
          performed.unit.files = machine.files := by
  simp only [perform, found, operate, fits]
  exact ⟨rfl, device?_place_self found _, rfl, rfl⟩

theorem perform_input
    (found : machine.device? unit = some device)
    (whole : device.transferWords = device.blockSize)
    (room : address + device.blockSize ≤ machine.memory.size)
    (now : UInt64) :
    let window := machine.memory.slice address (address + device.blockSize)
    let received := device.input now machine.files window
    let performed := machine.perform now ⟨unit, .input, address⟩
    performed.accepted = received.accepted ∧
      performed.unit.device? unit = some received.unit ∧
        performed.unit.memory = machine.memory.overlay address received.buffer ∧
          performed.unit.files = machine.files :=
  perform_input_of_windowEnd? found (windowEnd?_of_room whole room) now

/-- What a unit delivers to the page in memory is the next page. -/
theorem perform_input_page
    {page : Buffer}
    (found : machine.device? unit = some device)
    (size : device.blockSize = page.size)
    (whole : device.transferWords = device.blockSize)
    (room : page.size ≤ memorySize)
    (memory : machine.memory = memoryOf page)
    (now : UInt64)
    (kept : (device.input now machine.files page).buffer.size = page.size) :
    let received := device.input now machine.files page
    let performed := machine.perform now ⟨unit, .input, 0⟩
    performed.accepted = received.accepted ∧
      performed.unit.device? unit = some received.unit ∧
        performed.unit.memory = memoryOf received.buffer ∧
          performed.unit.files = machine.files := by
  have fits : 0 + device.blockSize ≤ machine.memory.size := by
    rwa [Nat.zero_add, size, memory, size_memoryOf]
  have window : machine.memory.slice 0 (0 + device.blockSize) = page := by
    rw [Nat.zero_add, memory]
    exact slice_memoryOf size.symm (size ▸ room)
  rcases perform_input found whole fits now with ⟨accepted, next, delivered, files⟩
  rw [window] at accepted next delivered
  rw [memory, overlay_memoryOf kept.symm] at delivered
  exact ⟨accepted, next, delivered, files⟩

/-- An output takes the window and leaves it alone. -/
theorem perform_output_of_windowEnd?
    (found : machine.device? unit = some device)
    {stop : Nat}
    (fits : machine.windowEnd? device address = some stop)
    (now : UInt64) :
    let sent := device.output now machine.files (machine.memory.slice address stop)
    let performed := machine.perform now ⟨unit, .output, address⟩
    performed.accepted = sent.accepted ∧
      performed.unit.device? unit = some sent.unit ∧
        performed.unit.memory = machine.memory ∧ performed.unit.files = sent.files := by
  simp only [perform, found, operate, fits]
  exact ⟨rfl, device?_place_self found _, rfl, rfl⟩

theorem perform_output
    (found : machine.device? unit = some device)
    (whole : device.transferWords = device.blockSize)
    (room : address + device.blockSize ≤ machine.memory.size)
    (now : UInt64) :
    let window := machine.memory.slice address (address + device.blockSize)
    let sent := device.output now machine.files window
    let performed := machine.perform now ⟨unit, .output, address⟩
    performed.accepted = sent.accepted ∧
      performed.unit.device? unit = some sent.unit ∧
        performed.unit.memory = machine.memory ∧ performed.unit.files = sent.files :=
  perform_output_of_windowEnd? found (windowEnd?_of_room whole room) now

theorem perform_control
    (found : machine.device? unit = some device)
    (mode : UInt32)
    (now : UInt64) :
    let performed := machine.perform now ⟨unit, .control mode, address⟩
    performed.accepted = (device.control mode).accepted ∧
      performed.unit.device? unit = some (device.control mode).unit ∧
        performed.unit.memory = machine.memory ∧ performed.unit.files = machine.files := by
  simp only [perform, found, operate]
  exact ⟨rfl, device?_place_self found _, rfl, rfl⟩

/-- A request changes the device of its own unit only. -/
theorem device?_perform_of_ne
    (machine : Machine)
    (now : UInt64)
    {request : Request}
    {other : Nat}
    (apart : other ≠ request.unit) :
    (machine.perform now request).unit.device? other = machine.device? other := by
  rw [perform]
  cases machine.device? request.unit with
  | none => rfl
  | some device =>
      simp only [operate]
      cases request.operation with
      | control mode => exact device?_place_of_ne machine apart _
      | input =>
          cases machine.windowEnd? device request.address with
          | none => rfl
          | some stop => exact device?_place_of_ne machine apart _
      | output =>
          cases machine.windowEnd? device request.address with
          | none => rfl
          | some stop => exact device?_place_of_ne machine apart _

/-- Only an output can change files. -/
theorem files_perform_of_not_output
    (machine : Machine)
    (now : UInt64)
    {request : Request}
    (quiet : request.operation ≠ .output) :
    (machine.perform now request).unit.files = machine.files := by
  rw [perform]
  cases machine.device? request.unit with
  | none => rfl
  | some device =>
      simp only [operate]
      cases asked : request.operation with
      | control mode => rfl
      | input =>
          cases machine.windowEnd? device request.address with
          | none => rfl
          | some stop => rfl
      | output => exact absurd asked quiet

end Machine

namespace Channel

/-- A run comes to performing what is outstanding outright. -/
theorem run_eq_performAll
    (channel : Channel)
    (requests : List Request)
    (moment : UInt64) :
    let run := channel.run requests
    let performance := channel.machine.performAll moment (channel.pending ++ requests)
    run.finished = true ∧
      (completions run.steps.toList).map Completion.request =
          channel.pending ++ requests ∧
        (completions run.steps.toList).map Completion.accepted = performance.accepted ∧
          run.channel.machine.atRest = performance.machine.atRest := by
  intro run performance
  have served := servedBy_run channel requests
  have same : channel.machine.atRest = channel.machine.atRest := rfl
  rcases
    Machine.serve_eq_performAll same channel.now moment (channel.pending ++ requests)
    with ⟨alike, accepted⟩
  refine ⟨served.finished, ?_, ?_, ?_⟩
  · rw [served.completed]
    exact Machine.requests_serve channel.machine channel.now (channel.pending ++ requests)
  · rw [served.completed]
    exact accepted
  · rw [served.machine]
    exact alike

/-- A run that begins with an idle channel comes to performing the requests outright. -/
theorem run_idle
    (machine : Machine)
    (requests : List Request) :
    let run := (idle machine).run requests
    let performance := machine.performAll 0 requests
    run.finished = true ∧
      (completions run.steps.toList).map Completion.accepted = performance.accepted ∧
        run.channel.machine.atRest = performance.machine.atRest := by
  rcases (idle machine).run_eq_performAll requests 0 with ⟨finished, -, accepted, alike⟩
  exact ⟨finished, accepted, alike⟩

end Channel

end MixUnits
