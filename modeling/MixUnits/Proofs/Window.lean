import MixUnits.Proofs.Deed
import MixUnits.Proofs.Transfer

/-!
# The window of a transfer

A transfer begins at an address and needs room for a block behind it.  Then its window goes
on for all words that the device transfers, as far as there is memory: whatever the numbers
are, it begins and ends in memory, and not before it begins.  The device gets exactly the
words of the window.  An input changes no others, an output and a control operation change
none, and a transfer without room is refused before the device is asked.

The end of a window can be worked out with numbers of sixty-four bits if every sum is checked.
-/

namespace MixUnits

namespace Buffer

/-- Some words are those of a run from `start` up to `stop`, all of which it has. -/
structure IsWindow
    (buffer : Buffer)
    (start stop : Nat)
    (window : Buffer) :
    Prop where
  forward : start ≤ stop
  inside : stop ≤ buffer.size
  size : window.size = stop - start
  words : ∀ index, index < stop - start → window[index]? = buffer[start + index]?

/-- A run differs from another one from `start` up to `stop` only, where it has given words. -/
structure IsReplaced
    (buffer : Buffer)
    (start stop : Nat)
    (words next : Buffer) :
    Prop where
  size : next.size = buffer.size
  inside : ∀ index, start ≤ index → index < stop → next[index]? = words[index - start]?
  outside : ∀ index, index < start ∨ stop ≤ index → next[index]? = buffer[index]?

variable
  {buffer words : Buffer}
  {start stop : Nat}

theorem isWindow_slice
    (forward : start ≤ stop)
    (inside : stop ≤ buffer.size) :
    buffer.IsWindow start stop (buffer.slice start stop) where
  forward := forward
  inside := inside
  size := by rw [size_slice, Nat.min_eq_left inside]
  words := by
    intro index within
    rw [getElem?_slice, if_pos (by omega)]

theorem isReplaced_overlay
    (inside : stop ≤ buffer.size)
    (size : words.size = stop - start) :
    buffer.IsReplaced start stop words (buffer.overlay start words) where
  size := size_overlay buffer start words
  inside := by
    intro index behind before
    rw [getElem?_overlay, Array.getElem?_eq_getElem (Nat.lt_of_lt_of_le before inside),
      Array.getElem?_eq_getElem (by omega), Option.map_some, if_pos behind, Option.getD_some]
  outside := by
    intro index apart
    rw [getElem?_overlay]
    by_cases behind : start ≤ index
    · have beyond : words.size ≤ index - start := by omega
      simp only [if_pos behind, Array.getElem?_eq_none beyond, Option.getD_none, Option.map_id']
    · simp only [if_neg behind, Option.map_id']

end Buffer

namespace Machine

/-- The sum of two numbers of sixty-four bits, if it has no more. -/
def checkedSum? (left right : UInt64) : Option UInt64 :=
  if left.toNat + right.toNat < 0x10000000000000000 then some (left + right) else none

/-- The end of a window worked out with numbers of sixty-four bits. -/
def checkedWindowEnd? (size address blockSize transferWords : UInt64) : Option UInt64 :=
  match checkedSum? address blockSize with
  | none => none
  | some blockEnd =>
    if blockEnd ≤ size then
      match checkedSum? address transferWords with
      | none => some size
      | some stop => if stop ≤ size then some stop else some size
    else
      none

theorem toNat_of_checkedSum?
    {left right sum : UInt64}
    (checked : checkedSum? left right = some sum) :
    sum.toNat = left.toNat + right.toNat := by
  rw [checkedSum?] at checked
  split at checked
  · next few =>
    rw [← Option.some.inj checked, UInt64.toNat_add]
    exact Nat.mod_eq_of_lt few
  · contradiction

theorem le_of_checkedSum?_eq_none
    {left right : UInt64}
    (checked : checkedSum? left right = none) :
    0x10000000000000000 ≤ left.toNat + right.toNat := by
  rw [checkedSum?] at checked
  split at checked
  · contradiction
  · next many => exact Nat.le_of_not_lt many

/-- Checked sums find the end of a window wherever it is, and refuse what does not fit. -/
theorem checkedWindowEnd?_eq
    (machine : Machine)
    (device : Device)
    {size address blockSize transferWords : UInt64}
    (memory : size.toNat = machine.memory.size)
    (block : blockSize.toNat = device.blockSize)
    (transfer : transferWords.toNat = device.transferWords) :
    (checkedWindowEnd? size address blockSize transferWords).map UInt64.toNat =
      machine.windowEnd? device address.toNat := by
  have bounded := size.toNat_lt
  rw [windowEnd?, ← memory, ← block, ← transfer, checkedWindowEnd?]
  cases sum : checkedSum? address blockSize with
  | none =>
      have many := le_of_checkedSum?_eq_none sum
      rw [if_neg (by omega)]
      rfl
  | some blockEnd =>
      have blockEnd_eq := toNat_of_checkedSum? sum
      by_cases fits : blockEnd ≤ size
      · rw [if_pos (by rwa [UInt64.le_iff_toNat_le, blockEnd_eq] at fits)]
        simp only [if_pos fits]
        cases whole : checkedSum? address transferWords with
        | none =>
            have many := le_of_checkedSum?_eq_none whole
            rw [Nat.min_eq_right (by omega)]
            rfl
        | some stop =>
            have stop_eq := toNat_of_checkedSum? whole
            by_cases inside : stop ≤ size
            · simp only [if_pos inside, Option.map_some, stop_eq]
              rw [UInt64.le_iff_toNat_le, stop_eq] at inside
              rw [Nat.min_eq_left inside]
            · simp only [if_neg inside, Option.map_some]
              rw [UInt64.le_iff_toNat_le, stop_eq] at inside
              rw [Nat.min_eq_right (by omega)]
      · simp only [if_neg fits, Option.map_none]
        rw [UInt64.le_iff_toNat_le, blockEnd_eq] at fits
        rw [if_neg fits]

section Requests

variable
  (machine : Machine)
  (now : UInt64)

/-- Only an input changes memory. -/
theorem memory_perform_of_not_input
    {request : Request}
    (quiet : request.operation ≠ .input) :
    (machine.perform now request).unit.memory = machine.memory := by
  rw [perform]
  cases machine.device? request.unit with
  | none => rfl
  | some device =>
      simp only [operate]
      cases asked : request.operation with
      | control mode => rfl
      | input => exact absurd asked quiet
      | output =>
          cases machine.windowEnd? device request.address with
          | none => rfl
          | some stop => rfl

variable
  {machine : Machine}
  {device : Device}
  {unit address : Nat}
  (found : machine.device? unit = some device)

include found

/-- A transfer without room for a block is refused before the device is asked. -/
theorem perform_of_no_room
    {operation : Operation}
    (transfer : ∀ mode, operation ≠ .control mode)
    (outside : ¬ address + device.blockSize ≤ machine.memory.size) :
    (machine.perform now ⟨unit, operation, address⟩).accepted = false ∧
      (machine.perform now ⟨unit, operation, address⟩).unit = machine :=
  perform_of_no_window now found transfer (if_neg outside)

/-- An input gets the words of its window and changes memory there only. -/
theorem perform_input_of_room
    (room : address + device.blockSize ≤ machine.memory.size) :
    let stop := min (address + device.transferWords) machine.memory.size
    let received := device.input now machine.files (machine.memory.slice address stop)
    let performed := machine.perform now ⟨unit, .input, address⟩
    performed.accepted = received.accepted ∧
      performed.unit.device? unit = some received.unit ∧
        performed.unit.files = machine.files ∧
          machine.memory.IsReplaced address stop received.buffer performed.unit.memory := by
  intro stop received performed
  have fits : machine.windowEnd? device address = some stop := if_pos room
  rcases perform_input_of_windowEnd? found fits now with ⟨accepted, next, memory, files⟩
  refine ⟨accepted, next, files, ?_⟩
  have inside : stop ≤ machine.memory.size := Nat.min_le_right _ _
  have size : received.buffer.size = stop - address := by
    rw [Device.size_buffer_input, Buffer.size_slice, Nat.min_eq_left inside]
  rw [memory]
  exact Buffer.isReplaced_overlay inside size

/-- An output gets the words of its window. -/
theorem perform_output_of_room
    (room : address + device.blockSize ≤ machine.memory.size) :
    let stop := min (address + device.transferWords) machine.memory.size
    let sent := device.output now machine.files (machine.memory.slice address stop)
    let performed := machine.perform now ⟨unit, .output, address⟩
    performed.accepted = sent.accepted ∧
      performed.unit.device? unit = some sent.unit ∧ performed.unit.files = sent.files := by
  intro stop sent performed
  rcases perform_output_of_windowEnd? found (if_pos room) now with ⟨accepted, next, -, files⟩
  exact ⟨accepted, next, files⟩

end Requests

end Machine

namespace Channel

/--
Issuing the first request takes it off the queue and touches no unit but its own and no memory
outside its window.  An input or an output reaches the device exactly if there is room for a
block behind the address, and then with the words from the address on as far as the transfer
and memory go, which are words of memory throughout.  Otherwise, and for an empty unit, it is
refused and the machine stays as it was.  An input changes memory in the window only, to what
the device delivers; an output and a control operation leave memory alone.  The window is the
one that checked sums of sixty-four bits find.
-/
theorem issue_touches_window_only
    {channel : Channel}
    {request : Request}
    {rest : List Request}
    (held : channel.pending = request :: rest)
    (ready : channel.machine.busy channel.now request.unit = false) :
    ∃ issued,
      channel.step? = some issued ∧
      issued.completion.request = request ∧
      issued.channel.pending = rest ∧
      let before := channel.machine
      let after := issued.channel.machine
      let accepted := issued.completion.accepted
      (∀ other, other ≠ request.unit → after.device? other = before.device? other) ∧
      (request.operation ≠ .input → after.memory = before.memory) ∧
      (before.device? request.unit = none → accepted = false ∧ after = before) ∧
      ∀ device,
        before.device? request.unit = some device →
          let size := before.memory.size
          let fits := request.address + device.blockSize ≤ size
          let stop := min (request.address + device.transferWords) size
          let window := before.memory.slice request.address stop
          (fits → before.memory.IsWindow request.address stop window) ∧
          (∀ mode,
            request.operation = .control mode →
              accepted = (device.control mode).accepted ∧
                after.device? request.unit = some (device.control mode).unit ∧
                  after.files = before.files) ∧
          (request.operation = .input →
            (fits →
              let received := device.input channel.now before.files window
              accepted = received.accepted ∧
                after.device? request.unit = some received.unit ∧
                  after.files = before.files ∧
                    before.memory.IsReplaced request.address stop received.buffer
                      after.memory) ∧
            (¬fits → accepted = false ∧ after = before)) ∧
          (request.operation = .output →
            (fits →
              let sent := device.output channel.now before.files window
              accepted = sent.accepted ∧
                after.device? request.unit = some sent.unit ∧ after.files = sent.files) ∧
            (¬fits → accepted = false ∧ after = before)) ∧
          ∀ wideSize address blockSize transferWords : UInt64,
            wideSize.toNat = size →
              address.toNat = request.address →
                blockSize.toNat = device.blockSize →
                  transferWords.toNat = device.transferWords →
                    (Machine.checkedWindowEnd? wideSize address blockSize transferWords).map
                        UInt64.toNat =
                      if fits then some stop else none := by
  refine ⟨channel.complete request, step?_of_ready held ready, rfl, pending_complete held, ?_⟩
  intro before after accepted
  refine
    ⟨fun other apart => before.device?_perform_of_ne channel.now apart,
      fun quiet => before.memory_perform_of_not_input channel.now quiet, ?_, ?_⟩
  · intro empty
    have refused := Machine.perform_of_empty channel.now empty
    exact ⟨congrArg Answer.accepted refused, congrArg Answer.unit refused⟩
  intro device found size fits stop window
  rcases request with ⟨unit, operation, address⟩
  refine ⟨?_, ?_, ?_, ?_, ?_⟩
  · intro room
    have forward : address ≤ stop :=
      Nat.le_min.2 ⟨Nat.le_add_right _ _, Nat.le_trans (Nat.le_add_right _ _) room⟩
    exact Buffer.isWindow_slice forward (Nat.min_le_right _ _)
  · rintro mode rfl
    rcases Machine.perform_control found mode channel.now with ⟨taken, next, -, files⟩
    exact ⟨taken, next, files⟩
  · rintro rfl
    exact
      ⟨Machine.perform_input_of_room channel.now found,
        Machine.perform_of_no_room channel.now found nofun⟩
  · rintro rfl
    exact
      ⟨Machine.perform_output_of_room channel.now found,
        Machine.perform_of_no_room channel.now found nofun⟩
  · intro wideSize wideAddress blockSize transferWords memory start block transfer
    rw [before.checkedWindowEnd?_eq device memory block transfer, start]
    rfl

/-- Ten words of memory and a probe with blocks of four words and transfers of twenty. -/
def shortMachine : Machine :=
  { Machine.blank .empty with memory := Buffer.blank 10 }.place 20
    (some (.probe (.mount ⟨4, 1⟩ 20 0)))

/-- A channel on which the probe is to be read into the last four words of memory. -/
def lastBlock : Channel :=
  ((idle shortMachine).submit ⟨20, .input, 6⟩).unit

/-- The probe delivers the four words that are left of twenty, and the word before is kept. -/
theorem issue_touches_last_words :
    lastBlock.pending = [⟨20, .input, 6⟩] ∧
      lastBlock.machine.busy lastBlock.now 20 = false ∧
        ∃ issued,
          lastBlock.step? = some issued ∧
            issued.completion.accepted = true ∧
              issued.channel.machine.memory[5]? = some .zero ∧
                issued.channel.machine.memory[9]? = some (.truncate .positive 4) := by
  have held : lastBlock.pending = [⟨20, .input, 6⟩] := by decide
  have ready : lastBlock.machine.busy lastBlock.now 20 = false := by decide
  have found :
      lastBlock.machine.device? 20 = some (.probe (.mount ⟨4, 1⟩ 20 0)) :=
    rfl
  have fits : 6 + 4 ≤ lastBlock.machine.memory.size := by decide
  refine ⟨held, ready, ?_⟩
  rcases issue_touches_window_only held ready with ⟨issued, stepped, -, -, -, -, -, touched⟩
  rcases touched _ found with ⟨-, -, input, -, -⟩
  rcases (input rfl).1 fits with ⟨accepted, -, -, replaced⟩
  refine ⟨issued, stepped, accepted, ?_, ?_⟩
  · exact (replaced.outside 5 (.inl (by decide))).trans (by decide)
  · exact (replaced.inside 9 (by decide) (by decide)).trans (by decide)

end Channel

end MixUnits
