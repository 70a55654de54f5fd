import MixUnits.Machine

/-!
# Units at rest

The end of its last transfer decides when a unit may be asked again, and nothing else.
A unit at rest is the same unit with that moment forgotten.  Whatever is asked of it, at
whatever moment, it answers like the unit itself, and becomes the same unit but for the
end of the transfer.  So does a whole machine.
-/

namespace MixUnits

/-- The same blocks with the end of the last transfer forgotten. -/
def BlockStore.atRest
    {geometry : Geometry}
    (store : BlockStore geometry) :
    BlockStore geometry :=
  { store with busyUntil := 0 }

namespace Device

/-- The same device with the end of its last transfer forgotten. -/
def atRest : Device → Device
  | .tape unit => .tape { unit with store := unit.store.atRest }
  | .disk unit => .disk { unit with store := unit.store.atRest }
  | .cardReader unit => .cardReader { unit with store := unit.store.atRest }
  | .cardPunch unit => .cardPunch { unit with store := unit.store.atRest }
  | .linePrinter unit => .linePrinter { unit with store := unit.store.atRest }
  | .typewriter unit => .typewriter { unit with store := unit.store.atRest }
  | .paperTape unit => .paperTape { unit with store := unit.store.atRest }
  | .inert unit => .inert { unit with store := unit.store.atRest }
  | .probe unit => .probe { unit with store := unit.store.atRest }

@[simp]
theorem atRest_atRest (device : Device) :
    device.atRest.atRest = device.atRest := by
  cases device <;> rfl

@[simp]
theorem blockSize_atRest (device : Device) :
    device.atRest.blockSize = device.blockSize := by
  cases device <;> rfl

@[simp]
theorem transferWords_atRest (device : Device) :
    device.atRest.transferWords = device.transferWords := by
  cases device <;> rfl

end Device

namespace Drive

variable {medium : Medium}

/-- The same medium with the end of its last transfer forgotten. -/
def atRest (drive : Drive medium) : Drive medium :=
  { drive with store := drive.store.atRest }

theorem input_atRest
    (drive : Drive medium)
    (now moment : UInt64)
    (buffer : Buffer) :
    (drive.atRest.input moment buffer).map atRest =
      (drive.input now buffer).map atRest := by
  unfold input BlockStore.readBlock?
  by_cases inside : drive.store.cursor < medium.geometry.blockCount
  · simp only [atRest, BlockStore.atRest, inside, if_true]
    rfl
  · simp only [atRest, BlockStore.atRest, inside, if_false]
    rfl

theorem output_atRest
    (drive : Drive medium)
    (now moment : UInt64)
    (files : FileSystem)
    (buffer : Buffer) :
    (drive.atRest.output moment files buffer).map atRest =
      (drive.output now files buffer).map atRest := by
  unfold output BlockStore.writeBlock?
  by_cases inside : drive.store.cursor < medium.geometry.blockCount
  · simp only [atRest, BlockStore.atRest, inside, if_true]
    rfl
  · simp only [atRest, BlockStore.atRest, inside, if_false]
    rfl

theorem control_atRest
    (disk : Disk)
    (mode : UInt32) :
    (disk.atRest.control mode).map atRest = (disk.control mode).map atRest := by
  unfold control seek
  by_cases inside : mode.toNat < Medium.disk.geometry.blockCount
  · rw [if_pos inside, if_pos inside]
    rfl
  · rw [if_neg inside, if_neg inside]
    rfl

end Drive

namespace Device

theorem input_atRest
    (device : Device)
    (now moment : UInt64)
    (files : FileSystem)
    (buffer : Buffer) :
    (device.atRest.input moment files buffer).map atRest =
      (device.input now files buffer).map atRest := by
  cases device with
  | tape unit =>
      exact congrArg (Received.map Device.tape) (unit.input_atRest now moment buffer)
  | disk unit =>
      exact congrArg (Received.map Device.disk) (unit.input_atRest now moment buffer)
  | cardReader unit =>
      simp only [atRest, input, CardReader.input, BlockStore.atRest, BlockStore.markBusy,
        BlockStore.setCursor]
      cases files.read (Card.path unit.deck unit.store.cursor) with
      | ok contents =>
          simp only [Received.map, Answer.map, Answer.received, atRest,
            BlockStore.atRest]
      | error cause =>
          simp only [Received.map, Answer.map, Answer.received, atRest,
            BlockStore.atRest]
  | cardPunch unit => rfl
  | linePrinter unit => rfl
  | typewriter unit =>
      simp only [atRest, input, Typewriter.input, BlockStore.atRest, BlockStore.markBusy,
        Received.map, Answer.map, Answer.received]
  | paperTape unit => rfl
  | inert unit => rfl
  | probe unit =>
      simp only [atRest, input, Probe.input, BlockStore.atRest, BlockStore.markBusy,
        Received.map, Answer.map, Answer.received]

theorem output_atRest
    (device : Device)
    (now moment : UInt64)
    (files : FileSystem)
    (buffer : Buffer) :
    (device.atRest.output moment files buffer).map atRest =
      (device.output now files buffer).map atRest := by
  cases device with
  | tape unit =>
      exact congrArg (Sent.map Device.tape) (unit.output_atRest now moment files buffer)
  | disk unit =>
      exact congrArg (Sent.map Device.disk) (unit.output_atRest now moment files buffer)
  | cardPunch unit =>
      simp only [atRest, output, CardPunch.output, BlockStore.atRest, BlockStore.markBusy,
        Sent.map, Answer.map, Answer.sent]
  | linePrinter unit =>
      simp only [atRest, output, LinePrinter.output, BlockStore.atRest,
        BlockStore.markBusy, Sent.map, Answer.map, Answer.sent]
  | paperTape unit =>
      simp only [atRest, output, PaperTape.output, BlockStore.atRest, BlockStore.markBusy,
        Sent.map, Answer.map, Answer.sent]
  | probe unit =>
      simp only [atRest, output, Probe.output, BlockStore.atRest, BlockStore.markBusy,
        Sent.map, Answer.map, Answer.sent]
  | cardReader unit => rfl
  | typewriter unit => rfl
  | inert unit => rfl

theorem control_atRest
    (device : Device)
    (mode : UInt32) :
    (device.atRest.control mode).map atRest = (device.control mode).map atRest := by
  cases device with
  | disk unit =>
      exact congrArg (Answer.map Device.disk) (unit.control_atRest mode)
  | tape unit => rfl
  | cardReader unit => rfl
  | cardPunch unit => rfl
  | linePrinter unit => rfl
  | typewriter unit => rfl
  | paperTape unit => rfl
  | inert unit => rfl
  | probe unit => rfl

end Device

namespace Machine

/-- The same machine with the ends of all transfers forgotten. -/
def atRest (machine : Machine) : Machine :=
  { machine with units := machine.units.map (Option.map Device.atRest) }

@[simp]
theorem memory_atRest (machine : Machine) :
    machine.atRest.memory = machine.memory :=
  rfl

@[simp]
theorem files_atRest (machine : Machine) :
    machine.atRest.files = machine.files :=
  rfl

@[simp]
theorem device?_atRest
    (machine : Machine)
    (unit : Nat) :
    machine.atRest.device? unit = (machine.device? unit).map Device.atRest := by
  simp only [device?, atRest, Vector.getElem?_map]
  cases machine.units[unit]? <;> rfl

@[simp]
theorem atRest_place
    (machine : Machine)
    (unit : Nat)
    (device? : Option Device) :
    (machine.place unit device?).atRest =
      machine.atRest.place unit (device?.map Device.atRest) := by
  simp only [place, atRest, Vector.map_setIfInBounds]

@[simp]
theorem windowEnd?_atRest
    (machine : Machine)
    (device : Device)
    (address : Nat) :
    machine.atRest.windowEnd? device.atRest address =
      machine.windowEnd? device address := by
  simp [windowEnd?]

@[simp]
theorem atRest_atRest (machine : Machine) :
    machine.atRest.atRest = machine.atRest := by
  have forgotten : Device.atRest ∘ Device.atRest = Device.atRest := by
    funext device
    exact device.atRest_atRest
  simp only [atRest, Vector.map_map, Option.map_comp_map, forgotten]

theorem atRest_place_memory
    (machine : Machine)
    (unit : Nat)
    (device : Device)
    (memory : Buffer) :
    atRest { machine.place unit (some device) with memory := memory } =
      { machine.atRest.place unit (some device.atRest) with memory := memory } := by
  simp only [place, atRest, Vector.map_setIfInBounds, Option.map_some]

theorem atRest_place_files
    (machine : Machine)
    (unit : Nat)
    (device : Device)
    (files : FileSystem) :
    atRest { machine.place unit (some device) with files := files } =
      { machine.atRest.place unit (some device.atRest) with files := files } := by
  simp only [place, atRest, Vector.map_setIfInBounds, Option.map_some]

theorem operate_atRest
    (machine : Machine)
    (now moment : UInt64)
    (request : Request)
    (device : Device) :
    (machine.atRest.operate moment request device.atRest).map atRest =
      (machine.operate now request device).map atRest := by
  rw [operate, operate]
  cases request.operation with
  | control mode =>
      have obeyed := device.control_atRest mode
      simp only [Answer.map, Answer.mk.injEq] at obeyed
      rcases obeyed with ⟨accepted, unit, notices⟩
      simp only [Answer.map, atRest_place, atRest_atRest, Option.map_some, accepted, unit,
        notices]
  | input =>
      simp only [windowEnd?_atRest, Device.blockSize_atRest, memory_atRest, files_atRest]
      cases machine.windowEnd? device request.address with
      | none =>
          simp only [Answer.map, Answer.refused, atRest_atRest]
      | some stop =>
          have taken :=
            device.input_atRest now moment machine.files
              (machine.memory.slice request.address stop)
          simp only [Received.map, Answer.map, Answer.received, Received.mk.injEq,
            Answer.mk.injEq] at taken
          rcases taken with ⟨⟨accepted, unit, notices⟩, buffer⟩
          simp only [Answer.map, atRest_place_memory, atRest_atRest, accepted, unit,
            notices, buffer]
  | output =>
      simp only [windowEnd?_atRest, Device.blockSize_atRest, memory_atRest, files_atRest]
      cases machine.windowEnd? device request.address with
      | none =>
          simp only [Answer.map, Answer.refused, atRest_atRest]
      | some stop =>
          have given :=
            device.output_atRest now moment machine.files
              (machine.memory.slice request.address stop)
          simp only [Sent.map, Answer.map, Answer.sent, Sent.mk.injEq,
            Answer.mk.injEq] at given
          rcases given with ⟨⟨accepted, unit, notices⟩, files⟩
          simp only [Answer.map, atRest_place_files, atRest_atRest, accepted, unit,
            notices, files]

theorem perform_atRest
    (machine : Machine)
    (now moment : UInt64)
    (request : Request) :
    (machine.atRest.perform moment request).map atRest =
      (machine.perform now request).map atRest := by
  rw [perform, perform]
  rw [device?_atRest]
  cases machine.device? request.unit with
  | none =>
      simp only [Option.map_none, Answer.map, Answer.refused, atRest_atRest]
  | some device =>
      have operated := machine.operate_atRest now moment request device
      simp only [Answer.map, Answer.mk.injEq] at operated
      rcases operated with ⟨accepted, unit, notices⟩
      simp only [Option.map_some, Answer.map, accepted, unit, notices]

/-- Machines that agree at rest perform alike, whenever they do it. -/
theorem perform_eq_of_atRest_eq
    {one other : Machine}
    (same : one.atRest = other.atRest)
    (now moment : UInt64)
    (request : Request) :
    (one.perform now request).map atRest =
      (other.perform moment request).map atRest := by
  rw [← one.perform_atRest now 0, same, other.perform_atRest moment 0]

end Machine

end MixUnits
