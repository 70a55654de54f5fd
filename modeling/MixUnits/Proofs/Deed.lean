import MixUnits.Proofs.Replacement
import MixUnits.Proofs.Rest

/-!
# What a request does

A request that is performed does three things at most: its unit becomes another one, words
are laid over memory from its address on, and a file is replaced.  What it does depends on
its unit, on the window of memory that it names, on the file that it reads and on the place
to which its path leads, and on nothing else.  Performing a request is to find out what it
does and then to do it.
-/

namespace MixUnits

@[simp]
theorem Buffer.overlay_empty
    (buffer : Buffer)
    (start : Nat) :
    buffer.overlay start #[] = buffer := by
  apply Array.ext_getElem?
  intro index
  rw [getElem?_overlay]
  simp

namespace FileSystem

variable {files : FileSystem}

/-- The place of the file that can be replaced at a path. -/
def target?
    (files : FileSystem)
    (path : String) :
    Option Location :=
  match files.walk path with
  | .error _ => none
  | .ok place => if endsInSlash path || files.isFolder place then none else some place

theorem target?_eq_some_iff
    (path : String)
    (place : Location) :
    files.target? path = some place ↔
      files.walk path = .ok place ∧
        endsInSlash path = false ∧ files.isFolder place = false := by
  rw [target?]
  cases files.walk path with
  | error cause => exact ⟨nofun, nofun⟩
  | ok goal =>
      simp only [Option.ite_none_left_eq_some, Bool.or_eq_true, not_or, Bool.not_eq_true,
        Option.some.injEq, Except.ok.injEq]
      constructor
      · rintro ⟨⟨named, free⟩, rfl⟩
        exact ⟨rfl, named, free⟩
      · rintro ⟨rfl, named, free⟩
        exact ⟨⟨named, free⟩, rfl⟩

/-- The files after a file was put at its place, if there is one to be put. -/
def keep
    (files : FileSystem) :
    Option (Location × Thunk (Array UInt8)) → FileSystem
  | none => files
  | some (place, contents) => files.put place (.file contents)

/-- The place and the contents of a file that is to be saved at a path. -/
def saving?
    (files : FileSystem)
    (document : String × Thunk (Array UInt8)) :
    Option (Location × Thunk (Array UInt8)) :=
  (files.target? document.1).map fun place => (place, document.2)

/-- A file is put at the place to which its path leads, or nothing happens. -/
theorem files_replace
    (path : String)
    (contents : Thunk (Array UInt8))
    (report : FileError → Notice) :
    (files.replace path contents report).1 = files.keep (files.saving? (path, contents)) := by
  rw [saving?]
  cases found : files.target? path with
  | some place =>
      rcases (target?_eq_some_iff path place).1 found with ⟨walked, named, free⟩
      exact replace_of_place walked named free contents report
  | none =>
      apply replace_of_not_writable
      rw [Bool.eq_false_iff]
      intro writable
      rcases (isWritable_iff_place path).1 writable with ⟨place, led⟩
      rw [(target?_eq_some_iff path place).2 led] at found
      contradiction

end FileSystem

namespace Drive

variable {medium : Medium}

/-- The path and the image that a medium saves when a buffer is written to it. -/
def document?
    (drive : Drive medium)
    (buffer : Buffer) :
    Option (String × Thunk (Array UInt8)) :=
  (drive.store.writeBlock? drive.store.cursor buffer).map fun written =>
    (drive.path, Thunk.mk fun _ => Image.encode written.words)

theorem files_output
    (drive : Drive medium)
    (now : UInt64)
    (files : FileSystem)
    (buffer : Buffer) :
    (drive.output now files buffer).files =
      files.keep ((drive.document? buffer).bind files.saving?) := by
  rw [output, document?]
  cases drive.store.writeBlock? drive.store.cursor buffer with
  | none => rfl
  | some written => exact FileSystem.files_replace _ _ _

theorem output_of_other_files
    (drive : Drive medium)
    (now : UInt64)
    (files others : FileSystem)
    (buffer : Buffer) :
    (drive.output now files buffer).accepted = (drive.output now others buffer).accepted ∧
      (drive.output now files buffer).unit = (drive.output now others buffer).unit := by
  rw [output, output]
  cases drive.store.writeBlock? drive.store.cursor buffer with
  | none => exact ⟨rfl, rfl⟩
  | some written => exact ⟨rfl, rfl⟩

theorem document?_atRest
    (drive : Drive medium)
    (buffer : Buffer) :
    drive.atRest.document? buffer = drive.document? buffer := by
  by_cases inside : drive.store.cursor < medium.geometry.blockCount
  · simp only [document?, atRest, BlockStore.atRest, BlockStore.writeBlock?, inside,
      if_true, Option.map_some]
  · simp only [document?, atRest, BlockStore.atRest, BlockStore.writeBlock?, inside,
      if_false, Option.map_none]

theorem size_buffer_input
    (drive : Drive medium)
    (now : UInt64)
    (buffer : Buffer) :
    (drive.input now buffer).buffer.size = buffer.size := by
  rw [input, BlockStore.readBlock?]
  split
  · rfl
  · rename_i filled read
    split at read
    · cases read
      exact Buffer.size_overlay _ _ _
    · contradiction

end Drive

namespace Device

/-- The path and the contents of the file that an output saves. -/
def document?
    (device : Device)
    (buffer : Buffer) :
    Option (String × Thunk (Array UInt8)) :=
  match device with
  | .tape unit => unit.document? buffer
  | .disk unit => unit.document? buffer
  | .cardPunch unit =>
    some
      (Card.path unit.deck unit.store.cursor,
        Thunk.mk fun _ =>
          (Card.encode (buffer.toList.take Card.geometry.blockSize)).toArray)
  | .paperTape unit =>
    some (unit.path, Thunk.mk fun _ => (PaperTape.encode buffer).toArray)
  | .cardReader _ | .linePrinter _ | .typewriter _ | .inert _ | .probe _ => none

/-- The path of the file that an input reads. -/
def card? : Device → Option String
  | .cardReader unit => some (Card.path unit.deck unit.store.cursor)
  | .tape _ | .disk _ | .cardPunch _ | .linePrinter _ | .typewriter _ | .paperTape _
  | .inert _ | .probe _ => none

@[simp]
theorem document?_atRest
    (device : Device)
    (buffer : Buffer) :
    device.atRest.document? buffer = device.document? buffer := by
  cases device with
  | tape unit => exact unit.document?_atRest buffer
  | disk unit => exact unit.document?_atRest buffer
  | cardReader unit => rfl
  | cardPunch unit => rfl
  | linePrinter unit => rfl
  | typewriter unit => rfl
  | paperTape unit => rfl
  | inert unit => rfl
  | probe unit => rfl

@[simp]
theorem card?_atRest (device : Device) :
    device.atRest.card? = device.card? := by
  cases device with
  | cardReader unit => rfl
  | _ => rfl

section Transfers

variable
  (device : Device)
  (now : UInt64)
  (files others : FileSystem)
  (buffer : Buffer)

/-- An output saves its document, if its path leads to where a file can be put. -/
theorem files_output :
    (device.output now files buffer).files =
      files.keep ((device.document? buffer).bind files.saving?) := by
  cases device with
  | tape unit => exact unit.files_output now files buffer
  | disk unit => exact unit.files_output now files buffer
  | cardPunch unit => exact FileSystem.files_replace _ _ _
  | paperTape unit => exact FileSystem.files_replace _ _ _
  | cardReader unit => rfl
  | linePrinter unit => rfl
  | typewriter unit => rfl
  | inert unit => rfl
  | probe unit => rfl

/-- What the files are like does not matter to what an output makes of its device. -/
theorem output_of_other_files :
    (device.output now files buffer).accepted =
        (device.output now others buffer).accepted ∧
      (device.output now files buffer).unit = (device.output now others buffer).unit := by
  cases device with
  | tape unit =>
      rcases unit.output_of_other_files now files others buffer with ⟨accepted, next⟩
      exact ⟨accepted, congrArg Device.tape next⟩
  | disk unit =>
      rcases unit.output_of_other_files now files others buffer with ⟨accepted, next⟩
      exact ⟨accepted, congrArg Device.disk next⟩
  | cardReader unit => exact ⟨rfl, rfl⟩
  | cardPunch unit => exact ⟨rfl, rfl⟩
  | linePrinter unit => exact ⟨rfl, rfl⟩
  | typewriter unit => exact ⟨rfl, rfl⟩
  | paperTape unit => exact ⟨rfl, rfl⟩
  | inert unit => exact ⟨rfl, rfl⟩
  | probe unit => exact ⟨rfl, rfl⟩

/-- All that matters of the files to an input is the card that it reads. -/
theorem input_of_other_files
    (sameCard :
      ∀ path,
        device.card? = some path →
          ∀ contents, files.read path = .ok contents ↔ others.read path = .ok contents) :
    (device.input now files buffer).accepted = (device.input now others buffer).accepted ∧
      (device.input now files buffer).unit = (device.input now others buffer).unit ∧
        (device.input now files buffer).buffer =
          (device.input now others buffer).buffer := by
  cases device with
  | cardReader unit =>
      have same := sameCard _ rfl
      simp only [input, CardReader.input]
      cases read : files.read (Card.path unit.deck unit.store.cursor) with
      | ok contents =>
          rw [(same contents).1 read]
          exact ⟨rfl, rfl, rfl⟩
      | error cause =>
          cases reread : others.read (Card.path unit.deck unit.store.cursor) with
          | ok contents =>
              rw [(same contents).2 reread] at read
              contradiction
          | error other => exact ⟨rfl, rfl, rfl⟩
  | tape unit => exact ⟨rfl, rfl, rfl⟩
  | disk unit => exact ⟨rfl, rfl, rfl⟩
  | cardPunch unit => exact ⟨rfl, rfl, rfl⟩
  | linePrinter unit => exact ⟨rfl, rfl, rfl⟩
  | typewriter unit => exact ⟨rfl, rfl, rfl⟩
  | paperTape unit => exact ⟨rfl, rfl, rfl⟩
  | inert unit => exact ⟨rfl, rfl, rfl⟩
  | probe unit => exact ⟨rfl, rfl, rfl⟩

/-- An input gives back as many words as it was given. -/
theorem size_buffer_input :
    (device.input now files buffer).buffer.size = buffer.size := by
  cases device with
  | tape unit => exact unit.size_buffer_input now buffer
  | disk unit => exact unit.size_buffer_input now buffer
  | cardReader unit =>
      rw [input, CardReader.input]
      cases files.read (Card.path unit.deck unit.store.cursor) with
      | ok contents => exact Buffer.size_overlay _ _ _
      | error cause => rfl
  | typewriter unit => exact Buffer.size_overlay _ _ _
  | probe unit => exact Array.size_mapIdx
  | cardPunch unit => rfl
  | linePrinter unit => rfl
  | paperTape unit => rfl
  | inert unit => rfl

end Transfers

end Device

/-- What a request does. -/
structure Deed where
  accepted : Bool
  /-- The device of its unit from then on, if there is one that was asked. -/
  device? : Option Device
  /-- The words that are laid over memory. -/
  delivered : Buffer
  /-- The place and the contents of the file that is replaced. -/
  saved? : Option (Location × Thunk (Array UInt8))

/-- What a request does that is refused before its device is asked. -/
def Deed.nothing : Deed :=
  ⟨false, none, #[], none⟩

/-- What a device does when it is asked with the words in a window of memory. -/
def Device.deed
    (device : Device)
    (now : UInt64)
    (files : FileSystem)
    (window : Buffer) :
    Operation → Deed
  | .control mode =>
    let obeyed := device.control mode
    ⟨obeyed.accepted, some obeyed.unit, #[], none⟩
  | .input =>
    let received := device.input now files window
    ⟨received.accepted, some received.unit, received.buffer, none⟩
  | .output =>
    let sent := device.output now files window
    ⟨sent.accepted, some sent.unit, #[], (device.document? window).bind files.saving?⟩

/--
All that matters of the files to what a device does is the card that it reads and the places
to which files can be saved.
-/
theorem Device.deed_of_other_files
    (device : Device)
    (now : UInt64)
    {files others : FileSystem}
    (window : Buffer)
    (operation : Operation)
    (sameCard :
      operation = .input →
        ∀ path,
          device.card? = some path →
            ∀ contents, files.read path = .ok contents ↔ others.read path = .ok contents)
    (sameSaving : files.saving? = others.saving?) :
    device.deed now files window operation = device.deed now others window operation := by
  cases operation with
  | control mode => rfl
  | input =>
      rcases device.input_of_other_files now files others window (sameCard rfl) with
        ⟨accepted, next, buffer⟩
      simp only [deed, accepted, next, buffer]
  | output =>
      rcases device.output_of_other_files now files others window with ⟨accepted, next⟩
      simp only [deed, accepted, next, sameSaving]

/-- A machine after a request did what it does. -/
def Deed.applyTo
    (deed : Deed)
    (machine : Machine)
    (request : Request) :
    Machine where
  units :=
    match deed.device? with
    | none => machine.units
    | some device => machine.units.setIfInBounds request.unit (some device)
  memory := machine.memory.overlay request.address deed.delivered
  files := machine.files.keep deed.saved?

namespace Machine

/--
The device that a request asks and the words in the window of memory that it names, unless
the request is refused before its device is asked.
-/
def view?
    (machine : Machine)
    (request : Request) :
    Option (Device × Buffer) :=
  (machine.device? request.unit).bind fun device =>
    match request.operation with
    | .control _ => some (device, #[])
    | .input | .output =>
      (machine.windowEnd? device request.address).map fun stop =>
        (device, machine.memory.slice request.address stop)

/-- What a request does to a machine. -/
def deed
    (machine : Machine)
    (now : UInt64)
    (request : Request) :
    Deed :=
  match machine.view? request with
  | none => .nothing
  | some (device, window) => device.deed now machine.files window request.operation

theorem deed_of_view?
    {machine : Machine}
    {request : Request}
    {device : Device}
    {window : Buffer}
    (seen : machine.view? request = some (device, window))
    (now : UInt64) :
    machine.deed now request = device.deed now machine.files window request.operation := by
  rw [deed, seen]

theorem deed_of_no_view?
    {machine : Machine}
    {request : Request}
    (unseen : machine.view? request = none)
    (now : UInt64) :
    machine.deed now request = .nothing := by
  rw [deed, unseen]

/-- Performing a request is doing what it does. -/
theorem perform_eq_deed
    (machine : Machine)
    (now : UInt64)
    (request : Request) :
    (machine.perform now request).accepted = (machine.deed now request).accepted ∧
      (machine.perform now request).unit =
        (machine.deed now request).applyTo machine request := by
  have same : Deed.nothing.applyTo machine request = machine := by
    simp only [Deed.applyTo, Deed.nothing, FileSystem.keep, Buffer.overlay_empty]
  rw [perform, deed, view?]
  cases machine.device? request.unit with
  | none => exact ⟨rfl, same.symm⟩
  | some device =>
      simp only [operate, Option.bind_some]
      cases request.operation with
      | control mode =>
          simp only [Device.deed, Deed.applyTo, FileSystem.keep, Buffer.overlay_empty]
          exact ⟨rfl, rfl⟩
      | input =>
          cases machine.windowEnd? device request.address with
          | none => exact ⟨rfl, same.symm⟩
          | some stop => exact ⟨rfl, rfl⟩
      | output =>
          cases machine.windowEnd? device request.address with
          | none => exact ⟨rfl, same.symm⟩
          | some stop =>
              simp only [Option.map_some, Device.deed, Deed.applyTo, Buffer.overlay_empty,
                Device.files_output]
              exact ⟨rfl, rfl⟩

end Machine

end MixUnits
