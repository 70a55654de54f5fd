import Mathlib.Data.List.Basic
import MixUnits.Program
import MixUnits.Proofs.Backing
import MixUnits.Proofs.Printing
import MixUnits.Proofs.Transfer

/-!
# What a dump prints

A dump reads block after block to the beginning of memory and prints it from there, five
lines to a block.  A tape reaches its first block by reading over the blocks before it, a
disk reaches every block by a control operation.

The invariant is the page in memory, the cursor of the medium and the text so far.  A block
is a hundred words and five lines have a hundred and twenty, so the last line reads behind
the page; there memory is zero all the time.
-/

namespace MixUnits

namespace Dump

theorem mount_eq_ofDrive
    (files : FileSystem)
    (path : String)
    (medium : Medium) :
    (mount files path medium).1 =
      .ofDrive (Drive.mount files path : Drive medium × List Notice).1 := by
  cases medium with
  | tape => rfl
  | disk => rfl

/--
The characters for a word of a block, those of the lowest thirty bits of its number, six at a
time; behind the last word they are blanks.
-/
def wordText
    (files : FileSystem)
    (path : String)
    (block offset : Nat) :
    List UInt8 :=
  if offset < 100 then
    let bits := files.storedBits path (block * 100 + offset)
    (List.range 5).map fun column =>
      Code.toByte ⟨bits.toNat / Nat.pow 64 (4 - column) % 64, Nat.mod_lt _ (by decide)⟩
  else
    List.replicate 5 32

/-- A line of a block. -/
def lineText
    (files : FileSystem)
    (path : String)
    (block line : Nat) :
    List UInt8 :=
  ((List.range 24).flatMap fun column => wordText files path block (24 * line + column)) ++ [10]

/-- The five lines of a block. -/
def blockText
    (files : FileSystem)
    (path : String)
    (block : Nat) :
    List UInt8 :=
  (List.range 5).flatMap (lineText files path block)

/-- The words of a block in memory. -/
def page
    (array : BlockArray)
    (block : Nat) :
    Buffer :=
  Array.ofFn fun offset : Fin 100 => array block offset

@[simp]
theorem size_page
    (array : BlockArray)
    (block : Nat) :
    (page array block).size = 100 := by
  simp [page]

theorem blockSize_geometry (medium : Medium) : medium.geometry.blockSize = 100 := by
  cases medium with
  | tape => rfl
  | disk => rfl

/-- What is read over a page is the next page. -/
theorem fetch_eq_page
    (medium : Medium)
    (array : BlockArray)
    (block : Nat)
    {buffer : Buffer}
    (size : buffer.size = 100) :
    array.fetch medium.geometry block buffer = page array block := by
  apply Array.ext_getElem?
  intro offset
  by_cases within : offset < 100
  · rw [BlockArray.getElem?_fetch array block (size.symm ▸ within), blockSize_geometry,
      if_pos within, page, Array.getElem?_ofFn, dif_pos within]
  · have behind := Nat.le_of_not_lt within
    rw [Array.getElem?_eq_none, Array.getElem?_eq_none]
    · rwa [size_page]
    · rwa [BlockArray.size_fetch, size]

section Text

variable
  (files : FileSystem)
  (path : String)
  (block : Nat)

/-- The characters are those of the word that a drive would find. -/
theorem wordText_eq_text (offset : Nat) :
    wordText files path block offset =
      if offset < 100 then (Word.ofBits (files.storedBits path (block * 100 + offset))).text
      else List.replicate 5 32 := by
  rw [wordText]
  split
  · rw [Word.text_ofBits]
  · rfl

@[simp]
theorem length_wordText (offset : Nat) :
    (wordText files path block offset).length = 5 := by
  rw [wordText_eq_text]
  split
  · exact Word.length_text _
  · rfl

theorem length_lineText (line : Nat) : (lineText files path block line).length = 121 := by
  rw [lineText, List.length_append, List.length_flatMap]
  simp only [length_wordText]
  rfl

/-- A word in memory, on the page or behind it, is printed as the block has it. -/
theorem text_memoryOf_page
    (medium : Medium)
    (offset : Nat) :
    ((page (BlockArray.ofFile medium.geometry files path) block)[offset]?.getD .zero).text =
      wordText files path block offset := by
  rw [page, Array.getElem?_ofFn, wordText_eq_text]
  split
  · rw [Option.getD_some, BlockArray.ofFile_eq_storedBits, blockSize_geometry]
  · rfl

/-- A line printed from memory is a line of the block that is there. -/
theorem line_memoryOf_page
    (medium : Medium)
    {line : Nat}
    (few : line < 5) :
    LinePrinter.line
        ((memoryOf (page (BlockArray.ofFile medium.geometry files path) block)).slice
          (24 * line) (24 * line + 24)) =
      lineText files path block line := by
  have words :
      ((memoryOf (page (BlockArray.ofFile medium.geometry files path) block)).slice
          (24 * line) (24 * line + 24)).toList.take 24 =
        (List.range 24).map fun column =>
          (page (BlockArray.ofFile medium.geometry files path) block)[24 * line +
            column]?.getD .zero := by
    apply List.ext_getElem?
    intro column
    rw [List.getElem?_take, Array.getElem?_toList, Buffer.getElem?_slice, List.getElem?_map]
    by_cases within : column < 24
    · have inside : 24 * line + column < memorySize := by
        have size : memorySize = 4000 := rfl
        omega
      rw [if_pos within, if_pos (Nat.add_lt_add_left within _), getElem?_memoryOf _ inside,
        List.getElem?_range within, Option.map_some]
    · rw [if_neg within, List.getElem?_eq_none (by simpa using within), Option.map_none]
  rw [LinePrinter.line, printerGeometry, words, List.flatMap_map, lineText]
  refine congrArg (fun cell => (List.range 24).flatMap cell ++ [10]) (funext fun column => ?_)
  exact text_memoryOf_page files path block medium (24 * line + column)

end Text

/-- A dump of an array has reached a block and printed a text, with a page in memory. -/
structure HasDumped
    (medium : Medium)
    (array : BlockArray)
    (machine : Machine)
    (page : Buffer)
    (cursor : Nat)
    (text : List UInt8) :
    Prop where
  drive :
    ∃ drive : Drive medium,
      machine.device? (unitOf medium) = some (.ofDrive drive) ∧
        drive.Stores array ∧ drive.store.cursor = cursor
  printer :
    ∃ printer : LinePrinter,
      machine.device? UnitNumber.linePrinter = some (.linePrinter printer) ∧
        printer.HasPrinted text
  size_page : page.size = 100
  memory : machine.memory = memoryOf page

theorem device?_machine_linePrinter
    (dump : Dump)
    (files : FileSystem)
    (sink : Sink) :
    (dump.machine files sink).1.device? UnitNumber.linePrinter =
      some (.linePrinter (.mount sink)) := by
  rcases dump with ⟨medium, path, start, count⟩
  cases medium with
  | tape => rfl
  | disk => rfl

theorem hasDumped_machine
    (dump : Dump)
    (files : FileSystem) :
    HasDumped dump.medium (BlockArray.ofFile dump.medium.geometry files dump.path)
      (dump.machine files ⟨.endless, [], 0, 0⟩).1 (Buffer.blank 100) 0 [] := by
  have printer := device?_machine_linePrinter dump files ⟨.endless, [], 0, 0⟩
  rcases dump with ⟨medium, path, start, count⟩
  rcases @Drive.stores_mount medium files path with ⟨-, cursor, -, stored⟩
  refine ⟨⟨_, ?_, stored, cursor⟩, ⟨_, printer, rfl, rfl⟩, by simp, ?_⟩
  · rw [← mount_eq_ofDrive]
    cases medium with
    | tape => rfl
    | disk => rfl
  · rw [memoryOf_blank]
    rfl

section Steps

variable
  {medium : Medium}
  {array : BlockArray}
  {machine : Machine}
  {page : Buffer}
  {cursor : Nat}
  {text : List UInt8}

theorem unitOf_ne_linePrinter (medium : Medium) : UnitNumber.linePrinter ≠ unitOf medium := by
  cases medium with
  | tape => decide
  | disk => decide

/-- Reading puts the block under the cursor in memory. -/
theorem hasDumped_read
    (dumped : HasDumped medium array machine page cursor text)
    (inside : cursor < medium.geometry.blockCount) :
    HasDumped medium array (machine.perform 0 (readRequest medium)).unit
      (Dump.page array cursor) (medium.cursorAfter cursor) text := by
  rcases dumped with ⟨⟨drive, found, stored, rfl⟩, ⟨printer, attached, printed⟩, size, memory⟩
  rcases Drive.input_of_inside stored inside 0 page with ⟨-, unit, delivered⟩
  rw [fetch_eq_page medium array _ size] at delivered
  have received :
      ((Device.ofDrive drive).input 0 machine.files page).buffer =
        Dump.page array drive.store.cursor := by
    rw [Device.input_ofDrive]
    exact delivered
  have kept :
      ((Device.ofDrive drive).input 0 machine.files page).buffer.size = page.size := by
    rw [received, Dump.size_page, size]
  rcases Machine.perform_input_page found ((Device.blockSize_ofDrive drive).trans size.symm)
    (by simp) (by rw [size]; decide) memory 0 kept with ⟨-, next, laid, -⟩
  rw [Device.input_ofDrive] at next
  refine ⟨⟨(drive.input 0 page).unit, next, ?_, ?_⟩, ⟨printer, ?_, printed⟩, by simp, ?_⟩
  · rw [unit]
    exact stored
  · rw [unit]
    rfl
  · rw [Machine.device?_perform_of_ne machine 0 (unitOf_ne_linePrinter medium)]
    exact attached
  · rw [readRequest, laid, received]

/-- A control operation takes a disk to any of its blocks. -/
theorem hasDumped_seek
    (dumped : HasDumped .disk array machine page cursor text)
    {block : Nat}
    (inside : block < Medium.disk.geometry.blockCount) :
    HasDumped .disk array
      (machine.perform 0 ⟨unitOf .disk, .control (UInt32.ofNat block), 0⟩).unit page block
        text := by
  rcases dumped with ⟨⟨disk, found, stored, -⟩, ⟨printer, attached, printed⟩, size, memory⟩
  have mode : (UInt32.ofNat block).toNat = block := by
    have few : Medium.disk.geometry.blockCount < 2 ^ 32 := by decide
    rw [UInt32.toNat_ofNat', Nat.mod_eq_of_lt (Nat.lt_trans inside few)]
  have sought :
      (Device.ofDrive disk).control (UInt32.ofNat block) =
        (Answer.map Device.disk
          ⟨true, { disk with store := disk.store.setCursor block }, []⟩) := by
    rw [Device.ofDrive, Device.control, Drive.control, mode, Drive.seek, if_pos inside]
  rcases Machine.perform_control found (UInt32.ofNat block) 0 with ⟨-, next, kept, -⟩
  rw [sought] at next
  refine ⟨⟨{ disk with store := disk.store.setCursor block }, next, stored, rfl⟩,
    ⟨printer, ?_, printed⟩, size, kept.trans memory⟩
  rw [Machine.device?_perform_of_ne machine 0 (unitOf_ne_linePrinter .disk)]
  exact attached

theorem hasDumped_print
    (dumped : HasDumped medium array machine page cursor text)
    {address : Nat}
    (room : address + 24 ≤ memorySize) :
    HasDumped medium array
      (machine.perform 0 ⟨UnitNumber.linePrinter, .output, address⟩).unit page cursor
        (text ++ LinePrinter.line ((memoryOf page).slice address (address + 24))) := by
  rcases dumped with ⟨⟨drive, found, stored⟩, ⟨printer, attached, printed⟩, size, memory⟩
  have fits : address + (Device.linePrinter printer).blockSize ≤ machine.memory.size := by
    rwa [memory, size_memoryOf]
  have window :
      machine.memory.slice address (address + (Device.linePrinter printer).blockSize) =
        (memoryOf page).slice address (address + 24) := by
    rw [memory]
    rfl
  rcases Machine.perform_output attached rfl fits 0 with ⟨-, next, kept, -⟩
  rcases LinePrinter.hasPrinted_output printed 0
    ((memoryOf page).slice address (address + 24)) with ⟨-, -, longer⟩
  rw [window] at next
  refine ⟨⟨drive, ?_, stored⟩, ⟨_, next, longer⟩, size, kept.trans memory⟩
  rw [Machine.device?_perform_of_ne machine 0 (unitOf_ne_linePrinter medium).symm]
  exact found

/-- The lines of a page are printed one after the other. -/
theorem hasDumped_lines
    (dumped : HasDumped medium array machine page cursor text)
    {addresses : List Nat}
    (room : ∀ address ∈ addresses, address + 24 ≤ memorySize) :
    HasDumped medium array
      (machine.performAll 0
        (addresses.map fun address => ⟨UnitNumber.linePrinter, .output, address⟩)).machine
      page cursor
      (text ++
        addresses.flatMap fun address =>
          LinePrinter.line ((memoryOf page).slice address (address + 24))) := by
  induction addresses generalizing machine text with
  | nil => exact (List.append_nil text).symm ▸ dumped
  | cons address rest ih =>
      rcases List.forall_mem_cons.1 room with ⟨first, later⟩
      rw [List.flatMap_cons, ← List.append_assoc]
      exact ih (hasDumped_print dumped first) later

end Steps

theorem lineAddresses_eq (medium : Medium) :
    lineAddresses medium.geometry = (List.range 5).map (24 * ·) := by
  cases medium with
  | tape => decide
  | disk => decide

section Blocks

variable
  {medium : Medium}
  {files : FileSystem}
  {path : String}
  {machine : Machine}
  {page : Buffer}
  {cursor block : Nat}
  {text : List UInt8}

/-- A block in memory is printed as it is stored in the file. -/
theorem hasDumped_lineRequests
    (dumped :
      HasDumped medium (BlockArray.ofFile medium.geometry files path) machine
        (Dump.page (BlockArray.ofFile medium.geometry files path) block) cursor text) :
    HasDumped medium (BlockArray.ofFile medium.geometry files path)
      (machine.performAll 0 (lineRequests medium)).machine
      (Dump.page (BlockArray.ofFile medium.geometry files path) block) cursor
      (text ++ blockText files path block) := by
  have room : ∀ address ∈ lineAddresses medium.geometry, address + 24 ≤ memorySize := by
    rw [lineAddresses_eq]
    decide
  have lines :
      ((lineAddresses medium.geometry).flatMap fun address =>
          LinePrinter.line
            ((memoryOf (Dump.page (BlockArray.ofFile medium.geometry files path) block)).slice
              address (address + 24))) =
        blockText files path block := by
    rw [lineAddresses_eq, List.flatMap_map, blockText]
    apply List.flatMap_congr
    intro line few
    exact line_memoryOf_page files path block medium (List.mem_range.1 few)
  rw [← lines]
  exact hasDumped_lines dumped room

/-- A block that a tape has reached, or any block of a disk, is read and printed. -/
theorem hasDumped_block
    (dumped :
      HasDumped medium (BlockArray.ofFile medium.geometry files path) machine page cursor text)
    (reached : medium = .tape → cursor = block)
    (inside : block < medium.geometry.blockCount) :
    HasDumped medium (BlockArray.ofFile medium.geometry files path)
      (machine.performAll 0 (blockRequests medium block)).machine
      (Dump.page (BlockArray.ofFile medium.geometry files path) block)
      (medium.cursorAfter block) (text ++ blockText files path block) := by
  cases medium with
  | tape =>
      obtain rfl : cursor = block := reached rfl
      rw [blockRequests, List.nil_append, Machine.machine_performAll_cons]
      exact hasDumped_lineRequests (hasDumped_read dumped inside)
  | disk =>
      have found := hasDumped_seek dumped inside
      rw [blockRequests, List.singleton_append, Machine.machine_performAll_cons,
        Machine.machine_performAll_cons]
      exact hasDumped_lineRequests (hasDumped_read found inside)

/-- Blocks that follow one another are printed, and the last of them stays in memory. -/
theorem hasDumped_through
    (dumped :
      HasDumped medium (BlockArray.ofFile medium.geometry files path) machine page cursor text)
    (reached : medium = .tape → cursor = block)
    (more : Nat)
    (inside : block + more < medium.geometry.blockCount) :
    HasDumped medium (BlockArray.ofFile medium.geometry files path)
      (machine.performAll 0
        ((List.range' block (more + 1)).flatMap (blockRequests medium))).machine
      (Dump.page (BlockArray.ofFile medium.geometry files path) (block + more))
      (medium.cursorAfter (block + more))
      (text ++ (List.range' block (more + 1)).flatMap (blockText files path)) := by
  -- A disk comes to a block from wherever it was, a tape only from the block before it; so
  -- what is known of the cursor is carried along for the tape alone.
  induction more generalizing machine page cursor block text with
  | zero =>
      simp only [Nat.zero_add, List.range'_one, List.flatMap_singleton]
      exact hasDumped_block dumped reached inside
  | succ more ih =>
      have first := hasDumped_block dumped reached (Nat.lt_of_le_of_lt (by omega) inside)
      have next : medium = .tape → medium.cursorAfter block = block + 1 := by
        rintro rfl
        rfl
      have along := ih first next (by omega)
      rw [List.range'_succ, List.flatMap_cons, List.flatMap_cons, Machine.performAll_append,
        ← List.append_assoc]
      rwa [Nat.add_assoc, Nat.add_comm 1] at along

theorem hasDumped_blocks
    (dumped :
      HasDumped medium (BlockArray.ofFile medium.geometry files path) machine page cursor text)
    (reached : medium = .tape → cursor = block)
    (count : Nat)
    (inside : block + count ≤ medium.geometry.blockCount) :
    ∃ last final,
      HasDumped medium (BlockArray.ofFile medium.geometry files path)
        (machine.performAll 0
          ((List.range' block count).flatMap (blockRequests medium))).machine
        last final (text ++ (List.range' block count).flatMap (blockText files path)) := by
  cases count with
  | zero => exact ⟨page, cursor, (List.append_nil text).symm ▸ dumped⟩
  | succ more => exact ⟨_, _, hasDumped_through dumped reached more inside⟩

/-- Reading over blocks takes a tape to the block behind them and leaves the last in memory. -/
theorem hasDumped_spaced
    {array : BlockArray}
    (dumped : HasDumped .tape array machine page 0 text)
    (last : Nat)
    (inside : last < 2000) :
    HasDumped .tape array
      (machine.performAll 0 (List.replicate (last + 1) (readRequest .tape))).machine
      (Dump.page array last) (last + 1) text := by
  induction last with
  | zero => exact hasDumped_read dumped inside
  | succ last ih =>
      rw [List.replicate_succ', Machine.performAll_append]
      exact hasDumped_read (ih (Nat.lt_of_succ_lt inside)) inside

theorem hasDumped_spacing
    {array : BlockArray}
    (dumped : HasDumped .tape array machine page 0 text)
    (start : Nat)
    (inside : start ≤ 2000) :
    ∃ last,
      HasDumped .tape array
        (machine.performAll 0 (List.replicate start (readRequest .tape))).machine
        last start text := by
  cases start with
  | zero => exact ⟨page, dumped⟩
  | succ last => exact ⟨_, hasDumped_spaced dumped last inside⟩

end Blocks

/-- Before the first block a tape has been read over, and a disk is as it was mounted. -/
theorem hasDumped_before
    (dump : Dump)
    (files : FileSystem)
    (inside : dump.start ≤ dump.medium.geometry.blockCount) :
    ∃ last cursor,
      HasDumped dump.medium (BlockArray.ofFile dump.medium.geometry files dump.path)
          ((dump.machine files ⟨.endless, [], 0, 0⟩).1.performAll 0 dump.spacing).machine
          last cursor [] ∧
        (dump.medium = .tape → cursor = dump.start) := by
  have mounted := hasDumped_machine dump files
  rcases dump with ⟨medium, path, start, count⟩
  cases medium with
  | tape =>
      rcases hasDumped_spacing mounted start inside with ⟨last, spaced⟩
      exact ⟨last, start, spaced, fun _ => rfl⟩
  | disk => exact ⟨_, _, mounted, nofun⟩

/-- The requests of a dump within the medium print the blocks, the first one first. -/
theorem hasDumped_performAll
    (dump : Dump)
    (files : FileSystem)
    (inside : dump.start + dump.count ≤ dump.medium.geometry.blockCount) :
    ∃ last final,
      HasDumped dump.medium (BlockArray.ofFile dump.medium.geometry files dump.path)
        ((dump.machine files ⟨.endless, [], 0, 0⟩).1.performAll 0 dump.requests).machine
        last final
        ((List.range' dump.start dump.count).flatMap (blockText files dump.path)) := by
  rcases hasDumped_before dump files (Nat.le_of_add_right_le inside) with
    ⟨last, cursor, spaced, reached⟩
  rw [requests, Machine.performAll_append, ← List.nil_append (List.flatMap _ _)]
  exact hasDumped_blocks spaced reached dump.count inside

/-- What a machine has printed does not depend on when it did so. -/
theorem printedBy_of_atRest_eq
    {one other : Machine}
    {printer : LinePrinter}
    (same : one.atRest = other.atRest)
    (attached : other.device? UnitNumber.linePrinter = some (.linePrinter printer)) :
    Program.printedBy one = printer.sink.text := by
  have alike :
      (one.device? UnitNumber.linePrinter).map Device.atRest =
        some (Device.atRest (.linePrinter printer)) := by
    rw [← Machine.device?_atRest, same, Machine.device?_atRest, attached, Option.map_some]
  rw [Program.printedBy]
  cases found : one.device? UnitNumber.linePrinter with
  | none => simp [found] at alike
  | some device =>
      rw [found, Option.map_some, Option.some_inj] at alike
      -- Resting changes no unit into one of another kind.
      cases device with
      | linePrinter unit =>
          have sinks := congrArg LinePrinter.sink (Device.linePrinter.inj alike)
          exact congrArg Sink.text sinks
      | _ => contradiction

section Quiet

/-- A machine that has a line printer among its units. -/
def HasPrinter (machine : Machine) : Prop :=
  ∃ printer, machine.device? UnitNumber.linePrinter = some (.linePrinter printer)

/-- A request that puts out nothing but lines. -/
def IsQuiet (request : Request) : Prop :=
  request.operation = .output → request.unit = UnitNumber.linePrinter

/-- A request that puts out nothing but lines leaves the files as they are. -/
theorem files_perform_of_isQuiet
    {machine : Machine}
    {request : Request}
    (attached : HasPrinter machine)
    (quiet : IsQuiet request)
    (now : UInt64) :
    (machine.perform now request).unit.files = machine.files ∧
      HasPrinter (machine.perform now request).unit := by
  rcases attached with ⟨printer, attached⟩
  by_cases own : request.unit = UnitNumber.linePrinter
  · rcases request with ⟨unit, operation, address⟩
    obtain rfl : unit = UnitNumber.linePrinter := own
    simp only [Machine.perform, attached, Machine.operate]
    cases operation with
    | control mode => exact ⟨rfl, _, Machine.device?_place_self attached _⟩
    | input =>
        cases machine.windowEnd? (.linePrinter printer) address with
        | none => exact ⟨rfl, printer, attached⟩
        | some stop => exact ⟨rfl, _, Machine.device?_place_self attached _⟩
    | output =>
        cases machine.windowEnd? (.linePrinter printer) address with
        | none => exact ⟨rfl, printer, attached⟩
        | some stop => exact ⟨rfl, _, Machine.device?_place_self attached _⟩
  · have silent : request.operation ≠ .output := fun asked => own (quiet asked)
    refine ⟨Machine.files_perform_of_not_output machine now silent, printer, ?_⟩
    exact (Machine.device?_perform_of_ne machine now (Ne.symm own)).trans attached

theorem files_performAll_of_isQuiet
    {machine : Machine}
    {requests : List Request}
    (attached : HasPrinter machine)
    (quiet : ∀ request ∈ requests, IsQuiet request)
    (moment : UInt64) :
    (machine.performAll moment requests).machine.files = machine.files := by
  induction requests generalizing machine with
  | nil => rfl
  | cons request rest ih =>
      rcases List.forall_mem_cons.1 quiet with ⟨first, later⟩
      rcases files_perform_of_isQuiet attached first moment with ⟨files, still⟩
      exact (ih still later).trans files

/-- A block is read, or sought and read, and then its lines are printed. -/
theorem mem_blockRequests_cases
    {medium : Medium}
    {block : Nat}
    {request : Request}
    (member : request ∈ blockRequests medium block) :
    request.unit = UnitNumber.linePrinter ∨
      request.unit = unitOf medium ∧ request.operation ≠ .output := by
  have reading (member : request ∈ readRequest medium :: lineRequests medium) :
      request.unit = UnitNumber.linePrinter ∨
        request.unit = unitOf medium ∧ request.operation ≠ .output := by
    rcases List.mem_cons.1 member with rfl | line
    · exact Or.inr ⟨rfl, nofun⟩
    · rcases List.mem_map.1 line with ⟨address, -, rfl⟩
      exact Or.inl rfl
  cases medium with
  | tape => exact reading member
  | disk =>
      rcases List.mem_cons.1 member with rfl | later
      · exact Or.inr ⟨rfl, nofun⟩
      · exact reading later

/-- A dump puts out nothing but lines, and asks for nothing but its medium and the printer. -/
theorem mem_requests_cases
    {dump : Dump}
    {request : Request}
    (member : request ∈ dump.requests) :
    request.unit = UnitNumber.linePrinter ∨
      request.unit = unitOf dump.medium ∧ request.operation ≠ .output := by
  rcases List.mem_append.1 member with spacing | printing
  · rcases dump with ⟨medium, path, start, count⟩
    cases medium with
    | tape =>
        obtain rfl := List.eq_of_mem_replicate spacing
        exact Or.inr ⟨rfl, nofun⟩
    | disk => contradiction
  · rcases List.mem_flatMap.1 printing with ⟨block, -, here⟩
    exact mem_blockRequests_cases here

/-- A dump leaves the files as they are, whether or not it is begun. -/
theorem files_run
    (dump : Dump)
    (files : FileSystem)
    (sink : Sink) :
    (dump.run files sink).1.files = files := by
  have attached : HasPrinter (dump.machine files sink).1 :=
    ⟨_, device?_machine_linePrinter dump files sink⟩
  have quiet : ∀ request ∈ dump.requests, IsQuiet request := fun request member asked =>
    (mem_requests_cases member).elim id fun other => absurd asked other.2
  have kept := files_performAll_of_isQuiet attached quiet 0
  rcases Channel.run_idle (dump.machine files sink).1 dump.requests with ⟨-, -, atRest⟩
  have same := congrArg Machine.files atRest
  rw [run]
  cases dump.obstacle? with
  | some obstacle => rfl
  | none => exact same.trans kept

end Quiet

theorem obstacle?_of_inside
    {dump : Dump}
    (inside : dump.start + dump.count ≤ dump.medium.geometry.blockCount) :
    dump.obstacle? = none := by
  have few : dump.medium.geometry.blockCount ≤ 4000 := by
    cases dump.medium with
    | tape => decide
    | disk => decide
  have near : ¬rangeLimit ≤ dump.start + dump.count := by
    have limit : 4000 < rangeLimit := by decide
    omega
  have named : ¬modeLimit < dump.start + dump.count := by
    have limit : 4000 < modeLimit := by decide
    omega
  rw [obstacle?, if_neg near, if_neg fun far => named far.2.2]

/-- What the requests of a dump come to is what it prints, if it is begun. -/
theorem printedBy_run_of_hasDumped
    {dump : Dump}
    {files : FileSystem}
    {array : BlockArray}
    {page : Buffer}
    {cursor : Nat}
    {text : List UInt8}
    (begun : dump.obstacle? = none)
    (dumped :
      HasDumped dump.medium array
        ((dump.machine files ⟨.endless, [], 0, 0⟩).1.performAll 0 dump.requests).machine page
        cursor text) :
    Program.printedBy (dump.run files ⟨.endless, [], 0, 0⟩).1 = text := by
  rcases dumped.printer with ⟨printer, attached, printed⟩
  rcases Channel.run_idle (dump.machine files ⟨.endless, [], 0, 0⟩).1 dump.requests with
    ⟨-, -, atRest⟩
  rw [run, begun]
  exact (printedBy_of_atRest_eq atRest attached).trans printed.text_eq

/-- Blocks that the medium has are printed as the file has them. -/
theorem printedBy_run
    (dump : Dump)
    (files : FileSystem)
    (inside : dump.start + dump.count ≤ dump.medium.geometry.blockCount) :
    Program.printedBy (dump.run files ⟨.endless, [], 0, 0⟩).1 =
      (List.range' dump.start dump.count).flatMap (blockText files dump.path) := by
  rcases hasDumped_performAll dump files inside with ⟨last, final, dumped⟩
  exact printedBy_run_of_hasDumped (obstacle?_of_inside inside) dumped

/--
Whatever is asked for, no file changes.  Blocks that the medium has are printed in order,
each as five lines of a hundred and twenty characters, with the words that the file stores
for the block.  So a tape and a disk print the same blocks of a file alike.
-/
theorem carryOut_prints_blocks
    (files : FileSystem)
    (input : List UInt8)
    (medium : Medium)
    (path startText countText : String) :
    let effect := Program.carryOut files input (.dump medium path startText countText)
    effect.files = files ∧
      ∀ start count,
        Text.Decimal.read? startText = some start →
          Text.Decimal.read? countText = some count →
            start + count ≤ medium.geometry.blockCount →
              effect.printed = (List.range' start count).flatMap (blockText files path) ∧
                (∀ block line, (lineText files path block line).length = 121) ∧
                ∀ other : Medium,
                  start + count ≤ other.geometry.blockCount →
                    (Program.carryOut files input
                      (.dump other path startText countText)).printed = effect.printed := by
  intro effect
  have printed
      (start count : Nat)
      (first : Text.Decimal.read? startText = some start)
      (many : Text.Decimal.read? countText = some count)
      (either : Medium)
      (inside : start + count ≤ either.geometry.blockCount) :
      (Program.carryOut files input (.dump either path startText countText)).printed =
        (List.range' start count).flatMap (blockText files path) := by
    simp only [Program.carryOut, Program.number, first, many]
    exact printedBy_run ⟨either, path, start, count⟩ files inside
  constructor
  · change (Program.carryOut files input (.dump medium path startText countText)).files = files
    simp only [Program.carryOut]
    split
    · exact files_run _ files _
    · rfl
  · intro start count first many inside
    refine ⟨printed start count first many medium inside, length_lineText files path, ?_⟩
    intro other within
    exact
      (printed start count first many other within).trans
        (printed start count first many medium inside).symm

end Dump

end MixUnits
