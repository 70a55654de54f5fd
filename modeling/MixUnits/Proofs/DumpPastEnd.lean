import MixUnits.Proofs.Dump

/-!
# What a dump prints past the end of its medium

A dump asks for every block of its range, whether or not the medium has it, and the lines
of a block are printed even if the block could not be reached.  So what stands for a block
past the end is a block that was read before: the last one of the medium if the range began
within it or the medium is a tape, which is read on the way, and else the first one of a
disk, where the cursor has been since the disk was mounted.

This is more than the range asked for.  The main statements say exactly which block is
printed in the place of which, and that a block that nobody asked for is printed at a
concrete range.
-/

namespace MixUnits.Dump

/-- The block that is printed in the place of every block past the end. -/
def held (dump : Dump) : Nat :=
  if dump.medium = .tape ∨ dump.start < dump.medium.geometry.blockCount then
    dump.medium.geometry.blockCount - 1
  else
    0

/-- The block that is printed in the place of a block of the range. -/
def shown
    (dump : Dump)
    (block : Nat) :
    Nat :=
  if block < dump.medium.geometry.blockCount then block else dump.held

/-- A line without characters but blanks. -/
def blankLine : List UInt8 :=
  List.replicate 120 32 ++ [10]

/--
A text is a sequence of lines, and each of them is blank or a line of a block that was asked
for and that the medium has.
-/
def ShowsOnlyRange
    (dump : Dump)
    (files : FileSystem)
    (text : List UInt8) :
    Prop :=
  ∃ lines : List (List UInt8),
    text = lines.flatten ∧
      ∀ line ∈ lines,
        line = blankLine ∨
          ∃ block index,
            dump.start ≤ block ∧
              block < dump.start + dump.count ∧
                block < dump.medium.geometry.blockCount ∧
                  index < 5 ∧ line = lineText files dump.path block index

section Refused

variable
  {medium : Medium}
  {array : BlockArray}
  {machine : Machine}
  {page : Buffer}
  {cursor : Nat}
  {text : List UInt8}

/-- Behind the last block nothing is read, and the page in memory stays. -/
theorem hasDumped_read_of_outside
    (dumped : HasDumped medium array machine page cursor text)
    (outside : medium.geometry.blockCount ≤ cursor) :
    HasDumped medium array (machine.perform 0 (readRequest medium)).unit page cursor
      text := by
  rcases dumped with ⟨⟨drive, found, stored, rfl⟩, ⟨printer, attached, printed⟩, size, memory⟩
  rcases Drive.input_of_outside outside 0 page with ⟨-, unit, kept⟩
  have received : ((Device.ofDrive drive).input 0 machine.files page).buffer = page := by
    rw [Device.input_ofDrive]
    exact kept
  rcases Machine.perform_input_page found ((Device.blockSize_ofDrive drive).trans size.symm)
    (by simp) (by rw [size]; decide) memory 0 (congrArg Array.size received) with
    ⟨-, next, laid, -⟩
  rw [Device.input_ofDrive] at next
  refine ⟨⟨(drive.input 0 page).unit, next, ?_, ?_⟩, ⟨printer, ?_, printed⟩, size, ?_⟩
  · rw [unit]
    exact stored
  · rw [unit]
  · rw [Machine.device?_perform_of_ne machine 0 (unitOf_ne_linePrinter medium)]
    exact attached
  · rw [readRequest, laid, received]

/-- A control operation does not take a disk to a block that it does not have. -/
theorem hasDumped_seek_of_outside
    (dumped : HasDumped .disk array machine page cursor text)
    {block : Nat}
    (outside : Medium.disk.geometry.blockCount ≤ block)
    (named : block < modeLimit) :
    HasDumped .disk array
      (machine.perform 0 ⟨unitOf .disk, .control (UInt32.ofNat block), 0⟩).unit page cursor
        text := by
  rcases dumped with ⟨⟨disk, found, stored, cursor_eq⟩, ⟨printer, attached, printed⟩, size, memory⟩
  have mode : (UInt32.ofNat block).toNat = block := by
    rw [UInt32.toNat_ofNat']
    exact Nat.mod_eq_of_lt named
  have stayed : ((Device.ofDrive disk).control (UInt32.ofNat block)).unit = .ofDrive disk := by
    rw [Device.ofDrive, Device.control, Drive.control, mode, Drive.seek,
      if_neg (Nat.not_lt_of_le outside)]
    rfl
  rcases Machine.perform_control found (UInt32.ofNat block) 0 with ⟨-, next, kept, -⟩
  rw [stayed] at next
  refine ⟨⟨disk, next, stored, cursor_eq⟩, ⟨printer, ?_, printed⟩, size, kept.trans memory⟩
  rw [Machine.device?_perform_of_ne machine 0 (unitOf_ne_linePrinter .disk)]
  exact attached

/-- A tape that is read over past its end keeps its last block in memory. -/
theorem hasDumped_spaced_of_outside
    (dumped : HasDumped .tape array machine page 0 text)
    {start : Nat}
    (outside : 2000 ≤ start) :
    HasDumped .tape array
      (machine.performAll 0 (List.replicate start (readRequest .tape))).machine
      (Dump.page array 1999) 2000 text := by
  induction start, outside using Nat.le_induction with
  | base => exact hasDumped_spaced dumped 1999 (by decide)
  | succ start outside ih =>
      rw [List.replicate_succ', Machine.machine_performAll_append]
      exact hasDumped_read_of_outside ih (Nat.le_refl 2000)

end Refused

/--
What a dump holds on to past the end: a tape its page in memory, with the cursor behind the
last block, and a disk its cursor, which is on the block that is read again.
-/
structure Holds
    (medium : Medium)
    (array : BlockArray)
    (page : Buffer)
    (cursor held : Nat) :
    Prop where
  page_eq : medium = .tape → page = Dump.page array held
  behind : medium = .tape → medium.geometry.blockCount ≤ cursor
  cursor_eq : medium = .disk → cursor = held
  inside : medium = .disk → held < medium.geometry.blockCount

section Blocks

variable
  {medium : Medium}
  {files : FileSystem}
  {path : String}
  {machine : Machine}
  {page : Buffer}
  {cursor block held : Nat}
  {text : List UInt8}

/-- In the place of a block past the end the block is printed that the dump holds on to. -/
theorem hasDumped_block_of_outside
    (dumped :
      HasDumped medium (BlockArray.ofFile medium.geometry files path) machine page cursor text)
    (holds : Holds medium (BlockArray.ofFile medium.geometry files path) page cursor held)
    (outside : medium.geometry.blockCount ≤ block)
    (named : medium = .disk → block < modeLimit) :
    HasDumped medium (BlockArray.ofFile medium.geometry files path)
      (machine.performAll 0 (blockRequests medium block)).machine
      (Dump.page (BlockArray.ofFile medium.geometry files path) held)
      cursor (text ++ blockText files path held) := by
  cases medium with
  | tape =>
      obtain rfl := holds.page_eq rfl
      rw [blockRequests, List.nil_append, Machine.machine_performAll_cons]
      exact hasDumped_lineRequests (hasDumped_read_of_outside dumped (holds.behind rfl))
  | disk =>
      obtain rfl := holds.cursor_eq rfl
      have stayed := hasDumped_seek_of_outside dumped outside (named rfl)
      rw [blockRequests, List.singleton_append, Machine.machine_performAll_cons,
        Machine.machine_performAll_cons]
      exact hasDumped_lineRequests (hasDumped_read stayed (holds.inside rfl))

theorem hasDumped_blocks_of_outside
    (dumped :
      HasDumped medium (BlockArray.ofFile medium.geometry files path) machine page cursor text)
    (holds : Holds medium (BlockArray.ofFile medium.geometry files path) page cursor held)
    (outside : medium.geometry.blockCount ≤ block)
    (count : Nat)
    (named : medium = .disk → 0 < count → block + count ≤ modeLimit) :
    ∃ last,
      HasDumped medium (BlockArray.ofFile medium.geometry files path)
        (machine.performAll 0
          ((List.range' block count).flatMap (blockRequests medium))).machine
        last cursor
        (text ++ (List.range' block count).flatMap fun _ => blockText files path held) := by
  induction count generalizing machine page block text with
  | zero => exact ⟨page, (List.append_nil text).symm ▸ dumped⟩
  | succ count ih =>
      have few (disk : medium = .disk) : block + 1 + count ≤ modeLimit := by
        rw [Nat.add_right_comm]
        exact named disk (Nat.zero_lt_succ count)
      have first :=
        hasDumped_block_of_outside dumped holds outside fun disk =>
          Nat.lt_of_lt_of_le (Nat.lt_add_right count (Nat.lt_succ_self block)) (few disk)
      have still :
          Holds medium (BlockArray.ofFile medium.geometry files path)
            (Dump.page (BlockArray.ofFile medium.geometry files path) held) cursor held :=
        { holds with page_eq := fun _ => rfl }
      rw [List.range'_succ, List.flatMap_cons, List.flatMap_cons, Machine.machine_performAll_append,
        ← List.append_assoc]
      exact ih first still (Nat.le_succ_of_le outside) fun disk _ => few disk

end Blocks

/-- A medium whose end lies before the range holds on to a block when the range begins. -/
theorem hasDumped_before_of_outside
    (dump : Dump)
    (files : FileSystem)
    (outside : dump.medium.geometry.blockCount ≤ dump.start) :
    ∃ last cursor,
      HasDumped dump.medium (BlockArray.ofFile dump.medium.geometry files dump.path)
          ((dump.machine files ⟨.endless, [], 0, 0⟩).1.performAll 0 dump.spacing).machine
          last cursor [] ∧
        Holds dump.medium (BlockArray.ofFile dump.medium.geometry files dump.path) last cursor
          dump.held := by
  have mounted := hasDumped_machine dump files
  rcases dump with ⟨medium, path, start, count⟩
  cases medium with
  | tape =>
      refine ⟨_, 2000, hasDumped_spaced_of_outside mounted outside, fun _ => ?_,
        fun _ => Nat.le_refl 2000, nofun, nofun⟩
      rw [held, if_pos (Or.inl rfl)]
      rfl
  | disk =>
      have far : ¬(Medium.disk = .tape ∨ start < Medium.disk.geometry.blockCount) :=
        fun either => either.elim nofun (Nat.not_lt_of_le outside)
      refine ⟨_, 0, mounted, nofun, nofun, fun _ => ?_, fun _ => ?_⟩
      · rw [held, if_neg far]
      · rw [held, if_neg far]
        exact Nat.zero_lt_succ 3999

section Range

variable
  (dump : Dump)
  (files : FileSystem)

theorem blockText_shown_of_inside
    {first count : Nat}
    (inside : first + count ≤ dump.medium.geometry.blockCount) :
    ((List.range' first count).flatMap fun block =>
        blockText files dump.path (dump.shown block)) =
      (List.range' first count).flatMap (blockText files dump.path) := by
  apply List.flatMap_congr
  intro block member
  have before := (List.mem_range'_1.1 member).2
  rw [shown, if_pos (Nat.lt_of_lt_of_le before inside)]

theorem blockText_shown_of_outside
    {first : Nat}
    (outside : dump.medium.geometry.blockCount ≤ first)
    (count : Nat) :
    ((List.range' first count).flatMap fun block =>
        blockText files dump.path (dump.shown block)) =
      (List.range' first count).flatMap fun _ => blockText files dump.path dump.held := by
  apply List.flatMap_congr
  intro block member
  have behind := (List.mem_range'_1.1 member).1
  rw [shown, if_neg (Nat.not_lt_of_le (Nat.le_trans outside behind))]

/-- A dump that is begun names every disk block that it asks for. -/
theorem range_le_modeLimit
    (begun : dump.obstacle? = none)
    (disk : dump.medium = .disk)
    (asked : 0 < dump.count) :
    dump.start + dump.count ≤ modeLimit := by
  apply Nat.le_of_not_lt
  intro far
  unfold obstacle? at begun
  split at begun
  · contradiction
  · rw [if_pos ⟨disk, asked, far⟩] at begun
    contradiction

/-- A dump that has printed the last block of its medium holds on to this block. -/
theorem holds_of_through
    (within : dump.start < dump.medium.geometry.blockCount)
    (array : BlockArray)
    {last : Nat}
    (end_eq : dump.medium.geometry.blockCount = last + 1) :
    Holds dump.medium array (page array last) (dump.medium.cursorAfter last) dump.held := by
  have last_eq : dump.held = last := by
    rw [held, if_pos (Or.inr within), end_eq, Nat.add_sub_cancel]
  refine ⟨fun _ => by rw [last_eq], fun tape => ?_, fun disk => ?_, fun _ => ?_⟩
  · rw [end_eq, tape]
    exact Nat.le_refl _
  · rw [disk, last_eq]
    rfl
  · rw [end_eq, last_eq]
    exact Nat.lt_succ_self last

/-- The requests of a dump that is begun print the range, whatever the medium has of it. -/
theorem hasDumped_performAll_of_begun (begun : dump.obstacle? = none) :
    ∃ last final,
      HasDumped dump.medium (BlockArray.ofFile dump.medium.geometry files dump.path)
        ((dump.machine files ⟨.endless, [], 0, 0⟩).1.performAll 0 dump.requests).machine
        last final
        ((List.range' dump.start dump.count).flatMap fun block =>
          blockText files dump.path (dump.shown block)) := by
  by_cases inside : dump.start + dump.count ≤ dump.medium.geometry.blockCount
  · rw [blockText_shown_of_inside dump files inside]
    exact hasDumped_performAll dump files inside
  · have named := range_le_modeLimit dump begun
    rw [requests, Machine.machine_performAll_append]
    rcases Nat.lt_or_ge dump.start dump.medium.geometry.blockCount with within | outside
    · -- The range is cut where the medium ends.
      rcases hasDumped_before dump files (Nat.le_of_lt within) with
        ⟨last, cursor, spaced, reached⟩
      obtain ⟨more, end_eq⟩ : ∃ more, dump.medium.geometry.blockCount = dump.start + more + 1 :=
        Nat.exists_eq_add_of_lt within
      obtain ⟨beyond, count_eq⟩ : ∃ beyond, dump.count = more + 1 + beyond :=
        Nat.exists_eq_add_of_le (by omega)
      have cut :
          List.range' dump.start dump.count =
            List.range' dump.start (more + 1) ++
              List.range' dump.medium.geometry.blockCount beyond := by
        rw [count_eq, end_eq]
        exact List.range'_append_1.symm
      have fewer (disk : dump.medium = .disk) (asked : 0 < beyond) :
          dump.medium.geometry.blockCount + beyond ≤ modeLimit := by
        have few := named disk (by omega)
        omega
      have first : dump.start + (more + 1) ≤ dump.medium.geometry.blockCount :=
        Nat.le_of_eq end_eq.symm
      have through := hasDumped_through spaced reached more first
      have holds := holds_of_through dump within
        (BlockArray.ofFile dump.medium.geometry files dump.path) end_eq
      rcases hasDumped_blocks_of_outside through holds (Nat.le_refl _) beyond fewer with
        ⟨final, dumped⟩
      rw [cut, List.flatMap_append, List.flatMap_append, Machine.machine_performAll_append,
        blockText_shown_of_inside dump files first,
        blockText_shown_of_outside dump files (Nat.le_refl _)]
      exact ⟨final, _, dumped⟩
    · rcases hasDumped_before_of_outside dump files outside with ⟨last, cursor, spaced, holds⟩
      rw [blockText_shown_of_outside dump files outside]
      rcases hasDumped_blocks_of_outside spaced holds outside dump.count named with
        ⟨last, dumped⟩
      exact ⟨last, cursor, dumped⟩

theorem showsOnlyRange_of_inside
    (inside : dump.start + dump.count ≤ dump.medium.geometry.blockCount) :
    dump.ShowsOnlyRange files
      ((List.range' dump.start dump.count).flatMap (blockText files dump.path)) := by
  refine
    ⟨(List.range' dump.start dump.count).flatMap fun block =>
        (List.range 5).map (lineText files dump.path block), ?_, ?_⟩
  · simp only [List.flatMap_def, List.flatten_flatten, List.map_map]
    rfl
  · intro line member
    rcases List.mem_flatMap.1 member with ⟨block, asked, here⟩
    rcases List.mem_map.1 here with ⟨index, few, rfl⟩
    rcases List.mem_range'_1.1 asked with ⟨behind, before⟩
    exact
      Or.inr
        ⟨block, index, behind, before, Nat.lt_of_lt_of_le before inside,
          List.mem_range.1 few, rfl⟩

end Range

/-- What is printed by a command whose numbers can be read and whose dump is begun. -/
theorem printed_carryOut_of_begun
    {dump : Dump}
    {startText countText : String}
    (first : Text.Decimal.read? startText = some dump.start)
    (many : Text.Decimal.read? countText = some dump.count)
    (begun : dump.obstacle? = none)
    (files : FileSystem)
    (input : List UInt8) :
    (Program.carryOut files input
        (.dump dump.medium dump.path startText countText)).printed =
      (List.range' dump.start dump.count).flatMap fun block =>
        blockText files dump.path (dump.shown block) := by
  simp only [Program.carryOut, Program.number, first, many]
  rcases hasDumped_performAll_of_begun dump files begun with ⟨last, final, dumped⟩
  exact printedBy_run_of_hasDumped begun dumped

/--
A dump that is begun prints a block for every block of its range, in order.  Where the
medium has the block it is this one; past the end it is the one that the dump holds on to.
A range that the medium has in full is shown and nothing else.
-/
theorem carryOut_prints_held_block_past_end
    (files : FileSystem)
    (input : List UInt8)
    (medium : Medium)
    (path startText countText : String) :
    let effect := Program.carryOut files input (.dump medium path startText countText)
    ∀ start count,
      Text.Decimal.read? startText = some start →
        Text.Decimal.read? countText = some count →
          let dump : Dump := ⟨medium, path, start, count⟩
          dump.obstacle? = none →
            effect.printed =
                ((List.range' start count).flatMap fun block =>
                  blockText files path (dump.shown block)) ∧
              (start + count ≤ medium.geometry.blockCount →
                dump.ShowsOnlyRange files effect.printed) := by
  intro effect start count first many dump begun
  have printed :
      effect.printed =
        (List.range' dump.start dump.count).flatMap fun block =>
          blockText files dump.path (dump.shown block) :=
    printed_carryOut_of_begun first many begun files input
  refine ⟨printed, fun inside => ?_⟩
  rw [printed, blockText_shown_of_inside dump files inside]
  exact showsOnlyRange_of_inside dump files inside

/-- A file that stores a single word, an A. -/
def letterFile : FileSystem :=
  ⟨[(["d"], .file (Thunk.mk fun _ => #[1, 0, 0, 0]))]⟩

/-- Asked for the last block of a tape and one more, a dump shows the last one twice. -/
theorem last_block_shown_twice :
    let dump : Dump := ⟨.tape, "d", 1999, 2⟩
    let effect := Program.carryOut letterFile [] (.dump .tape "d" "1999" "2")
    Text.Decimal.read? "1999" = some 1999 ∧
      Text.Decimal.read? "2" = some 2 ∧
        dump.obstacle? = none ∧
          effect.printed = blockText letterFile "d" 1999 ++ blockText letterFile "d" 1999 := by
  intro dump effect
  have first : Text.Decimal.read? "1999" = some 1999 := by decide
  have many : Text.Decimal.read? "2" = some 2 := by decide
  have begun : dump.obstacle? = none := by decide
  have blocks : (List.range' 1999 2).map dump.shown = [1999, 1999] := by decide
  rcases carryOut_prints_held_block_past_end letterFile [] .tape "d" "1999" "2" 1999 2 first
    many begun with ⟨printed, -⟩
  refine ⟨first, many, begun, printed.trans ?_⟩
  rw [← List.flatMap_map, blocks]
  simp only [List.flatMap_cons, List.flatMap_nil, List.append_nil]

/-- Asked for the block behind the last one of a disk, a dump shows the first one. -/
theorem first_block_shown_for_missing_block :
    let dump : Dump := ⟨.disk, "d", 4000, 1⟩
    let effect := Program.carryOut letterFile [] (.dump .disk "d" "4000" "1")
    dump.obstacle? = none ∧
      effect.printed = blockText letterFile "d" 0 ∧
        ¬dump.ShowsOnlyRange letterFile effect.printed := by
  intro dump effect
  have begun : dump.obstacle? = none := by decide
  have first : Text.Decimal.read? "4000" = some dump.start := by decide
  have many : Text.Decimal.read? "1" = some dump.count := by decide
  have held_eq : dump.shown 4000 = 0 := by decide
  have printed : effect.printed = blockText letterFile "d" 0 := by
    rw [← held_eq]
    exact
      (printed_carryOut_of_begun first many begun letterFile []).trans
        (List.flatMap_singleton _ _)
  refine ⟨begun, printed, ?_⟩
  rintro ⟨lines, shown_eq, allowed⟩
  have letter : 65 ∈ blockText letterFile "d" 0 := by decide
  rw [← printed, shown_eq] at letter
  rcases List.mem_flatten.1 letter with ⟨line, member, here⟩
  rcases allowed line member with rfl | ⟨block, index, behind, -, inside, -, -⟩
  · revert here
    decide
  · exact absurd inside (Nat.not_lt_of_le behind)

end MixUnits.Dump
