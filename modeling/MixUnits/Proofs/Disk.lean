import MixUnits.Proofs.Backing

/-!
# A disk among changing files

A disk is meant to be an array of blocks with a cursor on one of them.  The array begins
as what the file holds when the disk is mounted, and every output is laid over it.  What
happens to the files afterwards is nothing to the array: files may vanish, be overwritten
or be in the way, and an output that cannot save the disk is stored all the same.

The invariant is that disk and array agree on the cursor and on every word, and that the
cursor is on a block.  One act keeps it, so every run does.
-/

namespace MixUnits.Disk

/-- What is asked of a disk, and what becomes of the files around it. -/
inductive Act where
  | seek (block : Nat)
  | control (mode : UInt32)
  | input (now : UInt64) (buffer : Buffer)
  | output (now : UInt64) (buffer : Buffer)
  | change (files : FileSystem)

/-- Whether the disk has a part in an act. -/
def Act.isAsked : Act → Bool
  | .change _ => false
  | _ => true

/-- A disk among files after one more act. -/
def act
    (situation : Drive.Situation .disk) :
    Act → Drive.Situation .disk
  | .seek block => { situation with drive := (situation.drive.seek block).unit }
  | .control mode => { situation with drive := (situation.drive.control mode).unit }
  | .input now buffer => situation.input now buffer
  | .output now buffer => situation.output now buffer
  | .change files => { situation with files := files }

/-- A disk among files after it was mounted and some acts. -/
def replay
    (files : FileSystem)
    (path : String)
    (acts : List Act) :
    Drive.Situation .disk :=
  acts.foldl act (.mounted files path)

/-- What a disk is meant to be: an array of blocks and a cursor on one of them. -/
structure Ideal where
  cursor : Nat
  blocks : BlockArray

namespace Ideal

/-- An ideal disk with the cursor moved to a block, if there is such a block. -/
def seek
    (ideal : Ideal)
    (block : Nat) :
    Ideal :=
  if block < 4000 then { ideal with cursor := block } else ideal

/-- An ideal disk after one more act, to which the files do not matter. -/
def act
    (ideal : Ideal) :
    Act → Ideal
  | .seek block => ideal.seek block
  | .control mode => ideal.seek mode.toNat
  | .output _ buffer => { ideal with blocks := ideal.blocks.put ideal.cursor buffer }
  | .input _ _ | .change _ => ideal

/-- The ideal disk that begins with an array, after some acts. -/
def replay
    (blocks : BlockArray)
    (acts : List Act) :
    Ideal :=
  acts.foldl act ⟨0, blocks⟩

theorem replay_filter_isAsked
    (blocks : BlockArray)
    (acts : List Act) :
    replay blocks (acts.filter Act.isAsked) = replay blocks acts := by
  have whatever (ideal : Ideal) :
      (acts.filter Act.isAsked).foldl act ideal = acts.foldl act ideal := by
    induction acts generalizing ideal with
    | nil => rfl
    | cons first rest ih =>
        cases first with
        | change files => exact ih ideal
        | seek block => exact ih _
        | control mode => exact ih _
        | input now buffer => exact ih _
        | output now buffer => exact ih _
  exact whatever ⟨0, blocks⟩

end Ideal

/-- A disk with its file at a path is as it is meant to be. -/
structure Refines
    (disk : Disk)
    (path : String)
    (ideal : Ideal) :
    Prop where
  path_eq : disk.path = path
  cursor_eq : disk.store.cursor = ideal.cursor
  cursor_lt : ideal.cursor < 4000
  stored : disk.Stores ideal.blocks

section Steps

variable {disk : Disk} {path : String} {ideal : Ideal}

theorem Refines.inside (refined : Refines disk path ideal) :
    disk.store.cursor < Medium.disk.geometry.blockCount :=
  refined.cursor_eq ▸ refined.cursor_lt

theorem refines_seek
    (refined : Refines disk path ideal)
    (block : Nat) :
    Refines (disk.seek block).unit path (ideal.seek block) := by
  by_cases inside : block < 4000
  · have moved : (disk.seek block).unit = { disk with store := disk.store.setCursor block } := by
      rw [Drive.seek, if_pos (show block < Medium.disk.geometry.blockCount from inside)]
    rw [moved, Ideal.seek, if_pos inside]
    exact ⟨refined.path_eq, rfl, inside, refined.stored⟩
  · have stayed : (disk.seek block).unit = disk := by
      rw [Drive.seek, if_neg (show ¬ block < Medium.disk.geometry.blockCount from inside)]
      rfl
    rw [stayed, Ideal.seek, if_neg inside]
    exact refined

theorem refines_input
    (refined : Refines disk path ideal)
    (now : UInt64)
    (buffer : Buffer) :
    Refines (disk.input now buffer).unit path ideal := by
  rcases Drive.input_of_inside refined.stored refined.inside now buffer with ⟨-, unit, -⟩
  rw [unit]
  exact ⟨refined.path_eq, refined.cursor_eq, refined.cursor_lt, refined.stored⟩

theorem refines_output
    (refined : Refines disk path ideal)
    (now : UInt64)
    (files : FileSystem)
    (buffer : Buffer) :
    Refines (disk.output now files buffer).unit path
      { ideal with blocks := ideal.blocks.put ideal.cursor buffer } := by
  rcases Drive.output_of_inside refined.stored refined.inside now files buffer with
    ⟨-, path_eq, cursor_eq, -, stored, -, -⟩
  rw [refined.cursor_eq] at stored
  exact
    ⟨path_eq.trans refined.path_eq, cursor_eq.trans refined.cursor_eq,
      refined.cursor_lt, stored⟩

end Steps

/-- Whatever is done, the disk remains what it is meant to be. -/
theorem refines_act
    {situation : Drive.Situation .disk}
    {path : String}
    {ideal : Ideal}
    (refined : Refines situation.drive path ideal)
    (next : Act) :
    Refines (act situation next).drive path (ideal.act next) := by
  cases next with
  | seek block => exact refines_seek refined block
  | control mode => exact refines_seek refined mode.toNat
  | input now buffer => exact refines_input refined now buffer
  | output now buffer => exact refines_output refined now situation.files buffer
  | change files => exact refined

theorem refines_replay
    (files : FileSystem)
    (path : String)
    (acts : List Act) :
    Refines (replay files path acts).drive path
      (Ideal.replay (BlockArray.ofFile Medium.disk.geometry files path) acts) := by
  have onward
      (situation : Drive.Situation .disk)
      (ideal : Ideal)
      (refined : Refines situation.drive path ideal) :
      Refines (acts.foldl act situation).drive path (acts.foldl Ideal.act ideal) := by
    induction acts generalizing situation ideal with
    | nil => exact refined
    | cons next rest ih => exact ih _ _ (refines_act refined next)
  rcases Drive.stores_mount files path with ⟨path_eq, cursor_eq, -, stored⟩
  exact onward _ _ ⟨path_eq, cursor_eq, Nat.zero_lt_succ 3999, stored⟩

theorem input_of_refines
    {disk : Disk}
    {path : String}
    {ideal : Ideal}
    (refined : Refines disk path ideal)
    (now : UInt64)
    (buffer : Buffer) :
    let received := disk.input now buffer
    received.accepted = true ∧
      received.unit.store.cursor = ideal.cursor ∧
        received.unit.store.words = disk.store.words ∧
          received.buffer = ideal.blocks.fetch Medium.disk.geometry ideal.cursor buffer := by
  rcases Drive.input_of_inside refined.stored refined.inside now buffer with
    ⟨accepted, unit, delivered⟩
  rw [refined.cursor_eq] at delivered
  refine ⟨accepted, ?_, ?_, delivered⟩
  · rw [unit]
    exact refined.cursor_eq
  · rw [unit]
    rfl

theorem output_of_refines
    {disk : Disk}
    {path : String}
    {ideal : Ideal}
    (refined : Refines disk path ideal)
    (now : UInt64)
    (files : FileSystem)
    (buffer : Buffer) :
    let sent := disk.output now files buffer
    let blocks := ideal.blocks.put ideal.cursor buffer
    let image := Image.encode (blocks.words Medium.disk.geometry)
    sent.accepted = true ∧
      sent.unit.store.cursor = ideal.cursor ∧
        sent.unit.Stores blocks ∧
          (files.isWritable path = true →
            sent.files.read path = .ok image ∧
              (Drive.mount sent.files path : Disk × List Notice).1.Stores blocks) ∧
            (files.isWritable path = false → sent.files = files) := by
  rcases Drive.output_of_inside refined.stored refined.inside now files buffer with
    ⟨accepted, -, cursor_eq, -, stored, saved, unsaved⟩
  rw [refined.cursor_eq] at cursor_eq stored saved
  rw [refined.path_eq] at saved unsaved
  refine ⟨accepted, cursor_eq, stored, ?_, unsaved⟩
  intro writable
  exact ⟨saved writable, Drive.stores_mount_image (saved writable)⟩

/--
A disk is an array of four thousand blocks of a hundred words and a cursor on one of
them, whatever is asked of it and whatever becomes of the files.  The array is what the
file held when the disk was mounted, with every output laid over it in its turn, saved or
not.  An input delivers as much of the block under the cursor as the buffer takes, and
which of the other acts were changes of the files makes no difference to it.  Only an
output changes files, and if it can save the disk, the file is the image of all blocks and
stores the number of every word of them.
-/
theorem replay_stores_every_output
    (files : FileSystem)
    (path : String)
    (acts : List Act)
    (now : UInt64)
    (buffer : Buffer) :
    let situation := replay files path acts
    let disk := situation.drive
    let mounted := BlockArray.ofFile Medium.disk.geometry files path
    let ideal := Ideal.replay mounted acts
    let received := disk.input now buffer
    let sent := disk.output now situation.files buffer
    let written := ideal.blocks.put ideal.cursor buffer
    let image := Image.encode (written.words Medium.disk.geometry)
    disk.store.cursor = ideal.cursor ∧
      ideal.cursor < 4000 ∧
      (∀ block offset,
        mounted block offset = Word.ofBits (files.storedBits path (block * 100 + offset))) ∧
      (∀ block offset,
        block < 4000 →
          offset < 100 →
            disk.store.words[block * 100 + offset]? = some (ideal.blocks block offset) ∧
              sent.unit.store.words[block * 100 + offset]? =
                some (written block offset)) ∧
      (received.accepted = true ∧
        received.unit.store.cursor = ideal.cursor ∧
        received.unit.store.words = disk.store.words ∧
        received.buffer.size = buffer.size ∧
        ∀ index,
          index < buffer.size →
            received.buffer[index]? =
              if index < 100 then some (ideal.blocks ideal.cursor index)
              else buffer[index]?) ∧
      (∀ others : List Act,
        others.filter Act.isAsked = acts.filter Act.isAsked →
          ((replay files path others).drive.input now buffer).buffer =
            received.buffer) ∧
      (∀ block mode,
        (act situation (.seek block)).files = situation.files ∧
          (act situation (.control mode)).files = situation.files ∧
          (act situation (.input now buffer)).files = situation.files) ∧
      sent.accepted = true ∧
      sent.unit.store.cursor = ideal.cursor ∧
      image.size = 1600000 ∧
      (situation.files.isWritable path = true →
        sent.files.read path = .ok image ∧
          (∀ block offset,
            block < 4000 →
              offset < 100 →
                sent.files.storedBits path (block * 100 + offset) =
                  (written block offset).toBits) ∧
          (Drive.mount sent.files path : Disk × List Notice).1.store.words =
            sent.unit.store.words) ∧
      (situation.files.isWritable path = false → sent.files = situation.files) := by
  intro situation disk mounted ideal received sent written image
  have refined : Refines disk path ideal := refines_replay files path acts
  rcases input_of_refines refined now buffer with ⟨taken, stayed, kept, delivered⟩
  rcases output_of_refines refined now situation.files buffer with
    ⟨given, remained, stored, saved, unsaved⟩
  refine
    ⟨refined.cursor_eq, refined.cursor_lt, BlockArray.ofFile_eq_storedBits files path, ?_,
      ⟨taken, stayed, kept, ?_, ?_⟩, ?_, fun _ _ => ⟨rfl, rfl, rfl⟩, given, remained,
      Drive.size_image .disk written, ?_, unsaved⟩
  · intro block offset inside within
    exact ⟨refined.stored.getElem? inside within, stored.getElem? inside within⟩
  · rw [delivered]
    exact BlockArray.size_fetch _ _ _
  · intro index within
    rw [delivered]
    exact BlockArray.getElem?_fetch _ _ within
  · intro others same
    -- The ideal disk of the others is the same, since changes of files mean nothing to it.
    have other : Refines (replay files path others).drive path ideal := by
      have replayed := refines_replay files path others
      rwa [← Ideal.replay_filter_isAsked, same, Ideal.replay_filter_isAsked] at replayed
    rcases input_of_refines other now buffer with ⟨-, -, -, alike⟩
    exact alike.trans delivered.symm
  · intro writable
    rcases saved writable with ⟨read, fresh⟩
    exact
      ⟨read, fun _ _ => BlockArray.storedBits_of_read_encode read, fresh.trans stored.symm⟩

end MixUnits.Disk
