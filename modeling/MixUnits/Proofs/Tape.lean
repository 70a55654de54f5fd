import MixUnits.Proofs.Backing

/-!
# A tape from its beginning to its end

The calls of a tape are numbered from zero, and a call has to do with the block of its
number and with no other.  There is no way back, so an input delivers what the file held
when the tape was mounted, never what was put out before; and from the two thousandth
call on every call is refused.

The invariant ties the tape to the calls so far: the cursor is their number as long as
there are blocks, and a block is the original one, overlaid with the buffer of the call
of its number if that was an output.
-/

namespace MixUnits.Tape

/-- What can be asked of a tape. -/
inductive Call where
  | input (buffer : Buffer)
  | output (buffer : Buffer)

/-- A call of a tape at a moment, or a change of the files around it. -/
inductive Act where
  | ask (now : UInt64) (call : Call)
  | change (files : FileSystem)

/-- The call that an act is, if it is one. -/
def Act.call? : Act → Option Call
  | .ask _ call => some call
  | .change _ => none

/-- The calls among some acts, in order. -/
def calls (acts : List Act) : List Call :=
  acts.filterMap Act.call?

/-- A tape among files after one more act. -/
def act
    (situation : Drive.Situation .tape) :
    Act → Drive.Situation .tape
  | .ask now (.input buffer) => situation.input now buffer
  | .ask now (.output buffer) => situation.output now buffer
  | .change files => { situation with files := files }

/-- A tape among files after it was mounted and some acts. -/
def replay
    (files : FileSystem)
    (path : String)
    (acts : List Act) :
    Drive.Situation .tape :=
  acts.foldl act (.mounted files path)

/-- An array in which every block is overlaid with the output that was its call. -/
def recorded
    (original : BlockArray)
    (done : List Call) :
    BlockArray :=
  fun block offset =>
    match done[block]? with
    | some (.output buffer) => buffer[offset]?.getD (original block offset)
    | _ => original block offset

section Recording

variable (original : BlockArray) (done : List Call)

theorem call_of_append
    (call : Call)
    (number : Nat) :
    (done ++ [call])[number]? =
      if number = done.length then some call else done[number]? := by
  rcases Nat.lt_trichotomy number done.length with before | rfl | behind
  · rw [List.getElem?_append_left before, if_neg (Nat.ne_of_lt before)]
  · rw [List.getElem?_concat_length, if_pos rfl]
  · rw [if_neg (Nat.ne_of_gt behind), List.getElem?_eq_none (Nat.le_of_lt behind)]
    apply List.getElem?_eq_none
    rw [List.length_append]
    exact behind

/-- The block of the next call is still the original one. -/
theorem recorded_next (offset : Nat) :
    recorded original done done.length offset = original done.length offset := by
  simp only [recorded, List.getElem?_eq_none (Nat.le_refl _)]

theorem recorded_output (buffer : Buffer) :
    recorded original (done ++ [.output buffer]) =
      (recorded original done).put done.length buffer := by
  funext block offset
  by_cases next : block = done.length
  · subst next
    rw [BlockArray.put, if_pos rfl, recorded_next, recorded, call_of_append, if_pos rfl]
  · simp only [recorded, call_of_append, BlockArray.put, if_neg next]

/-- Behind the last block of a tape nothing is recorded. -/
theorem words_recorded_append
    (full : 2000 ≤ done.length)
    (call : Call) :
    (recorded original (done ++ [call])).words Medium.tape.geometry =
      (recorded original done).words Medium.tape.geometry := by
  apply BlockArray.words_congr
  intro block offset inside _
  have before : block ≠ done.length := Nat.ne_of_lt (Nat.lt_of_lt_of_le inside full)
  simp only [recorded, call_of_append, if_neg before]

end Recording

/-- A tape whose file is at a path has been through some calls. -/
structure HasDone
    (tape : Tape)
    (path : String)
    (original : BlockArray)
    (done : List Call) :
    Prop where
  path_eq : tape.path = path
  cursor_eq : tape.store.cursor = min done.length 2000
  stored : tape.Stores (recorded original done)

section Calls

variable
  {tape : Tape}
  {path : String}
  {original : BlockArray}
  {done : List Call}

theorem HasDone.cursor_of_room
    (gone : HasDone tape path original done)
    (room : done.length < 2000) :
    tape.store.cursor = done.length := by
  rw [gone.cursor_eq, Nat.min_eq_left (Nat.le_of_lt room)]

theorem HasDone.cursor_of_full
    (gone : HasDone tape path original done)
    (full : 2000 ≤ done.length) :
    tape.store.cursor = 2000 := by
  rw [gone.cursor_eq, Nat.min_eq_right full]

theorem output_of_room
    (gone : HasDone tape path original done)
    (room : done.length < 2000)
    (now : UInt64)
    (files : FileSystem)
    (buffer : Buffer) :
    let sent := tape.output now files buffer
    let after := recorded original (done ++ [.output buffer])
    sent.accepted = true ∧
      sent.unit.path = path ∧
        sent.unit.store.cursor = done.length + 1 ∧
          sent.unit.store.busyUntil = now + 15000 ∧
            sent.unit.Stores after ∧
              (files.isWritable path = true →
                sent.files.read path =
                  .ok (Image.encode (after.words Medium.tape.geometry))) ∧
                (files.isWritable path = false → sent.files = files) := by
  have cursor_eq := gone.cursor_of_room room
  have inside : tape.store.cursor < Medium.tape.geometry.blockCount := cursor_eq ▸ room
  rcases Drive.output_of_inside gone.stored inside now files buffer with
    ⟨accepted, path_eq, moved, busy, stored, saved, unsaved⟩
  rw [cursor_eq] at moved stored saved
  rw [gone.path_eq] at path_eq saved unsaved
  rw [Geometry.transferEnd_eq] at busy
  rw [recorded_output]
  exact ⟨accepted, path_eq, moved, busy, stored, saved, unsaved⟩

theorem refused_of_full
    (gone : HasDone tape path original done)
    (full : 2000 ≤ done.length)
    (now : UInt64)
    (files : FileSystem)
    (buffer : Buffer) :
    let received := tape.input now buffer
    let sent := tape.output now files buffer
    (received.accepted = false ∧ received.unit = tape ∧ received.buffer = buffer) ∧
      sent.accepted = false ∧ sent.unit = tape ∧ sent.files = files := by
  have outside : Medium.tape.geometry.blockCount ≤ tape.store.cursor :=
    Nat.le_of_eq (gone.cursor_of_full full).symm
  exact
    ⟨Drive.input_of_outside outside now buffer,
      Drive.output_of_outside outside now files buffer⟩

/-- A refused call is counted and has no other consequence. -/
theorem hasDone_of_full
    (gone : HasDone tape path original done)
    (full : 2000 ≤ done.length)
    (call : Call) :
    HasDone tape path original (done ++ [call]) := by
  have longer : 2000 ≤ (done ++ [call]).length := by
    rw [List.length_append]
    exact Nat.le_add_right_of_le full
  refine ⟨gone.path_eq, ?_, ?_⟩
  · rw [gone.cursor_of_full full, Nat.min_eq_right longer]
  · rw [Drive.Stores, words_recorded_append original done full]
    exact gone.stored

theorem hasDone_output
    (gone : HasDone tape path original done)
    (now : UInt64)
    (files : FileSystem)
    (buffer : Buffer) :
    HasDone (tape.output now files buffer).unit path original
      (done ++ [.output buffer]) := by
  rcases Nat.lt_or_ge done.length 2000 with room | full
  · rcases output_of_room gone room now files buffer with ⟨-, path_eq, moved, -, stored, -⟩
    refine ⟨path_eq, ?_, stored⟩
    rw [moved, List.length_append, Nat.min_eq_left]
    · rfl
    · exact room
  · rcases refused_of_full gone full now files buffer with ⟨-, -, unit, -⟩
    rw [unit]
    exact hasDone_of_full gone full _

end Calls

end MixUnits.Tape
