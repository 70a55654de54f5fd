import MixUnits.BlockStore

/-!
# Answers of a unit

A unit answers an operation with whether it accepted it, what it has become and what
it reports.  An input also gives back the buffer, an output also the files; an input
cannot change files and an output cannot change the buffer.
-/

namespace MixUnits

variable {α β : Type}

/-- The answer of a unit to an operation. -/
structure Answer (α : Type) where
  accepted : Bool
  unit : α
  notices : List Notice

/-- The answer of a unit to an input. -/
structure Received (α : Type) extends Answer α where
  buffer : Buffer

/-- The answer of a unit to an output. -/
structure Sent (α : Type) extends Answer α where
  files : FileSystem

/-- The answer of a unit that stays as it is and does not do what is asked. -/
def Answer.refused
    (unit : α)
    (notices : List Notice) :
    Answer α where
  accepted := false
  unit := unit
  notices := notices

/-- The same answer of a unit seen in another way. -/
def Answer.map
    (view : α → β)
    (answer : Answer α) :
    Answer β where
  accepted := answer.accepted
  unit := view answer.unit
  notices := answer.notices

/-- An answer to an input that leaves the buffer as given. -/
def Answer.received
    (answer : Answer α)
    (buffer : Buffer) :
    Received α :=
  { answer with buffer := buffer }

/-- An answer to an output that leaves the files as given. -/
def Answer.sent
    (answer : Answer α)
    (files : FileSystem) :
    Sent α :=
  { answer with files := files }

/-- The same answer to an input of a unit seen in another way. -/
def Received.map
    (view : α → β)
    (received : Received α) :
    Received β :=
  (received.toAnswer.map view).received received.buffer

/-- The same answer to an output of a unit seen in another way. -/
def Sent.map
    (view : α → β)
    (sent : Sent α) :
    Sent β :=
  (sent.toAnswer.map view).sent sent.files

end MixUnits
