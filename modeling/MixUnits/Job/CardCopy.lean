import MixUnits.Channel.Run

/-!
# Copying cards

A deck of cards is copied to a tape, one card to a block.  Reader and tape take turns
on the leading words of memory, so a card that cannot be read leaves the words of the
card before it.
-/

namespace MixUnits

/-- The deck to be copied, the file of the tape, and the number of cards. -/
structure CardCopy where
  deck : String
  tape : String
  count : Nat
  deriving DecidableEq, Repr

namespace CardCopy

/-- The requests to copy one card. -/
def cardRequests : List Request :=
  [⟨UnitNumber.cardReader, .input, 0⟩, ⟨UnitNumber.tape, .output, 0⟩]

/-- All requests of a copy. -/
def requests (copy : CardCopy) : List Request :=
  (List.replicate copy.count cardRequests).flatten

/-- A machine with the reader and the tape, and the notices of loading. -/
def machine
    (copy : CardCopy)
    (files : FileSystem) :
    Machine × List Notice :=
  let (tape, notices) := Drive.mount files copy.tape
  (((Machine.blank files).place UnitNumber.cardReader
      (some (.cardReader (.mount copy.deck)))).place UnitNumber.tape (some (.tape tape)),
    notices)

/-- The machine after a copy, and everything it reports. -/
def run
    (copy : CardCopy)
    (files : FileSystem) :
    Machine × List Notice :=
  let (machine, loading) := copy.machine files
  let run := (Channel.idle machine).run copy.requests
  (run.channel.machine,
    loading ++ run.notices ++ [.deckCopied copy.count copy.deck copy.tape])

end CardCopy

end MixUnits
