import MixUnits.Bench.Action
import MixUnits.Main
import MixUnits.Proofs.Rest
import MixUnits.Proofs.Run
import MixUnits.Proofs.Characters
import MixUnits.Proofs.Printing
import MixUnits.Proofs.Typing
import MixUnits.Proofs.Files
import MixUnits.Proofs.Replacement
import MixUnits.Proofs.Card
import MixUnits.Proofs.History
import MixUnits.Proofs.Image
import MixUnits.Proofs.BlockArray
import MixUnits.Proofs.Drive
import MixUnits.Proofs.Disk
import MixUnits.Proofs.Tape
import MixUnits.Proofs.Echo
import MixUnits.Proofs.Backing
import MixUnits.Proofs.Transfer
import MixUnits.Proofs.DeckCopy
import MixUnits.Proofs.Dump
import MixUnits.Proofs.DumpPastEnd
import MixUnits.Proofs.Acceptance
import MixUnits.Proofs.Stints
import MixUnits.Proofs.Alike
import MixUnits.Proofs.Independence
import MixUnits.Proofs.Renewal
import MixUnits.Proofs.Reading
import MixUnits.Proofs.Reports
import MixUnits.Proofs.Window
import MixUnits.Proofs.Delivery
import MixUnits.Proofs.Deck
import MixUnits.Proofs.WholeTape
import MixUnits.Proofs.Retyping
import MixUnits.Proofs.LastGiven
import MixUnits.Proofs.Operations
import MixUnits.Proofs.DumpArguments
