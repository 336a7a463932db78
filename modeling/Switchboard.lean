import Switchboard.CallEnd
import Switchboard.EventPackage
import Switchboard.Json.Reader
import Switchboard.Main
import Switchboard.Options.OfText
import Switchboard.Options.OfValue
import Switchboard.Options.ToValue
import Switchboard.Trial.Folder
import Switchboard.Trial.Script
import Switchboard.Proofs.Slots
import Switchboard.Proofs.Calls
import Switchboard.Proofs.Run
import Switchboard.Proofs.Effect
import Switchboard.Proofs.Simulation
import Switchboard.Proofs.Ledger
import Switchboard.Proofs.ShutDown
import Switchboard.Proofs.Conservation
import Switchboard.Proofs.Handles
import Switchboard.Proofs.Register
import Switchboard.Proofs.Stock
import Switchboard.Proofs.Provenance
import Switchboard.Proofs.Timeouts
import Switchboard.Proofs.Polling
import Switchboard.Proofs.Utf8
import Switchboard.Proofs.Numerals
import Switchboard.Proofs.Words
import Switchboard.Proofs.Rendering
import Switchboard.Proofs.Starting
import Switchboard.Proofs.JsonScalars
import Switchboard.Proofs.JsonValues
import Switchboard.Proofs.JsonOptions
import Switchboard.Proofs.Delivery
import Switchboard.Proofs.Isolation
import Switchboard.Proofs.JsonTexts
import Switchboard.Proofs.JsonSkip
import Switchboard.Proofs.OptionsValues
import Switchboard.Proofs.OptionsTexts
import Switchboard.Proofs.CallEnds
import Switchboard.Proofs.Loading
import Switchboard.Proofs.Notices
import Switchboard.Proofs.IdleCount
import Switchboard.Proofs.Edits
import Switchboard.Proofs.Negotiation
import Switchboard.Proofs.Exchanges
import Switchboard.Proofs.Agreement
import Switchboard.Proofs.HandOver
import Switchboard.Proofs.VersionNotes
import Switchboard.Proofs.Prefixes
import Switchboard.Proofs.Launching
import Switchboard.Proofs.Components
import Switchboard.Proofs.Sameness
import Switchboard.Proofs.Endings
import Switchboard.Proofs.Frames
import Switchboard.Proofs.NullMarks
