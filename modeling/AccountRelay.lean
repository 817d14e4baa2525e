import AccountRelay.Main
import AccountRelay.Principal.Grammar
import AccountRelay.Proofs.Admission
import AccountRelay.Proofs.Atomicity
import AccountRelay.Proofs.Calendar
import AccountRelay.Proofs.Change
import AccountRelay.Proofs.Confinement
import AccountRelay.Proofs.Conflict
import AccountRelay.Proofs.Conservation
import AccountRelay.Proofs.Content
import AccountRelay.Proofs.Deferral
import AccountRelay.Proofs.Delivery
import AccountRelay.Proofs.Discipline
import AccountRelay.Proofs.Drain
import AccountRelay.Proofs.Entry
import AccountRelay.Proofs.Entry.Grammar
import AccountRelay.Proofs.EntryName
import AccountRelay.Proofs.FileSystem
import AccountRelay.Proofs.Handover
import AccountRelay.Proofs.Host
import AccountRelay.Proofs.Listing
import AccountRelay.Proofs.Lock
import AccountRelay.Proofs.Moment
import AccountRelay.Proofs.Naming
import AccountRelay.Proofs.Numbering
import AccountRelay.Proofs.Outcome
import AccountRelay.Proofs.Overtaking
import AccountRelay.Proofs.Partition
import AccountRelay.Proofs.Prediction
import AccountRelay.Proofs.Principal.Realm
import AccountRelay.Proofs.Principal.Written
import AccountRelay.Proofs.Propagate
import AccountRelay.Proofs.Queue
import AccountRelay.Proofs.Refusal
import AccountRelay.Proofs.Replay
import AccountRelay.Proofs.RoundTrip
import AccountRelay.Proofs.Run
import AccountRelay.Proofs.Secrecy
import AccountRelay.Proofs.Settings
import AccountRelay.Proofs.Text.Blank
import AccountRelay.Proofs.Text.Numeral
import AccountRelay.Proofs.Text.Order
import AccountRelay.Proofs.Text.Utf8
import AccountRelay.Proofs.Visibility
