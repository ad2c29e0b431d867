import PointerTagging.Main
import PointerTagging.Proofs.AddressText
import PointerTagging.Proofs.CommandLine
import PointerTagging.Proofs.Concurrent.Deadlock
import PointerTagging.Proofs.Concurrent.Linearization
import PointerTagging.Proofs.Concurrent.Publication
import PointerTagging.Proofs.Concurrent.Tables
import PointerTagging.Proofs.NumberSetting
import PointerTagging.Proofs.Protection
import PointerTagging.Proofs.Recovery
import PointerTagging.Proofs.Report.Address
import PointerTagging.Proofs.Report.Config
import PointerTagging.Proofs.Session.Arrays
import PointerTagging.Proofs.Session.Reserve
import PointerTagging.Proofs.Session.Tracing
import PointerTagging.Proofs.Spelling
import PointerTagging.Proofs.Transparency
import PointerTagging.Session.Log
import PointerTagging.Proofs.Concurrent.Retry
