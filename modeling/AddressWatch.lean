import AddressWatch.Text.Utf8
import AddressWatch.Text.Utf16
import AddressWatch.Bytes.LittleEndian
import AddressWatch.IpAddr.Parser
import AddressWatch.Duration
import AddressWatch.Log
import AddressWatch.AddressList
import AddressWatch.Binary64.Shortest
import AddressWatch.Text.Quoted
import AddressWatch.Pattern.Cursor
import AddressWatch.Pattern.Compile
import AddressWatch.Json.Parser
import AddressWatch.AddressList.Snapshot
import AddressWatch.Enumeration
import AddressWatch.Unix.InterfaceEntry
import AddressWatch.Route.Datagram
import AddressWatch.Monitor.Script
import AddressWatch.Linux.Subscription
import AddressWatch.Supervision
import AddressWatch.Main
import AddressWatch.Windows.Registration
import AddressWatch.Proofs.Monitor.Lifecycle
import AddressWatch.Proofs.Monitor.BlockingLoop
import AddressWatch.Proofs.Route.Truncation
import AddressWatch.Proofs.Linux.Reception
import AddressWatch.Proofs.IpAddr.Bytes
import AddressWatch.Proofs.Route.Layout
import AddressWatch.Proofs.Route.RoundTrip
import AddressWatch.Proofs.Monitor.Failure
import AddressWatch.Proofs.Linux.Answer
import AddressWatch.Proofs.Route.ErrorMessage
import AddressWatch.Proofs.Linux.Delivery
import AddressWatch.Proofs.Linux.ErrorCode
import AddressWatch.Proofs.Config.Resolve
import AddressWatch.Proofs.Program.Watch
import AddressWatch.Proofs.IpAddr.Text
import AddressWatch.Proofs.Json.Document
import AddressWatch.Proofs.AddressRecord.PrefixLength
import AddressWatch.Proofs.AddressList.Snapshot
import AddressWatch.Proofs.Windows.Fleet
import AddressWatch.Proofs.Config.Precedence
import AddressWatch.Proofs.Unix.Enumeration
import AddressWatch.Proofs.Program.Listing
import AddressWatch.Proofs.Program.ExitCode
import AddressWatch.Proofs.Windows.Batch
import AddressWatch.Proofs.AddressList.Exclusion
import AddressWatch.Proofs.Windows.LastNotification
import AddressWatch.Proofs.Program.Shutdown
import AddressWatch.Proofs.Windows.Multiplicity
import AddressWatch.Proofs.Route.Bounds
import AddressWatch.Proofs.Route.Insertion
import AddressWatch.Proofs.Windows.Guards
import AddressWatch.Proofs.Windows.AdapterTable
import AddressWatch.Proofs.Text.Utf16
import AddressWatch.Proofs.AddressList.Writing
import AddressWatch.Proofs.Program.EventLines
import AddressWatch.Proofs.Enumeration
import AddressWatch.Proofs.Filter
import AddressWatch.Proofs.Path
import AddressWatch.Proofs.Config.Template
import AddressWatch.Proofs.Wait
