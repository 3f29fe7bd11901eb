import ZWaveHost.Adapter.Basic
import ZWaveHost.Adapter.Exchange
import ZWaveHost.Adapter.Inbound
import ZWaveHost.Adapter.Lifecycle
import ZWaveHost.Buffer
import ZWaveHost.Command
import ZWaveHost.Command.Form
import ZWaveHost.Command.Module
import ZWaveHost.Command.Node
import ZWaveHost.Command.Transmission
import ZWaveHost.Command.Value
import ZWaveHost.Config
import ZWaveHost.Decoder
import ZWaveHost.Error
import ZWaveHost.Flow
import ZWaveHost.Frame
import ZWaveHost.Json.Basic
import ZWaveHost.Json.Form
import ZWaveHost.Json.Reader
import ZWaveHost.Json.Token
import ZWaveHost.Line
import ZWaveHost.Link
import ZWaveHost.Outcome
import ZWaveHost.Port.Basic
import ZWaveHost.Port.DeviceName
import ZWaveHost.Port.Scripted
import ZWaveHost.Port.Serial
import ZWaveHost.Proofs.Buffer.Access
import ZWaveHost.Proofs.Command.Bitmask
import ZWaveHost.Proofs.Command.DeclaredLength
import ZWaveHost.Proofs.Command.LibraryVersion
import ZWaveHost.Proofs.Command.OptionalParts
import ZWaveHost.Proofs.Command.Position
import ZWaveHost.Proofs.Command.Reading
import ZWaveHost.Proofs.Command.SessionIds
import ZWaveHost.Proofs.Config.ReadBack
import ZWaveHost.Proofs.Exchange.Admission
import ZWaveHost.Proofs.Exchange.Answers
import ZWaveHost.Proofs.Exchange.Callbacks
import ZWaveHost.Proofs.Exchange.Course
import ZWaveHost.Proofs.Exchange.Ending
import ZWaveHost.Proofs.Exchange.Limits
import ZWaveHost.Proofs.Exchange.Progress
import ZWaveHost.Proofs.Exchange.Provenance
import ZWaveHost.Proofs.Exchange.Recovery
import ZWaveHost.Proofs.Exchange.Rejection
import ZWaveHost.Proofs.Exchange.Results
import ZWaveHost.Proofs.Exchange.Retransmission
import ZWaveHost.Proofs.Exchange.Stage
import ZWaveHost.Proofs.Exchange.Stopping
import ZWaveHost.Proofs.Exchange.Unacknowledged
import ZWaveHost.Proofs.Frame.Bytes
import ZWaveHost.Proofs.Frame.Corruption
import ZWaveHost.Proofs.Frame.RoundTrip
import ZWaveHost.Proofs.Json.Words
import ZWaveHost.Proofs.Link.Balance
import ZWaveHost.Proofs.Link.Chunking
import ZWaveHost.Proofs.Link.Ledger
import ZWaveHost.Proofs.Link.Lots
import ZWaveHost.Proofs.Link.Opening
import ZWaveHost.Proofs.Link.Reception
import ZWaveHost.Proofs.Link.Traffic
import ZWaveHost.Proofs.Link.Watch
import ZWaveHost.Proofs.Port.Audit
import ZWaveHost.Proofs.Port.Journal
import ZWaveHost.Proofs.Port.Listing
import ZWaveHost.Proofs.Port.Openness
import ZWaveHost.Proofs.Port.SerialDevice
import ZWaveHost.Proofs.Port.Transcript
import ZWaveHost.Proofs.Registry.Routing
import ZWaveHost.Proofs.Registry.Validation
import ZWaveHost.Proofs.Request.Encoding
import ZWaveHost.Proofs.Run.Bystander
import ZWaveHost.Proofs.Run.CallNotes
import ZWaveHost.Proofs.Run.Calls
import ZWaveHost.Proofs.Run.Chunk
import ZWaveHost.Proofs.Run.Delivery
import ZWaveHost.Proofs.Run.Event
import ZWaveHost.Proofs.Run.History
import ZWaveHost.Proofs.Run.Inbound
import ZWaveHost.Proofs.Run.Invariant
import ZWaveHost.Proofs.Run.Isolation
import ZWaveHost.Proofs.Run.Lifecycle
import ZWaveHost.Proofs.Run.Queue
import ZWaveHost.Proofs.Run.Reply
import ZWaveHost.Proofs.Run.Session
import ZWaveHost.Proofs.Run.SessionCycle
import ZWaveHost.Proofs.Run.Turn
import ZWaveHost.Proofs.Run.Waiters
import ZWaveHost.Proofs.Sequence.Completion
import ZWaveHost.Proofs.Sequence.Freshness
import ZWaveHost.Proofs.Sequence.Operation
import ZWaveHost.Proofs.Sequence.Refusal
import ZWaveHost.Proofs.Sequence.Transition
import ZWaveHost.Proofs.Stream.Decoding
import ZWaveHost.Proofs.Stream.Encoding
import ZWaveHost.Proofs.Stream.Registers
import ZWaveHost.Proofs.Stream.Segment
import ZWaveHost.Proofs.Subscriptions.History
import ZWaveHost.Proofs.Text.ByteOrder
import ZWaveHost.Proofs.Text.Utf8
import ZWaveHost.Proofs.Version.Order
import ZWaveHost.Proofs.Version.Parsing
import ZWaveHost.Registry.Basic
import ZWaveHost.Registry.Standard
import ZWaveHost.Release
import ZWaveHost.Request
import ZWaveHost.Sequence
import ZWaveHost.Statistics
import ZWaveHost.Subscriptions
import ZWaveHost.Text.DecimalDigit
import ZWaveHost.Text.Duration
import ZWaveHost.Text.Hex
import ZWaveHost.Text.Printable
import ZWaveHost.Text.Quoted
import ZWaveHost.Text.Utf8
import ZWaveHost.Version
