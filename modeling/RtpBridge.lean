import RtpBridge.Address
import RtpBridge.Base64
import RtpBridge.Bench.FarEnd
import RtpBridge.Bench.Host
import RtpBridge.Bench.Pump
import RtpBridge.Bench.Relay
import RtpBridge.Bench.Session
import RtpBridge.Config
import RtpBridge.Decimal.Binary64
import RtpBridge.Decimal.Integer
import RtpBridge.Decimal.Shortest
import RtpBridge.Duration
import RtpBridge.Error
import RtpBridge.Handle
import RtpBridge.HandleTable
import RtpBridge.Host.Basic
import RtpBridge.Host.Call
import RtpBridge.Host.Concurrency
import RtpBridge.Ice.Candidate
import RtpBridge.Ice.Gathering
import RtpBridge.Ice.GatheringWait
import RtpBridge.Ice.Server
import RtpBridge.Ice.Tally
import RtpBridge.Idna.Direction
import RtpBridge.Idna.Joining
import RtpBridge.Idna.Mapping
import RtpBridge.Idna.Name
import RtpBridge.Idna.Punycode
import RtpBridge.Ingress
import RtpBridge.InputSink
import RtpBridge.Json.Fault
import RtpBridge.Json.Lexeme
import RtpBridge.Json.Number
import RtpBridge.Json.Reader
import RtpBridge.Json.Record
import RtpBridge.Json.Skip
import RtpBridge.Log
import RtpBridge.Machine
import RtpBridge.Media
import RtpBridge.Negotiation.Agreement
import RtpBridge.Negotiation.Answer
import RtpBridge.Negotiation.Codec
import RtpBridge.Negotiation.Direction
import RtpBridge.Negotiation.Exchange
import RtpBridge.Negotiation.HeaderExtension
import RtpBridge.Negotiation.Rejection
import RtpBridge.Negotiation.Transceiver
import RtpBridge.Network
import RtpBridge.Offer
import RtpBridge.Relay.Basic
import RtpBridge.Relay.ClosedPipe
import RtpBridge.Relay.Draining
import RtpBridge.Relay.FeedbackSink
import RtpBridge.Relay.ForwardPump
import RtpBridge.Relay.Lane
import RtpBridge.Relay.Outcome
import RtpBridge.Rtp.Packet
import RtpBridge.Sdp.Description
import RtpBridge.Sdp.Grammar
import RtpBridge.Sdp.Value
import RtpBridge.Session.Basic
import RtpBridge.Session.Rest
import RtpBridge.Session.Step
import RtpBridge.Shared
import RtpBridge.StopLatch
import RtpBridge.Text.Blank
import RtpBridge.Text.Case
import RtpBridge.Text.Composites
import RtpBridge.Text.Lines
import RtpBridge.Text.Normal
import RtpBridge.Text.Printable
import RtpBridge.Text.Quoted
import RtpBridge.Text.Table
import RtpBridge.Text.Utf8
import RtpBridge.Url
import RtpBridge.Proofs.HandleTable.Ledger
import RtpBridge.Proofs.HandleTable.Refinement
import RtpBridge.Proofs.Base64
import RtpBridge.Proofs.Json.Grammar
import RtpBridge.Proofs.Text.Blank
import RtpBridge.Proofs.Text.Utf8
import RtpBridge.Proofs.Json.Lexeme
import RtpBridge.Proofs.Json.String
import RtpBridge.Proofs.Json.Skip
import RtpBridge.Proofs.Json.Reader
import RtpBridge.Proofs.Json.Record
import RtpBridge.Proofs.Offer.Frame
import RtpBridge.Proofs.Offer.Truncation
import RtpBridge.Proofs.Offer.Encodings
import RtpBridge.Proofs.Offer.Wire
import RtpBridge.Proofs.Offer.Record
import RtpBridge.Proofs.Offer.Classification
import RtpBridge.Proofs.Relay.ForwardPump
import RtpBridge.Proofs.Relay.Links
import RtpBridge.Proofs.Relay.Stop
import RtpBridge.Proofs.Session.Step
import RtpBridge.Proofs.Session.Order
import RtpBridge.Proofs.Session.Ports
import RtpBridge.Proofs.Session.Ending
import RtpBridge.Proofs.Host.Freeing
import RtpBridge.Proofs.Relay.Lane
import RtpBridge.Proofs.Relay.Interference
import RtpBridge.Negotiation.Calls
import RtpBridge.Proofs.Negotiation.Exchange
import RtpBridge.Proofs.Negotiation.Calls
import RtpBridge.Proofs.Session.Pumps
import RtpBridge.Proofs.Session.Trace
import RtpBridge.Session.Calls
import RtpBridge.Proofs.Session.Taking
import RtpBridge.Proofs.Session.Input
import RtpBridge.Host.Traffic
import RtpBridge.Proofs.Host.Offers
import RtpBridge.Proofs.Host.Failing
import RtpBridge.Proofs.Host.Alone
import RtpBridge.Proofs.Ice.Credentials
import RtpBridge.Proofs.Session.Inquest
import RtpBridge.Proofs.Session.Blame
import RtpBridge.Proofs.Host.Refusals
import RtpBridge.Proofs.Host.Settings
import RtpBridge.Proofs.Host.Isolation
import RtpBridge.Proofs.Json.Typed
import RtpBridge.Proofs.Config.Documents
import RtpBridge.Proofs.Relay.Exit
import RtpBridge.Proofs.Relay.Feedback
import RtpBridge.Proofs.Session.Feedback
import RtpBridge.Proofs.Relay.Collecting
import RtpBridge.Proofs.HandleTable.Lifetime
import RtpBridge.Proofs.HandleTable.Soundness
import RtpBridge.Proofs.HandleTable.Growth
import RtpBridge.Proofs.Offer.Padding
import RtpBridge.Proofs.Ingress
import RtpBridge.Proofs.Session.Sockets
import RtpBridge.Proofs.Machine
import RtpBridge.Proofs.Shared
import RtpBridge.Proofs.InputSink
import RtpBridge.Proofs.StopLatch
import RtpBridge.Proofs.Session.Credit
import RtpBridge.Proofs.Ice.Gathering
import RtpBridge.Proofs.Negotiation.Gathering
import RtpBridge.Proofs.Text.Pattern
import RtpBridge.Proofs.Text.Lines
import RtpBridge.Proofs.Ice.CandidateLine
import RtpBridge.Proofs.Ice.Tally
import RtpBridge.Proofs.Relay.ClosedPipe
import RtpBridge.Proofs.Config.Validation
