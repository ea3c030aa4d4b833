import MediaRelay.Channel
import MediaRelay.Connection
import MediaRelay.Description
import MediaRelay.Dispatch.Basic
import MediaRelay.Dispatch.Standard
import MediaRelay.Error
import MediaRelay.Media.Frame
import MediaRelay.Media.Ordinal
import MediaRelay.Media.Package
import MediaRelay.Message.Headers
import MediaRelay.Message.Line
import MediaRelay.Message.Method
import MediaRelay.Message.Request
import MediaRelay.Message.RequestReader
import MediaRelay.Message.Response
import MediaRelay.Message.Status
import MediaRelay.Message.Target
import MediaRelay.Refusal
import MediaRelay.Registry
import MediaRelay.Relay.Basic
import MediaRelay.Relay.Snapshot
import MediaRelay.Relay.Source
import MediaRelay.Server
import MediaRelay.Session.Basic
import MediaRelay.Session.Media
import MediaRelay.Session.Negotiation
import MediaRelay.Session.Pool
import MediaRelay.Session.State
import MediaRelay.Table
import MediaRelay.Text.Basic
import MediaRelay.Text.Blank
import MediaRelay.Text.Decimal
import MediaRelay.Text.Utf8
import MediaRelay.Transport
import MediaRelay.Proofs.Dispatch.Outcome
import MediaRelay.Proofs.Message.Reading
import MediaRelay.Proofs.Relay.Roles
import MediaRelay.Proofs.Relay.Runs
import MediaRelay.Proofs.Relay.Coherence
import MediaRelay.Proofs.Relay.ProducerLock
import MediaRelay.Proofs.Relay.Atomicity
import MediaRelay.Proofs.Relay.Portless
import MediaRelay.Proofs.Relay.ChannelSteps
import MediaRelay.Proofs.Relay.Descriptions
import MediaRelay.Proofs.Relay.Packages
import MediaRelay.Proofs.Relay.Origins
import MediaRelay.Proofs.Relay.FanOut
import MediaRelay.Proofs.Relay.Alike
import MediaRelay.Proofs.Relay.Bystanders
import MediaRelay.Proofs.Connection.Items
import MediaRelay.Proofs.Connection.Streams
import MediaRelay.Proofs.Connection.Station
import MediaRelay.Proofs.Connection.Feeding
import MediaRelay.Proofs.Message.RoundTrip
import MediaRelay.Proofs.Relay.SetUps
import MediaRelay.Proofs.Relay.Lookups
import MediaRelay.Proofs.Relay.Streaming
import MediaRelay.Proofs.Connection.Traces
import MediaRelay.Proofs.Relay.Remembrance
import MediaRelay.Proofs.Relay.Retention
import MediaRelay.Proofs.Relay.Conversion
import MediaRelay.Proofs.Relay.Crosstalk
import MediaRelay.Proofs.Relay.Retransmission
import MediaRelay.Proofs.Relay.Resumption
import MediaRelay.Proofs.Relay.Locality
import MediaRelay.Proofs.Relay.Commutation
import MediaRelay.Proofs.Message.Contents
import MediaRelay.Proofs.Message.Receiving
import MediaRelay.Proofs.Relay.Replies
import MediaRelay.Proofs.Relay.Transitions
import MediaRelay.Proofs.Relay.Framing
import MediaRelay.Proofs.Relay.Coverage
import MediaRelay.Proofs.Connection.Keepalive
import MediaRelay.Proofs.Relay.Release
import MediaRelay.Proofs.Server.Runs
import MediaRelay.Proofs.Server.Stopping
import MediaRelay.Proofs.Message.Extents
import MediaRelay.Proofs.Connection.Looking
import MediaRelay.Proofs.Connection.Transcript
import MediaRelay.Proofs.Connection.Residue
import MediaRelay.Proofs.Message.Wording
import MediaRelay.Proofs.Message.Grammar
import MediaRelay.Proofs.Message.Prefixes
import MediaRelay.Proofs.Message.Reencoding
import MediaRelay.Proofs.Dispatch.Precedence
import MediaRelay.Proofs.Relay.Controls
import MediaRelay.Proofs.Session.Readiness
import MediaRelay.Proofs.Message.Frames
import MediaRelay.Proofs.Relay.Departure
import MediaRelay.Proofs.Message.Specification
import MediaRelay.Proofs.Relay.Confirmation
import MediaRelay.Proofs.Message.Sections
import MediaRelay.Proofs.Media.Depot
import MediaRelay.Proofs.Media.Pooling
import MediaRelay.Proofs.Message.Targets
import MediaRelay.Proofs.Media.Numbers
