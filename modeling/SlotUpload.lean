import SlotUpload.Certificate.Base64
import SlotUpload.Certificate.Der
import SlotUpload.Certificate.Pem
import SlotUpload.Certificate.Root
import SlotUpload.Command.HeaderOption
import SlotUpload.Command.Line
import SlotUpload.Command.Run
import SlotUpload.Command.Word
import SlotUpload.Decimal.Shortest
import SlotUpload.Discovery.Discover
import SlotUpload.Discovery.Info
import SlotUpload.Discovery.Service
import SlotUpload.Download.File
import SlotUpload.Download.Probe
import SlotUpload.Facade.Audience
import SlotUpload.Facade.Incoming
import SlotUpload.Facade.Receiving
import SlotUpload.Facade.Registry
import SlotUpload.Facade.Sending
import SlotUpload.Facade.Task
import SlotUpload.Failure
import SlotUpload.Files.Path
import SlotUpload.Files.Tree
import SlotUpload.Http.Client
import SlotUpload.Http.Header
import SlotUpload.Http.Message
import SlotUpload.Http.Setup
import SlotUpload.Http.Stats
import SlotUpload.Http.Status
import SlotUpload.Http.Wire
import SlotUpload.Job.Basic
import SlotUpload.Json.Fault
import SlotUpload.Json.Literal
import SlotUpload.Json.Number
import SlotUpload.Json.Reader
import SlotUpload.Log.Entry
import SlotUpload.Log.Moment
import SlotUpload.Main
import SlotUpload.Payload.Basic
import SlotUpload.Payload.FileTooLarge
import SlotUpload.Payload.Slot
import SlotUpload.Payload.SlotRequest
import SlotUpload.Payload.Version
import SlotUpload.Rehearsal.Basic
import SlotUpload.Rehearsal.Script
import SlotUpload.Roster
import SlotUpload.Session.Destination
import SlotUpload.Session.Reply
import SlotUpload.Settings.Basic
import SlotUpload.Settings.Load
import SlotUpload.Text.Blank
import SlotUpload.Text.Combining
import SlotUpload.Text.Composition
import SlotUpload.Text.Direction
import SlotUpload.Text.Joining
import SlotUpload.Text.Numeral
import SlotUpload.Text.Quoted
import SlotUpload.Text.Ranges
import SlotUpload.Text.Runs
import SlotUpload.Text.Split
import SlotUpload.Text.Utf8
import SlotUpload.Text.Visible
import SlotUpload.Transfer.Basic
import SlotUpload.Transfer.Id
import SlotUpload.Transfer.Schedule
import SlotUpload.Transfer.Status
import SlotUpload.Transfer.System
import SlotUpload.Transfer.Work
import SlotUpload.Upload.File
import SlotUpload.Upload.Headers
import SlotUpload.Upload.Negotiation
import SlotUpload.Upload.Stream
import SlotUpload.Url.Basic
import SlotUpload.Url.Domain
import SlotUpload.Url.Domain.Mapping
import SlotUpload.Url.Error
import SlotUpload.Url.Host
import SlotUpload.Url.Ipv4
import SlotUpload.Url.Ipv6
import SlotUpload.Url.Parser
import SlotUpload.Url.Percent
import SlotUpload.Url.Punycode
import SlotUpload.Url.Trail
import SlotUpload.Xml.Element
import SlotUpload.Xml.Error
import SlotUpload.Xml.Escape
import SlotUpload.Xml.Reader
import SlotUpload.Xml.Tag
import SlotUpload.Proofs.Transfer.Change
import SlotUpload.Proofs.Transfer.Course
import SlotUpload.Proofs.Transfer.Count
import SlotUpload.Proofs.Transfer.Replay
import SlotUpload.Proofs.Transfer.Cancellation
import SlotUpload.Proofs.Transfer.Schedule
import SlotUpload.Proofs.Roster
import SlotUpload.Proofs.Transfer.Delivery
import SlotUpload.Proofs.Text.Numeral
import SlotUpload.Proofs.Xml.Tag
import SlotUpload.Proofs.Xml.Markup
import SlotUpload.Proofs.Url.Ends
import SlotUpload.Proofs.Payload.Markup
import SlotUpload.Proofs.Payload.SlotRequest
import SlotUpload.Proofs.Payload.Slot
import SlotUpload.Proofs.Job.Turns
import SlotUpload.Proofs.Job.Dropping
import SlotUpload.Proofs.Http.Redirection
import SlotUpload.Proofs.Discovery.Search
import SlotUpload.Proofs.Discovery.DefaultService
import SlotUpload.Proofs.Http.Body
import SlotUpload.Proofs.Upload.Stream
import SlotUpload.Proofs.Upload.Acceptance
import SlotUpload.Proofs.Upload.Integrity
import SlotUpload.Proofs.Upload.Negotiation
import SlotUpload.Proofs.Upload.File
import SlotUpload.Proofs.Facade.Task
import SlotUpload.Proofs.Facade.Sending
import SlotUpload.Proofs.Text.Split
import SlotUpload.Proofs.Files.Tree
import SlotUpload.Proofs.Download.File
import SlotUpload.Proofs.Text.Utf8
import SlotUpload.Proofs.Url.FileName
import SlotUpload.Proofs.Command.Destination
import SlotUpload.Proofs.Xml.Piece
import SlotUpload.Proofs.Xml.Reading
import SlotUpload.Proofs.Xml.Nesting
import SlotUpload.Proofs.Xml.Filler
import SlotUpload.Proofs.Xml.Likeness
import SlotUpload.Proofs.Xml.Attribute
import SlotUpload.Proofs.Xml.Insertion
import SlotUpload.Proofs.Payload.Compatibility
import SlotUpload.Proofs.Xml.Order
import SlotUpload.Proofs.Payload.FileTooLarge
import SlotUpload.Proofs.Xml.Namespace
import SlotUpload.Proofs.Payload.Namespace
import SlotUpload.Proofs.Facade.Identity
import SlotUpload.Proofs.Upload.Staging
import SlotUpload.Proofs.Http.Header
import SlotUpload.Proofs.Upload.Headers
import SlotUpload.Proofs.Discovery.FirstOffer
import SlotUpload.Proofs.Facade.Announcement
import SlotUpload.Proofs.Log.Entry
import SlotUpload.Proofs.Payload.Transcoding
import SlotUpload.Proofs.Upload.Progress
import SlotUpload.Proofs.Facade.Registry
import SlotUpload.Proofs.Discovery.Limit
import SlotUpload.Proofs.Payload.Headers
import SlotUpload.Proofs.Command.Decode
import SlotUpload.Proofs.Discovery.Overlap
import SlotUpload.Proofs.Discovery.Reconnect
import SlotUpload.Proofs.Transfer.Id
import SlotUpload.Proofs.Xml.Matching
import SlotUpload.Proofs.Xml.Continuation
import SlotUpload.Proofs.Payload.Continuation
