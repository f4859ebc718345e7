import StreamDecode.Act
import StreamDecode.Backend.Candidate
import StreamDecode.Backend.Negotiation
import StreamDecode.Backend.Selection
import StreamDecode.Config.Basic
import StreamDecode.Config.Json
import StreamDecode.Device.Basic
import StreamDecode.Engine.Acts
import StreamDecode.Engine.Basic
import StreamDecode.Engine.Describe
import StreamDecode.Engine.Pair
import StreamDecode.Engine.Prepared
import StreamDecode.Engine.Synthetic
import StreamDecode.Error
import StreamDecode.Event
import StreamDecode.Flag.Set
import StreamDecode.Flag.Text
import StreamDecode.Frame.Output
import StreamDecode.Frame.Ring
import StreamDecode.Frame.Staging
import StreamDecode.Host.Basic
import StreamDecode.Host.Request
import StreamDecode.Json.Quoted
import StreamDecode.Json.Token
import StreamDecode.Json.Value
import StreamDecode.Notice
import StreamDecode.Packet
import StreamDecode.Picture.Basic
import StreamDecode.Picture.Format
import StreamDecode.Picture.Surface
import StreamDecode.Proofs.Backend.Contention
import StreamDecode.Proofs.Backend.Negotiation
import StreamDecode.Proofs.Backend.Selection
import StreamDecode.Proofs.Custody.Backend
import StreamDecode.Proofs.Custody.Ensures
import StreamDecode.Proofs.Custody.Holding
import StreamDecode.Proofs.Custody.Path
import StreamDecode.Proofs.Custody.Session
import StreamDecode.Proofs.Custody.Start
import StreamDecode.Proofs.Engine.Mirror
import StreamDecode.Proofs.Frame.Retention
import StreamDecode.Proofs.History.Backends
import StreamDecode.Proofs.History.Devices
import StreamDecode.Proofs.History.Host
import StreamDecode.Proofs.History.Ledger
import StreamDecode.Proofs.History.Records
import StreamDecode.Proofs.Registry.Footprint
import StreamDecode.Proofs.Registry.Keys
import StreamDecode.Proofs.Registry.Scopes
import StreamDecode.Proofs.Session.Accounting
import StreamDecode.Proofs.Session.Calls
import StreamDecode.Proofs.Session.Counting
import StreamDecode.Proofs.Session.Delivery
import StreamDecode.Proofs.Session.Ending
import StreamDecode.Proofs.Session.Fallback
import StreamDecode.Proofs.Session.Faultless
import StreamDecode.Proofs.Session.Kinds
import StreamDecode.Proofs.Session.Opened
import StreamDecode.Proofs.Session.Outcome
import StreamDecode.Proofs.Session.Packets
import StreamDecode.Proofs.Session.Run
import StreamDecode.Proofs.Session.StagingOrder
import StreamDecode.Proofs.Session.Surfaces
import StreamDecode.Proofs.Session.Turn
import StreamDecode.Proofs.Session.Visibility
import StreamDecode.Proofs.Synthetic.Queue
import StreamDecode.Proofs.Synthetic.Transparency
import StreamDecode.Resource.Basic
import StreamDecode.Resource.Registry
import StreamDecode.Session.Basic
import StreamDecode.Session.Closing
import StreamDecode.Session.Decoding
import StreamDecode.Session.Opening
import StreamDecode.Stream.Codec
import StreamDecode.Stream.Format
import StreamDecode.Text.Blank
import StreamDecode.Text.Number
import StreamDecode.Proofs.Session.Settings
import StreamDecode.Proofs.Flag.Written
import StreamDecode.Proofs.Registry.Claims
import StreamDecode.Proofs.Json.Spaced
import StreamDecode.Proofs.Config.Written
