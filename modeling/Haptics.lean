import Haptics.Bytes
import Haptics.Level
import Haptics.Text.Blank
import Haptics.Text.Split
import Haptics.Text.Numeral
import Haptics.Text.Utf8
import Haptics.Text.Upper
import Haptics.Text.Extender
import Haptics.Text.Glyphless
import Haptics.Text.Quoted
import Haptics.Wire.Connection
import Haptics.Wire.Effect
import Haptics.Wire.Frame
import Haptics.Wire.Descriptor
import Haptics.System.Error
import Haptics.System.Path
import Haptics.System.Tree
import Haptics.System.Edit
import Haptics.System.Socket
import Haptics.System.Files
import Haptics.System.Clock
import Haptics.System.Channel
import Haptics.System.Host
import Haptics.Device.Error
import Haptics.Device.Transport
import Haptics.Device.Mouse
import Haptics.Discovery.Properties
import Haptics.Discovery.Search
import Haptics.Delivery.Inbox
import Haptics.Delivery.Courier
import Haptics.Delivery.Depot
import Haptics.Json.Value
import Haptics.Json.Reader
import Haptics.Json.Printer
import Haptics.Settings.NameMap
import Haptics.Settings.Basic
import Haptics.Settings.Reader
import Haptics.Settings.Printer
import Haptics.Settings.Store
import Haptics.Events.Event
import Haptics.Events.Listener
import Haptics.Events.Client
import Haptics.Command.Payload
import Haptics.Command.Server
import Haptics.Rehearsal.Scenery
import Haptics.Rehearsal.Transport
import Haptics.Rehearsal.Delivery
import Haptics.Rehearsal.Compositor
import Haptics.Rehearsal.Service
import Haptics.CommandLine.Options
import Haptics.CommandLine.Run
import Haptics.Main
import Haptics.Proofs.Delivery.Log
import Haptics.Proofs.Delivery.Leg
import Haptics.Proofs.Delivery.Itinerary
import Haptics.Proofs.Delivery.Course
import Haptics.Proofs.Delivery.Journey
import Haptics.Proofs.Delivery.Ledger
import Haptics.Proofs.Delivery.Accounting
import Haptics.Proofs.Delivery.Logbook
import Haptics.Proofs.Delivery.Dispatch
import Haptics.Proofs.Delivery.Order
import Haptics.Proofs.Device.Dialogue
import Haptics.Proofs.Delivery.Frames
import Haptics.Proofs.Delivery.Finish
import Haptics.Proofs.Delivery.Custody
import Haptics.Proofs.Delivery.Ownership
import Haptics.Proofs.Device.Handle
import Haptics.Proofs.Device.Life
import Haptics.Proofs.Delivery.Handles
import Haptics.Proofs.Delivery.Stop
import Haptics.Proofs.Wire.Reply
import Haptics.Proofs.Device.Protocol
import Haptics.Proofs.System.Drain
import Haptics.Proofs.System.Stream
import Haptics.Proofs.Device.Stale
import Haptics.Proofs.Settings.NameMap
import Haptics.Proofs.Settings.Effects
import Haptics.Proofs.Text.Utf8
import Haptics.Proofs.Text.Numeral
import Haptics.Proofs.Json.Value
import Haptics.Proofs.Json.Token
import Haptics.Proofs.Json.Writing
import Haptics.Proofs.Settings.RoundTrip
import Haptics.Proofs.Events.Lines
import Haptics.Proofs.Events.Asked
import Haptics.Proofs.Events.Broadcasts
import Haptics.Proofs.Text.Boundary
import Haptics.Proofs.Command.Served
import Haptics.Proofs.System.Folders
import Haptics.Proofs.Discovery.Agreement
import Haptics.Proofs.Settings.Upkeep
import Haptics.Proofs.Wire.Items
import Haptics.Proofs.Delivery.Failures
import Haptics.Proofs.Events.Repeats
import Haptics.Proofs.Text.Split
import Haptics.Proofs.Text.Upper
import Haptics.Proofs.Discovery.Identity
import Haptics.Proofs.Wire.Request
import Haptics.Proofs.System.Deadline
import Haptics.Proofs.Settings.Limits
import Haptics.Proofs.Text.Digits
import Haptics.Proofs.Text.Blank
import Haptics.Proofs.Command.Grammar
import Haptics.Proofs.Discovery.Properties
import Haptics.Proofs.Events.Naming
import Haptics.Proofs.System.Discard
