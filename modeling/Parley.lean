import Parley.Text
import Parley.Text.Blank
import Parley.Text.Utf8
import Parley.Duration
import Parley.Text.Printable
import Parley.Text.Quoted
import Parley.Net.Address
import Parley.Fault
import Parley.Wire.Error
import Parley.Wire.Chat
import Parley.Wire.Field
import Parley.Wire.Frame
import Parley.Wire.Message
import Parley.Client.Error
import Parley.Feed
import Parley.Roster
import Parley.Tally
import Parley.Client.Config
import Parley.Client.Frame
import Parley.Query
import Parley.Server.Config
import Parley.Server.Settings
import Parley.Report
import Parley.Bridge
import Parley.Link
import Parley.Room
import Parley.Room.Guests
import Parley.Room.Messages
import Parley.Room.Delivery
import Parley.Room.Frames
import Parley.Room.GuestFrames
import Parley.Room.Sweep
import Parley.Trial.Clock
import Parley.Trial.Step
import Parley.Manager
import Parley.Worker
import Parley.Server
import Parley.Net.Network
import Parley.Text.Replace
import Parley.Trial.Server
import Parley.Client
import Parley.Client.NameCheck
import Parley.Trial.Client
import Parley.Main
import Parley.Proofs.Wire.Decode
import Parley.Proofs.Roster.Index
import Parley.Proofs.Roster.Book
import Parley.Proofs.Room.Bindings
import Parley.Proofs.House.Bindings
import Parley.Proofs.Room.Moves
import Parley.Proofs.Room.Reservations
import Parley.Proofs.Room.Changes
import Parley.Proofs.Wire.Address
import Parley.Proofs.Room.Names
import Parley.Proofs.Room.Speakers
import Parley.Proofs.Feed.Runs
import Parley.Proofs.Feed.Delivery
import Parley.Proofs.Room.Broadcast
import Parley.Proofs.Room.Effects
import Parley.Proofs.Room.Private
import Parley.Proofs.Room.Conversation
import Parley.Proofs.Text.Utf8
import Parley.Proofs.Wire.Fields
import Parley.Proofs.Wire.Slot
import Parley.Proofs.Wire.Passage
import Parley.Proofs.Wire.Grammar
import Parley.Proofs.Wire.RoundTrip
import Parley.Proofs.Room.SameBut
import Parley.Proofs.Room.Isolation
import Parley.Proofs.Room.Logs
import Parley.Proofs.Room.Causes
import Parley.Proofs.Room.Authenticity
import Parley.Proofs.Room.Attribution
import Parley.Proofs.Room.Impersonation
import Parley.Proofs.Client.Control
import Parley.Proofs.Room.Talks
import Parley.Proofs.Room.Attendance
import Parley.Proofs.Room.Ledger
import Parley.Proofs.Wire.Outgoing
import Parley.Proofs.Room.Turns
import Parley.Proofs.Wire.Incoming
import Parley.Proofs.Room.Sizes
import Parley.Proofs.Wire.Bounds
import Parley.Proofs.Roster.Ownership
import Parley.Proofs.Room.Addressing
import Parley.Proofs.Client.Runs
import Parley.Proofs.Client.WriteOrder
import Parley.Proofs.Wire.Tokens
import Parley.Proofs.Manager.Moves
import Parley.Proofs.Manager.Counts
import Parley.Proofs.Room.Turnover
import Parley.Proofs.House.Endings
import Parley.Proofs.Client.Farewell
import Parley.Proofs.Bridge.Mailboxes
import Parley.Proofs.Roster.Marks
import Parley.Proofs.Room.Stays
import Parley.Proofs.Room.Forwarding
import Parley.Proofs.Room.Mailboxes
import Parley.Proofs.Room.Losses
import Parley.Proofs.Room.Recalling
import Parley.Proofs.Room.Visitors
import Parley.Proofs.Roster.Snapshots
import Parley.Proofs.Roster.Touches
import Parley.Proofs.Room.Logoff
import Parley.Proofs.Room.Questions
import Parley.Proofs.Feed.Shutdown
import Parley.Proofs.Room.Accounts
import Parley.Proofs.Room.Elsewhere
import Parley.Proofs.Worker.Life
import Parley.Proofs.Worker.Order
