import Parley.Connection.Backlog
import Parley.Connection.Channel
import Parley.Connection.Client
import Parley.Connection.Controller
import Parley.Connection.Phase
import Parley.Connection.State
import Parley.Connection.Strands
import Parley.Connection.Watch
import Parley.Connection.Writer
import Parley.Files.Tree
import Parley.Json.Decoder
import Parley.Json.Embedding
import Parley.Json.Printer
import Parley.Json.Reader
import Parley.Json.Skip
import Parley.Json.Value
import Parley.Main
import Parley.Number.Binary64
import Parley.Number.Shortest
import Parley.Number.Word
import Parley.Observer.Dispatch
import Parley.Observer.Roster
import Parley.Observer.Rounds
import Parley.Proofs.Client.Moments
import Parley.Proofs.Connection.Alternation
import Parley.Proofs.Connection.Appearance
import Parley.Proofs.Connection.Attempts
import Parley.Proofs.Connection.Conversation
import Parley.Proofs.Connection.Countdown
import Parley.Proofs.Connection.Course
import Parley.Proofs.Connection.Credentials
import Parley.Proofs.Connection.Deadlines
import Parley.Proofs.Connection.Deeds
import Parley.Proofs.Connection.Delivery
import Parley.Proofs.Connection.Endings
import Parley.Proofs.Connection.Failures
import Parley.Proofs.Connection.Fates
import Parley.Proofs.Connection.Frames
import Parley.Proofs.Connection.Halting
import Parley.Proofs.Connection.Ledger
import Parley.Proofs.Connection.Listening
import Parley.Proofs.Connection.Mirrors
import Parley.Proofs.Connection.Moves
import Parley.Proofs.Connection.Notices
import Parley.Proofs.Connection.Polling
import Parley.Proofs.Connection.Publication
import Parley.Proofs.Connection.Redialling
import Parley.Proofs.Connection.Renaming
import Parley.Proofs.Connection.Resources
import Parley.Proofs.Connection.Run
import Parley.Proofs.Connection.Schedules
import Parley.Proofs.Connection.Stories
import Parley.Proofs.Connection.Strands
import Parley.Proofs.Connection.Succession
import Parley.Proofs.Connection.Timekeeping
import Parley.Proofs.Files.Tree
import Parley.Proofs.Json.Agreement
import Parley.Proofs.Json.Grammar
import Parley.Proofs.Json.Indented
import Parley.Proofs.Json.Lockstep
import Parley.Proofs.Json.Objects
import Parley.Proofs.Json.Readings
import Parley.Proofs.Json.Records
import Parley.Proofs.Json.Scalars
import Parley.Proofs.Json.Settling
import Parley.Proofs.Json.Skip
import Parley.Proofs.Json.Spelling
import Parley.Proofs.Json.Trees
import Parley.Proofs.Json.Views
import Parley.Proofs.Observer.Dispatch
import Parley.Proofs.Observer.Rounds
import Parley.Proofs.Settings.Chat
import Parley.Proofs.Settings.Delays
import Parley.Proofs.Settings.Endpoint
import Parley.Proofs.Settings.Overlay
import Parley.Proofs.Settings.Target
import Parley.Proofs.Terminal.Arguments
import Parley.Proofs.Terminal.Entry
import Parley.Proofs.Terminal.Image
import Parley.Proofs.Terminal.Session
import Parley.Proofs.Terminal.Transcript
import Parley.Proofs.Terminal.Vigil
import Parley.Proofs.Text.Ascii
import Parley.Proofs.Text.Base64
import Parley.Proofs.Text.Blank
import Parley.Proofs.Text.Utf8
import Parley.Proofs.Token.Calendar
import Parley.Proofs.Token.Deposit
import Parley.Proofs.Token.Moment
import Parley.Proofs.Token.Shelf
import Parley.Proofs.Toml.Documents
import Parley.Proofs.Toml.Scalars
import Parley.Proofs.Toml.Strings
import Parley.Proofs.Url.Authority
import Parley.Proofs.Url.Form
import Parley.Proofs.Url.Parts
import Parley.Proofs.Wire.Packets
import Parley.Proofs.Wire.Reading
import Parley.Proofs.Wire.Refusals
import Parley.Proofs.Wire.Requests
import Parley.Proofs.Wire.Views
import Parley.Settings.Backoff
import Parley.Settings.Chat
import Parley.Settings.Client
import Parley.Settings.Endpoint
import Parley.Terminal.Arguments
import Parley.Terminal.Entry
import Parley.Terminal.Identifier
import Parley.Terminal.Image
import Parley.Terminal.Rendering
import Parley.Terminal.Session
import Parley.Terminal.TokenSource
import Parley.Terminal.Transcript
import Parley.Terminal.Vigil
import Parley.Text.Ascii
import Parley.Text.Base64
import Parley.Text.Blank
import Parley.Text.CodeRanges
import Parley.Text.Utf8
import Parley.Token.Basic
import Parley.Token.Moment
import Parley.Token.Shelf
import Parley.Token.Store
import Parley.Toml.Reader
import Parley.Toml.Scalar
import Parley.Toml.Value
import Parley.Toml.Writer
import Parley.Url.Basic
import Parley.Url.Domain
import Parley.Url.Domain.Capitals
import Parley.Url.Domain.Composition
import Parley.Url.Domain.Direction
import Parley.Url.Domain.Folding
import Parley.Url.Domain.Joiner
import Parley.Url.Domain.Marks
import Parley.Url.Domain.Refused
import Parley.Url.Domain.Substitutes
import Parley.Url.Form
import Parley.Url.Host
import Parley.Url.Percent
import Parley.Url.Punycode
import Parley.Wire.Arrival
import Parley.Wire.CloseCode
import Parley.Wire.Packet
import Parley.Wire.Request
