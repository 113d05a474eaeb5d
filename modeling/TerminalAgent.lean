import TerminalAgent.Agent.Basic
import TerminalAgent.Agent.Error
import TerminalAgent.Binary64.Basic
import TerminalAgent.Binary64.Decimal
import TerminalAgent.Bytes
import TerminalAgent.CommandLine.Execution
import TerminalAgent.CommandLine.Grammar
import TerminalAgent.CommandLine.Help
import TerminalAgent.CommandLine.Invocation
import TerminalAgent.CommandLine.UsageError
import TerminalAgent.Config.Basic
import TerminalAgent.Config.Check
import TerminalAgent.Config.File
import TerminalAgent.Config.Format
import TerminalAgent.Connection.Backoff
import TerminalAgent.Connection.Dependency
import TerminalAgent.Connection.Error
import TerminalAgent.Connection.FramePump
import TerminalAgent.Connection.Heartbeat
import TerminalAgent.Connection.InProcess
import TerminalAgent.Connection.Service
import TerminalAgent.Connection.Supervisor
import TerminalAgent.Connection.WebSocket
import TerminalAgent.Connection.WebSocketSettings
import TerminalAgent.Console.Basic
import TerminalAgent.Console.Command
import TerminalAgent.Console.Expansion
import TerminalAgent.Console.Launch
import TerminalAgent.Console.Program
import TerminalAgent.Console.Run
import TerminalAgent.Console.Script
import TerminalAgent.Console.Terminal
import TerminalAgent.Duration
import TerminalAgent.Environment
import TerminalAgent.Frame.Codec
import TerminalAgent.Lz4.Block
import TerminalAgent.Lz4.Compressor
import TerminalAgent.Main
import TerminalAgent.Message.Basic
import TerminalAgent.Message.Error
import TerminalAgent.Message.ErrorBody
import TerminalAgent.Message.Wire
import TerminalAgent.MessagePack.Format
import TerminalAgent.MessagePack.Marker
import TerminalAgent.MessagePack.ReadError
import TerminalAgent.MessagePack.Record
import TerminalAgent.MessagePack.Token
import TerminalAgent.MessagePack.Writer
import TerminalAgent.Network.Isolated
import TerminalAgent.Network.SocketAddress
import TerminalAgent.Playback.Server
import TerminalAgent.Playback.Service
import TerminalAgent.Playback.Target
import TerminalAgent.Proofs.Agent.Restarting
import TerminalAgent.Proofs.Agent.Running
import TerminalAgent.Proofs.Config.Checks
import TerminalAgent.Proofs.Config.Numbers
import TerminalAgent.Proofs.Config.RoundTrip
import TerminalAgent.Proofs.Connection.Backoff
import TerminalAgent.Proofs.Connection.FramePump
import TerminalAgent.Proofs.Connection.GivingUp
import TerminalAgent.Proofs.Connection.Heartbeats
import TerminalAgent.Proofs.Connection.Live
import TerminalAgent.Proofs.Connection.Safety
import TerminalAgent.Proofs.Connection.Sequence
import TerminalAgent.Proofs.Connection.Supervisor
import TerminalAgent.Proofs.Frame.Headers
import TerminalAgent.Proofs.Frame.Iteration
import TerminalAgent.Proofs.Frame.Portions
import TerminalAgent.Proofs.Frame.Reencoding
import TerminalAgent.Proofs.Frame.RoundTrip
import TerminalAgent.Proofs.Lz4.Compression
import TerminalAgent.Proofs.Lz4.Expansion
import TerminalAgent.Proofs.Lz4.Growth
import TerminalAgent.Proofs.Message.Building
import TerminalAgent.Proofs.Message.ErrorBody
import TerminalAgent.Proofs.Message.PropertyValues
import TerminalAgent.Proofs.Message.RoundTrip
import TerminalAgent.Proofs.Message.Spellings
import TerminalAgent.Proofs.Message.Tags
import TerminalAgent.Proofs.Message.Truncation
import TerminalAgent.Proofs.Message.TwoReaders
import TerminalAgent.Proofs.MessagePack.Bounds
import TerminalAgent.Proofs.MessagePack.Following
import TerminalAgent.Proofs.MessagePack.Passing
import TerminalAgent.Proofs.MessagePack.Reading
import TerminalAgent.Proofs.MessagePack.Seeking
import TerminalAgent.Proofs.MessagePack.Spellings
import TerminalAgent.Proofs.MessagePack.Truncation
import TerminalAgent.Proofs.Outcomes
import TerminalAgent.Proofs.Playback.Coverage
import TerminalAgent.Proofs.Playback.Listing
import TerminalAgent.Proofs.Playback.Serving
import TerminalAgent.Proofs.Playback.Streaming
import TerminalAgent.Proofs.Playback.Targets
import TerminalAgent.Proofs.Recording.Confinement
import TerminalAgent.Proofs.Recording.Contract
import TerminalAgent.Proofs.Recording.CrashRecovery
import TerminalAgent.Proofs.Recording.Damage
import TerminalAgent.Proofs.Recording.Directory
import TerminalAgent.Proofs.Recording.FileNames
import TerminalAgent.Proofs.Recording.Interchange
import TerminalAgent.Proofs.Recording.Ledger
import TerminalAgent.Proofs.Recording.Log
import TerminalAgent.Proofs.Recording.Ownership
import TerminalAgent.Proofs.Recording.Permanence
import TerminalAgent.Proofs.Recording.Recorder
import TerminalAgent.Proofs.Recording.Stores
import TerminalAgent.Proofs.Router.Account
import TerminalAgent.Proofs.Router.Answers
import TerminalAgent.Proofs.Router.Attended
import TerminalAgent.Proofs.Router.Ending
import TerminalAgent.Proofs.Router.ErrorReplies
import TerminalAgent.Proofs.Router.Failures
import TerminalAgent.Proofs.Router.Follows
import TerminalAgent.Proofs.Router.Live
import TerminalAgent.Proofs.Router.Moves
import TerminalAgent.Proofs.Router.Narration
import TerminalAgent.Proofs.Router.Order
import TerminalAgent.Proofs.Router.Replies
import TerminalAgent.Proofs.Router.Requests
import TerminalAgent.Proofs.Router.Schedule
import TerminalAgent.Proofs.Router.Sequence
import TerminalAgent.Proofs.Router.Tended
import TerminalAgent.Proofs.Router.TerminalSize
import TerminalAgent.Proofs.Session.Attendance
import TerminalAgent.Proofs.Session.Calls
import TerminalAgent.Proofs.Session.Delivery
import TerminalAgent.Proofs.Session.Drained
import TerminalAgent.Proofs.Session.Fanout
import TerminalAgent.Proofs.Session.Live
import TerminalAgent.Proofs.Session.Retirement
import TerminalAgent.Proofs.SortedMap
import TerminalAgent.Proofs.Storage.Disk
import TerminalAgent.Proofs.Storage.FileTree
import TerminalAgent.Proofs.Storage.Path
import TerminalAgent.Proofs.Storage.Volume
import TerminalAgent.Proofs.Text.ByteOrder
import TerminalAgent.Proofs.Text.Characters
import TerminalAgent.Proofs.Toml.Contents
import TerminalAgent.Proofs.Toml.Keys
import TerminalAgent.Proofs.Toml.Lines
import TerminalAgent.Proofs.Toml.Numbers
import TerminalAgent.Proofs.Toml.QuotedText
import TerminalAgent.Proofs.Toml.Readers
import TerminalAgent.Proofs.Toml.Sections
import TerminalAgent.Proofs.Toml.Values
import TerminalAgent.Proofs.Url.Lengths
import TerminalAgent.Proofs.Url.Parts
import TerminalAgent.Proofs.Url.Queries
import TerminalAgent.Proofs.Url.References
import TerminalAgent.Recording.Archive
import TerminalAgent.Recording.Chunk
import TerminalAgent.Recording.DirectoryLock
import TerminalAgent.Recording.FaultyStore
import TerminalAgent.Recording.FileStore
import TerminalAgent.Recording.Key
import TerminalAgent.Recording.Log
import TerminalAgent.Recording.MemoryStore
import TerminalAgent.Recording.Recorder
import TerminalAgent.Recording.RecordingStore
import TerminalAgent.Recording.StoreError
import TerminalAgent.Router.Basic
import TerminalAgent.Router.Error
import TerminalAgent.Session.Error
import TerminalAgent.Session.Fanout
import TerminalAgent.Session.Host
import TerminalAgent.Session.Id
import TerminalAgent.Session.Output
import TerminalAgent.Session.Pty
import TerminalAgent.Session.Registry
import TerminalAgent.Session.Running
import TerminalAgent.Session.ShellSpec
import TerminalAgent.Session.Transcript
import TerminalAgent.SortedMap
import TerminalAgent.Storage.FileTree
import TerminalAgent.Storage.Path
import TerminalAgent.Storage.Volume
import TerminalAgent.Text.Blank
import TerminalAgent.Text.Printable
import TerminalAgent.Text.Quoted
import TerminalAgent.Text.Similarity
import TerminalAgent.Text.Utf8
import TerminalAgent.Toml.Datetime
import TerminalAgent.Toml.Decode
import TerminalAgent.Toml.Document
import TerminalAgent.Toml.Fault
import TerminalAgent.Toml.Item
import TerminalAgent.Toml.Number
import TerminalAgent.Toml.Printer
import TerminalAgent.Toml.Reader
import TerminalAgent.Toml.Text
import TerminalAgent.Toml.Value
import TerminalAgent.Url.Host
import TerminalAgent.Url.Parse
import TerminalAgent.Url.Percent
import TerminalAgent.Url.Punycode
import TerminalAgent.Url.Query
import TerminalAgent.Url.Text
