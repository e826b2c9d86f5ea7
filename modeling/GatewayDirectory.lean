import GatewayDirectory.Cli.Agent
import GatewayDirectory.Cli.Arguments
import GatewayDirectory.Cli.Log
import GatewayDirectory.Cli.Outcome
import GatewayDirectory.Cli.RegistryServer
import GatewayDirectory.Cli.SocketAddress
import GatewayDirectory.Decoding.Basic
import GatewayDirectory.Decoding.Json
import GatewayDirectory.Decoding.Yaml
import GatewayDirectory.Directory.Basic
import GatewayDirectory.Directory.FolderStore
import GatewayDirectory.Directory.Location
import GatewayDirectory.Directory.Remote
import GatewayDirectory.Directory.Store
import GatewayDirectory.Entry
import GatewayDirectory.Event
import GatewayDirectory.Http.Client
import GatewayDirectory.Http.Failure
import GatewayDirectory.Http.Message
import GatewayDirectory.Http.Url
import GatewayDirectory.Instant
import GatewayDirectory.Json.Basic
import GatewayDirectory.Json.Reader
import GatewayDirectory.Json.Token
import GatewayDirectory.Json.Writer
import GatewayDirectory.Main
import GatewayDirectory.Name
import GatewayDirectory.Part
import GatewayDirectory.Proofs.Directory.Calls
import GatewayDirectory.Proofs.Directory.Capacity
import GatewayDirectory.Proofs.Directory.Documents
import GatewayDirectory.Proofs.Directory.FileNames
import GatewayDirectory.Proofs.Directory.Filing
import GatewayDirectory.Proofs.Directory.FolderStore
import GatewayDirectory.Proofs.Directory.History
import GatewayDirectory.Proofs.Directory.Linearization
import GatewayDirectory.Proofs.Directory.Objects
import GatewayDirectory.Proofs.Directory.Serial
import GatewayDirectory.Proofs.Directory.Sharing
import GatewayDirectory.Proofs.Entry
import GatewayDirectory.Proofs.Http.Address
import GatewayDirectory.Proofs.Instant.Calendar
import GatewayDirectory.Proofs.Instant.RoundTrip
import GatewayDirectory.Proofs.Json.RoundTrip
import GatewayDirectory.Proofs.Json.Words
import GatewayDirectory.Proofs.Registry.Addressing
import GatewayDirectory.Proofs.Registry.Front
import GatewayDirectory.Proofs.Registry.Handling
import GatewayDirectory.Proofs.Registry.Interleaving
import GatewayDirectory.Proofs.Registry.Plans
import GatewayDirectory.Proofs.Registry.Remote
import GatewayDirectory.Proofs.Registry.Requests
import GatewayDirectory.Proofs.Registry.Secrecy
import GatewayDirectory.Proofs.Registry.Statuses
import GatewayDirectory.Proofs.Registry.WriteLock
import GatewayDirectory.Proofs.Resolution.Freshness
import GatewayDirectory.Proofs.Resolution.Interleaving
import GatewayDirectory.Proofs.Resolution.Provenance
import GatewayDirectory.Proofs.Resolution.Replication
import GatewayDirectory.Proofs.Resolution.Tiers
import GatewayDirectory.Proofs.Storage.Disk
import GatewayDirectory.Proofs.Storage.FileName
import GatewayDirectory.Proofs.Sync.Accounts
import GatewayDirectory.Proofs.Sync.Alike
import GatewayDirectory.Proofs.Sync.Attempts
import GatewayDirectory.Proofs.Sync.Collected
import GatewayDirectory.Proofs.Sync.Conservation
import GatewayDirectory.Proofs.Sync.Contacts
import GatewayDirectory.Proofs.Sync.Coverage
import GatewayDirectory.Proofs.Sync.DirectSink
import GatewayDirectory.Proofs.Sync.Discovery
import GatewayDirectory.Proofs.Sync.EmptyTokens
import GatewayDirectory.Proofs.Sync.Envelopes
import GatewayDirectory.Proofs.Sync.Fetched
import GatewayDirectory.Proofs.Sync.Grouping
import GatewayDirectory.Proofs.Sync.Independence
import GatewayDirectory.Proofs.Sync.Intake
import GatewayDirectory.Proofs.Sync.Keys
import GatewayDirectory.Proofs.Sync.Listing
import GatewayDirectory.Proofs.Sync.Paging
import GatewayDirectory.Proofs.Sync.Rehearsal
import GatewayDirectory.Proofs.Sync.Schedule
import GatewayDirectory.Proofs.Sync.Selection
import GatewayDirectory.Proofs.Sync.Steps
import GatewayDirectory.Proofs.Sync.Validation
import GatewayDirectory.Proofs.Sync.Visits
import GatewayDirectory.Proofs.Sync.Webhook
import GatewayDirectory.Proofs.Sync.Writes
import GatewayDirectory.Proofs.Text.Bytes
import GatewayDirectory.Proofs.Text.Digits
import GatewayDirectory.Proofs.Text.Percent
import GatewayDirectory.Proofs.Text.Pieces
import GatewayDirectory.Proofs.Timed.Answers
import GatewayDirectory.Proofs.Timed.Commits
import GatewayDirectory.Proofs.Timed.Limits
import GatewayDirectory.Proofs.Timed.Moves
import GatewayDirectory.Proofs.Timed.Parts
import GatewayDirectory.Proofs.Timed.Reports
import GatewayDirectory.Proofs.Timed.Turns
import GatewayDirectory.Registry.Authorization
import GatewayDirectory.Registry.Route
import GatewayDirectory.Registry.Service
import GatewayDirectory.Resolution.Cache
import GatewayDirectory.Resolution.Client
import GatewayDirectory.Storage.Disk
import GatewayDirectory.Storage.Folder
import GatewayDirectory.Storage.OsError
import GatewayDirectory.Sync.Account
import GatewayDirectory.Sync.Credential
import GatewayDirectory.Sync.Cycle
import GatewayDirectory.Sync.Envelope
import GatewayDirectory.Sync.Inventory
import GatewayDirectory.Sync.Item
import GatewayDirectory.Sync.Pipeline
import GatewayDirectory.Sync.Schedule
import GatewayDirectory.Sync.Settings
import GatewayDirectory.Sync.Sink
import GatewayDirectory.Table
import GatewayDirectory.Text.Blank
import GatewayDirectory.Text.Decimal
import GatewayDirectory.Text.Percent
import GatewayDirectory.Text.Quoted
import GatewayDirectory.Text.Unseen
import GatewayDirectory.Text.Utf8
import GatewayDirectory.Timed
import GatewayDirectory.Timed.Pool
import GatewayDirectory.Yaml.Cursor
import GatewayDirectory.Yaml.Node
import GatewayDirectory.Yaml.Scalar
import GatewayDirectory.Yaml.Token
