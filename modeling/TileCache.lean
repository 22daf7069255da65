import TileCache.Admin.Arguments
import TileCache.Admin.Command
import TileCache.Admin.Run
import TileCache.Admin.Session
import TileCache.Backend
import TileCache.Bucket
import TileCache.Bucket.Plan
import TileCache.BulkDelete
import TileCache.Config
import TileCache.Config.Environment
import TileCache.Config.Record
import TileCache.Config.Yaml
import TileCache.Directory
import TileCache.Environment
import TileCache.Environment.File
import TileCache.Error
import TileCache.Format
import TileCache.Json
import TileCache.Json.Reader
import TileCache.Json.Record
import TileCache.Key
import TileCache.Key.Segment
import TileCache.Layout
import TileCache.Listener
import TileCache.Listener.Roster
import TileCache.Main
import TileCache.Properties
import TileCache.SortedMap
import TileCache.Store
import TileCache.Store.Operation
import TileCache.Text.Blank
import TileCache.Text.Numeral
import TileCache.Text.Printable
import TileCache.Text.Quoted
import TileCache.Text.Utf8
import TileCache.Tile
import TileCache.Tile.Record
import TileCache.Tile.Sample
import TileCache.Yaml
import TileCache.Yaml.Block
import TileCache.Yaml.Cursor
import TileCache.Yaml.Flow
import TileCache.Yaml.Scalar
import TileCache.Proofs.SortedMap
import TileCache.Proofs.Numeral
import TileCache.Proofs.Utf8
import TileCache.Proofs.Properties
import TileCache.Proofs.Segment
import TileCache.Proofs.Key
import TileCache.Proofs.Layout
import TileCache.Proofs.Subtree
import TileCache.Proofs.Matching
import TileCache.Proofs.Requests
import TileCache.Proofs.Bucket
import TileCache.Proofs.BulkDelete
import TileCache.Proofs.OperationRequests
import TileCache.Proofs.Effect
import TileCache.Proofs.Catalogue
import TileCache.Proofs.Dispatch
import TileCache.Proofs.Refinement
import TileCache.Proofs.Bytes
import TileCache.Proofs.Ledger
import TileCache.Proofs.Batches
import TileCache.Proofs.LayerDeletion
import TileCache.Proofs.Retries
import TileCache.Proofs.Announcements
import TileCache.Proofs.CallRequests
import TileCache.Proofs.TileRequests
import TileCache.Proofs.Atomicity
import TileCache.Proofs.Confinement
import TileCache.Proofs.LayerIsolation
import TileCache.Proofs.Truthfulness
import TileCache.Proofs.Registry
import TileCache.Proofs.Verdicts
import TileCache.Proofs.CallerErrors
import TileCache.Proofs.Shutdown
import TileCache.Proofs.Lockstep
import TileCache.Proofs.Indifference
import TileCache.Proofs.Timeline
import TileCache.Proofs.QuietFailures
import TileCache.Proofs.MetadataWrites
import TileCache.Proofs.Utf8Append
import TileCache.Proofs.MetadataLines
import TileCache.Proofs.HandWritten
import TileCache.Proofs.Settlement
import TileCache.Proofs.Journal
import TileCache.Proofs.TileCounters
import TileCache.Proofs.BulkCounter
import TileCache.Proofs.EnvironmentSettings
import TileCache.Proofs.Secrets
import TileCache.Proofs.JsonTokens
import TileCache.Proofs.JsonGrammar
import TileCache.Proofs.JsonRecords
import TileCache.Proofs.Serialization
import TileCache.Proofs.Commands
import TileCache.Proofs.Inspection
import TileCache.Proofs.Removals
import TileCache.Proofs.Directory
import TileCache.Proofs.AdminSession
import TileCache.Proofs.AdminOutcome
import TileCache.Proofs.DistinctTiles
import TileCache.Proofs.SampleTiles
