import ManagedQueue.Table
import ManagedQueue.Table.Lemmas
import ManagedQueue.Text.Blank
import ManagedQueue.Text.Bytes
import ManagedQueue.Text.Concealed
import ManagedQueue.Text.Decimal
import ManagedQueue.Text.Quoted
import ManagedQueue.Text.Style
import ManagedQueue.Calendar
import ManagedQueue.Json.Basic
import ManagedQueue.Json.Token
import ManagedQueue.Json.Reader
import ManagedQueue.Json.Writer
import ManagedQueue.Json.Access
import ManagedQueue.Toml.Basic
import ManagedQueue.Toml.Scalar
import ManagedQueue.Toml.Token
import ManagedQueue.Toml.Tree
import ManagedQueue.Toml.Reader
import ManagedQueue.Name
import ManagedQueue.Window
import ManagedQueue.Failure
import ManagedQueue.Journal
import ManagedQueue.Guarded
import ManagedQueue.Registry
import ManagedQueue.Metadata
import ManagedQueue.Transport
import ManagedQueue.Metrics
import ManagedQueue.Backend
import ManagedQueue.StateFile
import ManagedQueue.Site
import ManagedQueue.Report
import ManagedQueue.Report.Format
import ManagedQueue.Report.Text
import ManagedQueue.Report.Presentation
import ManagedQueue.Operation
import ManagedQueue.Lifecycle
import ManagedQueue.Groups
import ManagedQueue.Volume
import ManagedQueue.Service
import ManagedQueue.Request
import ManagedQueue.Direct
import ManagedQueue.Event
import ManagedQueue.Server
import ManagedQueue.Logging.Level
import ManagedQueue.Logging.Filter
import ManagedQueue.Logging.Line
import ManagedQueue.CommandLine.Command
import ManagedQueue.CommandLine.Grammar
import ManagedQueue.CommandLine.Form
import ManagedQueue.CommandLine.Reader
import ManagedQueue.CommandLine.Writer
import ManagedQueue.Configuration
import ManagedQueue.Program.Error
import ManagedQueue.Program.Files
import ManagedQueue.Program.Surroundings
import ManagedQueue.Program.Dispatch
import ManagedQueue.Program.Execute
import ManagedQueue.Program.Run
import ManagedQueue.Main
import ManagedQueue.Proofs.Glance
import ManagedQueue.Proofs.Footprints
import ManagedQueue.Proofs.QueueWrites
import ManagedQueue.Proofs.MessageTasks
import ManagedQueue.Proofs.ReceiveStages
import ManagedQueue.Proofs.HostMoves
import ManagedQueue.Proofs.LockOrder
import ManagedQueue.Proofs.SessionTable
import ManagedQueue.Proofs.SessionGrowth
import ManagedQueue.Proofs.SessionDeeds
import ManagedQueue.Proofs.OneConstruction
import ManagedQueue.Proofs.LiveSessions
import ManagedQueue.Proofs.QueueStanding
import ManagedQueue.Proofs.MessageFeed
import ManagedQueue.Proofs.Evolution
import ManagedQueue.Proofs.Happenings
import ManagedQueue.Proofs.DeliveryOrder
import ManagedQueue.Proofs.SavedState
import ManagedQueue.Proofs.Recreation
import ManagedQueue.Proofs.SavedFeed
import ManagedQueue.Proofs.Wakeups
import ManagedQueue.Proofs.BlockedReceive
import ManagedQueue.Proofs.LockRelease
import ManagedQueue.Proofs.RecordChanges
import ManagedQueue.Proofs.CountedEvents
import ManagedQueue.Proofs.ArgumentChecks
import ManagedQueue.Proofs.FailedOperations
import ManagedQueue.Proofs.GroupAccess
import ManagedQueue.Proofs.Buckets
import ManagedQueue.Proofs.VolumeCounts
import ManagedQueue.Proofs.JsonText
import ManagedQueue.Proofs.SnapshotText
import ManagedQueue.Proofs.LikeSites
import ManagedQueue.Proofs.IdleHosts
import ManagedQueue.Proofs.LikeHosts
import ManagedQueue.Proofs.StateFiles
import ManagedQueue.Proofs.StateFileRuns
import ManagedQueue.Proofs.MissingParts
import ManagedQueue.Proofs.FailedCommands
import ManagedQueue.Proofs.GuardedStateFile
import ManagedQueue.Proofs.RecordIndexes
import ManagedQueue.Proofs.RecordViews
import ManagedQueue.Proofs.RecordAgreement
import ManagedQueue.Proofs.QueueShares
import ManagedQueue.Proofs.LocalOperations
import ManagedQueue.Proofs.QueueSessions
import ManagedQueue.Proofs.SeparateQueues
import ManagedQueue.Proofs.BucketWidths
import ManagedQueue.Proofs.StoreDifferences
import ManagedQueue.Proofs.ClosedSessions
import ManagedQueue.Proofs.StaleTopics
import ManagedQueue.Proofs.PlaceInLine
import ManagedQueue.Proofs.FreshSessions
import ManagedQueue.Proofs.ReleasedReceives
import ManagedQueue.Proofs.SessionKeys
import ManagedQueue.Proofs.DriftingIndexes
import ManagedQueue.Proofs.AnswerText
import ManagedQueue.Proofs.ArgumentLists
import ManagedQueue.Proofs.CachedNames
import ManagedQueue.Proofs.TopicNumbers
