import Fleet.Activity.Basic
import Fleet.Activity.Deadline
import Fleet.Activity.Gathered
import Fleet.Activity.Together
import Fleet.Address.Basic
import Fleet.Address.Text
import Fleet.Clock
import Fleet.Config.Client
import Fleet.Config.Discovery
import Fleet.Config.EnvironmentValue
import Fleet.Config.Error
import Fleet.Config.Layer
import Fleet.Config.Load
import Fleet.Config.OtherFormats
import Fleet.Config.Quoted
import Fleet.Config.Service
import Fleet.Config.Setting
import Fleet.Config.SettingsFile
import Fleet.Config.SettingsFile.Number
import Fleet.Config.SettingsFile.Outline
import Fleet.Config.SettingsFile.Value
import Fleet.Document.Catalog
import Fleet.Document.Config
import Fleet.Document.Node
import Fleet.Document.Rehearsal
import Fleet.Document.Scaleway
import Fleet.Document.Script
import Fleet.Document.Service
import Fleet.Document.Template
import Fleet.Document.Time
import Fleet.Duration
import Fleet.Files.Entry
import Fleet.Files.Host
import Fleet.Files.Path
import Fleet.Files.Tree
import Fleet.Identifier
import Fleet.Json.Basic
import Fleet.Json.Fields
import Fleet.Json.Order
import Fleet.Json.Parser
import Fleet.Json.Printer
import Fleet.Json.Record
import Fleet.Location.Basic
import Fleet.Location.Registry
import Fleet.Memory.Account
import Fleet.Memory.Catalog
import Fleet.Memory.History
import Fleet.Memory.Provider
import Fleet.Node.Basic
import Fleet.Node.Credentials
import Fleet.Node.State
import Fleet.Proofs.Activity.Focus
import Fleet.Proofs.Activity.Group
import Fleet.Proofs.Activity.Instant
import Fleet.Proofs.Activity.Interference
import Fleet.Proofs.Activity.Map
import Fleet.Proofs.Activity.Moment
import Fleet.Proofs.Activity.Safety
import Fleet.Proofs.Location.Registered
import Fleet.Proofs.Memory.Batch
import Fleet.Proofs.Memory.Booting
import Fleet.Proofs.Memory.Consistency
import Fleet.Proofs.Memory.Countdown
import Fleet.Proofs.Memory.Demolition
import Fleet.Proofs.Memory.Numbering
import Fleet.Proofs.Memory.Operation
import Fleet.Proofs.Memory.Orders
import Fleet.Proofs.Memory.Placement
import Fleet.Proofs.Memory.Refusal
import Fleet.Proofs.Memory.Remembered
import Fleet.Proofs.Retry.Polling
import Fleet.Proofs.Retry.Rounds
import Fleet.Proofs.Script.Blame
import Fleet.Proofs.Script.Recorded
import Fleet.Proofs.Script.Sessions
import Fleet.Proofs.Service.BringUp
import Fleet.Proofs.Service.Destruction
import Fleet.Proofs.Service.Looks
import Fleet.Proofs.Service.MemoryBatch
import Fleet.Proofs.Service.MemoryDestruction
import Fleet.Proofs.Service.MemoryInspection
import Fleet.Proofs.Service.Recorded
import Fleet.Proofs.Service.Rejection
import Fleet.Proofs.Service.Report
import Fleet.Proofs.Service.Sorting
import Fleet.Proofs.Service.Watching
import Fleet.Proofs.Table
import Fleet.Proofs.Template.ByImage
import Fleet.Proofs.Template.Choice
import Fleet.Proofs.Template.Newest
import Fleet.Proofs.Template.Resolution
import Fleet.Provider.Basic
import Fleet.Provider.Failure
import Fleet.Rehearsal.Host.Program
import Fleet.Rehearsal.Host.Runner
import Fleet.Rehearsal.Host.Shell
import Fleet.Rehearsal.Hosting
import Fleet.Rehearsal.Network
import Fleet.Rehearsal.Provider
import Fleet.Rehearsal.Runner
import Fleet.Rehearsal.Wire
import Fleet.Rehearsal.World
import Fleet.Results
import Fleet.Retry.Attempts
import Fleet.Retry.Poll
import Fleet.Scaleway.Api
import Fleet.Scaleway.Backend
import Fleet.Scaleway.Config
import Fleet.Scaleway.Error
import Fleet.Scaleway.Label
import Fleet.Scaleway.Offer
import Fleet.Scaleway.Payload
import Fleet.Scaleway.Server
import Fleet.Scaleway.Wire
import Fleet.Script.Command
import Fleet.Script.Failure
import Fleet.Script.Options
import Fleet.Script.Recorded
import Fleet.Script.Run
import Fleet.Service.Basic
import Fleet.Service.Batch
import Fleet.Service.BringUp
import Fleet.Service.CatalogCache
import Fleet.Service.Error
import Fleet.Service.Inspect
import Fleet.Service.Recorded
import Fleet.Service.Scripts
import Fleet.Service.Settle
import Fleet.Session.Basic
import Fleet.Session.Client
import Fleet.Table
import Fleet.Template.Basic
import Fleet.Template.Catalog
import Fleet.Template.Criteria
import Fleet.Template.Options
import Fleet.Template.System
import Fleet.Template.Version
import Fleet.Text.Blank
import Fleet.Text.Decimal
import Fleet.Text.Digit
import Fleet.Text.Letters
import Fleet.Text.Lossy
import Fleet.Text.Quoted
import Fleet.Text.Search
import Fleet.Text.ShellWord
import Fleet.Text.Unprintable
import Fleet.Token
import Fleet.Proofs.Location.Lineage
import Fleet.Proofs.Retry.Schedule
import Fleet.Proofs.Retry.Budget
import Fleet.Proofs.Retry.Timetable
import Fleet.Proofs.Activity.Conduct
import Fleet.Proofs.Activity.Isolation
import Fleet.Proofs.Script.SideBySide
import Fleet.Proofs.Rehearsal.CommandLine
import Fleet.Proofs.Rehearsal.Scripts
import Fleet.Proofs.Location.Assembly
import Fleet.Proofs.Location.Walk
import Fleet.Proofs.Scaleway.Labels
import Fleet.Proofs.Scaleway.Ownership
import Fleet.Proofs.Scaleway.Zone
import Fleet.Proofs.Activity.Lock
import Fleet.Proofs.Service.CatalogTurns
import Fleet.Proofs.Service.CatalogHistory
import Fleet.Proofs.Activity.Abiding
import Fleet.Scaleway.Recorded
import Fleet.Proofs.Scaleway.Recorded
import Fleet.Proofs.Scaleway.Pages
import Fleet.Proofs.Activity.Desk
import Fleet.Proofs.Activity.Echo
import Fleet.Proofs.Scaleway.Creation
import Fleet.Proofs.Scaleway.Logins
import Fleet.Proofs.Scaleway.Interventions
import Fleet.Proofs.Memory.Strangers
import Fleet.Proofs.Session.Dialogue
import Fleet.Proofs.Session.Wording
import Fleet.Proofs.Service.AnswersInTurn
import Fleet.Proofs.Service.Rebooting
import Fleet.Proofs.Service.FirstScript
import Fleet.Proofs.Activity.Noted
import Fleet.Proofs.Script.LoginRule
import Fleet.Proofs.Script.Attempts
import Fleet.Proofs.Service.Logins
import Fleet.Proofs.Node.Order
import Fleet.Proofs.Config.Validity
import Fleet.Proofs.Script.ShellLine
import Fleet.Proofs.Script.HereDocument
import Fleet.Proofs.Retry.Series
import Fleet.Proofs.Script.CommandRuns
import Fleet.Proofs.Script.Verification
import Fleet.Proofs.Session.ClientArguments
import Fleet.Proofs.Location.SearchOrder
import Fleet.Proofs.Template.NumericVersions
import Fleet.Proofs.Retry.Counting
