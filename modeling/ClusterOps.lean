import ClusterOps.Calendar
import ClusterOps.Cause
import ClusterOps.Clock
import ClusterOps.Cloud
import ClusterOps.Cloud.Simulated
import ClusterOps.ClusterDocument
import ClusterOps.ClusterDocument.File
import ClusterOps.CommandLine.Command
import ClusterOps.CommandLine.Complaint
import ClusterOps.CommandLine.Menu
import ClusterOps.CommandLine.Parameter
import ClusterOps.CommandLine.Run
import ClusterOps.CommandLine.Scan
import ClusterOps.Facility
import ClusterOps.Facility.Flag
import ClusterOps.Fanout
import ClusterOps.Files
import ClusterOps.Listing
import ClusterOps.Log
import ClusterOps.Main
import ClusterOps.Number.Binary64
import ClusterOps.Number.Rounding
import ClusterOps.Number.Significant
import ClusterOps.OneShot
import ClusterOps.Outcome
import ClusterOps.Payload
import ClusterOps.Proofs.Clock.Steady
import ClusterOps.Proofs.Cloud.Paged
import ClusterOps.Proofs.Cloud.Simulated
import ClusterOps.Proofs.ClusterDocument.Loading
import ClusterOps.Proofs.ClusterDocument.Sound
import ClusterOps.Proofs.CommandLine.Asks
import ClusterOps.Proofs.CommandLine.Endings
import ClusterOps.Proofs.CommandLine.Plan
import ClusterOps.Proofs.CommandLine.Whereabouts
import ClusterOps.Proofs.CommandLine.Words
import ClusterOps.Proofs.Fanout.Independence
import ClusterOps.Proofs.Fanout.Schedule
import ClusterOps.Proofs.Fanout.Served
import ClusterOps.Proofs.Fanout.Worker
import ClusterOps.Proofs.Fanout.World
import ClusterOps.Proofs.Listing.Chunks
import ClusterOps.Proofs.Number.Nearest
import ClusterOps.Proofs.OneShot.Code
import ClusterOps.Proofs.OneShot.Whereabouts
import ClusterOps.Proofs.Provider.Answers
import ClusterOps.Proofs.Provider.Asks
import ClusterOps.Proofs.Provider.Calls
import ClusterOps.Proofs.Provider.Paging
import ClusterOps.Proofs.Provider.ReadOnly
import ClusterOps.Proofs.Provider.Regions
import ClusterOps.Proofs.Provider.Room
import ClusterOps.Proofs.Provider.Upkeep
import ClusterOps.Proofs.Reconcile.Convergence
import ClusterOps.Proofs.Reconcile.Place
import ClusterOps.Proofs.Reconcile.Returns
import ClusterOps.Proofs.Reconcile.Truthful
import ClusterOps.Proofs.Results
import ClusterOps.Proofs.Settings.Checked
import ClusterOps.Proofs.Tasks.Cutoff
import ClusterOps.Proofs.Tasks.Ends
import ClusterOps.Proofs.Tasks.Fate
import ClusterOps.Proofs.Tasks.Run
import ClusterOps.Proofs.Tasks.Teardown
import ClusterOps.Proofs.Tasks.Timetable
import ClusterOps.Proofs.Text.Decimal
import ClusterOps.Proofs.Wait.Course
import ClusterOps.Proofs.Wait.Exact
import ClusterOps.Proofs.Wait.Room
import ClusterOps.Proofs.Wait.Steady
import ClusterOps.Proofs.Wait.Together
import ClusterOps.Proofs.Wait.Verdict
import ClusterOps.Proofs.Whereabouts
import ClusterOps.Proofs.Yaml.Defects
import ClusterOps.Provider
import ClusterOps.Provider.Listing
import ClusterOps.Reconcile
import ClusterOps.Reconcile.Cluster
import ClusterOps.Records
import ClusterOps.Session
import ClusterOps.Settings
import ClusterOps.Settings.Environment
import ClusterOps.Settings.Grammar
import ClusterOps.Snapshot
import ClusterOps.Surroundings
import ClusterOps.Tasks
import ClusterOps.Tasks.Run
import ClusterOps.Template
import ClusterOps.Text.Blank
import ClusterOps.Text.Case
import ClusterOps.Text.Digit
import ClusterOps.Text.Halves
import ClusterOps.Text.IntLiteral
import ClusterOps.Text.Likeness
import ClusterOps.Text.Printable
import ClusterOps.Text.Quoted
import ClusterOps.Text.Table
import ClusterOps.Text.Terminal
import ClusterOps.Value
import ClusterOps.Value.Json
import ClusterOps.Wait
import ClusterOps.Wait.Family
import ClusterOps.Yaml.Cursor
import ClusterOps.Yaml.Document
import ClusterOps.Yaml.Lexeme
import ClusterOps.Yaml.Node
import ClusterOps.Yaml.Scalar
import ClusterOps.Yaml.Token
import ClusterOps.Yaml.Writer
import ClusterOps.Proofs.ClusterNames
import ClusterOps.Proofs.CommandLine.Upgrade
import ClusterOps.Proofs.Provider.Typed
import ClusterOps.Proofs.Json.Reading
import ClusterOps.Proofs.Yaml.Flow
import ClusterOps.Proofs.Json.Words
import ClusterOps.Proofs.Json.Tokens
import ClusterOps.Proofs.Json.Numbers
import ClusterOps.Proofs.Json.Trees
import ClusterOps.Proofs.ClusterDocument.Json
import ClusterOps.Proofs.Facility.Coverage
import ClusterOps.Proofs.Facility.Stepwise
import ClusterOps.Proofs.Provider.Readback
import ClusterOps.Proofs.Wait.Timeouts
import ClusterOps.Proofs.Listing.Chain
import ClusterOps.Wait.Race
import ClusterOps.Proofs.Wait.Pace
import ClusterOps.Proofs.Wait.Race
import ClusterOps.Fanout.Order
import ClusterOps.Proofs.Fanout.Line
import ClusterOps.Proofs.Fanout.Fair
import ClusterOps.Provider.Sharing
import ClusterOps.Proofs.Provider.Ledger
import ClusterOps.Proofs.Provider.Sharing
import ClusterOps.Proofs.Tasks.InTurn
import ClusterOps.Proofs.Snapshot.Setups
import ClusterOps.Proofs.Tasks.Blame
import ClusterOps.Proofs.Reconcile.Failures
import ClusterOps.Proofs.Tasks.Account
import ClusterOps.Proofs.Facility.Flagged
import ClusterOps.Proofs.Settings.Grammar
import ClusterOps.Proofs.Settings.Rules
import ClusterOps.Proofs.Text.Ascii
import ClusterOps.Proofs.Settings.Names
import ClusterOps.Proofs.Settings.Reading
import ClusterOps.Proofs.Settings.Shadowing
import ClusterOps.Proofs.ClusterDocument.Expansion
import ClusterOps.Proofs.ClusterDocument.Shape
import ClusterOps.Proofs.ClusterDocument.Flaws
import ClusterOps.Proofs.ClusterDocument.Validation
