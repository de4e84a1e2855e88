import Amanuensis.Binary64.Basic
import Amanuensis.Binary64.Text
import Amanuensis.Client.Error
import Amanuensis.Client.Request
import Amanuensis.CommandLine
import Amanuensis.CommandLine.Live
import Amanuensis.Duration
import Amanuensis.Failure
import Amanuensis.Generation.Document
import Amanuensis.Generation.Image
import Amanuensis.Generation.Order
import Amanuensis.Http.Exchange
import Amanuensis.Http.Frame
import Amanuensis.Http.Message
import Amanuensis.Http.Status
import Amanuensis.Invocation.Audit
import Amanuensis.Invocation.Call
import Amanuensis.Invocation.Context
import Amanuensis.Json.Basic
import Amanuensis.Json.Reader
import Amanuensis.Json.Token
import Amanuensis.Json.Writer
import Amanuensis.Main
import Amanuensis.Match.Route
import Amanuensis.Match.Score
import Amanuensis.Match.Token
import Amanuensis.Match.Trigger
import Amanuensis.Research.Backoff
import Amanuensis.Research.Inquiry
import Amanuensis.Research.Job
import Amanuensis.Research.Poll
import Amanuensis.Research.Report
import Amanuensis.Research.Study
import Amanuensis.Settings.Basic
import Amanuensis.Settings.Files
import Amanuensis.Settings.Load
import Amanuensis.Settings.Place
import Amanuensis.Settings.Value
import Amanuensis.Shutdown
import Amanuensis.Task.Moment
import Amanuensis.Task.Move
import Amanuensis.Task.Run
import Amanuensis.Text.Base64
import Amanuensis.Text.Blank
import Amanuensis.Text.Combining
import Amanuensis.Text.Composition
import Amanuensis.Text.Letter
import Amanuensis.Text.Lowercase
import Amanuensis.Text.Mark
import Amanuensis.Text.Numeral
import Amanuensis.Text.Quoted
import Amanuensis.Text.Ranges
import Amanuensis.Text.Runs
import Amanuensis.Toml.Basic
import Amanuensis.Toml.Document
import Amanuensis.Toml.Number
import Amanuensis.Toml.Table
import Amanuensis.Toml.Text
import Amanuensis.Toml.Time
import Amanuensis.Tool.Basic
import Amanuensis.Tool.Handler
import Amanuensis.Tool.Output
import Amanuensis.Tool.Registry
import Amanuensis.Tool.Routine
import Amanuensis.Tool.Schema
import Amanuensis.Tool.Store
import Amanuensis.Toolbox.Catalog
import Amanuensis.Toolbox.Handlers
import Amanuensis.Url.Basic
import Amanuensis.Url.Domain.Direction
import Amanuensis.Url.Domain.Expansions
import Amanuensis.Url.Domain.Images
import Amanuensis.Url.Domain.Joining
import Amanuensis.Url.Domain.Mapping
import Amanuensis.Url.Domain.Name
import Amanuensis.Url.Domain.Refused
import Amanuensis.Url.Host
import Amanuensis.Url.Percent
import Amanuensis.Url.Punycode
import Amanuensis.Wire.Decode
import Amanuensis.Proofs.Task.Clock
import Amanuensis.Proofs.Task.Calm
import Amanuensis.Proofs.Research.Interval
import Amanuensis.Proofs.Research.Counts
import Amanuensis.Proofs.Research.Slot
import Amanuensis.Proofs.Research.PollRun
import Amanuensis.Proofs.Research.Outcome
import Amanuensis.Proofs.Research.Schedule
import Amanuensis.Proofs.Task.Truncation
import Amanuensis.Proofs.Task.Interruption
import Amanuensis.Proofs.Research.Cancellation
import Amanuensis.Proofs.Research.Ledger
import Amanuensis.Proofs.Research.Budget
import Amanuensis.Proofs.Research.Pace
import Amanuensis.Proofs.Invocation.Course
import Amanuensis.Proofs.Invocation.Loan
import Amanuensis.Proofs.Task.Invariant
import Amanuensis.Proofs.Task.Placement
import Amanuensis.Proofs.Task.Race
import Amanuensis.Proofs.Invocation.Lifecycle
import Amanuensis.Proofs.Invocation.FirstToSettle
import Amanuensis.Proofs.Failure
import Amanuensis.Proofs.Research.Keeping
import Amanuensis.Proofs.Research.StudyRun
import Amanuensis.Proofs.Toolbox.Verdicts
import Amanuensis.Proofs.Toolbox.Calls
import Amanuensis.Proofs.Binary64.Order
import Amanuensis.Proofs.Binary64.Rounding
import Amanuensis.Proofs.Match.Occurrence
import Amanuensis.Proofs.Match.Grade
import Amanuensis.Proofs.Match.Phrase
import Amanuensis.Proofs.Match.Route
import Amanuensis.Proofs.Match.Classes
import Amanuensis.Proofs.Match.Ranking
import Amanuensis.Proofs.Task.Signal
import Amanuensis.Proofs.Task.Honesty
import Amanuensis.Proofs.Task.Lockstep
import Amanuensis.Proofs.Research.GivingUp
import Amanuensis.Proofs.Invocation.Cancellation
import Amanuensis.Proofs.Toolbox.Cancellation
import Amanuensis.Proofs.Text.Runs
import Amanuensis.Proofs.Text.Letter
import Amanuensis.Proofs.Text.Lowercase
import Amanuensis.Proofs.Text.Trim
import Amanuensis.Proofs.Match.Trigger
import Amanuensis.Proofs.Toolbox.Dispatch
import Amanuensis.Proofs.Url.Percent
import Amanuensis.Proofs.Url.Segments
import Amanuensis.Proofs.Url.Reading
import Amanuensis.Proofs.Url.Faults
import Amanuensis.Proofs.Http.JobAddress
import Amanuensis.Proofs.Http.Unbuilt
import Amanuensis.Proofs.Tool.Store
import Amanuensis.Proofs.Text.Bytes
import Amanuensis.Proofs.Match.Stripping
import Amanuensis.Proofs.Research.Progress
import Amanuensis.Proofs.Research.Waits
import Amanuensis.Proofs.Toolbox.Progress
import Amanuensis.Proofs.Match.Spelling
import Amanuensis.Proofs.Match.Surroundings
import Amanuensis.Proofs.Wire.Record
import Amanuensis.Proofs.Json.Reading
import Amanuensis.Proofs.Http.Complaint
import Amanuensis.Proofs.Research.Telling
import Amanuensis.Proofs.Research.Spared
import Amanuensis.Proofs.Research.Retries
import Amanuensis.Proofs.Json.Members
import Amanuensis.Proofs.Wire.Values
import Amanuensis.Proofs.Research.Report
import Amanuensis.Proofs.Research.Creation
import Amanuensis.Proofs.Generation.Orders
import Amanuensis.Proofs.Wire.RoundTrip
import Amanuensis.Proofs.Tool.Schema
import Amanuensis.Proofs.Toolbox.Parameters
import Amanuensis.Proofs.Invocation.Settling
import Amanuensis.Proofs.Shutdown
import Amanuensis.Proofs.Json.Writing
import Amanuensis.Proofs.Invocation.Preview
import Amanuensis.Proofs.Generation.Bodies
import Amanuensis.Proofs.Toolbox.Generation
import Amanuensis.Proofs.Task.Carryover
import Amanuensis.Proofs.Invocation.Session
import Amanuensis.Proofs.Research.Sources
import Amanuensis.Proofs.Research.Doubling
import Amanuensis.Proofs.Text.Words
import Amanuensis.Proofs.Generation.FileName
import Amanuensis.Proofs.Toml.Integers
import Amanuensis.Proofs.Settings.Merge
import Amanuensis.Proofs.Settings.Names
import Amanuensis.Proofs.Settings.Reading
import Amanuensis.Proofs.Settings.Files
import Amanuensis.Proofs.Settings.Bounds
import Amanuensis.Proofs.Settings.Layers
