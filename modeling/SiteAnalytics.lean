import SiteAnalytics.Axis.Basic
import SiteAnalytics.Axis.Key
import SiteAnalytics.Axis.Series
import SiteAnalytics.Bucket.Basic
import SiteAnalytics.Bucket.Staircase
import SiteAnalytics.Cache.Basic
import SiteAnalytics.Cache.Program
import SiteAnalytics.Calendar.Date
import SiteAnalytics.Calendar.DateTime
import SiteAnalytics.Calendar.Pattern
import SiteAnalytics.Calendar.Timestamp
import SiteAnalytics.Calendar.Year
import SiteAnalytics.Chart
import SiteAnalytics.CommandLine.Basic
import SiteAnalytics.CommandLine.Explanation
import SiteAnalytics.CommandLine.RequestFile
import SiteAnalytics.Config
import SiteAnalytics.Dict
import SiteAnalytics.Digest.Sha256
import SiteAnalytics.Engine
import SiteAnalytics.Error
import SiteAnalytics.Filter.Clause
import SiteAnalytics.Filter.Column
import SiteAnalytics.Filter.Compile
import SiteAnalytics.Filter.Condition
import SiteAnalytics.Flow
import SiteAnalytics.Funnel
import SiteAnalytics.Http.Message
import SiteAnalytics.Http.Wire
import SiteAnalytics.Json.Decode
import SiteAnalytics.Json.Number
import SiteAnalytics.Json.Reader
import SiteAnalytics.Json.Token
import SiteAnalytics.Json.Value
import SiteAnalytics.Json.Writer
import SiteAnalytics.Main
import SiteAnalytics.Metric
import SiteAnalytics.Number.Count
import SiteAnalytics.Number.Layout
import SiteAnalytics.Number.Share
import SiteAnalytics.Number.Shortest
import SiteAnalytics.Period
import SiteAnalytics.Project
import SiteAnalytics.Proofs.Bucket.Index
import SiteAnalytics.Proofs.Bucket.Staircase
import SiteAnalytics.Proofs.Calendar.Instant
import SiteAnalytics.Proofs.Calendar.Month
import SiteAnalytics.Proofs.Window.AllTime
import SiteAnalytics.Query.Breakdown
import SiteAnalytics.Query.Chart
import SiteAnalytics.Query.Errors
import SiteAnalytics.Query.EventMeta
import SiteAnalytics.Query.Flow
import SiteAnalytics.Query.Funnel
import SiteAnalytics.Query.Param
import SiteAnalytics.Query.Scope
import SiteAnalytics.Query.Sql
import SiteAnalytics.Query.Summary
import SiteAnalytics.Request
import SiteAnalytics.Session
import SiteAnalytics.Store.Client
import SiteAnalytics.Store.Program
import SiteAnalytics.Store.Script
import SiteAnalytics.Store.Task
import SiteAnalytics.Summary
import SiteAnalytics.Text.Base64
import SiteAnalytics.Text.Blank
import SiteAnalytics.Text.Bytes
import SiteAnalytics.Text.FormEncoding
import SiteAnalytics.Text.Numeral
import SiteAnalytics.Text.Percent
import SiteAnalytics.Text.Split
import SiteAnalytics.Text.Wildcard
import SiteAnalytics.Url.Basic
import SiteAnalytics.Url.Host
import SiteAnalytics.Window.AllTime
import SiteAnalytics.Window.Basic
import SiteAnalytics.Zone.Basic
import SiteAnalytics.Zone.Clock
import SiteAnalytics.Zone.Listed
import SiteAnalytics.Zone.Source
import SiteAnalytics.Zone.Table
import SiteAnalytics.Proofs.Sql.Expression
import SiteAnalytics.Proofs.Dict
import SiteAnalytics.Proofs.Filter.Name
import SiteAnalytics.Proofs.Filter.Group
import SiteAnalytics.Proofs.Sql.Row
import SiteAnalytics.Proofs.Filter.Text
import SiteAnalytics.Proofs.Filter.Meaning
import SiteAnalytics.Proofs.Filter.Shape
import SiteAnalytics.Proofs.Query.Call
import SiteAnalytics.Proofs.Query.Shape
import SiteAnalytics.Proofs.Sql.Placeholder
import SiteAnalytics.Proofs.Filter.Closed
import SiteAnalytics.Proofs.Query.Closed
import SiteAnalytics.Proofs.Axis.Key
import SiteAnalytics.Proofs.Axis.Points
import SiteAnalytics.Proofs.Axis.Position
import SiteAnalytics.Proofs.Zone.Clock
import SiteAnalytics.Proofs.Calendar.LeapSecond
import SiteAnalytics.Proofs.Calendar.Text
import SiteAnalytics.Proofs.Window.Resolution
import SiteAnalytics.Proofs.Window.Legal
import SiteAnalytics.Proofs.Period.Reach
import SiteAnalytics.Proofs.Window.Bounds
import SiteAnalytics.Proofs.Window.DefaultBucket
import SiteAnalytics.Proofs.Window.OnChart
import SiteAnalytics.Proofs.Window.Utc
import SiteAnalytics.Proofs.Window.Extent
import SiteAnalytics.Proofs.Window.Replay
import SiteAnalytics.Proofs.Window.Axis
import SiteAnalytics.Proofs.Store.Run
import SiteAnalytics.Proofs.Engine.Chart
import SiteAnalytics.Proofs.CommandLine.Explanation
import SiteAnalytics.Proofs.Window.Displayed
import SiteAnalytics.Proofs.Cache.Shown
import SiteAnalytics.Proofs.Cache.Memory
import SiteAnalytics.Proofs.Cache.Clock
import SiteAnalytics.Proofs.Cache.Mark
import SiteAnalytics.Proofs.Cache.Turns
import SiteAnalytics.Proofs.Cache.AgreeOff
import SiteAnalytics.Proofs.Text.Wildcard
import SiteAnalytics.Proofs.Session.Call
import SiteAnalytics.Proofs.Session.History
import SiteAnalytics.Proofs.Session.Overlap
import SiteAnalytics.Proofs.Session.Isolation
import SiteAnalytics.Proofs.Store.Answer
import SiteAnalytics.Proofs.Store.Ensures
import SiteAnalytics.Proofs.Engine.Operation
import SiteAnalytics.Proofs.Engine.Refusal
import SiteAnalytics.Proofs.Engine.Status
import SiteAnalytics.Proofs.Engine.EventMeta
import SiteAnalytics.Proofs.Text.Blank
import SiteAnalytics.Proofs.Json.Number
import SiteAnalytics.Proofs.Json.Token
import SiteAnalytics.Proofs.Json.RoundTrip
import SiteAnalytics.Proofs.Filter.Reported
import SiteAnalytics.Proofs.Registry
import SiteAnalytics.Proofs.Flow
import SiteAnalytics.Proofs.Axis.Label
import SiteAnalytics.Proofs.Bucket.Partition
import SiteAnalytics.Proofs.Axis.Dense
import SiteAnalytics.Proofs.Axis.UtcLabel
import SiteAnalytics.Proofs.Axis.Series
import SiteAnalytics.Proofs.Chart.Row
import SiteAnalytics.Proofs.Chart.Scatter
import SiteAnalytics.Proofs.Engine.ChartSeries
import SiteAnalytics.Proofs.Funnel
import SiteAnalytics.Proofs.Window.Units
import SiteAnalytics.Proofs.Bucket.AllTime
import SiteAnalytics.Proofs.Window.Previous
import SiteAnalytics.Proofs.Filter.Column
import SiteAnalytics.Proofs.Filter.Exclusion
import SiteAnalytics.Proofs.Json.Written
import SiteAnalytics.Proofs.Filter.Grammar
import SiteAnalytics.Proofs.Filter.Ignored
import SiteAnalytics.Proofs.Query.EventTable
import SiteAnalytics.Proofs.Text.Bytes
import SiteAnalytics.Proofs.Flow.Edges
import SiteAnalytics.Proofs.Text.Numeral
import SiteAnalytics.Proofs.Period.Grammar
import SiteAnalytics.Proofs.Calendar.Spelling
import SiteAnalytics.Proofs.Session.Duration
import SiteAnalytics.Proofs.Store.Client
import SiteAnalytics.Proofs.Record
import SiteAnalytics.Proofs.Store.Join
import SiteAnalytics.Proofs.Summary
import SiteAnalytics.Proofs.Engine.Summary
