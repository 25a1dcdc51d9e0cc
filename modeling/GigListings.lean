import GigListings.Browser.Basic
import GigListings.Browser.Capture
import GigListings.Browser.SavedPages
import GigListings.Browser.Session
import GigListings.Calendar.Date
import GigListings.Calendar.Instant
import GigListings.Calendar.IsoText
import GigListings.Calendar.Reckoning
import GigListings.Calendar.TimeOfDay
import GigListings.Calendar.Zone
import GigListings.Calendar.ZoneAliases
import GigListings.Calendar.ZoneTable
import GigListings.Command.Arguments
import GigListings.Command.Basic
import GigListings.Command.ConfigFiles
import GigListings.Command.Outcome
import GigListings.Command.Scrape
import GigListings.Command.Shell
import GigListings.Config.Action
import GigListings.Config.Basic
import GigListings.Config.Check
import GigListings.Config.Field
import GigListings.Config.FieldOrder
import GigListings.Config.File
import GigListings.Config.Printer
import GigListings.Config.Problem
import GigListings.Config.Reader
import GigListings.Config.Scaffold
import GigListings.Config.Schema
import GigListings.Css.Match
import GigListings.Css.Parser
import GigListings.Css.Selector
import GigListings.Css.Token
import GigListings.Dict
import GigListings.Digest.Block
import GigListings.Digest.NameId
import GigListings.Digest.Sha256
import GigListings.Engine
import GigListings.Environment
import GigListings.Extraction.DateGroups
import GigListings.Extraction.Fields
import GigListings.Extraction.Page
import GigListings.Gig.Basic
import GigListings.Gig.Batch
import GigListings.Gig.Identity
import GigListings.Gig.Normalizer
import GigListings.Html.Adoption
import GigListings.Html.Builder
import GigListings.Html.Document
import GigListings.Html.Element
import GigListings.Html.Entity
import GigListings.Html.EntityTable
import GigListings.Html.Foreign
import GigListings.Html.Lexer
import GigListings.Html.Node
import GigListings.Html.Printer
import GigListings.Html.Rules
import GigListings.Item.FieldValue
import GigListings.Json.Basic
import GigListings.Json.Decode
import GigListings.Json.Parser
import GigListings.Json.Printer
import GigListings.Json.Schema
import GigListings.Link.DirectionTable
import GigListings.Link.Domain
import GigListings.Link.DomainTable
import GigListings.Link.Host
import GigListings.Link.Punycode
import GigListings.Link.Resolve
import GigListings.Link.Url
import GigListings.Main
import GigListings.Number.Binary64
import GigListings.Number.Layout
import GigListings.Number.Reader
import GigListings.Number.Shortest
import GigListings.Pattern.Basic
import GigListings.Pattern.Parser
import GigListings.Pattern.Program
import GigListings.Pattern.Replace
import GigListings.Printed.DateText
import GigListings.Printed.Format
import GigListings.Printed.TimeText
import GigListings.Printed.Year
import GigListings.Settings
import GigListings.Sorting
import GigListings.Storage.Disk
import GigListings.Storage.GigFile
import GigListings.Storage.Path
import GigListings.Text.Basic
import GigListings.Text.Case
import GigListings.Text.CaseRuns
import GigListings.Text.CaseTable
import GigListings.Text.Category
import GigListings.Text.CategoryTable
import GigListings.Text.Class
import GigListings.Text.Normal
import GigListings.Text.NormalTable
import GigListings.Text.PropertyTable
import GigListings.Text.Quoted
import GigListings.Text.Ranges
import GigListings.Text.Scan
import GigListings.Text.ScriptTable
import GigListings.Toml.Parser
import GigListings.Toml.Quoted
import GigListings.Toml.Scalar
import GigListings.Toml.Table
import GigListings.Transform.Args
import GigListings.Transform.Basic
import GigListings.Workflow.Basic
import GigListings.Workflow.FollowUps
import GigListings.Workflow.Run
import GigListings.Workflow.Wait
import GigListings.Proofs.Calendar.DayNumber
import GigListings.Proofs.Calendar.Earliest
import GigListings.Proofs.Text.Blank
import GigListings.Proofs.Text.Numeral
import GigListings.Proofs.Printed.BlankEnds
import GigListings.Proofs.Printed.Trimmed
import GigListings.Proofs.Calendar.Timestamp
import GigListings.Proofs.Printed.Reread
import GigListings.Proofs.Printed.RangeEnd
import GigListings.Proofs.Printed.Format
import GigListings.Proofs.Gig.DateStart
import GigListings.Proofs.Gig.Timestamps
import GigListings.Proofs.Dict
import GigListings.Proofs.Run.Together
import GigListings.Proofs.Storage.Folders
import GigListings.Proofs.Workflow.Listing
import GigListings.Proofs.Extraction.FieldOrder
import GigListings.Proofs.Extraction.Declared
import GigListings.Proofs.Extraction.Resolved
import GigListings.Proofs.Workflow.Aside
import GigListings.Proofs.Workflow.Makes
import GigListings.Proofs.Run.Makes
import GigListings.Proofs.Workflow.Paced
import GigListings.Proofs.Workflow.Undisturbed
import GigListings.Proofs.Config.Checked
import GigListings.Proofs.Workflow.Visits
import GigListings.Proofs.Workflow.Stages
import GigListings.Proofs.Workflow.Overlaid
import GigListings.Proofs.Workflow.InOrder
import GigListings.Proofs.Workflow.Failures
import GigListings.Proofs.Number.Rounding
import GigListings.Proofs.Number.Shortest
import GigListings.Proofs.Json.Numeral
import GigListings.Proofs.Json.Printable
import GigListings.Proofs.Json.Spread
import GigListings.Proofs.Json.RoundTrip
import GigListings.Proofs.Json.Records
import GigListings.Proofs.Config.Faithful
import GigListings.Proofs.Config.Blocks
import GigListings.Proofs.Config.Fields
import GigListings.Proofs.Config.Actions
import GigListings.Proofs.Config.Reread
import GigListings.Proofs.Kept.Config
import GigListings.Proofs.Gig.Updated
import GigListings.Proofs.Workflow.PagesOpened
import GigListings.Proofs.Engine.Pages
import GigListings.Proofs.Gig.Reread
import GigListings.Proofs.Gig.Identity
import GigListings.Proofs.Gig.Consistent
import GigListings.Proofs.Engine.Settled
import GigListings.Proofs.Printed.Openings
import GigListings.Proofs.Printed.Shapes
import GigListings.Proofs.Printed.Covered
import GigListings.Proofs.Printed.Parts
import GigListings.Proofs.Printed.DayAndMonth
import GigListings.Proofs.Printed.Rendering
import GigListings.Proofs.Extraction.DateGroups
import GigListings.Proofs.Engine.Completed
import GigListings.Proofs.Workflow.Beside
import GigListings.Proofs.Storage.GigFiles
import GigListings.Proofs.Workflow.Waits
import GigListings.Proofs.Text.Caseless
import GigListings.Proofs.Printed.Separators
import GigListings.Proofs.Printed.Recased
import GigListings.Proofs.Printed.SingleTimes
import GigListings.Proofs.Printed.RangeStart
import GigListings.Proofs.Printed.Followed
import GigListings.Proofs.Printed.TrailingRange
import GigListings.Proofs.Printed.Chains
import GigListings.Proofs.Printed.Year
import GigListings.Proofs.Printed.Timed
import GigListings.Proofs.Printed.InCalendar
import GigListings.Proofs.Printed.Completed
import GigListings.Proofs.Extraction.Cycles
import GigListings.Proofs.Extraction.Rounds
import GigListings.Proofs.Gig.Views
import GigListings.Proofs.Link.Punycode
import GigListings.Proofs.Link.Domain
import GigListings.Proofs.Link.Host
import GigListings.Proofs.Link.Absolute
import GigListings.Proofs.Config.Scaffold
