import Roster.Backfill.Facts
import Roster.Backfill.Members
import Roster.Backfill.Report
import Roster.Backfill.Run
import Roster.Backfill.Settings
import Roster.Cache.Basic
import Roster.Cache.Saving
import Roster.Cache.Settings
import Roster.Cache.Sweeper
import Roster.Change.Basic
import Roster.Change.Hub
import Roster.Config.Basic
import Roster.Config.EnvFile
import Roster.Error
import Roster.Json.Basic
import Roster.Json.Fault
import Roster.Json.Parser
import Roster.Json.Printer
import Roster.Log.Basic
import Roster.Log.Directive
import Roster.Log.Filter
import Roster.Log.Pattern
import Roster.Log.Pattern.Basic
import Roster.Log.Pattern.Class
import Roster.Main
import Roster.Observed
import Roster.Platform
import Roster.Record.Channel
import Roster.Record.Document
import Roster.Record.Group
import Roster.Record.Kind
import Roster.Record.Member
import Roster.Record.Role
import Roster.Segment.Basic
import Roster.Segment.Entries
import Roster.Segment.Lemmas
import Roster.Segment.Report
import Roster.Segment.Settings
import Roster.Service
import Roster.Session
import Roster.Store.Basic
import Roster.Store.Tables
import Roster.Store.Uri
import Roster.Text.Alphanumeric
import Roster.Text.Blank
import Roster.Text.Braced
import Roster.Text.Bytes
import Roster.Text.Fixed
import Roster.Text.Letter
import Roster.Text.LowerCase
import Roster.Text.Quoted
import Roster.Text.Ranges
import Roster.Text.Visible
import Roster.Time.Calendar
import Roster.Time.Duration
import Roster.Time.Instant
import Roster.Time.Rfc3339
import Roster.Time.Timestamp
import Roster.Word
import Roster.World
import Roster.Proofs.Json.Digits
import Roster.Proofs.Json.Text
import Roster.Proofs.Json.RoundTrip
import Roster.Proofs.Time.Calendar
import Roster.Proofs.Time.RoundTrip
import Roster.Proofs.Record.RoundTrip
import Roster.Proofs.Cache.Contents
import Roster.Proofs.World.Contents
import Roster.Directory
import Roster.Proofs.Store.Contents
import Roster.Proofs.Backfill.Contents
import Roster.Proofs.Record.MemberKey
import Roster.Proofs.Session.Transparency
import Roster.Proofs.Observed
import Roster.Proofs.Session.Coherence
import Roster.Proofs.Segment.Calls
import Roster.Proofs.Segment.Recency
import Roster.Proofs.Segment.Inclusion
import Roster.Proofs.Segment.Sweeping
import Roster.Proofs.Record.Documents
import Roster.Proofs.Store.Saving
import Roster.Proofs.Platform
import Roster.Proofs.World.Reloading
import Roster.Proofs.Backfill.Invariants
import Roster.Proofs.Session.Freshness
import Roster.Proofs.Store.Facts
import Roster.Proofs.Backfill.Refusal
import Roster.Proofs.Backfill.Counts
import Roster.Proofs.Backfill.Errands
import Roster.Proofs.Backfill.Plan
import Roster.Proofs.World.Reloaded
import Roster.Proofs.Backfill.Again
import Roster.Proofs.Backfill.Paging
import Roster.Proofs.Backfill.Coverage
import Roster.Proofs.Backfill.Order
import Roster.Proofs.Segment.Independence
import Roster.Proofs.Cache.Memberships
import Roster.Proofs.Segment.Capacity
import Roster.Proofs.Backfill.PagePlan
import Roster.Proofs.Backfill.Pass
import Roster.Proofs.Store.FirstSeen
import Roster.Proofs.Backfill.FirstSeen
import Roster.Proofs.Segment.WorkingSet
import Roster.Proofs.Session.ReadThrough
import Roster.Proofs.World.Restored
import Roster.Proofs.World.Expired
import Roster.Proofs.World.DeadEntries
import Roster.Proofs.Backfill.Refresh
import Roster.Proofs.Backfill.Trace
import Roster.Proofs.Backfill.Reach
import Roster.Proofs.Backfill.Stages
import Roster.Proofs.Store.Calls
import Roster.Proofs.Store.Retention
import Roster.Proofs.Segment.Expiry
import Roster.Proofs.Segment.Ledger
import Roster.Proofs.Observed.History
import Roster.Proofs.World.Attachments
import Roster.Proofs.Config.Values
import Roster.Proofs.Config.Loading
import Roster.Proofs.Store.StaleReading
import Roster.Proofs.Segment.Visits
