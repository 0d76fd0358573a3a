import CachePurge.Fanout.Run
import CachePurge.Fleet.Address
import CachePurge.Fleet.Purger
import CachePurge.Gate
import CachePurge.Host.Basic
import CachePurge.Host.Ipv4
import CachePurge.Host.Ipv6
import CachePurge.Http.Rules
import CachePurge.Idna.Domain
import CachePurge.Invalidation.Json
import CachePurge.Json.Read
import CachePurge.Observer
import CachePurge.Proofs.Double
import CachePurge.Proofs.Fanout.Barrier
import CachePurge.Proofs.Fanout.Machine
import CachePurge.Proofs.Fanout.Results
import CachePurge.Proofs.Fanout.Schedule
import CachePurge.Proofs.Fanout.Timing
import CachePurge.Proofs.Fleet.Accounting
import CachePurge.Proofs.Fleet.Admission
import CachePurge.Proofs.Fleet.Carried
import CachePurge.Proofs.Fleet.Charges
import CachePurge.Proofs.Fleet.Conservation
import CachePurge.Proofs.Fleet.Counting
import CachePurge.Proofs.Fleet.Coverage
import CachePurge.Proofs.Fleet.Endpoint
import CachePurge.Proofs.Fleet.Handlers
import CachePurge.Proofs.Fleet.Impartial
import CachePurge.Proofs.Fleet.Observed
import CachePurge.Proofs.Fleet.Order
import CachePurge.Proofs.Fleet.Place
import CachePurge.Proofs.Fleet.Plan
import CachePurge.Proofs.Fleet.Port
import CachePurge.Proofs.Fleet.Reading
import CachePurge.Proofs.Fleet.Redirect
import CachePurge.Proofs.Fleet.Rejection
import CachePurge.Proofs.Fleet.Reporting
import CachePurge.Proofs.Fleet.Sender
import CachePurge.Proofs.Fleet.Settled
import CachePurge.Proofs.Fleet.Settling
import CachePurge.Proofs.Fleet.Snapshot
import CachePurge.Proofs.Fleet.TagRequest
import CachePurge.Proofs.Fleet.Tries
import CachePurge.Proofs.Fleet.Unanimity
import CachePurge.Proofs.Gate
import CachePurge.Proofs.Groups
import CachePurge.Proofs.History
import CachePurge.Proofs.Host.Ipv4
import CachePurge.Proofs.Host.Ipv6
import CachePurge.Proofs.Host.Printable
import CachePurge.Proofs.Host.Text
import CachePurge.Proofs.Idna.Ascii
import CachePurge.Proofs.Invalidation.Advance
import CachePurge.Proofs.Invalidation.RoundTrip
import CachePurge.Proofs.Json.Record
import CachePurge.Proofs.Json.Text
import CachePurge.Proofs.Lockstep
import CachePurge.Proofs.Mixed
import CachePurge.Proofs.Observed
import CachePurge.Proofs.Observer
import CachePurge.Proofs.Purger.Forward
import CachePurge.Proofs.Purger.Refusal
import CachePurge.Proofs.Purger.Routing
import CachePurge.Proofs.Purger.Split
import CachePurge.Proofs.Purger.Visits
import CachePurge.Proofs.Rehearsal
import CachePurge.Proofs.Settings.Fleet
import CachePurge.Proofs.Settings.RoundTrip
import CachePurge.Proofs.Settings.Table
import CachePurge.Proofs.Settings.Variable
import CachePurge.Proofs.Settings.Vendor
import CachePurge.Proofs.Shared
import CachePurge.Proofs.Tag.Isolation
import CachePurge.Proofs.Tag.Token
import CachePurge.Proofs.Tally
import CachePurge.Proofs.Text.Ascii
import CachePurge.Proofs.Text.Hex
import CachePurge.Proofs.Text.Joined
import CachePurge.Proofs.Text.Percent
import CachePurge.Proofs.Url.Authority
import CachePurge.Proofs.Url.Segment
import CachePurge.Proofs.Uuid
import CachePurge.Proofs.Vendor.Backend
import CachePurge.Proofs.Vendor.Batch
import CachePurge.Proofs.Vendor.Books
import CachePurge.Proofs.Vendor.Choice
import CachePurge.Proofs.Vendor.Endpoint
import CachePurge.Proofs.Vendor.Exchange
import CachePurge.Proofs.Vendor.Keys
import CachePurge.Proofs.Vendor.Observed
import CachePurge.Proofs.Vendor.Outcome
import CachePurge.Proofs.Vendor.Pages
import CachePurge.Proofs.Vendor.Selection
import CachePurge.Proofs.Vendor.Settled
import CachePurge.Proofs.Vendor.Suspension
import CachePurge.Proofs.Vendor.Usable
import CachePurge.Proofs.Vendor.Visit
import CachePurge.Proofs.Window
import CachePurge.Purger.Scripted
import CachePurge.Rehearsal
import CachePurge.Settings.Fleet
import CachePurge.Settings.Vendor
import CachePurge.Shared
import CachePurge.Tag
import CachePurge.Text.Percent
import CachePurge.Unicode.Lower
import CachePurge.Unicode.Normal
import CachePurge.Url.Basic
import CachePurge.Url.Read
import CachePurge.Vendor.Purger
