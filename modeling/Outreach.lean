import Outreach.Audience.Evaluate
import Outreach.Audience.Operand
import Outreach.Audience.Outline
import Outreach.Audience.Rule
import Outreach.Calendar.Date
import Outreach.Calendar.DateTime
import Outreach.Calendar.FreeForm
import Outreach.Calendar.Instant
import Outreach.Calendar.Iso
import Outreach.Calendar.Layout
import Outreach.Calendar.Members
import Outreach.Calendar.Names
import Outreach.Calendar.Reading
import Outreach.Calendar.ShortForm
import Outreach.Calendar.Token
import Outreach.Campaigns
import Outreach.Customers
import Outreach.Decimal.Extended
import Outreach.Decimal.Literal
import Outreach.Decimal.Notation
import Outreach.Decimal.Quantity
import Outreach.Decimal.Rounded
import Outreach.Decimal.Scaled
import Outreach.Decimal.Shortest
import Outreach.Delivery.Logs
import Outreach.Delivery.Message
import Outreach.Delivery.Run
import Outreach.Delivery.Vendor
import Outreach.Failure
import Outreach.Form.Check
import Outreach.Form.Moment
import Outreach.Form.Requests
import Outreach.Form.Scalar
import Outreach.Form.SegmentRule
import Outreach.Form.View
import Outreach.Http.Action
import Outreach.Http.Application
import Outreach.Http.Response
import Outreach.Http.Target
import Outreach.Journal.Context
import Outreach.Json.Reader
import Outreach.Json.Writer
import Outreach.Keyed
import Outreach.Office.Basic
import Outreach.Office.Collection
import Outreach.Office.Task
import Outreach.Orders
import Outreach.Segments
import Outreach.Settings.Application
import Outreach.Settings.Group
import Outreach.Settings.Groups
import Outreach.Store.Column
import Outreach.Store.Query
import Outreach.Store.Table
import Outreach.Store.Tables
import Outreach.Store.Upsert
import Outreach.Suggestion.ChatModel
import Outreach.Suggestion.Fence
import Outreach.Suggestion.Prompt
import Outreach.Suggestion.Round
import Outreach.Suggestion.Variant
import Outreach.Text.Characters
import Outreach.Text.Case
import Outreach.Text.Search
import Outreach.Text.Quoted
import Outreach.Text.Encoding
import Outreach.Url.Basic
import Outreach.Url.Composed
import Outreach.Url.Escape
import Outreach.Url.Host
import Outreach.Url.LabelCharacter
import Outreach.Url.Name
import Outreach.Url.Punycode
import Outreach.Value.Add
import Outreach.Value.Basic
import Outreach.Value.Compare
import Outreach.Value.Literal
import Outreach.Writes.Coalescer
import Outreach.Writes.Config
import Outreach.Writes.Patch
import Outreach.Writes.Processor
import Outreach.Writes.Report
import Outreach.Writes.Shelf
import Outreach.Writes.Timeline
import Outreach.Proofs.Audience.Nodes
import Outreach.Proofs.Audience.Rearrangement
import Outreach.Proofs.Audience.Totality
import Outreach.Proofs.Audience.Validated
import Outreach.Proofs.Campaigns.Creation
import Outreach.Proofs.Customers.Acknowledged
import Outreach.Proofs.Customers.Activity
import Outreach.Proofs.Customers.Roll
import Outreach.Proofs.Decimal.Doubles
import Outreach.Proofs.Decimal.Range
import Outreach.Proofs.Delivery.Addresses
import Outreach.Proofs.Delivery.Messages
import Outreach.Proofs.Delivery.Receipts
import Outreach.Proofs.Delivery.Run
import Outreach.Proofs.Form.Checks
import Outreach.Proofs.Form.Views
import Outreach.Proofs.Keyed
import Outreach.Proofs.Office.Identifiers
import Outreach.Proofs.Office.Population
import Outreach.Proofs.Office.Queues
import Outreach.Proofs.Office.Station
import Outreach.Proofs.Office.Tables
import Outreach.Proofs.Office.Tasks
import Outreach.Proofs.Orders.Ledger
import Outreach.Proofs.Orders.Sales
import Outreach.Proofs.Outcome
import Outreach.Proofs.Segments.Answers
import Outreach.Proofs.Segments.Creation
import Outreach.Proofs.Segments.Membership
import Outreach.Proofs.Store.Arrivals
import Outreach.Proofs.Store.Cells
import Outreach.Proofs.Store.Committed
import Outreach.Proofs.Store.Deliveries
import Outreach.Proofs.Store.Rows
import Outreach.Proofs.Store.Sessions
import Outreach.Proofs.Store.Statements
import Outreach.Proofs.Store.Steady
import Outreach.Proofs.Store.Verdicts
import Outreach.Proofs.Text.Encoding
import Outreach.Proofs.Writes.Attempts
import Outreach.Proofs.Writes.Batch
import Outreach.Proofs.Writes.Callers
import Outreach.Proofs.Writes.Capacity
import Outreach.Proofs.Writes.Burst
import Outreach.Proofs.Json.Depth
import Outreach.Proofs.Writes.Conservation
import Outreach.Proofs.Writes.Drain
import Outreach.Proofs.Writes.HalfBatches
import Outreach.Proofs.Writes.Losses
import Outreach.Proofs.Writes.Order
import Outreach.Proofs.Writes.Quiescence
import Outreach.Proofs.Writes.Steps
import Outreach.Proofs.Writes.Timer
import Outreach.Proofs.Writes.Transparency
import Outreach.Proofs.Writes.Waiting
import Outreach.Proofs.Audience.Acceptance
import Outreach.Proofs.Office.Setbacks
import Outreach.Proofs.Orders.Halves
import Outreach.Proofs.Delivery.Moments
import Outreach.Proofs.Delivery.Prefix
import Outreach.Proofs.Campaigns.Abandoned
import Outreach.Proofs.Audience.Contexts
import Outreach.Proofs.Audience.Operators
import Outreach.Proofs.Audience.Spellings
import Outreach.Proofs.Audience.Thresholds
import Outreach.Proofs.Decimal.Line
import Outreach.Proofs.Value.Order
import Outreach.Proofs.Audience.Instants
import Outreach.Proofs.Calendar.Days
import Outreach.Proofs.Calendar.Written
import Outreach.Proofs.Decimal.WholeSums
import Outreach.Proofs.Store.Batches
import Outreach.Proofs.Store.Documents
import Outreach.Proofs.Store.Doubles
import Outreach.Proofs.Store.Mirrors
import Outreach.Proofs.Store.Typed
import Outreach.Proofs.Store.UnknownFields
import Outreach.Proofs.Value.Agreement
import Outreach.Proofs.Writes.Patches
import Outreach.Proofs.Writes.Reports
import Outreach.Proofs.Suggestion.Wrapping
import Outreach.Proofs.Delivery.Reports
import Outreach.Proofs.Delivery.Logbook
import Outreach.Proofs.Delivery.Tallies
import Outreach.Proofs.Campaigns.Listing
import Outreach.Proofs.Form.Addresses
import Outreach.Proofs.Writes.Commuting
import Outreach.Proofs.Text.Lines
import Outreach.Proofs.Audience.Outlines
