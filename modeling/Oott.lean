import Oott.Effects.Program
import Oott.Effects.Interleaving
import Oott.Effects.Guarded
import Oott.Effects.Sequential
import Oott.Utils.Text
import Oott.Utils.Network
import Oott.Model.Time
import Oott.Model.Records
import Oott.Data.Vendors
import Oott.Database.Tables
import Oott.Database.Statements
import Oott.Database.Calls
import Oott.Events.Detection
import Oott.Events.Recording
import Oott.Scanners.Enrichment
import Oott.Scanners.Pipeline
import Oott.WebServer.Devices
import Oott.Retention
import Oott.Operations
import Oott.Sightings.FieldOwnership
import Oott.Sightings.Reconciliation
import Oott.Concurrency.EditRace
import Oott.Concurrency.HandlerSerialization
import Oott.Concurrency.OrphanHistory
import Oott.Sightings.AbsorbedChange
import Oott.Events.Deduplication
import Oott.Sightings.ReturnAnnouncement
import Oott.Sightings.UserEdit
import Oott.Scanners.Arp
import Oott.Effects.Trace
import Oott.Events.FailingWrites
import Oott.Sightings.FailingCalls
import Oott.PushRelay.RateLimit
import Oott.PushRelay.Push
import Oott.PushRelay.App
import Oott.Database.PushTokens
import Oott.Notifications.Push
import Oott.WebServer.PushTokens
import Oott.Calendar.Gregorian
import Oott.Text.FixedWidth
import Oott.Utils.Timestamps
import Oott.Database.Timestamps
import Oott.Database.Listing
import Oott.Utils.Dates
import Oott.Database.ListingReference
import Oott.Notifications.Notify
import Oott.Bytes.Options
import Oott.Database.Paging
import Oott.Effects.Lists
import Oott.Scanners.Dhcp
import Oott.Scanners.PassiveStatus
import Oott.Scanners.Snmp
import Oott.Sightings.Scan
import Oott.Sightings.SnmpPolls
import Oott.Sightings.ArpRescan
import Oott.Sightings.ReplyOrder
import Oott.Effects.Channel
import Oott.Effects.Runs
import Oott.Notifications.Consolidation
import Oott.Notifications.Delivery
import Oott.Notifications.Privacy
import Oott.Query.Pages
import Oott.Utils.Addresses
import Oott.Notifications.Persistence
import Oott.Scanners.ActiveLoop
import Oott.Frontend.PolledValue
import Oott.Lists.Alignment
import Oott.Frontend.AnimatedList
import Oott.Frontend.PaginatedList
import Oott.Frontend.NotificationsList
import Oott.Frontend.Navigation
import Oott.Frontend.DeviceList
import Oott.Frontend.EmptyPages
import Oott.Frontend.RemovalCounts
import Oott.Frontend.EventHistory
import Oott.Frontend.DeviceTypes
import Oott.Scanners.Mdns
import Oott.Text.Lines
import Oott.Scanners.Ssdp
import Oott.Scanners.VendorBlocks
import Oott.Durations
import Oott.Database.Notifications
import Oott.Notifications.Numbering
import Oott.WebServer.Notifications
import Oott.RetentionTiming
import Oott.Scanners.Listeners
import Oott.Frontend.BackendReachability
import Oott.Database.DateTimesMigration
import Oott.Text.Decimal
import Oott.Utils.DatesReadBack
import Oott.WebServer.Parameters
import Oott.Frontend.Requests
import Oott.Utils.DartDates
import Oott.Database.Columns
import Oott.Frontend.Responses
import Oott.Scanners.ArpRequests
import Oott.Text.Columns
import Oott.Scanners.Neighbors
import Oott.Frontend.PushService
import Oott.Frontend.PushOptOut
import Oott.Frontend.DeviceActions
