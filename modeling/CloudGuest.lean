import CloudGuest.Library.Texts
import CloudGuest.Library.RunningTotals
import CloudGuest.Billing.CreditLedger
import CloudGuest.Library.Idempotence
import CloudGuest.Billing.CreditSoundness
import CloudGuest.Billing.MasterCredits
import CloudGuest.Billing.CreditReplay
import CloudGuest.Library.Runs
import CloudGuest.Library.Tables
import CloudGuest.Marketing.CampaignCredits
import CloudGuest.Marketing.Delivery
import CloudGuest.Marketing.CreditEffects
import CloudGuest.Marketing.DispatchFitting
import CloudGuest.Marketing.CampaignViews
import CloudGuest.Marketing.DeliveryCases
import CloudGuest.Marketing.Tickets
import CloudGuest.Marketing.Refinement
import CloudGuest.Marketing.Coverage
import CloudGuest.Marketing.Absorption
import CloudGuest.Marketing.Counters
import CloudGuest.Marketing.Repayment
import CloudGuest.Marketing.Stranding
import CloudGuest.Library.Grouping
import CloudGuest.Traffic.FlowRecords
import CloudGuest.Traffic.WindowConservation
import CloudGuest.Traffic.WindowReduction
import CloudGuest.Traffic.WindowTotals
import CloudGuest.Traffic.RecordWriter
import CloudGuest.Library.Calendar
import CloudGuest.Library.Base64
import CloudGuest.Library.Json
import CloudGuest.Library.IpAddress
import CloudGuest.Ipdr.Formatting
import CloudGuest.Ipdr.Join
import CloudGuest.Ipdr.Connections
import CloudGuest.Ipdr.DayCuts
import CloudGuest.Ipdr.Service
import CloudGuest.Library.Pages
import CloudGuest.Ipdr.Paging
import CloudGuest.Library.Faults
import CloudGuest.Traffic.Mmdb
import CloudGuest.Traffic.MmdbTotality
import CloudGuest.DemoBooking.Availability
import CloudGuest.Library.Sessions
import CloudGuest.Billing.Subscriptions
import CloudGuest.Billing.SubscriptionEffects
import CloudGuest.Billing.SubscriptionRuns
import CloudGuest.Billing.StatusGraph
import CloudGuest.Billing.GracePeriod
import CloudGuest.Billing.LicenseAgreement
import CloudGuest.Billing.RenewalSweep
import CloudGuest.Billing.Payments
import CloudGuest.Billing.RenewalCharges
import CloudGuest.Billing.Invoices
import CloudGuest.Billing.Webhooks
import CloudGuest.Billing.PaymentEvents
import CloudGuest.Billing.Coupons
import CloudGuest.Billing.WebhookDedup
import CloudGuest.Billing.CouponLimits
import CloudGuest.Billing.Refunds
import CloudGuest.Billing.InvoiceNotes
import CloudGuest.Voucher.Batches
import CloudGuest.Library.Rows
import CloudGuest.Voucher.Redemption
import CloudGuest.Voucher.BatchLifecycle
import CloudGuest.GuestTeams.SharedQuota
import CloudGuest.Otp.Verification
import CloudGuest.GuestTeams.Roster
import CloudGuest.GuestTeams.Membership
import CloudGuest.Wireguard.Tunnels
import CloudGuest.Wireguard.Operations
import CloudGuest.Wireguard.Tables
import CloudGuest.Wireguard.FleetPass
import CloudGuest.Wireguard.Outcomes
import CloudGuest.Wireguard.AddressMoves
import CloudGuest.Wireguard.Quarantine
import CloudGuest.Wireguard.ListingOrder
import CloudGuest.Provisioning.Planner
import CloudGuest.Provisioning.SafetyNet
import CloudGuest.Provisioning.PlanLifecycle
import CloudGuest.Library.Uuids
import CloudGuest.Rbac.Grants
import CloudGuest.Rbac.Roles
import CloudGuest.Rbac.Lockout
import CloudGuest.Rbac.Footprint
import CloudGuest.Rbac.Resolution
import CloudGuest.Rbac.GrantCache
import CloudGuest.Policies.Assignments
import CloudGuest.Policies.Resolution
import CloudGuest.Policies.Agreement
import CloudGuest.Policies.Tiers
import CloudGuest.Library.Acyclic
import CloudGuest.Rbac.Hierarchy
import CloudGuest.Rbac.Requests
import CloudGuest.Rbac.Tenancy
import CloudGuest.Rbac.Confinement
import CloudGuest.Library.Latches
import CloudGuest.Billing.LowBalance
import CloudGuest.Library.Templates
import CloudGuest.Marketing.SmsLength
import CloudGuest.Library.Counters
import CloudGuest.Otp.RequestLimits
import CloudGuest.Guest.PinLockout
import CloudGuest.Guest.Sessions
import CloudGuest.Guest.SessionWrites
import CloudGuest.Guest.SessionLifecycle
import CloudGuest.Guest.SessionReuse
import CloudGuest.Library.Readings
import CloudGuest.Guest.Quotas
import CloudGuest.Guest.Accounting
import CloudGuest.Guest.AccountingTarget
import CloudGuest.Library.Lineages
import CloudGuest.Guest.Reconnects
import CloudGuest.Library.Deadlines
import CloudGuest.CaptivePortal.OpeningHours
import CloudGuest.Guest.AccessReplies
import CloudGuest.Library.Cycles
import CloudGuest.Marketing.QuietHours
import CloudGuest.Library.Sweeps
import CloudGuest.Analytics.PeakConcurrency
import CloudGuest.Library.Blocks
import CloudGuest.Traffic.ThreatRanges
import CloudGuest.Traffic.ThreatListLoading
import CloudGuest.Traffic.ThreatListFaults
import CloudGuest.Ipdr.SessionIndex
import CloudGuest.Library.Components
import CloudGuest.Ipdr.Components
import CloudGuest.Ipdr.SubjectIndex
import CloudGuest.Ipdr.NightlyBuilds
import CloudGuest.Library.AddressForms
import CloudGuest.Library.Casing
import CloudGuest.Library.BigEndian
import CloudGuest.Library.Descents
import CloudGuest.Traffic.MmdbTree
import CloudGuest.Library.Utf8
import CloudGuest.Traffic.MmdbEncoding
import CloudGuest.DemoBooking.Suggestions
import CloudGuest.Library.Months
import CloudGuest.Billing.PeriodEnds
import CloudGuest.Billing.InvoiceTotals
import CloudGuest.Library.Uppercase
import CloudGuest.Voucher.Codes
import CloudGuest.Voucher.TypedCodes
import CloudGuest.Voucher.BatchStats
import CloudGuest.Library.Pairs
import CloudGuest.Provisioning.Networks
import CloudGuest.Provisioning.SubnetConflicts
import CloudGuest.Policies.LoginHours
import CloudGuest.Guest.TimeoutSweep
import CloudGuest.Guest.TimeAccrual
import CloudGuest.Guest.ConnectedTime
import CloudGuest.Library.Zones
import CloudGuest.Guest.QuotaPeriods
import CloudGuest.Library.Rollovers
import CloudGuest.Guest.QuotaResets
import CloudGuest.Guest.FupLimits
import CloudGuest.Guest.PresenceSweep
import CloudGuest.Rbac.Escalation
import CloudGuest.Auth.Sessions
import CloudGuest.GuestAccess.Identifiers
