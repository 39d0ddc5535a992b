import ForgeCustomer.SqlTables
import ForgeCustomer.SqlPrograms
import ForgeCustomer.SqlStatements
import ForgeCustomer.SqlSessions
import ForgeCustomer.SqlDiscipline
import ForgeCustomer.WatermarkOrder
import ForgeCustomer.JsonValue
import ForgeCustomer.DomainRules
import ForgeCustomer.StripeEvents
import ForgeCustomer.DatabaseTables
import ForgeCustomer.AuditWriters
import ForgeCustomer.UsageRepository
import ForgeCustomer.LicensingRepository
import ForgeCustomer.CommerceRepository
import ForgeCustomer.AdminRepository
import ForgeCustomer.CustomerRepository
import ForgeCustomer.PrivacyRepository
import ForgeCustomer.ServiceOperations
import ForgeCustomer.LicenseSync
import ForgeCustomer.SubscriptionProjection
import ForgeCustomer.WebhookDelivery
import ForgeCustomer.WebhookRaces
import ForgeCustomer.CommercialPolicy
import ForgeCustomer.EntitlementEvaluation
import ForgeCustomer.MeterQuotas
import ForgeCustomer.WebhookOrder
import ForgeCustomer.SubscriptionRuns
import ForgeCustomer.CustomerAccess
import ForgeCustomer.AccountDeletion
import ForgeCustomer.LicenseChanges
import ForgeCustomer.LicenseRuns
import ForgeCustomer.LicenseInvariants
import ForgeCustomer.FleetPolicies
import ForgeCustomer.DeletionRuns
import ForgeCustomer.DeviceLimits
import ForgeCustomer.LicenseOrder
import ForgeCustomer.OpenDeletions
import ForgeCustomer.OutboxWorker
import ForgeCustomer.SortedMap
import ForgeCustomer.JsonText
import ForgeCustomer.SignedDocuments
import ForgeCustomer.SqlAssumptions
import ForgeCustomer.SqlWaiting
import ForgeCustomer.BillingOwners
import ForgeCustomer.AdminReleases
import ForgeCustomer.ReleaseSafety
import ForgeCustomer.ReservationLifecycle
import ForgeCustomer.QuotaLocks
import ForgeCustomer.QuotaDeadlocks
import ForgeCustomer.OfflineLeases
import ForgeCustomer.PolicyReaders
import ForgeCustomer.UsagePeriods
import ForgeCustomer.OperatorRequests
import ForgeCustomer.LicenseSelection
import ForgeCustomer.QuotaChecks
import ForgeCustomer.OverrideEvaluation
import ForgeCustomer.AdvertisedLimits
import ForgeCustomer.OverrideRaces
import ForgeCustomer.ThresholdEvents
import ForgeCustomer.OperatorAudits
import ForgeCustomer.AuditedActions
import ForgeCustomer.RateLimiter
import ForgeCustomer.WebhookSignatures
import ForgeCustomer.ProvisionProfiles
import ForgeCustomer.JwksCache
import ForgeCustomer.ReleasePipeline
import ForgeCustomer.ConflictingReplays
import ForgeCustomer.UpdateChecks
import ForgeCustomer.CoolingOff
import ForgeCustomer.DeletionCompleteness
import ForgeCustomer.SqlChecks
import ForgeCustomer.AdminRequests
import ForgeCustomer.AcceptedInput
import ForgeCustomer.VersionOrder
import ForgeCustomer.RolloutChanges
import ForgeCustomer.Redaction
import ForgeCustomer.KeyRing
import ForgeCustomer.PlanChanges
import ForgeCustomer.UsageTotals
import ForgeCustomer.SqlColumns
import ForgeCustomer.LastingRows
import ForgeCustomer.SqlTenancy
import ForgeCustomer.TenantIsolation
import ForgeCustomer.RunOrigins
import ForgeCustomer.UpdateOutcomes
import ForgeCustomer.PublicDownloads
import ForgeCustomer.QuotaShares
import ForgeCustomer.QuotaCover
import ForgeCustomer.OutboxProgress
