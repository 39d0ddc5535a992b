import ForgeCustomer.SqlStatements
import ForgeCustomer.StripeEvents

/-!
# The tables of the service

Columns, check constraints, foreign keys and unique keys as the migrations declare them.
`created_at` and `updated_at` are kept where a query reads them.
-/
namespace ForgeCustomer.DatabaseTables
open SqlTables SqlPrograms SqlStatements JsonValue DomainRules StripeEvents

inductive TableName where
  | customerProfiles | customerStatusHistory | customerMfaHistory | customerEmails
  | products | features | plans | planVersions | planFeatures | releaseChannels
  | billingAccounts | stripeCustomers | subscriptions | checkoutSessions | invoiceReferences
  | stripeWebhookEvents
  | licenses | devices | installations | licenseActivations | licenseLeases | licenseRevocations
  | entitlementOverrides
  | usageMeters | usageReservations | usageEvents | usagePeriodTotals | quotaDecisions
  | commercialAuditEvents | outboxEvents | accountDeletionRequests
  | commercialPolicyVersions | fleets | fleetApplications
deriving DecidableEq

inductive CustomerType where
  | individual | organization
deriving DecidableEq

def CustomerType.asStr : CustomerType → String
  | individual => "individual"
  | organization => "organization"

inductive CustomerStatus where
  | pending | active | suspended | closed | anonymized
deriving DecidableEq

def CustomerStatus.asStr : CustomerStatus → String
  | pending => "pending"
  | active => "active"
  | suspended => "suspended"
  | closed => "closed"
  | anonymized => "anonymized"

structure CustomerProfile where
  authUserId : ℕ
  customerType : CustomerType
  displayName : Option String
  status : CustomerStatus
  countryCode : Option String
  timezone : Option String
  mfaRequired : Bool
  mfaGracePeriodEndsAt : Option Time
  createdAt : Time
deriving DecidableEq

inductive Actor where
  | system | customer | operator | stripe
deriving DecidableEq

structure StatusHistory where
  customerId : ℕ
  fromStatus : Option CustomerStatus
  toStatus : CustomerStatus
  reason : String
  actorType : Actor
  actorId : String
deriving DecidableEq

structure MfaHistory where
  customerId : ℕ
  fromRequired : Bool
  toRequired : Bool
  reason : String
  actorType : Actor
  actorId : String
deriving DecidableEq

/-- Provisioning is the only writer and marks every address primary, so the column is left out. -/
structure CustomerEmail where
  customerId : ℕ
  email : String
deriving DecidableEq

inductive CatalogStatus where
  | active | retired
deriving DecidableEq

structure Product where
  key : String
  status : CatalogStatus
deriving DecidableEq

structure Feature where
  key : String
deriving DecidableEq

structure Plan where
  productId : ℕ
  key : String
  status : CatalogStatus
deriving DecidableEq

structure PlanVersion where
  planId : ℕ
  version : ℤ
  status : CatalogStatus
  stripePriceId : Option String
deriving DecidableEq

structure PlanFeature where
  planVersionId : ℕ
  featureId : ℕ
  boolValue : Option Bool
  numberValue : Option ℚ
  stringValue : Option String
deriving DecidableEq

structure ReleaseChannel where
  productId : ℕ
  key : String
deriving DecidableEq

structure BillingAccount where
  customerId : ℕ
deriving DecidableEq

structure StripeCustomer where
  billingAccountId : ℕ
  stripeCustomerId : String
deriving DecidableEq

structure Subscription where
  customerId : ℕ
  billingAccountId : ℕ
  planVersionId : ℕ
  stripeSubscriptionId : String
  status : SubscriptionStatus
  currentPeriodStart : Option Time
  currentPeriodEnd : Option Time
  cancelAtPeriodEnd : Bool
  stripeEventAt : Option Time
  createdAt : Time
deriving DecidableEq

inductive CheckoutStatus where
  | created | completed | expired
deriving DecidableEq

structure CheckoutSession where
  customerId : ℕ
  planVersionId : ℕ
  stripeCheckoutSessionId : String
  status : CheckoutStatus
deriving DecidableEq

structure InvoiceReference where
  subscriptionId : Option ℕ
  stripeInvoiceId : String
  status : String
  amountDueCents : Option ℤ
  currency : Option String
deriving DecidableEq

structure StripeWebhookEvent where
  stripeEventId : String
  eventType : String
  status : ReceiptStatus
  processedAt : Option Time
  payloadSummary : Value

/-- The check `device_limit >= 0` is the type of the column. -/
structure License where
  customerId : ℕ
  productId : ℕ
  subscriptionId : Option ℕ
  status : LicenseStatus
  deviceLimit : ℕ
  issuedAt : Time
  expiresAt : Option Time
deriving DecidableEq

inductive DeviceStatus where
  | active | revoked
deriving DecidableEq

structure Device where
  customerId : ℕ
  publicKey : String
  publicKeyFpr : String
  label : Option String
  status : DeviceStatus
deriving DecidableEq

inductive InstallationStatus where
  | active | deactivated
deriving DecidableEq

structure Installation where
  customerId : ℕ
  deviceId : Option ℕ
  fleetId : Option ℕ
  installKey : String
  productId : ℕ
  appVersion : Option String
  buildId : Option String
  platform : Option String
  architecture : Option String
  packageFormat : Option String
  updaterVersion : Option String
  status : InstallationStatus
  lastHeartbeatAt : Option Time
deriving DecidableEq

structure LicenseActivation where
  licenseId : ℕ
  installationId : ℕ
  deviceId : Option ℕ
  status : InstallationStatus
  activatedAt : Time
  deactivatedAt : Option Time
deriving DecidableEq

structure LicenseLease where
  licenseId : ℕ
  installationId : ℕ
  issuedAt : Time
  expiresAt : Time
  keyId : String
  signature : String
deriving DecidableEq

structure LicenseRevocation where
  licenseId : Option ℕ
  deviceId : Option ℕ
  installationId : Option ℕ
  reason : String
  actorType : Actor
  actorId : String
deriving DecidableEq

structure EntitlementOverride where
  customerId : ℕ
  productId : ℕ
  featureKey : Option String
  quotaKey : Option String
  boolValue : Option Bool
  numberValue : Option ℚ
  stringValue : Option String
  reason : String
  actorId : String
  active : Bool
  expiresAt : Option Time
deriving DecidableEq

inductive ResetCadence where
  | monthly | daily | never
deriving DecidableEq

structure UsageMeter where
  key : String
  unit : String
  resetCadence : ResetCadence
deriving DecidableEq

inductive ReservationStatus where
  | pending | committed | released | expired
deriving DecidableEq

def ReservationStatus.asStr : ReservationStatus → String
  | pending => "pending"
  | committed => "committed"
  | released => "released"
  | expired => "expired"

structure UsageReservation where
  customerId : ℕ
  meterKey : String
  amount : ℚ
  idempotencyKey : String
  status : ReservationStatus
  periodKey : String
  expiresAt : Time
deriving DecidableEq

inductive UsageEventKind where
  | commit | adjustment | compensation
deriving DecidableEq

structure UsageEvent where
  customerId : ℕ
  meterKey : String
  amount : ℚ
  periodKey : String
  idempotencyKey : String
  reservationId : Option ℕ
  kind : UsageEventKind
deriving DecidableEq

structure UsagePeriodTotal where
  customerId : ℕ
  meterKey : String
  periodKey : String
  used : ℚ
  reserved : ℚ
deriving DecidableEq

structure QuotaDecisionRow where
  customerId : ℕ
  meterKey : String
  requested : ℚ
  limitValue : Option ℚ
  usedBefore : ℚ
  reservedBefore : ℚ
  decision : Decision
  reason : String
  correlationId : Option String
deriving DecidableEq

structure AuditEvent where
  eventType : String
  actorType : Actor
  actorId : String
  customerId : Option ℕ
  targetType : Option String
  targetId : Option String
  reason : String
  beforeState : Option Value
  afterState : Option Value
  correlationId : Option String

structure OutboxEvent where
  eventType : String
  deliveryKey : String
  payload : Value

structure DeletionRequest where
  customerId : ℕ
  status : DeletionStatus
  requestedAt : Time
  coolingOffUntil : Option Time
  completedAt : Option Time
  receipt : Option Value
  reason : Option String

structure PolicyLimits where
  cloudTokensPerMonth : ℤ
  deepAnalysisRunsPerMonth : ℤ
  premiumModelRequestsPerMonth : ℤ
  deviceLimit : ℤ
deriving DecidableEq

/-- The only document that is ever stored as a policy. -/
structure PolicyDocument where
  included : PolicyLimits
  pro : PolicyLimits
deriving DecidableEq

structure CommercialPolicyVersion where
  productId : ℕ
  version : ℤ
  effectiveAt : Time
  policy : PolicyDocument
  reason : String
  createdBy : String
  idempotencyKey : String
  correlationId : Option String
  createdAt : Time
deriving DecidableEq

inductive FleetType where
  | default | operatorCreated
deriving DecidableEq

inductive FleetStatus where
  | active | held | retired | deleted
deriving DecidableEq

structure Fleet where
  customerId : ℕ
  displayName : String
  fleetType : FleetType
  status : FleetStatus
  updateRing : String
  releaseChannelId : Option ℕ
  betaEnrolled : Bool
deriving DecidableEq

structure FleetApplication where
  fleetId : ℕ
  productId : ℕ
  status : FleetStatus
  updateRing : String
  releaseChannelId : Option ℕ
deriving DecidableEq

@[reducible] def Row : TableName → Type
  | .customerProfiles => CustomerProfile
  | .customerStatusHistory => StatusHistory
  | .customerMfaHistory => MfaHistory
  | .customerEmails => CustomerEmail
  | .products => Product
  | .features => Feature
  | .plans => Plan
  | .planVersions => PlanVersion
  | .planFeatures => PlanFeature
  | .releaseChannels => ReleaseChannel
  | .billingAccounts => BillingAccount
  | .stripeCustomers => StripeCustomer
  | .subscriptions => Subscription
  | .checkoutSessions => CheckoutSession
  | .invoiceReferences => InvoiceReference
  | .stripeWebhookEvents => StripeWebhookEvent
  | .licenses => License
  | .devices => Device
  | .installations => Installation
  | .licenseActivations => LicenseActivation
  | .licenseLeases => LicenseLease
  | .licenseRevocations => LicenseRevocation
  | .entitlementOverrides => EntitlementOverride
  | .usageMeters => UsageMeter
  | .usageReservations => UsageReservation
  | .usageEvents => UsageEvent
  | .usagePeriodTotals => UsagePeriodTotal
  | .quotaDecisions => QuotaDecisionRow
  | .commercialAuditEvents => AuditEvent
  | .outboxEvents => OutboxEvent
  | .accountDeletionRequests => DeletionRequest
  | .commercialPolicyVersions => CommercialPolicyVersion
  | .fleets => Fleet
  | .fleetApplications => FleetApplication

/-- The unique constraints and indexes, partial ones included, of the tables that the transactions write.
Left out are those of the catalog (products, features, plans, plan versions with `uq_plan_versions_active`,
plan features, release channels), which no transaction writes, and `uq_customer_emails_value`, as e-mails are
only ever inserted as primary ones. -/
inductive UniqueKey where
  | authUser (authUserId : ℕ)
  | primaryEmail (customerId : ℕ)
  | billingCustomer (customerId : ℕ)
  | stripeCustomer (stripeCustomerId : String)
  | stripeSubscription (stripeSubscriptionId : String)
  | checkoutSession (stripeCheckoutSessionId : String)
  | invoice (stripeInvoiceId : String)
  | webhookEvent (stripeEventId : String)
  | deviceFingerprint (customerId : ℕ) (publicKeyFpr : String)
  | installKey (customerId : ℕ) (installKey : String)
  | activeActivation (licenseId installationId : ℕ)
  | meter (key : String)
  | reservationKey (customerId : ℕ) (idempotencyKey : String)
  | usageEventKey (customerId : ℕ) (idempotencyKey : String)
  | periodTotal (customerId : ℕ) (meterKey periodKey : String)
  | delivery (deliveryKey : String)
  | defaultFleet (customerId : ℕ)
  | fleetApplication (fleetId productId : ℕ)
  | policyVersion (productId : ℕ) (version : ℤ)
  | policyKey (productId : ℕ) (idempotencyKey : String)
deriving DecidableEq

/-- `country_code ~ '^[A-Z]{2}$'`. -/
def countryCodeOk (code : String) : Bool :=
  code.toList.length == 2 && code.toList.all fun c => 'A' ≤ c && c ≤ 'Z'

def updateRings : List String := ["canary", "preview", "standard", "delayed"]

def checkRow : ∀ t, Row t → Bool
  | .customerProfiles, r => r.countryCode.all countryCodeOk
  | .invoiceReferences, r => ["paid", "open", "void", "uncollectible", "draft"].contains r.status
  | .usageReservations, r => 0 ≤ r.amount
  | .commercialPolicyVersions, r => 0 < r.version
  | .fleets, r => updateRings.contains r.updateRing
  | .fleetApplications, r => updateRings.contains r.updateRing
  | _, _ => true

def foreignKeys : ∀ t, Row t → List (Ref TableName UniqueKey)
  | .customerStatusHistory, r => [.id .customerProfiles r.customerId]
  | .customerMfaHistory, r => [.id .customerProfiles r.customerId]
  | .customerEmails, r => [.id .customerProfiles r.customerId]
  | .plans, r => [.id .products r.productId]
  | .planVersions, r => [.id .plans r.planId]
  | .planFeatures, r => [.id .planVersions r.planVersionId, .id .features r.featureId]
  | .releaseChannels, r => [.id .products r.productId]
  | .billingAccounts, r => [.id .customerProfiles r.customerId]
  | .stripeCustomers, r => [.id .billingAccounts r.billingAccountId]
  | .subscriptions, r => [.id .customerProfiles r.customerId, .id .billingAccounts r.billingAccountId,
      .id .planVersions r.planVersionId]
  | .checkoutSessions, r => [.id .customerProfiles r.customerId, .id .planVersions r.planVersionId]
  | .invoiceReferences, r => r.subscriptionId.toList.map (Ref.id .subscriptions)
  | .licenses, r => [.id .customerProfiles r.customerId, .id .products r.productId] ++
      r.subscriptionId.toList.map (Ref.id .subscriptions)
  | .devices, r => [.id .customerProfiles r.customerId]
  | .installations, r => [.id .customerProfiles r.customerId, .id .products r.productId] ++
      r.deviceId.toList.map (Ref.id .devices) ++ r.fleetId.toList.map (Ref.id .fleets)
  | .licenseActivations, r => [.id .licenses r.licenseId, .id .installations r.installationId] ++
      r.deviceId.toList.map (Ref.id .devices)
  | .licenseLeases, r => [.id .licenses r.licenseId, .id .installations r.installationId]
  | .licenseRevocations, r => r.licenseId.toList.map (Ref.id .licenses) ++
      r.deviceId.toList.map (Ref.id .devices) ++
      r.installationId.toList.map (Ref.id .installations)
  | .entitlementOverrides, r => [.id .customerProfiles r.customerId, .id .products r.productId]
  | .usageReservations, r =>
      [.id .customerProfiles r.customerId, .key .usageMeters (.meter r.meterKey)]
  | .usageEvents, r =>
      [.id .customerProfiles r.customerId, .key .usageMeters (.meter r.meterKey)] ++
      r.reservationId.toList.map (Ref.id .usageReservations)
  | .usagePeriodTotals, r =>
      [.id .customerProfiles r.customerId, .key .usageMeters (.meter r.meterKey)]
  | .quotaDecisions, r => [.id .customerProfiles r.customerId]
  | .commercialAuditEvents, r => r.customerId.toList.map (Ref.id .customerProfiles)
  | .accountDeletionRequests, r => [.id .customerProfiles r.customerId]
  | .commercialPolicyVersions, r => [.id .products r.productId]
  | .fleets, r => .id .customerProfiles r.customerId ::
      r.releaseChannelId.toList.map (Ref.id .releaseChannels)
  | .fleetApplications, r => [.id .fleets r.fleetId, .id .products r.productId] ++
      r.releaseChannelId.toList.map (Ref.id .releaseChannels)
  | _, _ => []

def uniqueKeys : ∀ t, Row t → List UniqueKey
  | .customerProfiles, r => [.authUser r.authUserId]
  | .customerEmails, r => [.primaryEmail r.customerId]
  | .billingAccounts, r => [.billingCustomer r.customerId]
  | .stripeCustomers, r => [.stripeCustomer r.stripeCustomerId]
  | .subscriptions, r => [.stripeSubscription r.stripeSubscriptionId]
  | .checkoutSessions, r => [.checkoutSession r.stripeCheckoutSessionId]
  | .invoiceReferences, r => [.invoice r.stripeInvoiceId]
  | .stripeWebhookEvents, r => [.webhookEvent r.stripeEventId]
  | .devices, r => [.deviceFingerprint r.customerId r.publicKeyFpr]
  | .installations, r => [.installKey r.customerId r.installKey]
  | .licenseActivations, r =>
      if r.status = .active then [.activeActivation r.licenseId r.installationId] else []
  | .usageMeters, r => [.meter r.key]
  | .usageReservations, r => [.reservationKey r.customerId r.idempotencyKey]
  | .usageEvents, r => [.usageEventKey r.customerId r.idempotencyKey]
  | .usagePeriodTotals, r => [.periodTotal r.customerId r.meterKey r.periodKey]
  | .outboxEvents, r => [.delivery r.deliveryKey]
  | .fleets, r =>
      if r.fleetType = .default ∧ r.status ≠ .deleted then [.defaultFleet r.customerId] else []
  | .fleetApplications, r => [.fleetApplication r.fleetId r.productId]
  | .commercialPolicyVersions, r =>
      [.policyVersion r.productId r.version, .policyKey r.productId r.idempotencyKey]
  | _, _ => []

instance : Schema Row UniqueKey where
  check := checkRow
  refs := foreignKeys
  keys := uniqueKeys

/-- Only meters are referenced by a unique key. -/
lemma unkeyed {t : TableName} (h : t ≠ .usageMeters) : Unkeyed Row t := by
  intro u v k hk
  cases u <;> simp [Schema.refs, foreignKeys] at hk <;> exact h hk.1

lemma unreferenced_emails : Unreferenced Row .customerEmails := by
  refine ⟨unkeyed (by decide), fun u v i hi => ?_⟩
  cases u <;> simp [Schema.refs, foreignKeys] at hi

abbrev Database := Db Row
abbrev DbStore := Store Row

/-- A transaction of the service. -/
abbrev Tx (ε α : Type) := Prog Row UniqueKey ε α

end ForgeCustomer.DatabaseTables
