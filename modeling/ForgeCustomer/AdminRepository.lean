import ForgeCustomer.AuditWriters
import ForgeCustomer.NumberRounding

/-!
# The admin repository

`repositories::admin`: operator mutations of customers, licenses, overrides, usage and fleets.
-/
namespace ForgeCustomer.AdminRepository
open SqlTables SqlPrograms SqlStatements JsonValue DomainRules StripeEvents DatabaseTables AuditWriters
  NumberRounding TableName

inductive AdminError where
  | customerNotFound
  | productNotFound
  | fleetNotFound
  | licenseNotFound
  | meterNotFound
  | db (e : SqlError)
deriving DecidableEq

instance : FromSql AdminError := ⟨.db⟩

def activeProduct (productKey : String) (d : Database) : Option (Entry Product) :=
  (d .products).find? fun e => e.val.key == productKey && e.val.status == .active

structure StatusChangeOutcome where
  customerId : ℕ
  fromStatus : CustomerStatus
  status : CustomerStatus
  changed : Bool
deriving DecidableEq

def findProfile (customerId : ℕ) (d : Database) : Option (Entry CustomerProfile) :=
  (d .customerProfiles).find? fun e => e.id == customerId

/-- Set a customer's commercial status; re-applying the current one changes nothing. -/
def setCustomerStatus (clock : Clock) (operatorId : String) (customerId : ℕ) (toStatus : CustomerStatus)
    (eventType reason : String) (correlationId : Option String) : Tx AdminError StatusChangeOutcome := do
  let profile ← selectForUpdate customerProfiles (findProfile customerId)
  match profile with
  | none => .fail .customerNotFound
  | some profile =>
    let current := profile.val.status
    if current = toStatus then pure ⟨customerId, current, current, false⟩
    else
      let _ ← update customerProfiles (fun e => e.id == customerId) fun r => { r with status := toStatus }
      let history ← insertRow customerStatusHistory
        { customerId := customerId
          fromStatus := some current
          toStatus := toStatus
          reason := reason
          actorType := .operator
          actorId := operatorId }
      writeOperatorAudit
        { eventType := eventType
          operatorId := operatorId
          customerId := some customerId
          targetType := "customer"
          targetId := toString customerId
          reason := reason
          beforeState := some (.obj [("status", .str current.asStr)])
          afterState := some (.obj [("status", .str toStatus.asStr)])
          correlationId := correlationId }
      writeOutbox eventType s!"{eventType}:{history.id}"
        (.obj [("customer_id", .uuid customerId), ("status", .str toStatus.asStr),
          ("occurred_at", .time clock.utcNow)])
      pure ⟨customerId, current, toStatus, true⟩

def suspendCustomer (clock : Clock) (operatorId : String) (customerId : ℕ) (reason : String)
    (correlationId : Option String) : Tx AdminError StatusChangeOutcome :=
  setCustomerStatus clock operatorId customerId .suspended "customer_suspended" reason correlationId

def restoreCustomer (clock : Clock) (operatorId : String) (customerId : ℕ) (reason : String)
    (correlationId : Option String) : Tx AdminError StatusChangeOutcome :=
  setCustomerStatus clock operatorId customerId .active "customer_restored" reason correlationId

structure MfaRequirementOutcome where
  customerId : ℕ
  fromRequired : Bool
  mfaRequired : Bool
  changed : Bool
deriving DecidableEq

/-- Set or clear the second-factor requirement from the operator side. -/
def setCustomerMfaRequirement (clock : Clock) (operatorId : String) (customerId : ℕ) (required : Bool)
    (reason : String) (correlationId : Option String) : Tx AdminError MfaRequirementOutcome := do
  let profile ← selectForUpdate customerProfiles (findProfile customerId)
  match profile with
  | none => .fail .customerNotFound
  | some profile =>
    let current := profile.val.mfaRequired
    if current = required then pure ⟨customerId, current, current, false⟩
    else
      let _ ← update customerProfiles (fun e => e.id == customerId)
        fun r => { r with mfaRequired := required }
      let history ← insertRow customerMfaHistory
        { customerId := customerId
          fromRequired := current
          toRequired := required
          reason := reason
          actorType := .operator
          actorId := operatorId }
      let eventType := if required then "customer_mfa_required" else "customer_mfa_not_required"
      writeOperatorAudit
        { eventType := eventType
          operatorId := operatorId
          customerId := some customerId
          targetType := "customer"
          targetId := toString customerId
          reason := reason
          beforeState := some (.obj [("mfa_required", .bool current)])
          afterState := some (.obj [("mfa_required", .bool required)])
          correlationId := correlationId }
      writeOutbox eventType s!"{eventType}:{history.id}"
        (.obj [("customer_id", .uuid customerId), ("mfa_required", .bool required),
          ("occurred_at", .time clock.utcNow)])
      pure ⟨customerId, current, required, true⟩

structure IssueLicenseInput where
  operatorId : String
  customerId : ℕ
  productKey : String
  deviceLimit : ℕ
  expiresAt : Option Time
  reason : String
  correlationId : Option String

/-- A license issued by an operator has no subscription. -/
def issueLicense (clock : Clock) (input : IssueLicenseInput) : Tx AdminError (Entry License) := do
  let known ← select fun d => d.has .customerProfiles input.customerId
  if !known then .fail .customerNotFound
  else
    let product ← select (activeProduct input.productKey)
    match product with
    | none => .fail .productNotFound
    | some product =>
      let license ← insertRow licenses
        { customerId := input.customerId
          productId := product.id
          subscriptionId := none
          status := .active
          deviceLimit := input.deviceLimit
          issuedAt := clock.now
          expiresAt := input.expiresAt }
      writeOperatorAudit
        { eventType := "license_issued"
          operatorId := input.operatorId
          customerId := some input.customerId
          targetType := "license"
          targetId := toString license.id
          reason := input.reason
          beforeState := none
          afterState := some (.obj [("license_status", .str "active"), ("product", .str product.val.key),
            ("device_limit", .int input.deviceLimit), ("expires_at", Value.opt .time input.expiresAt)])
          correlationId := input.correlationId }
      pure license

structure RevocationOutcome where
  licenseId : ℕ
  customerId : ℕ
  status : LicenseStatus
  changed : Bool
deriving DecidableEq

def findLicense (licenseId : ℕ) (d : Database) : Option (Entry License) :=
  (d .licenses).find? fun e => e.id == licenseId

/-- Explicit denial, never lifted by subscription sync. -/
def revokeLicense (clock : Clock) (operatorId : String) (licenseId : ℕ) (reason : String)
    (correlationId : Option String) : Tx AdminError RevocationOutcome := do
  let license ← selectForUpdate licenses (findLicense licenseId)
  match license with
  | none => .fail .licenseNotFound
  | some license =>
    if license.val.status = .revoked then pure ⟨licenseId, license.val.customerId, .revoked, false⟩
    else
      let _ ← update licenses (fun e => e.id == licenseId) fun r => { r with status := .revoked }
      let revocation ← insertRow licenseRevocations
        { licenseId := some licenseId
          deviceId := none
          installationId := none
          reason := reason
          actorType := .operator
          actorId := operatorId }
      writeOperatorAudit
        { eventType := "license_revoked"
          operatorId := operatorId
          customerId := some license.val.customerId
          targetType := "license"
          targetId := toString licenseId
          reason := reason
          beforeState := some (.obj [("license_status", .str license.val.status.asStr)])
          afterState := some (.obj [("license_status", .str "revoked")])
          correlationId := correlationId }
      writeOutbox "license_revoked" s!"license_revoked:{revocation.id}"
        (.obj [("customer_id", .uuid license.val.customerId), ("license_id", .uuid licenseId),
          ("occurred_at", .time clock.utcNow)])
      pure ⟨licenseId, license.val.customerId, .revoked, true⟩

inductive OverrideValue where
  | bool (value : Bool)
  | number (value : ℚ)
  | text (value : String)
deriving DecidableEq

namespace OverrideValue

def columns : OverrideValue → Option Bool × Option ℚ × Option String
  | bool value => (some value, none, none)
  | number value => (none, some value, none)
  | text value => (none, none, some value)

def json : OverrideValue → Value
  | bool value => .bool value
  | number value => .float value
  | text value => .str value

end OverrideValue

/-- Exactly one of `featureKey` and `quotaKey` is given; no value clears the override. -/
structure OverrideInput where
  customerId : ℕ
  productKey : String
  featureKey : Option String
  quotaKey : Option String
  value : Option OverrideValue
  expiresAt : Option Time
  reason : String

structure OverrideOutcome where
  overrideId : Option ℕ
  cleared : ℕ
deriving DecidableEq

/-- Writing a double to the numeric column leaves 15 digits of it. -/
def insertOverride (operatorId : String) (input : OverrideInput) (productId : ℕ) :
    Tx AdminError (Option ℕ) :=
  match input.value with
  | none => pure none
  | some value => do
    let row ← insertRow entitlementOverrides
      { customerId := input.customerId
        productId := productId
        featureKey := input.featureKey
        quotaKey := input.quotaKey
        boolValue := value.columns.1
        numberValue := value.columns.2.1.map numericOfFloat8
        stringValue := value.columns.2.2
        reason := input.reason
        actorId := operatorId
        active := true
        expiresAt := input.expiresAt }
    pure (some row.id)

/-- Set or clear an override; prior active overrides for the same key are deactivated. -/
def setEntitlementOverride (operatorId : String) (input : OverrideInput)
    (correlationId : Option String) : Tx AdminError OverrideOutcome := do
  let known ← select fun d => d.has .customerProfiles input.customerId
  if !known then .fail .customerNotFound
  else
    let product ← select (activeProduct input.productKey)
    match product with
    | none => .fail .productNotFound
    | some product =>
      let cleared ← update entitlementOverrides
        (fun e => e.val.customerId == input.customerId && e.val.productId == product.id &&
          e.val.active && e.val.featureKey == input.featureKey && e.val.quotaKey == input.quotaKey)
        fun r => { r with active := false }
      let overrideId ← insertOverride operatorId input product.id
      let key := (input.featureKey.or input.quotaKey).getD ""
      writeOperatorAudit
        { eventType :=
            if overrideId.isSome then "entitlement_override_set" else "entitlement_override_cleared"
          operatorId := operatorId
          customerId := some input.customerId
          targetType := "entitlement_override"
          targetId := (overrideId.map fun id => toString id).getD key
          reason := input.reason
          beforeState := some (.obj [("deactivated_overrides", .int cleared.length)])
          afterState := some (.obj [("key", .str key),
            ("value", Value.opt OverrideValue.json input.value),
            ("expires_at", Value.opt .time input.expiresAt)])
          correlationId := correlationId }
      pure ⟨overrideId, cleared.length⟩

structure UsageAdjustmentInput where
  operatorId : String
  customerId : ℕ
  meterKey : String
  amount : ℚ
  periodKey : String
  idempotencyKey : String
  reason : String
  correlationId : Option String

structure AdjustmentOutcome where
  usageEventId : ℕ
  customerId : ℕ
  meterKey : String
  periodKey : String
  amount : ℚ
  replayed : Bool
deriving DecidableEq

/-- Append a compensating adjustment to the ledger and fold it into the period total. -/
def adjustUsage (input : UsageAdjustmentInput) : Tx AdminError AdjustmentOutcome := do
  let known ← select fun d => d.has .customerProfiles input.customerId
  if !known then .fail .customerNotFound
  else
    let metered ← select fun d => (d .usageMeters).any fun e => e.val.key == input.meterKey
    if !metered then .fail .meterNotFound
    else
      let inserted ← insertUnless usageEvents
        { customerId := input.customerId
          meterKey := input.meterKey
          amount := input.amount
          periodKey := input.periodKey
          idempotencyKey := input.idempotencyKey
          reservationId := none
          kind := .adjustment }
      match inserted with
      | none =>
        -- Replay of a previously applied adjustment: report the original, change nothing.
        let existing ← selectOne fun d => (d .usageEvents).find? fun e =>
          e.val.customerId == input.customerId && e.val.idempotencyKey == input.idempotencyKey
        pure ⟨existing.id, input.customerId, existing.val.meterKey, existing.val.periodKey,
          existing.val.amount, true⟩
      | some event =>
        let _ ← upsert usagePeriodTotals
          { customerId := input.customerId
            meterKey := input.meterKey
            periodKey := input.periodKey
            used := input.amount
            reserved := 0 }
          fun r => { r with used := r.used + input.amount }
        writeOperatorAudit
          { eventType := "usage_adjusted"
            operatorId := input.operatorId
            customerId := some input.customerId
            targetType := "usage_event"
            targetId := toString event.id
            reason := input.reason
            beforeState := none
            afterState := some (.obj [("meter_key", .str input.meterKey),
              ("period_key", .str input.periodKey), ("amount", .float input.amount),
              ("kind", .str "adjustment")])
            correlationId := input.correlationId }
        pure ⟨event.id, input.customerId, input.meterKey, input.periodKey, input.amount, false⟩

structure UpdateFleetPolicyInput where
  operatorId : String
  fleetId : ℕ
  displayName : Option String
  updateRing : Option String
  releaseChannelKey : Option String
  betaEnrolled : Option Bool
  reason : String
  correlationId : Option String

/-- A fleet with the key of its release channel. -/
structure AdminFleetRow where
  fleet : Entry Fleet
  releaseChannelKey : Option String
deriving DecidableEq

def adminFleetRow (fleet : Entry Fleet) (d : Database) : AdminFleetRow :=
  ⟨fleet, (fleet.val.releaseChannelId.bind fun id => d.lookup .releaseChannels id).map (·.key)⟩

def fleetState (row : AdminFleetRow) : Value :=
  .obj [("display_name", .str row.fleet.val.displayName), ("update_ring", .str row.fleet.val.updateRing),
    ("release_channel", Value.opt .str row.releaseChannelKey),
    ("beta_enrolled", .bool row.fleet.val.betaEnrolled)]

def authorforgeChannel (key : String) (d : Database) : Option ℕ :=
  ((d .releaseChannels).find? fun e => e.val.key == key &&
    (d.lookup .products e.val.productId).map (·.key) == some "authorforge").map (·.id)

def fleetChannel (key : Option String) : Tx AdminError (Option ℕ) :=
  match key with
  | none => pure none
  | some key => select (authorforgeChannel key)

def updateFleetPolicy (input : UpdateFleetPolicyInput) : Tx AdminError AdminFleetRow := do
  let before ← selectForUpdate fleets fun d =>
    (d .fleets).find? fun e => e.id == input.fleetId && e.val.status != .deleted
  match before with
  | none => .fail .fleetNotFound
  | some before =>
    let beforeRow ← select (adminFleetRow before)
    let channel ← fleetChannel input.releaseChannelKey
    if input.releaseChannelKey.isSome ∧ channel = none then .fail .productNotFound
    else
      let after ← updateOne fleets (fun e => e.id == input.fleetId) fun r =>
        { r with
          displayName := input.displayName.getD r.displayName
          updateRing := input.updateRing.getD r.updateRing
          releaseChannelId := channel.or r.releaseChannelId
          betaEnrolled := input.betaEnrolled.getD r.betaEnrolled }
      let afterRow ← select (adminFleetRow after)
      writeOperatorAudit
        { eventType := "fleet_policy_updated"
          operatorId := input.operatorId
          customerId := some after.val.customerId
          targetType := "fleet"
          targetId := toString input.fleetId
          reason := input.reason
          beforeState := some (fleetState beforeRow)
          afterState := some (fleetState afterRow)
          correlationId := input.correlationId }
      pure afterRow

def statusTables : List TableName :=
  [customerProfiles, customerStatusHistory, commercialAuditEvents, outboxEvents]

def mfaTables : List TableName :=
  [customerProfiles, customerMfaHistory, commercialAuditEvents, outboxEvents]

def revocationTables : List TableName :=
  [licenses, licenseRevocations, commercialAuditEvents, outboxEvents]

lemma setCustomerStatus_checked (clock : Clock) (operatorId : String) (customerId : ℕ)
    (toStatus : CustomerStatus) (eventType reason : String) (correlationId : Option String) :
    Checked statusTables
      (setCustomerStatus clock operatorId customerId toStatus eventType reason correlationId) := by
  refine (checked_selectForUpdate _ _).bind fun profile => ?_
  cases profile with
  | none => exact .fail _
  | some profile =>
    dsimp only
    split
    · exact .pure _
    refine (checked_update (by decide) (unkeyed (by decide)) _ _).bind fun _ => ?_
    refine (checked_insertRow (by decide) _).bind fun history => ?_
    refine (writeOperatorAudit_checked (by decide) _).bind fun _ => ?_
    exact (writeOutbox_checked (by decide) _ _ _).bind fun _ => .pure _

lemma setCustomerMfaRequirement_checked (clock : Clock) (operatorId : String) (customerId : ℕ)
    (required : Bool) (reason : String) (correlationId : Option String) :
    Checked mfaTables
      (setCustomerMfaRequirement clock operatorId customerId required reason correlationId) := by
  refine (checked_selectForUpdate _ _).bind fun profile => ?_
  cases profile with
  | none => exact .fail _
  | some profile =>
    dsimp only
    split
    · exact .pure _
    refine (checked_update (by decide) (unkeyed (by decide)) _ _).bind fun _ => ?_
    refine (checked_insertRow (by decide) _).bind fun history => ?_
    refine (writeOperatorAudit_checked (by decide) _).bind fun _ => ?_
    exact (writeOutbox_checked (by decide) _ _ _).bind fun _ => .pure _

lemma issueLicense_checked (clock : Clock) (input : IssueLicenseInput) :
    Checked [licenses, commercialAuditEvents] (issueLicense clock input) := by
  refine (checked_select _).bind fun known => ?_
  split
  · exact .fail _
  refine (checked_select _).bind fun product => ?_
  cases product with
  | none => exact .fail _
  | some product =>
    refine (checked_insertRow (by decide) _).bind fun license => ?_
    exact (writeOperatorAudit_checked (by decide) _).bind fun _ => .pure _

lemma revokeLicense_checked (clock : Clock) (operatorId : String) (licenseId : ℕ) (reason : String)
    (correlationId : Option String) :
    Checked revocationTables (revokeLicense clock operatorId licenseId reason correlationId) := by
  refine (checked_selectForUpdate _ _).bind fun license => ?_
  cases license with
  | none => exact .fail _
  | some license =>
    dsimp only
    split
    · exact .pure _
    refine (checked_update (by decide) (unkeyed (by decide)) _ _).bind fun _ => ?_
    refine (checked_insertRow (by decide) _).bind fun revocation => ?_
    refine (writeOperatorAudit_checked (by decide) _).bind fun _ => ?_
    exact (writeOutbox_checked (by decide) _ _ _).bind fun _ => .pure _

lemma insertOverride_checked (operatorId : String) (input : OverrideInput) (productId : ℕ) :
    Checked [entitlementOverrides, commercialAuditEvents] (insertOverride operatorId input productId) := by
  unfold insertOverride
  split
  · exact .pure _
  · exact (checked_insertRow (by decide) _).bind fun _ => .pure _

lemma setEntitlementOverride_checked (operatorId : String) (input : OverrideInput)
    (correlationId : Option String) :
    Checked [entitlementOverrides, commercialAuditEvents] (setEntitlementOverride operatorId input correlationId) := by
  refine (checked_select _).bind fun known => ?_
  split
  · exact .fail _
  refine (checked_select _).bind fun product => ?_
  cases product with
  | none => exact .fail _
  | some product =>
    refine (checked_update (by decide) (unkeyed (by decide)) _ _).bind fun cleared => ?_
    refine (insertOverride_checked _ _ _).bind fun overrideId => ?_
    exact (writeOperatorAudit_checked (by decide) _).bind fun _ => .pure _

lemma adjustUsage_checked (input : UsageAdjustmentInput) :
    Checked [usageEvents, usagePeriodTotals, commercialAuditEvents] (adjustUsage input) := by
  refine (checked_select _).bind fun known => ?_
  split
  · exact .fail _
  refine (checked_select _).bind fun metered => ?_
  split
  · exact .fail _
  refine (checked_insertUnless (by decide) _).bind fun inserted => ?_
  cases inserted with
  | none => exact (checked_selectOne _).bind fun _ => .pure _
  | some event =>
    refine (checked_upsert (by decide) (unkeyed (by decide)) _ _).bind fun _ => ?_
    exact (writeOperatorAudit_checked (by decide) _).bind fun _ => .pure _

lemma fleetChannel_checked {S : List TableName} (key : Option String) : Checked S (fleetChannel key) := by
  cases key with
  | none => exact .pure _
  | some key => exact checked_select _

lemma updateFleetPolicy_checked (input : UpdateFleetPolicyInput) :
    Checked [fleets, commercialAuditEvents] (updateFleetPolicy input) := by
  refine (checked_selectForUpdate _ _).bind fun before => ?_
  cases before with
  | none => exact .fail _
  | some before =>
    refine (checked_select _).bind fun beforeRow => ?_
    refine (fleetChannel_checked _).bind fun channel => ?_
    split
    · exact .fail _
    refine (checked_updateOne (by decide) (unkeyed (by decide)) _ _).bind fun after => ?_
    refine (checked_select _).bind fun afterRow => ?_
    exact (writeOperatorAudit_checked (by decide) _).bind fun _ => .pure _

end ForgeCustomer.AdminRepository
