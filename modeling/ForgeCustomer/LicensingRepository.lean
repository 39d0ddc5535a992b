import ForgeCustomer.AuditWriters

/-!
# The licensing repository

`repositories::licensing`: registration, activation, heartbeat, deactivation, and the license
sync that follows verified subscription truth.
-/
namespace ForgeCustomer.LicensingRepository
open SqlTables SqlPrograms SqlStatements JsonValue DomainRules StripeEvents DatabaseTables AuditWriters TableName

inductive RegistrationError where
  | unknownProduct
  | productMismatch
  | db (e : SqlError)
deriving DecidableEq

inductive ActivationError where
  | installationNotFound
  | installationDeactivated
  | licenseNotFound
  | noActiveLicense
  | licenseNotActive (status : String)
  | revocationBlocked
  | deviceLimitReached (deviceLimit activeDevices : ℕ)
  | db (e : SqlError)
deriving DecidableEq

instance : FromSql RegistrationError := ⟨.db⟩
instance : FromSql ActivationError := ⟨.db⟩

structure DeviceIdentity where
  publicKey : String
  publicKeyFpr : String
  label : Option String
deriving DecidableEq

structure ValidatedRegistration where
  installKey : String
  productKey : String
  appVersion : Option String
  buildId : Option String
  platform : Option String
  architecture : Option String
  packageFormat : Option String
  updaterVersion : Option String
  device : Option DeviceIdentity
deriving DecidableEq

structure RegisteredInstallation where
  installation : Entry Installation
  productKey : String
  created : Bool
  reactivated : Bool
deriving DecidableEq

/-- The stable channel of a product. -/
def stableChannel (productId : ℕ) (d : Database) : Option ℕ :=
  ((d .releaseChannels).find? fun e => e.val.productId == productId && e.val.key == "stable").map (·.id)

def isDefaultFleet (customerId : ℕ) (e : Entry Fleet) : Bool :=
  e.val.customerId == customerId && e.val.fleetType == .default && e.val.status != .deleted

/-- The default fleet of a customer, created under the name `displayName` if there is none. -/
def ensureDefaultFleet {ε : Type} [FromSql ε] (customerId : ℕ) (displayName : String)
    (releaseChannelId : Option ℕ) : Tx ε (Entry Fleet) :=
  insertOrFind fleets
    { customerId := customerId
      displayName := displayName
      fleetType := .default
      status := .active
      updateRing := "standard"
      releaseChannelId := releaseChannelId
      betaEnrolled := false }
    fun d => (d .fleets).find? (isDefaultFleet customerId)

def ensureFleetApplication {ε : Type} [FromSql ε] (fleetId productId : ℕ)
    (releaseChannelId : Option ℕ) : Tx ε Unit := do
  let _ ← insertUnless fleetApplications
    { fleetId := fleetId
      productId := productId
      status := .active
      updateRing := "standard"
      releaseChannelId := releaseChannelId }
  pure ()

/-- The device a registration names; a new label replaces the stored one. -/
def registerDevice {ε : Type} [FromSql ε] (customerId : ℕ) : Option DeviceIdentity → Tx ε (Option ℕ)
  | none => pure none
  | some device => do
    let row ← upsert devices
      { customerId := customerId
        publicKey := device.publicKey
        publicKeyFpr := device.publicKeyFpr
        label := device.label
        status := .active }
      fun r => { r with label := device.label.or r.label }
    pure (some row.id)

/-- Insert the installation, or refresh the one with the same install key. -/
def recordInstallation (clock : Clock) (customerId : ℕ) (input : ValidatedRegistration)
    (product : Entry Product) (deviceId : Option ℕ) (fleetId : ℕ) :
    Tx RegistrationError RegisteredInstallation := do
  let inserted ← insertUnless installations
    { customerId := customerId
      deviceId := deviceId
      fleetId := some fleetId
      installKey := input.installKey
      productId := product.id
      appVersion := input.appVersion
      buildId := input.buildId
      platform := input.platform
      architecture := input.architecture
      packageFormat := input.packageFormat
      updaterVersion := input.updaterVersion
      status := .active
      lastHeartbeatAt := none }
  match inserted with
  | some installation =>
    writeOutbox "installation_registered" s!"installation_registered:{installation.id}"
      (.obj [("customer_id", .uuid customerId), ("installation_id", .uuid installation.id),
        ("fleet_id", Value.opt .uuid installation.val.fleetId),
        ("product", .str product.val.key), ("has_device", .bool deviceId.isSome),
        ("occurred_at", .time clock.utcNow)])
    pure ⟨installation, product.val.key, true, false⟩
  | none =>
    let prior ← selectOneForUpdate installations fun d =>
      (d .installations).find? fun e =>
        e.val.customerId == customerId && e.val.installKey == input.installKey
    if prior.val.productId ≠ product.id then .fail .productMismatch
    else
      let installation ← updateOne installations (fun e => e.id == prior.id) fun r =>
        { r with
          status := .active
          appVersion := input.appVersion.or r.appVersion
          deviceId := deviceId.or r.deviceId
          fleetId := r.fleetId.or (some fleetId)
          buildId := input.buildId.or r.buildId
          platform := input.platform.or r.platform
          architecture := input.architecture.or r.architecture
          packageFormat := input.packageFormat.or r.packageFormat
          updaterVersion := input.updaterVersion.or r.updaterVersion }
      pure ⟨installation, product.val.key, false, prior.val.status == .deactivated⟩

/-- Register, or idempotently return, an installation by its install key. -/
def registerInstallation (clock : Clock) (customerId : ℕ) (input : ValidatedRegistration) :
    Tx RegistrationError RegisteredInstallation := do
  let product ← select fun d =>
    (d .products).find? fun e => e.val.key == input.productKey && e.val.status == .active
  match product with
  | none => .fail .unknownProduct
  | some product =>
    let deviceId ← registerDevice customerId input.device
    let channel ← select (stableChannel product.id)
    let fleet ← ensureDefaultFleet customerId "Default fleet" channel
    ensureFleetApplication fleet.id product.id channel
    recordInstallation clock customerId input product deviceId fleet.id

structure PlanContext where
  productId : ℕ
  productKey : String
  planKey : String
deriving DecidableEq

/-- The plan and product of a plan version. -/
def planContext (d : Database) (planVersionId : ℕ) : Option PlanContext :=
  (d.lookup .planVersions planVersionId).bind fun version =>
    (d.lookup .plans version.planId).bind fun plan =>
      (d.lookup .products plan.productId).map fun product =>
        ⟨plan.productId, product.key, plan.key⟩

/-- The policy version in force at `now` for a product. -/
def activePolicy (now : Time) (productKey : String) (d : Database) : Option CommercialPolicyVersion :=
  (firstBy (fun a b => decide (b.val.effectiveAt < a.val.effectiveAt) ||
      (a.val.effectiveAt == b.val.effectiveAt && decide (b.val.version < a.val.version)))
    ((d .commercialPolicyVersions).filter fun e =>
      (((d.lookup .products e.val.productId).map (·.key)) == some productKey) &&
        (e.val.effectiveAt ≤ now))).map (·.val)

def policyTier (productKey planKey : String) : Option (PolicyDocument → PolicyLimits) :=
  if productKey = "authorforge" ∧ planKey = "authorforge_included" then some (·.included)
  else if productKey = "authorforge" ∧ planKey = "authorforge_pro" then some (·.pro)
  else none

/-- `clamp(0, i32::MAX)`. -/
def clampLimit (value : ℤ) : ℕ := (max 0 (min value (2 ^ 31 - 1))).toNat

/-- The device ceiling that the policy in force sets for a plan. -/
def commercialPolicyDeviceLimit {ε : Type} (now : Time) (productKey planKey : String) :
    Tx ε (Option ℕ) :=
  match policyTier productKey planKey with
  | none => pure none
  | some tier => select fun d =>
      (activePolicy now productKey d).map fun version => clampLimit (tier version.policy).deviceLimit

/-- The plan of the subscription a license derives from. -/
def licensePlan (licenseId : ℕ) (d : Database) : Option PlanContext :=
  (d.lookup .licenses licenseId).bind fun license =>
    (license.subscriptionId.bind fun id => d.lookup .subscriptions id).bind fun subscription =>
      (d.lookup .planVersions subscription.planVersionId).bind fun version =>
        (d.lookup .plans version.planId).bind fun plan =>
          (d.lookup .products license.productId).map fun product =>
            ⟨license.productId, product.key, plan.key⟩

def commercialPolicyDeviceLimitForLicense {ε : Type} (now : Time) (licenseId : ℕ) :
    Tx ε (Option ℕ) := do
  let plan ← select (licensePlan licenseId)
  match plan with
  | some plan => commercialPolicyDeviceLimit now plan.productKey plan.planKey
  | none => pure none

structure ActivationOutcome where
  activationId : ℕ
  licenseId : ℕ
  installationId : ℕ
  activatedAt : Time
  deviceLimit : ℕ
  activeDevices : ℕ
  alreadyActive : Bool
deriving DecidableEq

/-- An installation with the status of its device. -/
def installationContext (installationId customerId : ℕ) (d : Database) :
    Option (Entry Installation × Option DeviceStatus) :=
  ((d .installations).find? fun e => e.id == installationId && e.val.customerId == customerId).map
    fun e => (e, (e.val.deviceId.bind fun id => d.lookup .devices id).map (·.status))

/-- The latest issued active license for the product. -/
def latestActiveLicense (now : Time) (customerId productId : ℕ) (d : Database) : Option (Entry License) :=
  firstBy (fun a b => decide (b.val.issuedAt < a.val.issuedAt)) ((d .licenses).filter fun e =>
    e.val.customerId == customerId && e.val.productId == productId && e.val.status == .active &&
      e.val.expiresAt.all fun t => decide (now < t))

def pickLicense (now : Time) (customerId productId : ℕ) (licenseId : Option ℕ) (d : Database) :
    Option (Entry License) :=
  match licenseId with
  | some licenseId => (d .licenses).find? fun e => e.id == licenseId && e.val.customerId == customerId
  | none => latestActiveLicense now customerId productId d

/-- A revocation of the whole license, of the installation or of the device. -/
def revocationBlocks (licenseId installationId : ℕ) (deviceId : Option ℕ) (r : LicenseRevocation) : Bool :=
  (r.licenseId == some licenseId && r.installationId.isNone && r.deviceId.isNone) ||
    r.installationId == some installationId || (deviceId.isSome && r.deviceId == deviceId)

def isActivationOf (licenseId installationId : ℕ) (e : Entry LicenseActivation) : Bool :=
  e.val.licenseId == licenseId && e.val.installationId == installationId && e.val.status == .active

/-- `u32::try_from(count).unwrap_or(u32::MAX)`. -/
def countDevices (count : ℕ) : ℕ := min count (2 ^ 32 - 1)

/-- Activate a license on an installation, within the device limit. -/
def activateInstallation (clock : Clock) (customerId installationId : ℕ) (licenseId : Option ℕ)
    (correlationId : Option String) : Tx ActivationError ActivationOutcome := do
  let context ← select (installationContext installationId customerId)
  match context with
  | none => .fail .installationNotFound
  | some (installation, deviceStatus) =>
    if installation.val.status = .deactivated then .fail .installationDeactivated
    else if deviceStatus = some .revoked then .fail .revocationBlocked
    else
      let license ← selectForUpdate licenses
        (pickLicense clock.now customerId installation.val.productId licenseId)
      match license with
      | none => if licenseId.isSome then .fail .licenseNotFound else .fail .noActiveLicense
      | some license =>
        if license.val.status = .revoked then .fail .revocationBlocked
        else if license.val.status ≠ .active then
          .fail (.licenseNotActive license.val.status.asStr)
        else if license.val.expiresAt.any fun t => decide (t ≤ clock.utcNow) then
          .fail (.licenseNotActive "expired")
        else
          let blocked ← select fun d => (d .licenseRevocations).any fun e =>
            revocationBlocks license.id installation.id installation.val.deviceId e.val
          if blocked then .fail .revocationBlocked
          else
            -- Manually issued licenses have no subscription plan and keep their own limit.
            let policyLimit ← commercialPolicyDeviceLimitForLicense clock.now license.id
            let deviceLimit := policyLimit.getD license.val.deviceLimit
            let count ← select fun d => ((d .licenseActivations).filter fun e =>
              e.val.licenseId == license.id && e.val.status == .active).length
            let activeDevices := countDevices count
            let existing ← select fun d =>
              (d .licenseActivations).find? (isActivationOf license.id installation.id)
            match existing with
            | some activation =>
              pure ⟨activation.id, license.id, installation.id, activation.val.activatedAt, deviceLimit,
                activeDevices, true⟩
            | none =>
              if !canActivateDevice activeDevices deviceLimit then
                .fail (.deviceLimitReached deviceLimit activeDevices)
              else
                let activation ← insertRow licenseActivations
                  { licenseId := license.id
                    installationId := installation.id
                    deviceId := installation.val.deviceId
                    status := .active
                    activatedAt := clock.now
                    deactivatedAt := none }
                writeCustomerAudit
                  { eventType := "license_activated"
                    customerId := customerId
                    targetType := "license_activation"
                    targetId := toString activation.id
                    reason := "installation_activate"
                    beforeState := none
                    afterState := some (.obj [("license_id", .uuid license.id),
                      ("installation_id", .uuid installation.id),
                      ("device_id", Value.opt .uuid installation.val.deviceId),
                      ("active_devices", .int (activeDevices + 1)),
                      ("device_limit", .int deviceLimit)])
                    correlationId := correlationId }
                writeOutbox "license_activated" s!"license_activated:{activation.id}"
                  (.obj [("customer_id", .uuid customerId), ("license_id", .uuid license.id),
                    ("installation_id", .uuid installation.id),
                    ("device_id", Value.opt .uuid installation.val.deviceId),
                    ("active_devices", .int (activeDevices + 1)),
                    ("device_limit", .int deviceLimit), ("occurred_at", .time clock.now)])
                pure ⟨activation.id, license.id, installation.id, clock.now, deviceLimit,
                  activeDevices + 1, false⟩

/-- Record liveness; a reported version replaces the stored one. -/
def heartbeatInstallation {ε : Type} [FromSql ε] (clock : Clock) (customerId installationId : ℕ)
    (appVersion : Option String) : Tx ε (Option (Entry Installation)) := do
  let rows ← update installations (fun e => e.id == installationId && e.val.customerId == customerId)
    fun r => { r with lastHeartbeatAt := some clock.now, appVersion := appVersion.or r.appVersion }
  pure rows.head?

structure DeactivationOutcome where
  installationId : ℕ
  status : InstallationStatus
  releasedActivations : ℕ
  alreadyDeactivated : Bool
deriving DecidableEq

def endActivation (now : Time) (r : LicenseActivation) : LicenseActivation :=
  { r with status := .deactivated, deactivatedAt := some now }

/-- Deactivate an installation and release its activations. -/
def deactivateInstallation (clock : Clock) (customerId installationId : ℕ)
    (correlationId : Option String) : Tx ActivationError DeactivationOutcome := do
  let installation ← selectForUpdate installations fun d =>
    (d .installations).find? fun e => e.id == installationId && e.val.customerId == customerId
  match installation with
  | none => .fail .installationNotFound
  | some installation =>
    if installation.val.status = .deactivated then pure ⟨installationId, .deactivated, 0, true⟩
    else
      let _ ← update installations (fun e => e.id == installationId)
        fun r => { r with status := .deactivated }
      let released ← update licenseActivations
        (fun e => e.val.installationId == installationId && e.val.status == .active)
        (endActivation clock.now)
      writeCustomerAudit
        { eventType := "installation_deactivated"
          customerId := customerId
          targetType := "installation"
          targetId := toString installationId
          reason := "installation_deactivate"
          beforeState := some (.obj [("status", .str "active")])
          afterState := some (.obj [("status", .str "deactivated"),
            ("released_activations", .int released.length)])
          correlationId := correlationId }
      pure ⟨installationId, .deactivated, released.length, false⟩

structure LicenseSyncOutcome where
  licenseId : ℕ
  beforeStatus : Option LicenseStatus
  beforeDeviceLimit : Option ℕ
  afterStatus : LicenseStatus
  deviceLimit : ℕ
  auditEventType : String
deriving DecidableEq

namespace LicenseSyncOutcome

def beforeState (o : LicenseSyncOutcome) : Option Value :=
  o.beforeStatus.map fun status => .obj [("license_status", .str status.asStr),
    ("device_limit", Value.opt (fun n : ℕ => .int n) o.beforeDeviceLimit)]

def afterState (o : LicenseSyncOutcome) : Value :=
  .obj [("license_status", .str o.afterStatus.asStr), ("device_limit", .int o.deviceLimit)]

end LicenseSyncOutcome

/-- The `devices.max` feature of a plan version. -/
def catalogDevicesMax (planVersionId : ℕ) (productKey : String) (d : Database) : Option ℤ :=
  ((d .planFeatures).find? fun e => e.val.planVersionId == planVersionId &&
      (d.lookup .features e.val.featureId).map (·.key) == some (productKey ++ ".devices.max")).bind
    fun e => e.val.numberValue.map Int.floor

def isLicenseOf (customerId subscriptionId : ℕ) (e : Entry License) : Bool :=
  e.val.customerId == customerId && e.val.subscriptionId == some subscriptionId

/-- Carry out a sync action on the linked license. -/
def applyLicenseSync {ε : Type} [FromSql ε] (clock : Clock) (customerId subscriptionId productId : ℕ)
    (deviceLimit : ℕ) (subscriptionStatus : SubscriptionStatus) (existing : Option (Entry License))
    (action : Option LicenseSyncAction) : Tx ε (Option LicenseSyncOutcome) :=
  match existing, action with
  | none, some .issue => do
    let license ← insertRow licenses
      { customerId := customerId
        productId := productId
        subscriptionId := some subscriptionId
        status := .active
        deviceLimit := deviceLimit
        issuedAt := clock.now
        expiresAt := none }
    pure (some ⟨license.id, none, none, .active, deviceLimit, "license_issued"⟩)
  | some e, some .reactivate => do
    let _ ← update licenses (fun x => x.id == e.id)
      fun r => { r with status := .active, deviceLimit := deviceLimit, expiresAt := none }
    pure (some ⟨e.id, some e.val.status, some e.val.deviceLimit, .active, deviceLimit,
      "license_reactivated"⟩)
  | some e, some .suspend => do
    let _ ← update licenses (fun x => x.id == e.id) fun r => { r with status := .suspended }
    pure (some ⟨e.id, some e.val.status, some e.val.deviceLimit, .suspended, e.val.deviceLimit,
      "license_suspended"⟩)
  | some e, some .expire => do
    let _ ← update licenses (fun x => x.id == e.id)
      fun r => { r with status := .expired, expiresAt := r.expiresAt.or (some clock.now) }
    pure (some ⟨e.id, some e.val.status, some e.val.deviceLimit, .expired, e.val.deviceLimit,
      "license_expired"⟩)
  | some e, none =>
    -- Plan change while in good standing: refresh the device limit in place.
    if e.val.status = .active ∧ subscriptionStatus.grantsCloud ∧ e.val.deviceLimit ≠ deviceLimit then do
      let _ ← update licenses (fun x => x.id == e.id) fun r => { r with deviceLimit := deviceLimit }
      pure (some ⟨e.id, some e.val.status, some e.val.deviceLimit, .active, deviceLimit,
        "license_device_limit_changed"⟩)
    else pure none
  | _, _ => pure none

/-- Keep the license linked to a subscription consistent with verified subscription truth. -/
def syncLicenseForSubscription {ε : Type} [FromSql ε] (clock : Clock)
    (customerId subscriptionId planVersionId : ℕ) (subscriptionStatus : SubscriptionStatus) :
    Tx ε (Option LicenseSyncOutcome) := do
  let plan ← select fun d => (planContext d planVersionId).map fun plan =>
    (plan, catalogDevicesMax planVersionId plan.productKey d)
  match plan with
  | none => pure none
  | some (plan, devicesMax) =>
    -- Plans without an explicit devices.max feature default to a single device.
    let catalogLimit := clampLimit (devicesMax.getD 1)
    let policyLimit ← commercialPolicyDeviceLimit clock.now plan.productKey plan.planKey
    let deviceLimit := policyLimit.getD catalogLimit
    let existing ← selectForUpdate licenses fun d =>
      (d .licenses).find? (isLicenseOf customerId subscriptionId)
    applyLicenseSync clock customerId subscriptionId plan.productId deviceLimit subscriptionStatus
      existing (licenseSyncAction (existing.map (·.val.status)) subscriptionStatus)

section Checked
variable {ε : Type} [FromSql ε] {S : List TableName}

lemma ensureDefaultFleet_checked (h : fleets ∈ S) (customerId : ℕ) (displayName : String)
    (channel : Option ℕ) : Checked S (ensureDefaultFleet customerId displayName channel : Tx ε _) :=
  checked_insertOrFind h _ _

lemma ensureFleetApplication_checked (h : fleetApplications ∈ S) (fleetId productId : ℕ)
    (channel : Option ℕ) : Checked S (ensureFleetApplication fleetId productId channel : Tx ε Unit) :=
  (checked_insertUnless h _).bind fun _ => .pure ()

lemma registerDevice_checked (h : devices ∈ S) (customerId : ℕ) (device : Option DeviceIdentity) :
    Checked S (registerDevice customerId device : Tx ε _) := by
  cases device with
  | none => exact .pure _
  | some device => exact (checked_upsert h (unkeyed (by decide)) _ _).bind fun _ => .pure _

lemma commercialPolicyDeviceLimit_checked (now : Time) (productKey planKey : String) :
    Checked S (commercialPolicyDeviceLimit now productKey planKey : Tx ε _) := by
  unfold commercialPolicyDeviceLimit
  split
  · exact .pure _
  · exact checked_select _

lemma commercialPolicyDeviceLimitForLicense_checked (now : Time) (licenseId : ℕ) :
    Checked S (commercialPolicyDeviceLimitForLicense now licenseId : Tx ε _) := by
  refine (checked_select _).bind fun plan => ?_
  cases plan with
  | none => exact .pure _
  | some plan => exact commercialPolicyDeviceLimit_checked _ _ _

lemma applyLicenseSync_checked (h : licenses ∈ S) (clock : Clock)
    (customerId subscriptionId productId deviceLimit : ℕ) (status : SubscriptionStatus)
    (existing : Option (Entry License)) (action : Option LicenseSyncAction) :
    Checked S (applyLicenseSync clock customerId subscriptionId productId deviceLimit status existing
      action : Tx ε _) := by
  unfold applyLicenseSync
  split
  · exact (checked_insertRow h _).bind fun _ => .pure _
  · exact (checked_update h (unkeyed (by decide)) _ _).bind fun _ => .pure _
  · exact (checked_update h (unkeyed (by decide)) _ _).bind fun _ => .pure _
  · exact (checked_update h (unkeyed (by decide)) _ _).bind fun _ => .pure _
  · split
    · exact (checked_update h (unkeyed (by decide)) _ _).bind fun _ => .pure _
    · exact .pure _
  · exact .pure _

lemma syncLicenseForSubscription_checked (h : licenses ∈ S) (clock : Clock)
    (customerId subscriptionId planVersionId : ℕ) (status : SubscriptionStatus) :
    Checked S (syncLicenseForSubscription clock customerId subscriptionId planVersionId status
      : Tx ε _) := by
  refine (checked_select _).bind fun plan => ?_
  cases plan with
  | none => exact .pure _
  | some plan =>
    refine (commercialPolicyDeviceLimit_checked _ _ _).bind fun limit => ?_
    exact (checked_selectForUpdate _ _).bind fun existing => applyLicenseSync_checked h _ _ _ _ _ _ _ _

end Checked

def registrationTables : List TableName :=
  [devices, fleets, fleetApplications, installations, outboxEvents]

lemma recordInstallation_checked (clock : Clock) (customerId : ℕ) (input : ValidatedRegistration)
    (product : Entry Product) (deviceId : Option ℕ) (fleetId : ℕ) :
    Checked [installations, outboxEvents]
      (recordInstallation clock customerId input product deviceId fleetId) := by
  refine (checked_insertUnless (by decide) _).bind fun inserted => ?_
  cases inserted with
  | some installation => exact (writeOutbox_checked (by decide) _ _ _).bind fun _ => .pure _
  | none =>
    refine (checked_selectOneForUpdate _ _).bind fun prior => ?_
    split
    · exact .fail _
    exact (checked_updateOne (by decide) (unkeyed (by decide)) _ _).bind fun _ => .pure _

lemma registerInstallation_checked (clock : Clock) (customerId : ℕ) (input : ValidatedRegistration) :
    Checked registrationTables (registerInstallation clock customerId input) := by
  refine (checked_select _).bind fun product => ?_
  cases product with
  | none => exact .fail _
  | some product =>
    refine (registerDevice_checked (by decide) _ _).bind fun deviceId => ?_
    refine (checked_select _).bind fun channel => ?_
    refine (ensureDefaultFleet_checked (by decide) _ _ _).bind fun fleet => ?_
    refine (ensureFleetApplication_checked (by decide) _ _ _).bind fun _ => ?_
    exact (recordInstallation_checked _ _ _ _ _ _).mono (by decide)

def activationTables : List TableName := [licenseActivations, commercialAuditEvents, outboxEvents]

lemma activateInstallation_checked (clock : Clock) (customerId installationId : ℕ)
    (licenseId : Option ℕ) (correlationId : Option String) :
    Checked activationTables
      (activateInstallation clock customerId installationId licenseId correlationId) := by
  refine (checked_select _).bind fun context => ?_
  cases context with
  | none => exact .fail _
  | some context =>
    dsimp only
    split
    · exact .fail _
    split
    · exact .fail _
    refine (checked_selectForUpdate _ _).bind fun license => ?_
    cases license with
    | none => dsimp only; split <;> exact .fail _
    | some license =>
      dsimp only
      split
      · exact .fail _
      split
      · exact .fail _
      split
      · exact .fail _
      refine (checked_select _).bind fun blocked => ?_
      split
      · exact .fail _
      refine (commercialPolicyDeviceLimitForLicense_checked _ _).bind fun limit => ?_
      refine (checked_select _).bind fun count => (checked_select _).bind fun existing => ?_
      cases existing with
      | some activation => exact .pure _
      | none =>
        dsimp only
        split
        · exact .fail _
        refine (checked_insertRow (by decide) _).bind fun activation => ?_
        refine (writeCustomerAudit_checked (by decide) _).bind fun _ => ?_
        exact (writeOutbox_checked (by decide) _ _ _).bind fun _ => .pure _

lemma heartbeatInstallation_checked {ε : Type} [FromSql ε] (clock : Clock)
    (customerId installationId : ℕ) (appVersion : Option String) :
    Checked [installations]
      (heartbeatInstallation clock customerId installationId appVersion : Tx ε _) :=
  (checked_update (by decide) (unkeyed (by decide)) _ _).bind fun _ => .pure _

lemma deactivateInstallation_checked (clock : Clock) (customerId installationId : ℕ)
    (correlationId : Option String) :
    Checked [installations, licenseActivations, commercialAuditEvents]
      (deactivateInstallation clock customerId installationId correlationId) := by
  refine (checked_selectForUpdate _ _).bind fun installation => ?_
  cases installation with
  | none => exact .fail _
  | some installation =>
    dsimp only
    split
    · exact .pure _
    refine (checked_update (by decide) (unkeyed (by decide)) _ _).bind fun _ => ?_
    refine (checked_update (by decide) (unkeyed (by decide)) _ _).bind fun released => ?_
    exact (writeCustomerAudit_checked (by decide) _).bind fun _ => .pure _

end ForgeCustomer.LicensingRepository
