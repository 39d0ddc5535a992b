import ForgeCustomer.LicensingRepository

/-!
# The entitlements repository

`repositories::entitlements`: offline leases for activated installations. The signing key is a
parameter.
-/
namespace ForgeCustomer.EntitlementsRepository
open SqlTables SqlPrograms SqlStatements JsonValue DomainRules StripeEvents DatabaseTables AuditWriters
  LicensingRepository TableName

/-- Serializing a lease for the signature cannot fail, so there is no signing error. -/
inductive LeaseError where
  | installationNotFound
  | installationDeactivated
  | noActiveActivation
  | licenseNotActive (status : String)
  | revocationBlocked
  | db (e : SqlError)
deriving DecidableEq

instance : FromSql LeaseError := ⟨.db⟩

structure OfflineLease where
  schemaVersion : String
  leaseId : ℕ
  customerId : ℕ
  licenseId : ℕ
  installationId : ℕ
  product : String
  issuedAt : Time
  expiresAt : Time
  keyId : String
  signature : String
deriving DecidableEq

/-- A signing key: `sign` is given the lease without its signature. -/
structure Signer where
  keyId : String
  sign : OfflineLease → String

/-- Timestamps of a lease are in whole seconds. -/
def wholeSeconds (t : Time) : Time := t - t % 1000000

def signedLease (signer : Signer) (lease : OfflineLease) : OfflineLease :=
  { lease with signature := signer.sign { lease with signature := "" } }

structure LeaseContext where
  installationStatus : InstallationStatus
  deviceId : Option ℕ
  deviceStatus : Option DeviceStatus
  productKey : String
  license : Option (Entry License)

/-- The latest active activation of an installation. -/
def latestActivation (installationId : ℕ) (d : Database) : Option (Entry LicenseActivation) :=
  firstBy (fun a b => decide (b.val.activatedAt < a.val.activatedAt)) ((d .licenseActivations).filter
    fun e => e.val.installationId == installationId && e.val.status == .active)

def activatedLicense (activation : Entry LicenseActivation) (d : Database) : Option (Entry License) :=
  (d .licenses).find? fun e => e.id == activation.val.licenseId

/-- An installation with its product, device and the license of its latest activation. -/
def leaseContext (installationId customerId : ℕ) (d : Database) : Option LeaseContext :=
  ((d .installations).find? fun e => e.id == installationId && e.val.customerId == customerId).bind fun e =>
    (d.lookup .products e.val.productId).map fun product =>
      ⟨e.val.status, e.val.deviceId, (e.val.deviceId.bind fun id => d.lookup .devices id).map (·.status),
        product.key, (latestActivation installationId d).bind fun a => activatedLicense a d⟩

/-- Issue a signed offline lease for an activated installation. -/
def issueOfflineLease (signer : Signer) (clock : Clock) (customerId installationId : ℕ) (leaseTtl : Time)
    (correlationId : Option String) : Tx LeaseError OfflineLease := do
  let context ← select (leaseContext installationId customerId)
  match context with
  | none => .fail .installationNotFound
  | some context =>
    if context.installationStatus = .deactivated then .fail .installationDeactivated
    else if context.deviceStatus = some .revoked then .fail .revocationBlocked
    else
      match context.license with
      | none => .fail .noActiveActivation
      | some license =>
        if license.val.status = .revoked then .fail .revocationBlocked
        else if license.val.status ≠ .active then
          .fail (.licenseNotActive license.val.status.asStr)
        else if license.val.expiresAt.any fun t => decide (t ≤ clock.utcNow) then
          .fail (.licenseNotActive "expired")
        else
          let blocked ← select fun d => (d .licenseRevocations).any fun e =>
            revocationBlocks license.id installationId context.deviceId e.val
          if blocked then .fail .revocationBlocked
          else
            let lease := fun leaseId => signedLease signer
              { schemaVersion := "forge.lease.v1"
                leaseId := leaseId
                customerId := customerId
                licenseId := license.id
                installationId := installationId
                product := context.productKey
                issuedAt := wholeSeconds clock.utcNow
                expiresAt := wholeSeconds (clock.utcNow + leaseTtl)
                keyId := signer.keyId
                signature := "" }
            let row ← insertKeyed licenseLeases fun leaseId =>
              { licenseId := license.id
                installationId := installationId
                issuedAt := clock.utcNow
                expiresAt := clock.utcNow + leaseTtl
                keyId := (lease leaseId).keyId
                signature := (lease leaseId).signature }
            writeCustomerAudit
              { eventType := "lease_issued"
                customerId := customerId
                targetType := "license_lease"
                targetId := toString row.id
                reason := "offline_lease_request"
                beforeState := none
                afterState := some (.obj [("license_id", .uuid license.id),
                  ("installation_id", .uuid installationId),
                  ("expires_at", .time (lease row.id).expiresAt)])
                correlationId := correlationId }
            pure (lease row.id)

def leaseTables : List TableName := [licenseLeases, commercialAuditEvents]

lemma issueOfflineLease_checked (signer : Signer) (clock : Clock) (customerId installationId : ℕ)
    (leaseTtl : Time) (correlationId : Option String) :
    Checked leaseTables
      (issueOfflineLease signer clock customerId installationId leaseTtl correlationId) := by
  refine (checked_select _).bind fun context => ?_
  cases context with
  | none => exact .fail _
  | some context =>
    dsimp only
    split
    · exact .fail _
    split
    · exact .fail _
    cases context.license with
    | none => exact .fail _
    | some license =>
      dsimp only
      split
      · exact .fail _
      split
      · exact .fail _
      split
      · exact .fail _
      refine (checked_select _).bind fun blocked => ?_
      split
      · exact .fail _
      refine (checked_insertKeyed (by decide) _).bind fun row => ?_
      exact (writeCustomerAudit_checked (by decide) _).bind fun _ => .pure _

end ForgeCustomer.EntitlementsRepository
