import ForgeCustomer.CommercialPolicy
import ForgeCustomer.ServiceOperations
import ForgeCustomer.SqlColumns

/-!
# Rows and columns that last

Every transaction of the service as a program of its own, so that requests, operators, Stripe and the
background worker can be interleaved statement by statement, and what none of them ever changes.
-/
namespace ForgeCustomer.LastingRows
open SqlTables SqlPrograms SqlStatements SqlSessions SqlDiscipline Discipline SqlColumns Columns DomainRules
  StripeEvents DatabaseTables AuditWriters LicensingRepository CommerceRepository AdminRepository CustomerRepository
  EntitlementsRepository PrivacyRepository UsageRepository ServiceOperations CommercialPolicy TableName

/-- A transaction whose answer goes to the caller. -/
abbrev ServiceTx := Prog Row UniqueKey Unit Unit

def silent {ε α : Type} (p : Tx ε α) : ServiceTx := translate (fun _ => ()) (fun _ => ()) p

end ForgeCustomer.LastingRows

namespace ForgeCustomer.ServiceOperations
open SqlPrograms SqlStatements DatabaseTables AuditWriters LicensingRepository CommerceRepository AdminRepository
  CustomerRepository EntitlementsRepository PrivacyRepository UsageRepository LastingRows

def CustomerRequest.prog (clock : Clock) (ctx : CustomerContext) (customerId : ℕ) : CustomerRequest → ServiceTx
  | .mfaStatus enabled =>
    match ctx.requireAal2 with
    | .ok _ => silent (setMfaRequired customerId enabled : Tx SqlTables.SqlError Unit)
    | .error _ => .fail ()
  | .register input => silent (registerInstallation clock customerId input)
  | .activate installationId licenseId correlationId =>
    silent (activateInstallation clock customerId installationId licenseId correlationId)
  | .heartbeat installationId appVersion =>
    silent (heartbeatInstallation clock customerId installationId appVersion : Tx SqlTables.SqlError _)
  | .deactivate installationId correlationId =>
    silent (deactivateInstallation clock customerId installationId correlationId)
  | .lease signer installationId leaseTtl correlationId =>
    silent (issueOfflineLease signer clock customerId installationId leaseTtl correlationId)
  | .checkout planVersionId stripeCheckoutSessionId =>
    silent (recordCheckoutSession customerId planVersionId stripeCheckoutSessionId : Tx SqlTables.SqlError _)
  | .reserve input => silent (UsageRepository.reserve clock { input with customerId := customerId })
  | .commit input => silent (UsageRepository.commit clock { input with customerId := customerId })
  | .release reservationId => silent (UsageRepository.release customerId reservationId)
  | .requestDeletion reason correlationId =>
    silent (PrivacyRepository.requestDeletion clock customerId reason correlationId : Tx SqlTables.SqlError _)
  | .cancelDeletion correlationId => silent (cancelRequest customerId correlationId)

def Operation.prog : Operation → ServiceTx
  | .provision clock input => silent (provisionForAuthUser clock input : Tx SqlTables.SqlError _)
  | .customer clock authUserId aal request => do
    -- The extractor resolves the caller before the handler begins its transaction.
    let ctx ← select (customerContext authUserId aal)
    match ctx.requireActive clock with
    | .ok customerId => request.prog clock ctx customerId
    | .error _ => .fail ()
  | .suspend clock operatorId customerId reason correlationId =>
    silent (suspendCustomer clock operatorId customerId reason correlationId)
  | .restore clock operatorId customerId reason correlationId =>
    silent (restoreCustomer clock operatorId customerId reason correlationId)
  | .requireMfa clock operatorId customerId required reason correlationId =>
    silent (setCustomerMfaRequirement clock operatorId customerId required reason correlationId)
  | .issueLicense clock input => silent (AdminRepository.issueLicense clock input)
  | .revokeLicense clock operatorId licenseId reason correlationId =>
    silent (AdminRepository.revokeLicense clock operatorId licenseId reason correlationId)
  | .override operatorId input correlationId => silent (setEntitlementOverride operatorId input correlationId)
  | .adjustUsage input => silent (AdminRepository.adjustUsage input)
  | .fleetPolicy input => silent (updateFleetPolicy input)
  | .webhook clock event => silent (processStripeWebhookEvent clock event)
  | .resync clock subscriptionId change operatorId reason correlationId =>
    silent (applyAdminResync clock subscriptionId change operatorId reason correlationId)
  | .sweep clock batch => silent (sweepExpiredReservations clock batch)
  | .advanceDeletion clock operatorId requestId coolingOff reason correlationId =>
    silent (advanceRequest clock operatorId requestId coolingOff reason correlationId)
  | .rejectDeletion operatorId requestId reason correlationId =>
    silent (rejectRequest operatorId requestId reason correlationId)
  | .executeDeletion clock operatorId requestId reason correlationId =>
    silent (PrivacyRepository.executeDeletion clock operatorId requestId reason correlationId)

end ForgeCustomer.ServiceOperations

namespace ForgeCustomer.LastingRows
open SqlTables SqlPrograms SqlStatements SqlSessions SqlDiscipline Discipline SqlColumns Columns DomainRules
  StripeEvents DatabaseTables AuditWriters LicensingRepository CommerceRepository AdminRepository CustomerRepository
  EntitlementsRepository PrivacyRepository UsageRepository ServiceOperations CommercialPolicy TableName

/-- What runs against the tables: the operations and the publishing of commercial policies. -/
inductive ServiceCall where
  | operation (op : Operation)
  | publish (clock : Clock) (input : PublishInput)

def ServiceCall.prog : ServiceCall → ServiceTx
  | operation op => op.prog
  | publish clock input => silent (CommercialPolicy.publish clock input)

/-- A row with the columns blanked out that some statement sets. -/
def fixedColumns : ∀ t, Row t → Row t
  | .customerProfiles, r =>
    { r with status := .pending, displayName := none, countryCode := none, timezone := none, mfaRequired := false }
  | .subscriptions, r =>
    { r with billingAccountId := 0, planVersionId := 0, status := .active, currentPeriodStart := none,
             currentPeriodEnd := none, cancelAtPeriodEnd := false, stripeEventAt := none }
  | .checkoutSessions, r => { r with status := .created }
  | .invoiceReferences, r => ⟨none, r.stripeInvoiceId, "", none, none⟩
  | .stripeWebhookEvents, r => { r with status := .received, processedAt := none }
  | .licenses, r => { r with status := .active, deviceLimit := 0, expiresAt := none }
  | .devices, r => { r with label := none, status := .active }
  | .installations, r => ⟨r.customerId, none, none, r.installKey, r.productId, none, none, none, none, none, none,
      .active, none⟩
  | .licenseActivations, r => { r with status := .active, deactivatedAt := none }
  | .entitlementOverrides, r => { r with active := false }
  | .usageReservations, r => { r with status := .pending }
  | .usagePeriodTotals, r => { r with used := 0, reserved := 0 }
  | .accountDeletionRequests, r =>
    { r with status := .requested, coolingOffUntil := none, completedAt := none, receipt := none }
  | .fleets, r =>
    { r with displayName := "", updateRing := "", releaseChannelId := none, betaEnrolled := false }
  -- Everything else is only ever inserted.
  | _, r => r

/-- Usage, audit and policy history, which triggers of the database guard against updates and deletions. -/
def appendOnlyTables : List TableName := [.usageEvents, .commercialAuditEvents, .commercialPolicyVersions]

/-- Rows are only deleted from the e-mail addresses. -/
def serviceColumns : Columns Row := ⟨fixedColumns, fun t => t == .customerEmails, fun t => appendOnlyTables.contains t⟩

section Writers
variable {ε : Type} [FromSql ε]

lemma writeOutbox_respects (eventType deliveryKey : String) (payload : JsonValue.Value) :
    serviceColumns.Respects (writeOutbox eventType deliveryKey payload : Tx ε Unit) :=
  (respects_insertUnless _).bind fun _ => .pure ()

lemma writeCustomerAudit_respects (record : CustomerAudit) :
    serviceColumns.Respects (writeCustomerAudit record : Tx ε Unit) :=
  (respects_insertRow _).bind fun _ => .pure ()

lemma writeOperatorAudit_respects (record : OperatorAudit) :
    serviceColumns.Respects (writeOperatorAudit record : Tx ε Unit) :=
  (respects_insertRow _).bind fun _ => .pure ()

lemma lockTotals_respects (customerId : ℕ) (meterKey periodKey : String) :
    serviceColumns.Respects (lockTotals customerId meterKey periodKey : Tx ε _) :=
  (respects_insertUnless _).bind fun _ => (respects_selectOneForUpdate _).bind fun _ => .pure _

lemma expireStaleReservations_respects (customerId : ℕ) (meterKey periodKey : String) (now : Time) :
    serviceColumns.Respects (expireStaleReservations customerId meterKey periodKey now : Tx ε ℚ) := by
  refine Respects.bind (respects_update _ ⟨rfl, fun _ => rfl⟩) fun expired => ?_
  dsimp only
  split
  · exact Respects.bind (respects_update _ ⟨rfl, fun _ => rfl⟩) fun _ => .pure _
  · exact .pure _

lemma recordDecision_respects (record : DecisionRecord) :
    serviceColumns.Respects (recordDecision record : Tx ε ℕ) :=
  (respects_insertRow _).bind fun _ => .pure _

end Writers

lemma reserve_respects (clock : Clock) (input : ReserveInput) : serviceColumns.Respects (reserve clock input) := by
  refine (respects_select _).bind fun existing => ?_
  cases existing with
  | some existing => exact .pure _
  | none =>
    refine (lockTotals_respects _ _ _).bind fun _ => ?_
    refine (expireStaleReservations_respects _ _ _ _).bind fun _ => ?_
    refine (respects_selectOne _).bind fun totals => ?_
    refine (recordDecision_respects _).bind fun _ => ?_
    split
    · exact .pure _
    refine (respects_insertUnless _).bind fun reservation => ?_
    cases reservation with
    | none => exact (respects_selectOne _).bind fun _ => .pure _
    | some reservation => exact Respects.bind (respects_update _ ⟨rfl, fun _ => rfl⟩) fun _ => .pure _

lemma writeThresholds_respects (customerId : ℕ) (meterKey periodKey : String) (usedAfter : ℚ) (limit : Option ℚ)
    (utcNow : Time) (thresholds : List ℕ) : serviceColumns.Respects
      (writeThresholds customerId meterKey periodKey usedAfter limit utcNow thresholds) := by
  induction thresholds with
  | nil => exact .pure ()
  | cons pct thresholds ih => exact (writeOutbox_respects _ _ _).bind fun _ => ih

lemma appendEvent_respects (clock : Clock) (input : CommitInput) (meterKey : String) (amount : ℚ)
    (periodKey : String) (reservationId : Option ℕ) :
    serviceColumns.Respects (appendEvent clock input meterKey amount periodKey reservationId) := by
  refine (respects_insertUnless _).bind fun event => ?_
  cases event with
  | none => exact (respects_selectOne _).bind fun _ => .pure _
  | some event =>
    have hclose : serviceColumns.Respects (closeReservation reservationId) := by
      cases reservationId with
      | none => exact .pure ()
      | some id => exact Respects.bind (respects_update _ ⟨rfl, fun _ => rfl⟩) fun _ => .pure ()
    refine hclose.bind fun _ => ?_
    refine Respects.bind (respects_updateOne _ ⟨rfl, fun _ => rfl⟩) fun totals => ?_
    exact (writeThresholds_respects _ _ _ _ _ _ _).bind fun _ => .pure _

lemma commit_respects (clock : Clock) (input : CommitInput) : serviceColumns.Respects (commit clock input) := by
  refine (respects_select _).bind fun existing => ?_
  cases existing with
  | some existing => exact .pure _
  | none =>
    dsimp only
    split
    · refine (respects_selectForUpdate _).bind fun reservation => ?_
      cases reservation with
      | none => exact .fail _
      | some reservation =>
        dsimp only
        split
        · exact .fail _
        split
        · refine Respects.bind (respects_update _ ⟨rfl, fun _ => rfl⟩) fun _ => ?_
          exact Respects.bind (respects_update _ ⟨rfl, fun _ => rfl⟩) fun _ => .pure _
        · exact appendEvent_respects _ _ _ _ _ _
    · refine (lockTotals_respects _ _ _).bind fun _ => ?_
      refine (expireStaleReservations_respects _ _ _ _).bind fun _ => ?_
      refine (respects_selectOne _).bind fun totals => ?_
      refine (recordDecision_respects _).bind fun _ => ?_
      split
      · exact (writeOutbox_respects _ _ _).bind fun _ => .pure _
      · exact appendEvent_respects _ _ _ _ _ _

lemma release_respects (customerId reservationId : ℕ) :
    serviceColumns.Respects (release customerId reservationId) := by
  refine (respects_selectForUpdate _).bind fun reservation => ?_
  cases reservation with
  | none => exact .pure _
  | some reservation =>
    dsimp only
    split
    · exact .pure _
    refine Respects.bind (respects_update _ ⟨rfl, fun _ => rfl⟩) fun _ => ?_
    exact Respects.bind (respects_update _ ⟨rfl, fun _ => rfl⟩) fun _ => .pure _

lemma sweepExpiredReservations_respects (clock : Clock) (batch : ℕ) :
    serviceColumns.Respects (sweepExpiredReservations clock batch) := by
  refine Respects.bind (respects_updatePicked _ ⟨rfl, fun _ => rfl⟩) fun expired => ?_
  have hfree : ∀ rows : List ReservationRow, serviceColumns.Respects (freeHolds rows) := fun rows => by
    induction rows with
    | nil => exact .pure ()
    | cons row rows ih => exact Respects.bind (respects_update _ ⟨rfl, fun _ => rfl⟩) fun _ => ih
  exact (hfree _).bind fun _ => .pure _

section Licensing
variable {ε : Type} [FromSql ε]

lemma ensureDefaultFleet_respects (customerId : ℕ) (displayName : String) (channel : Option ℕ) :
    serviceColumns.Respects (ensureDefaultFleet customerId displayName channel : Tx ε _) := respects_insertOrFind _ _

lemma ensureFleetApplication_respects (fleetId productId : ℕ) (channel : Option ℕ) :
    serviceColumns.Respects (ensureFleetApplication fleetId productId channel : Tx ε Unit) :=
  (respects_insertUnless _).bind fun _ => .pure ()

lemma registerDevice_respects (customerId : ℕ) (device : Option DeviceIdentity) :
    serviceColumns.Respects (registerDevice customerId device : Tx ε _) := by
  cases device with
  | none => exact .pure _
  | some device => exact Respects.bind (respects_upsert _ ⟨rfl, fun _ => rfl⟩) fun _ => .pure _

omit [FromSql ε] in
lemma commercialPolicyDeviceLimit_respects (now : Time) (productKey planKey : String) :
    serviceColumns.Respects (commercialPolicyDeviceLimit now productKey planKey : Tx ε _) := by
  unfold commercialPolicyDeviceLimit
  split
  · exact .pure _
  · exact respects_select _

omit [FromSql ε] in
lemma commercialPolicyDeviceLimitForLicense_respects (now : Time) (licenseId : ℕ) :
    serviceColumns.Respects (commercialPolicyDeviceLimitForLicense now licenseId : Tx ε _) := by
  refine (respects_select _).bind fun plan => ?_
  cases plan with
  | none => exact .pure _
  | some plan => exact commercialPolicyDeviceLimit_respects _ _ _

lemma heartbeatInstallation_respects (clock : Clock) (customerId installationId : ℕ) (appVersion : Option String) :
    serviceColumns.Respects (heartbeatInstallation clock customerId installationId appVersion : Tx ε _) :=
  Respects.bind (respects_update _ ⟨rfl, fun _ => rfl⟩) fun _ => .pure _

lemma applyLicenseSync_respects (clock : Clock) (customerId subscriptionId productId deviceLimit : ℕ)
    (status : SubscriptionStatus) (existing : Option (Entry License)) (action : Option LicenseSyncAction) :
    serviceColumns.Respects
      (applyLicenseSync clock customerId subscriptionId productId deviceLimit status existing action : Tx ε _) := by
  unfold applyLicenseSync
  split
  · exact (respects_insertRow _).bind fun _ => .pure _
  · exact Respects.bind (respects_update _ ⟨rfl, fun _ => rfl⟩) fun _ => .pure _
  · exact Respects.bind (respects_update _ ⟨rfl, fun _ => rfl⟩) fun _ => .pure _
  · exact Respects.bind (respects_update _ ⟨rfl, fun _ => rfl⟩) fun _ => .pure _
  · split
    · exact Respects.bind (respects_update _ ⟨rfl, fun _ => rfl⟩) fun _ => .pure _
    · exact .pure _
  · exact .pure _

lemma syncLicenseForSubscription_respects (clock : Clock) (customerId subscriptionId planVersionId : ℕ)
    (status : SubscriptionStatus) : serviceColumns.Respects
      (syncLicenseForSubscription clock customerId subscriptionId planVersionId status : Tx ε _) := by
  refine (respects_select _).bind fun plan => ?_
  cases plan with
  | none => exact .pure _
  | some plan =>
    refine (commercialPolicyDeviceLimit_respects _ _ _).bind fun limit => ?_
    exact (respects_selectForUpdate _).bind fun existing => applyLicenseSync_respects _ _ _ _ _ _ _ _

end Licensing

lemma recordInstallation_respects (clock : Clock) (customerId : ℕ) (input : ValidatedRegistration)
    (product : Entry Product) (deviceId : Option ℕ) (fleetId : ℕ) :
    serviceColumns.Respects (recordInstallation clock customerId input product deviceId fleetId) := by
  refine (respects_insertUnless _).bind fun inserted => ?_
  cases inserted with
  | some installation => exact (writeOutbox_respects _ _ _).bind fun _ => .pure _
  | none =>
    refine (respects_selectOneForUpdate _).bind fun prior => ?_
    split
    · exact .fail _
    · exact Respects.bind (respects_updateOne _ ⟨rfl, fun _ => rfl⟩) fun _ => .pure _

lemma registerInstallation_respects (clock : Clock) (customerId : ℕ) (input : ValidatedRegistration) :
    serviceColumns.Respects (registerInstallation clock customerId input) := by
  refine (respects_select _).bind fun product => ?_
  cases product with
  | none => exact .fail _
  | some product =>
    refine (registerDevice_respects _ _).bind fun device => ?_
    refine (respects_select _).bind fun channel => ?_
    refine (ensureDefaultFleet_respects _ _ _).bind fun fleet => ?_
    refine (ensureFleetApplication_respects _ _ _).bind fun _ => ?_
    exact recordInstallation_respects _ _ _ _ _ _

lemma activateInstallation_respects (clock : Clock) (customerId installationId : ℕ) (licenseId : Option ℕ)
    (correlationId : Option String) : serviceColumns.Respects
      (activateInstallation clock customerId installationId licenseId correlationId) := by
  refine (respects_select _).bind fun context => ?_
  cases context with
  | none => exact .fail _
  | some context =>
    dsimp only
    split
    · exact .fail _
    split
    · exact .fail _
    refine (respects_selectForUpdate _).bind fun license => ?_
    cases license with
    | none =>
      dsimp only
      split <;> exact .fail _
    | some license =>
      dsimp only
      split
      · exact .fail _
      split
      · exact .fail _
      split
      · exact .fail _
      refine (respects_select _).bind fun blocked => ?_
      split
      · exact .fail _
      refine (commercialPolicyDeviceLimitForLicense_respects _ _).bind fun limit => ?_
      refine (respects_select _).bind fun count => ?_
      refine (respects_select _).bind fun existing => ?_
      cases existing with
      | some activation => exact .pure _
      | none =>
        dsimp only
        split
        · exact .fail _
        refine (respects_insertRow _).bind fun activation => ?_
        refine (writeCustomerAudit_respects _).bind fun _ => ?_
        exact (writeOutbox_respects _ _ _).bind fun _ => .pure _

lemma deactivateInstallation_respects (clock : Clock) (customerId installationId : ℕ) (correlationId : Option String) :
    serviceColumns.Respects (deactivateInstallation clock customerId installationId correlationId) := by
  refine (respects_selectForUpdate _).bind fun installation => ?_
  cases installation with
  | none => exact .fail _
  | some installation =>
    dsimp only
    split
    · exact .pure _
    refine Respects.bind (respects_update _ ⟨rfl, fun _ => rfl⟩) fun _ => ?_
    refine Respects.bind (respects_update _ ⟨rfl, fun _ => rfl⟩) fun released => ?_
    exact (writeCustomerAudit_respects _).bind fun _ => .pure _

lemma issueOfflineLease_respects (signer : Signer) (clock : Clock) (customerId installationId : ℕ) (leaseTtl : Time)
    (correlationId : Option String) : serviceColumns.Respects
      (issueOfflineLease signer clock customerId installationId leaseTtl correlationId) := by
  refine (respects_select _).bind fun context => ?_
  cases context with
  | none => exact .fail _
  | some context =>
    dsimp only
    split
    · exact .fail _
    split
    · exact .fail _
    split
    · exact .fail _
    split
    · exact .fail _
    split
    · exact .fail _
    split
    · exact .fail _
    refine (respects_select _).bind fun blocked => ?_
    split
    · exact .fail _
    refine (respects_insertKeyed _).bind fun row => ?_
    exact (writeCustomerAudit_respects _).bind fun _ => .pure _

lemma setCustomerStatus_respects (clock : Clock) (operatorId : String) (customerId : ℕ) (toStatus : CustomerStatus)
    (eventType reason : String) (correlationId : Option String) : serviceColumns.Respects
      (setCustomerStatus clock operatorId customerId toStatus eventType reason correlationId) := by
  refine (respects_selectForUpdate _).bind fun profile => ?_
  cases profile with
  | none => exact .fail _
  | some profile =>
    dsimp only
    split
    · exact .pure _
    refine Respects.bind (respects_update _ ⟨rfl, fun _ => rfl⟩) fun _ => ?_
    refine (respects_insertRow _).bind fun history => ?_
    refine (writeOperatorAudit_respects _).bind fun _ => ?_
    exact (writeOutbox_respects _ _ _).bind fun _ => .pure _

lemma setCustomerMfaRequirement_respects (clock : Clock) (operatorId : String) (customerId : ℕ) (required : Bool)
    (reason : String) (correlationId : Option String) : serviceColumns.Respects
      (setCustomerMfaRequirement clock operatorId customerId required reason correlationId) := by
  refine (respects_selectForUpdate _).bind fun profile => ?_
  cases profile with
  | none => exact .fail _
  | some profile =>
    dsimp only
    split
    · exact .pure _
    refine Respects.bind (respects_update _ ⟨rfl, fun _ => rfl⟩) fun _ => ?_
    refine (respects_insertRow _).bind fun history => ?_
    refine (writeOperatorAudit_respects _).bind fun _ => ?_
    exact (writeOutbox_respects _ _ _).bind fun _ => .pure _

section Provisioning
variable {ε : Type} [FromSql ε]

lemma setMfaRequired_respects (customerId : ℕ) (required : Bool) :
    serviceColumns.Respects (setMfaRequired customerId required : Tx ε Unit) :=
  Respects.bind (respects_update _ ⟨rfl, fun _ => rfl⟩) fun _ => .pure ()

lemma provisionForAuthUser_respects (clock : Clock) (input : ProvisionInput) :
    serviceColumns.Respects (provisionForAuthUser clock input : Tx ε _) := by
  have hprofile : serviceColumns.Respects (ensureProfile clock input : Tx ε _) := by
    refine (respects_insertUnless _).bind fun inserted => ?_
    cases inserted with
    | none => exact (respects_selectOne _).bind fun _ => .pure _
    | some profile =>
      refine (respects_insertRow _).bind fun _ => ?_
      exact (writeOutbox_respects _ _ _).bind fun _ => .pure _
  refine hprofile.bind fun profile => ?_
  refine (respects_select _).bind fun channel => ?_
  refine (ensureDefaultFleet_respects _ _ _).bind fun fleet => ?_
  refine (respects_select _).bind fun product => ?_
  have henroll : serviceColumns.Respects (enrollFleet fleet.id product channel : Tx ε Unit) := by
    cases product with
    | none => exact .pure ()
    | some productId => exact ensureFleetApplication_respects _ _ _
  have hemail : serviceColumns.Respects (recordEmail profile.1.id input.email : Tx ε Unit) := by
    cases input.email with
    | none => exact .pure ()
    | some email => exact (respects_insertUnless _).bind fun _ => .pure ()
  exact henroll.bind fun _ => hemail.bind fun _ => .pure _

lemma requestDeletion_respects (clock : Clock) (customerId : ℕ) (reason correlationId : Option String) :
    serviceColumns.Respects (requestDeletion clock customerId reason correlationId : Tx ε _) := by
  refine (respects_selectForUpdate _).bind fun existing => ?_
  cases existing with
  | some request => exact .pure _
  | none =>
    refine (respects_insertRow _).bind fun request => ?_
    exact (writeCustomerAudit_respects _).bind fun _ => .pure _

end Provisioning

lemma setRequestStatus_respects (requestId : ℕ) (status : DeletionStatus) (until_ : Option Time) :
    serviceColumns.Respects (setRequestStatus requestId status until_) := respects_updateOne _ ⟨rfl, fun _ => rfl⟩

lemma cancelRequest_respects (customerId : ℕ) (correlationId : Option String) :
    serviceColumns.Respects (cancelRequest customerId correlationId) := by
  refine (respects_selectForUpdate _).bind fun request => ?_
  cases request with
  | none => exact .fail _
  | some request =>
    dsimp only
    split
    · exact .fail _
    refine (setRequestStatus_respects _ _ _).bind fun updated => ?_
    exact (writeCustomerAudit_respects _).bind fun _ => .pure _

lemma lockRequest_respects {α : Type} {requestId : ℕ} {next : DeletionRequestRow → Tx DeletionError α}
    (h : ∀ request, serviceColumns.Respects (next request)) : serviceColumns.Respects (lockRequest requestId next) := by
  refine (respects_selectForUpdate _).bind fun request => ?_
  cases request with
  | none => exact .fail _
  | some request => exact h request

lemma advanceRequest_respects (clock : Clock) (operatorId : String) (requestId : ℕ) (coolingOff : Time)
    (reason : String) (correlationId : Option String) : serviceColumns.Respects
      (advanceRequest clock operatorId requestId coolingOff reason correlationId) := by
  refine lockRequest_respects fun request => ?_
  split
  · exact .fail _
  split
  · exact .fail _
  refine (setRequestStatus_respects _ _ _).bind fun updated => ?_
  exact (writeOperatorAudit_respects _).bind fun _ => .pure _

lemma rejectRequest_respects (operatorId : String) (requestId : ℕ) (reason : String)
    (correlationId : Option String) :
    serviceColumns.Respects (rejectRequest operatorId requestId reason correlationId) := by
  refine lockRequest_respects fun request => ?_
  split
  · exact .fail _
  refine (setRequestStatus_respects _ _ _).bind fun updated => ?_
  exact (writeOperatorAudit_respects _).bind fun _ => .pure _

lemma recordRevocations_respects (operatorId : String) (rows : List (Entry License)) :
    serviceColumns.Respects (recordRevocations operatorId rows) := by
  induction rows with
  | nil => exact .pure ()
  | cons license rows ih => exact (respects_insertRow _).bind fun _ => ih

/-- The e-mail addresses are the only rows that go. -/
lemma freezeCustomer_respects (clock : Clock) (operatorId : String) (customerId : ℕ) (priorStatus : CustomerStatus) :
    serviceColumns.Respects (freezeCustomer clock operatorId customerId priorStatus) := by
  refine Respects.bind (respects_update _ ⟨rfl, fun _ => rfl⟩) fun _ => ?_
  refine (respects_insertRow _).bind fun _ => ?_
  refine Respects.bind (respects_delete _ ⟨rfl, rfl⟩) fun emails => ?_
  refine Respects.bind (respects_update _ ⟨rfl, fun _ => rfl⟩) fun devices => ?_
  refine Respects.bind (respects_update _ ⟨rfl, fun _ => rfl⟩) fun revoked => ?_
  refine (recordRevocations_respects _ _).bind fun _ => ?_
  refine Respects.bind (respects_update _ ⟨rfl, fun _ => rfl⟩) fun installations => ?_
  refine Respects.bind (respects_updateFrom _ ⟨rfl, fun _ => rfl⟩) fun _ => ?_
  exact Respects.bind (respects_update _ ⟨rfl, fun _ => rfl⟩) fun _ => .pure _

lemma executeDeletion_respects (clock : Clock) (operatorId : String) (requestId : ℕ) (reason : String)
    (correlationId : Option String) :
    serviceColumns.Respects (executeDeletion clock operatorId requestId reason correlationId) := by
  refine lockRequest_respects fun request => ?_
  split
  · exact .fail _
  refine (respects_selectOneForUpdate _).bind fun profile => ?_
  refine (respects_select _).bind fun subscriptions => ?_
  split
  · exact .fail _
  refine (freezeCustomer_respects _ _ _ _).bind fun receipt => ?_
  refine Respects.bind (respects_updateOne _ ⟨rfl, fun _ => rfl⟩) fun updated => ?_
  refine (writeOutbox_respects _ _ _).bind fun _ => ?_
  exact (writeOperatorAudit_respects _).bind fun _ => .pure _

lemma issueLicense_respects (clock : Clock) (input : IssueLicenseInput) :
    serviceColumns.Respects (issueLicense clock input) := by
  refine (respects_select _).bind fun known => ?_
  split
  · exact .fail _
  refine (respects_select _).bind fun product => ?_
  cases product with
  | none => exact .fail _
  | some product =>
    refine (respects_insertRow _).bind fun license => ?_
    exact (writeOperatorAudit_respects _).bind fun _ => .pure _

lemma revokeLicense_respects (clock : Clock) (operatorId : String) (licenseId : ℕ) (reason : String)
    (correlationId : Option String) :
    serviceColumns.Respects (revokeLicense clock operatorId licenseId reason correlationId) := by
  refine (respects_selectForUpdate _).bind fun license => ?_
  cases license with
  | none => exact .fail _
  | some license =>
    dsimp only
    split
    · exact .pure _
    refine Respects.bind (respects_update _ ⟨rfl, fun _ => rfl⟩) fun _ => ?_
    refine (respects_insertRow _).bind fun revocation => ?_
    refine (writeOperatorAudit_respects _).bind fun _ => ?_
    exact (writeOutbox_respects _ _ _).bind fun _ => .pure _

lemma setEntitlementOverride_respects (operatorId : String) (input : OverrideInput) (correlationId : Option String) :
    serviceColumns.Respects (setEntitlementOverride operatorId input correlationId) := by
  refine (respects_select _).bind fun known => ?_
  dsimp only
  split
  · exact .fail _
  refine (respects_select _).bind fun product => ?_
  cases product with
  | none => exact .fail _
  | some product =>
    have hinsert : serviceColumns.Respects (insertOverride operatorId input product.id) := by
      unfold insertOverride
      split
      · exact .pure _
      · exact (respects_insertRow _).bind fun _ => .pure _
    refine Respects.bind (respects_update _ ⟨rfl, fun _ => rfl⟩) fun cleared => ?_
    refine hinsert.bind fun _ => ?_
    exact (writeOperatorAudit_respects _).bind fun _ => .pure _

lemma adjustUsage_respects (input : UsageAdjustmentInput) : serviceColumns.Respects (adjustUsage input) := by
  refine (respects_select _).bind fun known => ?_
  split
  · exact .fail _
  refine (respects_select _).bind fun metered => ?_
  split
  · exact .fail _
  refine (respects_insertUnless _).bind fun inserted => ?_
  cases inserted with
  | none => exact (respects_selectOne _).bind fun _ => .pure _
  | some event =>
    refine Respects.bind (respects_upsert _ ⟨rfl, fun _ => rfl⟩) fun _ => ?_
    exact (writeOperatorAudit_respects _).bind fun _ => .pure _

lemma updateFleetPolicy_respects (input : UpdateFleetPolicyInput) :
    serviceColumns.Respects (updateFleetPolicy input) := by
  refine (respects_selectForUpdate _).bind fun before => ?_
  cases before with
  | none => exact .fail _
  | some before =>
    have hchannel : serviceColumns.Respects (fleetChannel input.releaseChannelKey) := by
      unfold fleetChannel
      split
      · exact .pure _
      · exact respects_select _
    refine (respects_select _).bind fun beforeRow => ?_
    refine hchannel.bind fun channel => ?_
    split
    · exact .fail _
    refine Respects.bind (respects_updateOne _ ⟨rfl, fun _ => rfl⟩) fun after => ?_
    refine (respects_select _).bind fun afterRow => ?_
    exact (writeOperatorAudit_respects _).bind fun _ => .pure _

lemma publish_respects (clock : Clock) (input : PublishInput) :
    serviceColumns.Respects (CommercialPolicy.publish clock input) := by
  unfold CommercialPolicy.publish
  split
  · exact .fail _
  split
  · exact .fail _
  refine (respects_selectForUpdate _).bind fun product => ?_
  cases product with
  | none => exact .fail _
  | some product =>
    refine (respects_select _).bind fun existing => ?_
    cases existing with
    | some row => exact .pure _
    | none =>
      refine (respects_select _).bind fun active => ?_
      cases active with
      | none => exact .fail _
      | some active =>
        dsimp only
        split
        · exact .fail _
        refine (respects_select _).bind fun next => ?_
        refine (respects_insertRow _).bind fun inserted => ?_
        refine (writeOperatorAudit_respects _).bind fun _ => ?_
        exact (writeOutbox_respects _ _ _).bind fun _ => .pure _

section Stripe
variable {ε : Type} [FromSql ε]

lemma stripeAudit_respects (record : AuditRecord) : serviceColumns.Respects (writeAudit record : Tx ε Unit) :=
  (respects_insertRow _).bind fun _ => .pure ()

lemma writeSubscriptionOutbox_respects (discriminator : String) (occurredAt : Option Time) (row : SubscriptionRow) :
    serviceColumns.Respects (writeSubscriptionOutbox discriminator occurredAt row : Tx ε Unit) :=
  (respects_select _).bind fun _ => writeOutbox_respects _ _ _

omit [FromSql ε] in
lemma resolveCustomerId_respects (customerId : Option ℕ) (stripeCustomerId : Option String)
    (existing : Option SubscriptionRow) :
    serviceColumns.Respects (resolveCustomerId customerId stripeCustomerId existing : Tx ε _) := by
  unfold resolveCustomerId
  split
  · exact .pure _
  · exact .pure _
  · exact respects_select _
  · exact .pure _

omit [FromSql ε] in
lemma resolvePlanVersionId_respects (planVersionId : Option ℕ) (stripePriceId : Option String)
    (existing : Option SubscriptionRow) :
    serviceColumns.Respects (resolvePlanVersionId planVersionId stripePriceId existing : Tx ε _) := by
  unfold resolvePlanVersionId
  split
  · exact .pure _
  · exact .pure _
  · exact respects_select _
  · exact .pure _

lemma ensureBillingAccount_respects (customerId : ℕ) :
    serviceColumns.Respects (ensureBillingAccount customerId : Tx ε ℕ) :=
  Respects.bind (respects_upsert _ ⟨rfl, fun _ => rfl⟩) fun _ => .pure _

lemma linkStripeCustomer_respects (billingAccountId : ℕ) (stripeCustomerId : Option String) :
    serviceColumns.Respects (linkStripeCustomer billingAccountId stripeCustomerId : Tx ε Unit) := by
  unfold linkStripeCustomer
  split
  · exact .pure ()
  · exact (respects_insertUnless _).bind fun _ => .pure ()

lemma upsertSubscriptionProjection_respects (clock : Clock) (input : SubscriptionProjectionInput) :
    serviceColumns.Respects (upsertSubscriptionProjection clock input : Tx ε _) := by
  unfold upsertSubscriptionProjection
  split
  · exact respects_updateOne _ ⟨rfl, fun _ => rfl⟩
  · exact respects_insertRow _

lemma syncLicenseFromSubscriptionTruth_respects (clock : Clock) (event : ParsedStripeEvent) (row : SubscriptionRow)
    (status : SubscriptionStatus) :
    serviceColumns.Respects (syncLicenseFromSubscriptionTruth clock event row status : Tx ε Unit) := by
  refine (syncLicenseForSubscription_respects _ _ _ _ _).bind fun sync => ?_
  cases sync with
  | none => exact .pure ()
  | some sync => exact stripeAudit_respects _

lemma recordCheckoutSession_respects (customerId planVersionId : ℕ) (session : String) :
    serviceColumns.Respects (recordCheckoutSession customerId planVersionId session : Tx ε _) :=
  respects_upsert _ ⟨rfl, fun _ => rfl⟩

end Stripe

lemma applyCheckoutCompleted_respects (event : ParsedStripeEvent) (checkout : StripeCheckoutCompleted) :
    serviceColumns.Respects (applyCheckoutCompleted event checkout) := by
  refine Respects.bind (respects_update _ ⟨rfl, fun _ => rfl⟩) fun rows => ?_
  have hcomplete : serviceColumns.Respects (completeCheckout rows checkout) := by
    unfold completeCheckout
    split
    · exact .pure _
    · exact Respects.bind (respects_upsert _ ⟨rfl, fun _ => rfl⟩) fun _ => .pure _
    · exact .pure _
  refine hcomplete.bind fun row => ?_
  cases row with
  | none => exact .pure ()
  | some row =>
    refine (ensureBillingAccount_respects _).bind fun account => ?_
    exact (linkStripeCustomer_respects _ _).bind fun _ => stripeAudit_respects _

lemma applySubscriptionChange_respects (clock : Clock) (webhookEventId : ℕ) (event : ParsedStripeEvent)
    (change : StripeSubscriptionChange) :
    serviceColumns.Respects (applySubscriptionChange clock webhookEventId event change) := by
  refine (respects_select _).bind fun existing => ?_
  split
  · exact stripeAudit_respects _
  refine (resolveCustomerId_respects _ _ _).bind fun customer => ?_
  cases customer with
  | none => exact .fail _
  | some customerId =>
    refine (resolvePlanVersionId_respects _ _ _).bind fun planVersion => ?_
    cases planVersion with
    | none => exact .fail _
    | some planVersionId =>
      refine (ensureBillingAccount_respects _).bind fun account => ?_
      refine (linkStripeCustomer_respects _ _).bind fun _ => ?_
      refine (upsertSubscriptionProjection_respects _ _).bind fun row => ?_
      refine (stripeAudit_respects _).bind fun _ => ?_
      refine (writeSubscriptionOutbox_respects _ _ _).bind fun _ => ?_
      exact syncLicenseFromSubscriptionTruth_respects _ _ _ _

lemma applyInvoiceChange_respects (clock : Clock) (webhookEventId : ℕ) (event : ParsedStripeEvent)
    (invoice : StripeInvoiceChange) :
    serviceColumns.Respects (applyInvoiceChange clock webhookEventId event invoice) := by
  refine (respects_select _).bind fun existing => ?_
  cases existing with
  | none => exact .fail _
  | some existing =>
    refine Respects.bind (Respects.bind (respects_upsert (t := invoiceReferences) _ ⟨rfl, fun _ => rfl⟩) fun _ => .pure ()) fun _ => ?_
    split
    · exact stripeAudit_respects _
    split
    · exact stripeAudit_respects _
    refine Respects.bind (respects_updateOne _ ⟨rfl, fun _ => rfl⟩) fun row => ?_
    split
    · refine (stripeAudit_respects _).bind fun _ => ?_
      refine (writeSubscriptionOutbox_respects _ _ _).bind fun _ => ?_
      exact syncLicenseFromSubscriptionTruth_respects _ _ _ _
    · exact stripeAudit_respects _

lemma applySupportedEvent_respects (clock : Clock) (webhookEventId : ℕ) (event : ParsedStripeEvent) :
    serviceColumns.Respects (applySupportedEvent clock webhookEventId event) := by
  unfold applySupportedEvent
  split
  · split
    · exact .fail _
    · exact applyCheckoutCompleted_respects _ _
  split
  · split
    · exact .fail _
    · exact applySubscriptionChange_respects _ _ _ _
  split
  · split
    · exact .fail _
    · exact applyInvoiceChange_respects _ _ _ _
  · exact .pure ()

lemma processStripeWebhookEvent_respects (clock : Clock) (event : ParsedStripeEvent) :
    serviceColumns.Respects (processStripeWebhookEvent clock event) := by
  have hmark : ∀ id, serviceColumns.Respects (markWebhookProcessed clock id : Tx StripeWebhookApplyError Unit) :=
    fun id => Respects.bind (respects_update _ ⟨rfl, fun _ => rfl⟩) fun _ => .pure ()
  refine (respects_insertUnless _).bind fun inserted => ?_
  cases inserted with
  | none =>
    refine (respects_selectOne _).bind fun existing => ?_
    split
    · exact (applySupportedEvent_respects _ _ _).bind fun _ => (hmark _).bind fun _ => .pure _
    · exact .pure _
  | some inserted =>
    dsimp only
    split
    · exact .pure _
    · exact (applySupportedEvent_respects _ _ _).bind fun _ => (hmark _).bind fun _ => .pure _

lemma applyAdminResync_respects (clock : Clock) (subscriptionId : ℕ) (change : StripeSubscriptionChange)
    (operatorId reason : String) (correlationId : Option String) : serviceColumns.Respects
      (applyAdminResync clock subscriptionId change operatorId reason correlationId) := by
  refine (respects_selectForUpdate _).bind fun existing => ?_
  cases existing with
  | none => exact .pure _
  | some existing =>
    refine (resolveCustomerId_respects _ _ _).bind fun customer => ?_
    cases customer with
    | none => exact .fail _
    | some customerId =>
      refine (resolvePlanVersionId_respects _ _ _).bind fun planVersion => ?_
      cases planVersion with
      | none => exact .fail _
      | some planVersionId =>
        refine (ensureBillingAccount_respects _).bind fun account => ?_
        refine (linkStripeCustomer_respects _ _).bind fun _ => ?_
        refine (upsertSubscriptionProjection_respects _ _).bind fun row => ?_
        refine (writeOperatorAudit_respects _).bind fun _ => ?_
        have houtbox : ∀ changed now row, serviceColumns.Respects (writeResyncOutbox changed now row) := by
          intro changed now row
          unfold writeResyncOutbox
          split
          · exact respects_newKey.bind fun _ => writeSubscriptionOutbox_respects _ _ _
          · exact .pure ()
        refine (houtbox _ _ _).bind fun _ => ?_
        refine (syncLicenseForSubscription_respects _ _ _ _ _).bind fun sync => ?_
        have haudit : serviceColumns.Respects (auditResyncedLicense operatorId reason correlationId row sync) := by
          cases sync with
          | none => exact .pure ()
          | some sync => exact writeOperatorAudit_respects _
        exact haudit.bind fun _ => .pure _

lemma request_respects (clock : Clock) (ctx : CustomerContext) (customerId : ℕ) (request : CustomerRequest) :
    serviceColumns.Respects (request.prog clock ctx customerId) := by
  cases request with
  | mfaStatus enabled =>
    unfold CustomerRequest.prog
    dsimp only
    split
    · exact (setMfaRequired_respects _ _).translate _ _
    · exact .fail ()
  | register input => exact (registerInstallation_respects _ _ _).translate _ _
  | activate => exact (activateInstallation_respects _ _ _ _ _).translate _ _
  | heartbeat => exact (heartbeatInstallation_respects _ _ _ _).translate _ _
  | deactivate => exact (deactivateInstallation_respects _ _ _ _).translate _ _
  | lease => exact (issueOfflineLease_respects _ _ _ _ _ _).translate _ _
  | checkout => exact (recordCheckoutSession_respects _ _ _).translate _ _
  | reserve input => exact (reserve_respects _ _).translate _ _
  | commit input => exact (commit_respects _ _).translate _ _
  | release reservationId => exact (release_respects _ _).translate _ _
  | requestDeletion => exact (requestDeletion_respects _ _ _ _).translate _ _
  | cancelDeletion => exact (cancelRequest_respects _ _).translate _ _

lemma operation_respects (op : Operation) : serviceColumns.Respects op.prog := by
  cases op with
  | provision => exact (provisionForAuthUser_respects _ _).translate _ _
  | customer clock authUserId aal request =>
    refine (respects_select _).bind fun ctx => ?_
    split
    · exact request_respects _ _ _ _
    · exact .fail ()
  | suspend | restore => exact (setCustomerStatus_respects _ _ _ _ _ _ _).translate _ _
  | requireMfa => exact (setCustomerMfaRequirement_respects _ _ _ _ _ _).translate _ _
  | issueLicense => exact (issueLicense_respects _ _).translate _ _
  | revokeLicense => exact (revokeLicense_respects _ _ _ _ _).translate _ _
  | override => exact (setEntitlementOverride_respects _ _ _).translate _ _
  | adjustUsage => exact (adjustUsage_respects _).translate _ _
  | fleetPolicy => exact (updateFleetPolicy_respects _).translate _ _
  | webhook => exact (processStripeWebhookEvent_respects _ _).translate _ _
  | resync => exact (applyAdminResync_respects _ _ _ _ _ _).translate _ _
  | sweep => exact (sweepExpiredReservations_respects _ _).translate _ _
  | advanceDeletion => exact (advanceRequest_respects _ _ _ _ _ _).translate _ _
  | rejectDeletion => exact (rejectRequest_respects _ _ _ _).translate _ _
  | executeDeletion => exact (executeDeletion_respects _ _ _ _ _).translate _ _

theorem call_respects (call : ServiceCall) : serviceColumns.Respects call.prog := by
  cases call with
  | operation op => exact operation_respects op
  | publish clock input => exact (publish_respects clock input).translate _ _

lemma progs_respect (calls : List ServiceCall) : ∀ p ∈ calls.map ServiceCall.prog, serviceColumns.Respects p := by
  intro p hp
  obtain ⟨call, -, rfl⟩ := List.mem_map.mp hp
  exact call_respects call

/-- A new user is provisioned while an operator suspends the customer of `sampleStore`. -/
def sampleCalls : List ServiceCall :=
  [.operation (.provision ⟨0, 0⟩ ⟨101, some "x", none, none, none⟩),
    .operation (.suspend ⟨0, 0⟩ "op" 0 "abuse" none)]

def provisionMoves : List Move := List.replicate 9 (.advance 0)

end ForgeCustomer.LastingRows
