import ForgeCustomer.CommerceRepository
import ForgeCustomer.CustomerRepository
import ForgeCustomer.EntitlementsRepository
import ForgeCustomer.PrivacyRepository
import ForgeCustomer.UsageRepository

/-!
# Operations of the service

What requests, operators, Stripe and the background worker do to the store, one transaction
after the other. A customer request first passes `require_active`.
-/
namespace ForgeCustomer.ServiceOperations
open SqlTables SqlPrograms SqlStatements StripeEvents DatabaseTables AuditWriters LicensingRepository
  CommerceRepository AdminRepository CustomerRepository EntitlementsRepository PrivacyRepository
  UsageRepository TableName

/-- The requests of a customer; those about a customer's own rows get the id from the context. -/
inductive CustomerRequest where
  | mfaStatus (enabled : Bool)
  | register (input : ValidatedRegistration)
  | activate (installationId : ℕ) (licenseId : Option ℕ) (correlationId : Option String)
  | heartbeat (installationId : ℕ) (appVersion : Option String)
  | deactivate (installationId : ℕ) (correlationId : Option String)
  | lease (signer : Signer) (installationId : ℕ) (leaseTtl : Time) (correlationId : Option String)
  | checkout (planVersionId : ℕ) (stripeCheckoutSessionId : String)
  | reserve (input : ReserveInput)
  | commit (input : CommitInput)
  | release (reservationId : ℕ)
  | requestDeletion (reason correlationId : Option String)
  | cancelDeletion (correlationId : Option String)

inductive Operation where
  | provision (clock : Clock) (input : ProvisionInput)
  | customer (clock : Clock) (authUserId : ℕ) (aal : Option String) (request : CustomerRequest)
  | suspend (clock : Clock) (operatorId : String) (customerId : ℕ) (reason : String)
      (correlationId : Option String)
  | restore (clock : Clock) (operatorId : String) (customerId : ℕ) (reason : String)
      (correlationId : Option String)
  | requireMfa (clock : Clock) (operatorId : String) (customerId : ℕ) (required : Bool) (reason : String)
      (correlationId : Option String)
  | issueLicense (clock : Clock) (input : IssueLicenseInput)
  | revokeLicense (clock : Clock) (operatorId : String) (licenseId : ℕ) (reason : String)
      (correlationId : Option String)
  | override (operatorId : String) (input : OverrideInput) (correlationId : Option String)
  | adjustUsage (input : UsageAdjustmentInput)
  | fleetPolicy (input : UpdateFleetPolicyInput)
  | webhook (clock : Clock) (event : ParsedStripeEvent)
  | resync (clock : Clock) (subscriptionId : ℕ) (change : StripeSubscriptionChange)
      (operatorId reason : String) (correlationId : Option String)
  | sweep (clock : Clock) (batch : ℕ)
  | advanceDeletion (clock : Clock) (operatorId : String) (requestId : ℕ) (coolingOff : Time)
      (reason : String) (correlationId : Option String)
  | rejectDeletion (operatorId : String) (requestId : ℕ) (reason : String)
      (correlationId : Option String)
  | executeDeletion (clock : Clock) (operatorId : String) (requestId : ℕ) (reason : String)
      (correlationId : Option String)

/-- The store after a transaction. -/
def after {ε α : Type} (p : Tx ε α) (s : DbStore) : DbStore := (p.execute s).2

def CustomerRequest.apply (clock : Clock) (ctx : CustomerContext) (customerId : ℕ) (s : DbStore) :
    CustomerRequest → DbStore
  | .mfaStatus enabled =>
    match ctx.requireAal2 with
    | .ok _ => after (setMfaRequired customerId enabled : Tx SqlError Unit) s
    | .error _ => s
  | .register input => after (registerInstallation clock customerId input) s
  | .activate installationId licenseId correlationId =>
    after (activateInstallation clock customerId installationId licenseId correlationId) s
  | .heartbeat installationId appVersion =>
    after (heartbeatInstallation clock customerId installationId appVersion : Tx SqlError _) s
  | .deactivate installationId correlationId =>
    after (deactivateInstallation clock customerId installationId correlationId) s
  | .lease signer installationId leaseTtl correlationId =>
    after (issueOfflineLease signer clock customerId installationId leaseTtl correlationId) s
  | .checkout planVersionId stripeCheckoutSessionId =>
    after (recordCheckoutSession customerId planVersionId stripeCheckoutSessionId : Tx SqlError _) s
  | .reserve input => after (UsageRepository.reserve clock { input with customerId := customerId }) s
  | .commit input => after (UsageRepository.commit clock { input with customerId := customerId }) s
  | .release reservationId => after (UsageRepository.release customerId reservationId) s
  | .requestDeletion reason correlationId =>
    after (PrivacyRepository.requestDeletion clock customerId reason correlationId : Tx SqlError _) s
  | .cancelDeletion correlationId => after (cancelRequest customerId correlationId) s

def Operation.apply : Operation → DbStore → DbStore
  | .provision clock input, s => after (provisionForAuthUser clock input : Tx SqlError _) s
  | .customer clock authUserId aal request, s =>
    match (customerContext authUserId aal s.db).requireActive clock with
    | .ok customerId => request.apply clock (customerContext authUserId aal s.db) customerId s
    | .error _ => s
  | .suspend clock operatorId customerId reason correlationId, s =>
    after (suspendCustomer clock operatorId customerId reason correlationId) s
  | .restore clock operatorId customerId reason correlationId, s =>
    after (restoreCustomer clock operatorId customerId reason correlationId) s
  | .requireMfa clock operatorId customerId required reason correlationId, s =>
    after (setCustomerMfaRequirement clock operatorId customerId required reason correlationId) s
  | .issueLicense clock input, s => after (AdminRepository.issueLicense clock input) s
  | .revokeLicense clock operatorId licenseId reason correlationId, s =>
    after (AdminRepository.revokeLicense clock operatorId licenseId reason correlationId) s
  | .override operatorId input correlationId, s =>
    after (setEntitlementOverride operatorId input correlationId) s
  | .adjustUsage input, s => after (AdminRepository.adjustUsage input) s
  | .fleetPolicy input, s => after (updateFleetPolicy input) s
  | .webhook clock event, s => after (processStripeWebhookEvent clock event) s
  | .resync clock subscriptionId change operatorId reason correlationId, s =>
    after (applyAdminResync clock subscriptionId change operatorId reason correlationId) s
  | .sweep clock batch, s => after (sweepExpiredReservations clock batch) s
  | .advanceDeletion clock operatorId requestId coolingOff reason correlationId, s =>
    after (advanceRequest clock operatorId requestId coolingOff reason correlationId) s
  | .rejectDeletion operatorId requestId reason correlationId, s =>
    after (rejectRequest operatorId requestId reason correlationId) s
  | .executeDeletion clock operatorId requestId reason correlationId, s =>
    after (PrivacyRepository.executeDeletion clock operatorId requestId reason correlationId) s

/-- One operation after the other. -/
def runAll (ops : List Operation) (s : DbStore) : DbStore := ops.foldl (fun s op => op.apply s) s

@[simp] lemma runAll_nil (s : DbStore) : runAll [] s = s := rfl

@[simp] lemma runAll_cons (op : Operation) (ops : List Operation) (s : DbStore) :
    runAll (op :: ops) s = runAll ops (op.apply s) := rfl

@[simp] lemma runAll_append (ops ops' : List Operation) (s : DbStore) :
    runAll (ops ++ ops') s = runAll ops' (runAll ops s) := List.foldl_append

lemma after_ensures {ε α : Type} {p : Tx ε α} {s : DbStore} {R : DbStore → Prop}
    (hp : p.Ensures s fun _ s' => R s') (hsame : ∀ s' : DbStore, s'.db = s.db → R s') : R (after p s) := by
  rcases hexec : p.execute s with ⟨r, s'⟩
  rw [after, hexec]
  rcases hp.execute hexec with ⟨a, -, hq⟩ | ⟨-, hdb⟩
  · exact hq
  · exact hsame s' hdb

/-- `s'` is `s`, or the store after a transaction of checked statements on the tables `S`. -/
inductive Follows (S : List TableName) (s : DbStore) : DbStore → Prop where
  | same : Follows S s s
  | after {ε α : Type} (p : Tx ε α) (h : Checked S p) : Follows S s (after p s)

def CustomerRequest.tables : CustomerRequest → List TableName
  | .mfaStatus _ => [customerProfiles]
  | .register _ => registrationTables
  | .activate _ _ _ => activationTables
  | .heartbeat _ _ => [installations]
  | .deactivate _ _ => [installations, licenseActivations, commercialAuditEvents]
  | .lease _ _ _ _ => leaseTables
  | .checkout _ _ => [checkoutSessions]
  | .reserve _ => usageTables
  | .commit _ => usageTables
  | .release _ => usageTables
  | .requestDeletion _ _ => requestTables
  | .cancelDeletion _ => requestTables

def Operation.tables : Operation → List TableName
  | .provision _ _ => provisioningTables
  | .customer _ _ _ request => request.tables
  | .webhook _ _ => stripeWebhookEvents :: projectionTables
  | .resync _ _ _ _ _ _ => projectionTables
  | .sweep _ _ => usageTables
  | .advanceDeletion _ _ _ _ _ _ => requestTables
  | .rejectDeletion _ _ _ _ => requestTables
  | .executeDeletion _ _ _ _ _ => deletionTables
  | .suspend _ _ _ _ _ => statusTables
  | .restore _ _ _ _ _ => statusTables
  | .requireMfa _ _ _ _ _ _ => mfaTables
  | .issueLicense _ _ => [licenses, commercialAuditEvents]
  | .revokeLicense _ _ _ _ _ => revocationTables
  | .override _ _ _ => [entitlementOverrides, commercialAuditEvents]
  | .adjustUsage _ => [usageEvents, usagePeriodTotals, commercialAuditEvents]
  | .fleetPolicy _ => [fleets, commercialAuditEvents]

lemma CustomerRequest.apply_follows (clock : Clock) (ctx : CustomerContext) (customerId : ℕ)
    (s : DbStore) (request : CustomerRequest) :
    Follows request.tables s (request.apply clock ctx customerId s) := by
  cases request with
  | mfaStatus enabled =>
    unfold CustomerRequest.apply
    dsimp only
    split
    · exact .after _ (setMfaRequired_checked _ _)
    · exact .same
  | register input => exact .after _ (registerInstallation_checked _ _ _)
  | activate installationId licenseId correlationId =>
    exact .after _ (activateInstallation_checked _ _ _ _ _)
  | heartbeat installationId appVersion => exact .after _ (heartbeatInstallation_checked _ _ _ _)
  | deactivate installationId correlationId => exact .after _ (deactivateInstallation_checked _ _ _ _)
  | lease signer installationId leaseTtl correlationId =>
    exact .after _ (issueOfflineLease_checked _ _ _ _ _ _)
  | checkout planVersionId session => exact .after _ (recordCheckoutSession_checked (S := [checkoutSessions]) (by decide) _ _ _)
  | reserve input => exact .after _ (reserve_checked _ _)
  | commit input => exact .after _ (commit_checked _ _)
  | release reservationId => exact .after _ (release_checked _ _)
  | requestDeletion reason correlationId => exact .after _ (requestDeletion_checked _ _ _ _)
  | cancelDeletion correlationId => exact .after _ (cancelRequest_checked _ _)

theorem Operation.apply_follows (op : Operation) (s : DbStore) : Follows op.tables s (op.apply s) := by
  cases op with
  | provision clock input => exact .after _ (provisionForAuthUser_checked _ _)
  | customer clock authUserId aal request =>
    unfold Operation.apply
    dsimp only
    split
    · exact CustomerRequest.apply_follows _ _ _ _ _
    · exact .same
  | suspend | restore => exact .after _ (setCustomerStatus_checked _ _ _ _ _ _ _)
  | requireMfa => exact .after _ (setCustomerMfaRequirement_checked _ _ _ _ _ _)
  | issueLicense => exact .after _ (issueLicense_checked _ _)
  | revokeLicense => exact .after _ (revokeLicense_checked _ _ _ _ _)
  | override => exact .after _ (setEntitlementOverride_checked _ _ _)
  | adjustUsage => exact .after _ (adjustUsage_checked _)
  | fleetPolicy => exact .after _ (updateFleetPolicy_checked _)
  | webhook => exact .after _ (processStripeWebhookEvent_checked _ _)
  | resync => exact .after _ (applyAdminResync_checked _ _ _ _ _ _)
  | sweep => exact .after _ (sweepExpiredReservations_checked _ _)
  | advanceDeletion => exact .after _ (advanceRequest_checked _ _ _ _ _ _)
  | rejectDeletion => exact .after _ (rejectRequest_checked _ _ _ _)
  | executeDeletion => exact .after _ (executeDeletion_checked _ _ _ _ _)

lemma Follows.stored {S : List TableName} {s s' : DbStore} (h : Follows S s s') (hs : Stored s) :
    Stored s' := by
  cases h with
  | same => exact hs
  | after p hp => exact hs.execute hp

lemma Follows.table {S : List TableName} {s s' : DbStore} (h : Follows S s s') {t : TableName}
    (ht : t ∉ S) : s'.db t = s.db t := by
  cases h with
  | same => rfl
  | after p hp => exact hp.touches.execute s ht

/-- In every reachable store generated keys are unique and all foreign keys resolve. -/
theorem runAll_stored {s : DbStore} (h : Stored s) (ops : List Operation) : Stored (runAll ops s) := by
  induction ops generalizing s with
  | nil => exact h
  | cons op ops ih => exact ih ((op.apply_follows s).stored h)

/-- `P` holds in every state of the run. -/
def EachState (P : DbStore → Prop) : List Operation → DbStore → Prop
  | [], s => P s
  | op :: ops, s => P s ∧ EachState P ops (op.apply s)

/-- `Q` holds of every operation and the state it starts in. -/
def EachStep (Q : Operation → DbStore → Prop) : List Operation → DbStore → Prop
  | [], _ => True
  | op :: ops, s => Q op s ∧ EachStep Q ops (op.apply s)

lemma EachState.start {P : DbStore → Prop} {ops : List Operation} {s : DbStore} (h : EachState P ops s) :
    P s := by
  cases ops with
  | nil => exact h
  | cons op ops => exact h.1

lemma EachState.mono {P R : DbStore → Prop} {ops : List Operation} {s : DbStore}
    (h : EachState P ops s) (hPR : ∀ s, P s → R s) : EachState R ops s := by
  induction ops generalizing s with
  | nil => exact hPR s h
  | cons op ops ih => exact ⟨hPR s h.1, ih h.2⟩

/-- Two properties of states that agree wherever the run's property `I` holds. -/
lemma eachState_congr {I P R : DbStore → Prop} {ops : List Operation} {s : DbStore} (hI : EachState I ops s)
    (h : ∀ s, I s → (P s ↔ R s)) : EachState P ops s ↔ EachState R ops s := by
  induction ops generalizing s with
  | nil => exact h s hI
  | cons op ops ih => exact and_congr (h s hI.1) (ih hI.2)

lemma EachStep.and {Q R : Operation → DbStore → Prop} {ops : List Operation} {s : DbStore}
    (hq : EachStep Q ops s) (hr : EachStep R ops s) : EachStep (fun op s => Q op s ∧ R op s) ops s := by
  induction ops generalizing s with
  | nil => trivial
  | cons op ops ih => exact ⟨⟨hq.1, hr.1⟩, ih hq.2 hr.2⟩

lemma eachStep_true (ops : List Operation) (s : DbStore) : EachStep (fun _ _ => True) ops s := by
  induction ops generalizing s with
  | nil => trivial
  | cons op ops ih => exact ⟨trivial, ih _⟩

/-- What every step preserves holds in every state. -/
theorem eachState_of_step {P : DbStore → Prop} {Q : Operation → DbStore → Prop}
    (hstep : ∀ (op : Operation) s, P s → Q op s → P (op.apply s)) {ops : List Operation} {s : DbStore} (hs : P s)
    (hq : EachStep Q ops s) : EachState P ops s := by
  induction ops generalizing s with
  | nil => exact hs
  | cons op ops ih => exact ⟨hs, ih (hstep op s hs hq.1) hq.2⟩

/-- If exactly the `Bad` steps leave `P`, then `P` holds throughout exactly if no step is `Bad`. -/
theorem eachState_iff {I P : DbStore → Prop} {Q Bad : Operation → DbStore → Prop}
    (hI : ∀ (op : Operation) s, I s → I (op.apply s))
    (hstep : ∀ (op : Operation) s, I s → P s → Q op s → (P (op.apply s) ↔ ¬Bad op s)) {ops : List Operation}
    {s : DbStore} (hs : I s) (hp : P s) (hq : EachStep Q ops s) :
    EachState P ops s ↔ EachStep (fun op s => ¬Bad op s) ops s := by
  induction ops generalizing s with
  | nil => exact ⟨fun _ => trivial, fun _ => hp⟩
  | cons op ops ih =>
    have hnext := hstep op s hs hp hq.1
    constructor
    · intro h
      have hp' := h.2.start
      exact ⟨hnext.mp hp', (ih (hI op s hs) hp' hq.2).mp h.2⟩
    · intro h
      have hp' := hnext.mpr h.1
      exact ⟨hp, (ih (hI op s hs) hp' hq.2).mpr h.2⟩

/-- Two properties of steps that agree wherever the invariant `I` holds. -/
theorem eachStep_congr {I : DbStore → Prop} {A B Q : Operation → DbStore → Prop}
    (hI : ∀ (op : Operation) s, I s → Q op s → I (op.apply s)) (h : ∀ op s, I s → (A op s ↔ B op s))
    {ops : List Operation} {s : DbStore} (hs : I s) (hq : EachStep Q ops s) :
    EachStep A ops s ↔ EachStep B ops s := by
  induction ops generalizing s with
  | nil => exact Iff.rfl
  | cons op ops ih => exact and_congr (h op s hs) (ih (hI op s hs hq.1) hq.2)

/-- One customer with one projected subscription to the first of two plans. -/
def sampleRows : ∀ t, List (Entry (Row t))
  | .customerProfiles =>
    [⟨0, ⟨100, .individual, none, .active, none, none, false, none, 0⟩⟩]
  | .products => [⟨1, ⟨"authorforge", .active⟩⟩]
  | .plans => [⟨2, ⟨1, "authorforge_pro", .active⟩⟩, ⟨3, ⟨1, "authorforge_studio", .active⟩⟩]
  | .planVersions => [⟨3, ⟨2, 1, .active, some "price_a"⟩⟩, ⟨4, ⟨3, 1, .active, some "price_b"⟩⟩]
  | .billingAccounts => [⟨5, ⟨0⟩⟩]
  | .subscriptions =>
    [⟨6, ⟨0, 5, 3, "sub_1", .active, none, none, false, some 0, 0⟩⟩]
  | .usageMeters => [⟨7, ⟨"tokens", "token", .monthly⟩⟩]
  | _ => []

def sampleStore : DbStore := ⟨sampleRows, 8⟩

lemma sampleStore_stored : Stored sampleStore := by
  refine ⟨⟨fun t => ?_, fun t => ?_⟩, fun t => ?_⟩ <;> cases t <;>
    simp [sampleStore, sampleRows, Db.refsOk, Schema.refs, foreignKeys, Db.resolves, Db.has]

end ForgeCustomer.ServiceOperations
