import ForgeCustomer.LastingRows
import ForgeCustomer.SqlTenancy

/-!
# Isolation between customers

Row by row, whom the tables' contents belong to, what the row-level policies let a user read, and that no
request of another user ever changes it.
-/
namespace ForgeCustomer.TenantIsolation
open SqlTables SqlPrograms SqlStatements SqlSessions SqlDiscipline Discipline SqlColumns Columns SqlTenancy Tenancy
  DomainRules StripeEvents DatabaseTables AuditWriters LicensingRepository CommerceRepository CustomerRepository
  EntitlementsRepository PrivacyRepository UsageRepository ServiceOperations CommercialPolicy LastingRows TableName

/-- A customer, or the catalog that all customers share. -/
inductive Tenant where
  | customer (id : ℕ)
  | catalog
deriving DecidableEq

/-- The customer that a row names. -/
def rowTenant : ∀ t, Entry (Row t) → Option Tenant
  | .customerProfiles, e => some (.customer e.id)
  | .customerStatusHistory, e => some (.customer e.val.customerId)
  | .customerMfaHistory, e => some (.customer e.val.customerId)
  | .customerEmails, e => some (.customer e.val.customerId)
  | .products, _ | .features, _ | .plans, _ | .planVersions, _ | .planFeatures, _ | .releaseChannels, _
  | .usageMeters, _ | .commercialPolicyVersions, _ => some .catalog
  | .billingAccounts, e => some (.customer e.val.customerId)
  | .subscriptions, e => some (.customer e.val.customerId)
  | .checkoutSessions, e => some (.customer e.val.customerId)
  | .licenses, e => some (.customer e.val.customerId)
  | .devices, e => some (.customer e.val.customerId)
  | .installations, e => some (.customer e.val.customerId)
  | .entitlementOverrides, e => some (.customer e.val.customerId)
  | .usageReservations, e => some (.customer e.val.customerId)
  | .usageEvents, e => some (.customer e.val.customerId)
  | .usagePeriodTotals, e => some (.customer e.val.customerId)
  | .quotaDecisions, e => some (.customer e.val.customerId)
  | .commercialAuditEvents, e => e.val.customerId.map .customer
  | .accountDeletionRequests, e => some (.customer e.val.customerId)
  | .fleets, e => some (.customer e.val.customerId)
  | _, _ => none

/-- The row of another table that a row without a customer column belongs to. -/
def rowParent : ∀ t, Row t → Option (TableName × ℕ)
  | .stripeCustomers, r => some (billingAccounts, r.billingAccountId)
  | .licenseActivations, r => some (installations, r.installationId)
  | .licenseLeases, r => some (installations, r.installationId)
  | .licenseRevocations, r => r.licenseId.map fun id => (licenses, id)
  | .fleetApplications, r => some (fleets, r.fleetId)
  | _, _ => none

lemma rowTenant_fixed (t : TableName) (i : ℕ) (r : Row t) :
    rowTenant t ⟨i, fixedColumns t r⟩ = rowTenant t ⟨i, r⟩ := by
  cases t <;> rfl

lemma rowParent_fixed (t : TableName) (r : Row t) : rowParent t (fixedColumns t r) = rowParent t r := by
  cases t <;> rfl

def tenancy : Tenancy serviceColumns Tenant where
  direct := rowTenant
  via := rowParent
  direct_fixed t i r r' h := by
    have hr : fixedColumns t r = fixedColumns t r' := h
    rw [← rowTenant_fixed t i r, hr, rowTenant_fixed]
  via_fixed t r r' h := by
    have hr : fixedColumns t r = fixedColumns t r' := h
    rw [← rowParent_fixed t r, hr, rowParent_fixed]

/-- `current_customer_id()`. -/
def currentCustomerId (uid : ℕ) (d : Database) : Option ℕ :=
  ((d .customerProfiles).find? (isAuthUser uid)).map (·.id)

/-- The row-level policies for `select`; a table without a policy shows nothing. -/
def visible (uid : ℕ) (d : Database) : ∀ t, Entry (Row t) → Bool
  | .customerProfiles, e => e.val.authUserId == uid
  | .customerStatusHistory, e => currentCustomerId uid d == some e.val.customerId
  | .customerEmails, e => currentCustomerId uid d == some e.val.customerId
  | .billingAccounts, e => currentCustomerId uid d == some e.val.customerId
  | .subscriptions, e => currentCustomerId uid d == some e.val.customerId
  | .licenses, e => currentCustomerId uid d == some e.val.customerId
  | .installations, e => currentCustomerId uid d == some e.val.customerId
  | .devices, e => currentCustomerId uid d == some e.val.customerId
  | .usagePeriodTotals, e => currentCustomerId uid d == some e.val.customerId
  | .usageReservations, e => currentCustomerId uid d == some e.val.customerId
  | .accountDeletionRequests, e => currentCustomerId uid d == some e.val.customerId
  | .fleets, e => currentCustomerId uid d == some e.val.customerId
  | .fleetApplications, e =>
    (d .fleets).any fun f => f.id == e.val.fleetId && currentCustomerId uid d == some f.val.customerId
  | .products, _ | .plans, _ | .planVersions, _ | .features, _ | .planFeatures, _ | .releaseChannels, _ => true
  | _, _ => false

/-- What the user reads of a table. -/
def view (uid : ℕ) (d : Database) (t : TableName) : List (Entry (Row t)) := (d t).filter (visible uid d t)

section Requests
variable {ε : Type} [FromSql ε] {customerId : ℕ} {v : Database → Database} {d : Database}

/-- The row is the customer's own. -/
abbrev OwnedBy (customerId : ℕ) (t : TableName) (i : ℕ) (d : Database) : Prop :=
  tenancy.Owns (.customer customerId) t i d

/-- The program writes rows of the customer only. -/
abbrev Own {α : Type} (customerId : ℕ) (p : Tx ε α) (v : Database → Database) (d : Database) : Prop :=
  tenancy.Confines (.customer customerId) (fun _ _ => True) p v d

abbrev Acting (customerId : ℕ) (v : Database → Database) (d : Database) : Prop :=
  tenancy.Tracked (.customer customerId) v d

lemma ownedBy_of_mem {t : TableName} {e : Entry (Row t)} (he : e ∈ d t) (hparent : rowParent t e.val = none)
    (htenant : rowTenant t e = some (.customer customerId)) : OwnedBy customerId t e.id d :=
  ⟨e, he, rfl, hparent, htenant⟩

lemma names_self {c : ℕ} (h : c = customerId) : some (Tenant.customer c) = some (.customer customerId) := by rw [h]

/-- Rows that name the customer. -/
lemma own_row {t : TableName} {w : Row t} (hparent : rowParent t w = none)
    (htenant : ∀ n, rowTenant t ⟨n, w⟩ = some (.customer customerId)) :
    tenancy.NewRow (.customer customerId) t w d :=
  newRow_direct hparent fun n _ hω => Option.some.inj (hω.symm.trans (htenant n))

lemma own_insertRow {t : TableName} {w : Row t} (ht : Acting customerId v d) (hparent : rowParent t w = none)
    (htenant : ∀ n, rowTenant t ⟨n, w⟩ = some (.customer customerId)) :
    Own customerId (insertRow t w : Tx ε _) v d :=
  (confines_insertRow ht (own_row hparent htenant)).mono fun _ _ _ => trivial

lemma own_insertUnless {t : TableName} {w : Row t} (ht : Acting customerId v d)
    (hparent : rowParent t w = none)
    (htenant : ∀ n, rowTenant t ⟨n, w⟩ = some (.customer customerId)) :
    Own customerId (insertUnless t w : Tx ε _) v d :=
  (confines_insertUnless ht (own_row hparent htenant)).mono fun _ _ _ => trivial

lemma own_hits {t : TableName} {p : Entry (Row t) → Bool}
    (hparent : ∀ e : Entry (Row t), rowParent t e.val = none)
    (h : ∀ e, p e = true → rowTenant t e = some (.customer customerId)) :
    tenancy.Hits (.customer customerId) t p d :=
  hits_direct fun e hp => ⟨hparent e, fun _ hω => Option.some.inj (hω.symm.trans (h e hp))⟩

lemma confines_writeOutbox (ht : Acting customerId v d) (eventType key : String) (payload : JsonValue.Value) :
    Own customerId (writeOutbox eventType key payload : Tx ε Unit) v d :=
  (confines_insertUnless ht (newRow_direct rfl fun _ _ h => by cases h)).last

lemma confines_writeCustomerAudit (ht : Acting customerId v d) {record : CustomerAudit}
    (h : record.customerId = customerId) : Own customerId (writeCustomerAudit record : Tx ε Unit) v d := by
  subst h
  exact (own_insertRow ht rfl fun _ => rfl).last

lemma confines_totals (ht : Acting customerId v d) (meterKey periodKey : String) {f : UsagePeriodTotal → UsagePeriodTotal}
    (hf : ∀ r, fixedColumns usagePeriodTotals (f r) = fixedColumns usagePeriodTotals r) :
    Own customerId (update usagePeriodTotals (isTotals customerId meterKey periodKey) f : Tx ε _) v d := by
  refine confines_update ht (own_hits (fun _ => rfl) fun e hp => ?_) ⟨rfl, hf⟩
  simp only [isTotals, Bool.and_eq_true, beq_iff_eq] at hp
  exact names_self hp.1.1

lemma confines_lockTotals (ht : Acting customerId v d) (meterKey periodKey : String) :
    Own customerId (lockTotals customerId meterKey periodKey : Tx ε _) v d := by
  refine (own_insertUnless ht rfl fun _ => rfl).bind fun _ _ _ ht _ _ => ?_
  exact (confines_selectOneForUpdate ht).last

lemma confines_expireStale (ht : Acting customerId v d) (meterKey periodKey : String) (now : Time) :
    Own customerId (expireStaleReservations customerId meterKey periodKey now : Tx ε ℚ) v d := by
  refine Confines.bind (confines_update ht (own_hits (fun _ => rfl) fun e hp => ?_) ⟨rfl, fun _ => rfl⟩) fun expired _ _ ht _ _ => ?_
  · simp only [isStale, Bool.and_eq_true, beq_iff_eq] at hp
    exact names_self hp.1.1.1.1
  · dsimp only
    split
    · exact Confines.bind (confines_totals ht _ _ fun _ => rfl) fun _ _ _ ht _ _ => .pure ht trivial
    · exact .pure ht trivial

lemma confines_recordDecision (ht : Acting customerId v d) {record : DecisionRecord}
    (h : record.customerId = customerId) : Own customerId (recordDecision record : Tx ε ℕ) v d := by
  subst h
  exact (own_insertRow ht rfl fun _ => rfl).last

/-- A row of the customer, named by its key. -/
lemma confines_byId {t : TableName} {i : ℕ} {f : Row t → Row t} (ht : Acting customerId v d)
    (h : OwnedBy customerId t i (v d)) (herasable : t ≠ customerEmails)
    (hf : serviceColumns.Updates t f) :
    Own customerId (update t (fun e => e.id == i) f : Tx ε _) v d :=
  confines_update ht (h.hits (beq_eq_false_iff_ne.mpr herasable)) hf

lemma OwnedBy.lasting {t : TableName} {i : ℕ} {d' : Database} (h : OwnedBy customerId t i d) (herasable : t ≠ customerEmails)
    (hd : serviceColumns.Lasting d d') : OwnedBy customerId t i d' :=
  Owns.lasting h (beq_eq_false_iff_ne.mpr herasable) hd

end Requests

section Usage
variable {v : Database → Database} {d : Database}

lemma confines_reserve (clock : Clock) (input : ReserveInput) (ht : Acting input.customerId v d) :
    Own input.customerId (reserve clock input) v d := by
  refine (confines_select ht).bind fun existing _ _ ht _ _ => ?_
  cases existing with
  | some existing => exact .pure ht trivial
  | none =>
    refine (confines_lockTotals ht _ _).bind fun _ _ _ ht _ _ => ?_
    refine (confines_expireStale ht _ _ _).bind fun _ _ _ ht _ _ => ?_
    refine (confines_selectOne ht).bind fun totals _ _ ht _ _ => ?_
    refine (confines_recordDecision ht rfl).bind fun _ _ _ ht _ _ => ?_
    split
    · exact .pure ht trivial
    refine (own_insertUnless ht rfl fun _ => rfl).bind fun reservation _ _ ht _ _ => ?_
    cases reservation with
    | none => exact (confines_selectOne ht).last
    | some reservation => exact Confines.bind (confines_totals ht _ _ fun _ => rfl) fun _ _ _ ht _ _ => .pure ht trivial

lemma confines_writeThresholds {customerId : ℕ} (meterKey periodKey : String) (usedAfter : ℚ) (limit : Option ℚ)
    (utcNow : Time) (thresholds : List ℕ) (ht : Acting customerId v d) :
    Own customerId (writeThresholds customerId meterKey periodKey usedAfter limit utcNow thresholds) v d := by
  induction thresholds generalizing v d with
  | nil => exact .pure ht trivial
  | cons pct thresholds ih => exact (confines_writeOutbox ht _ _ _).bind fun _ _ _ ht _ _ => ih ht

lemma confines_appendEvent {clock : Clock} {input : CommitInput} {meterKey : String} {amount : ℚ}
    {periodKey : String} {reservationId : Option ℕ} (ht : Acting input.customerId v d)
    (h : ∀ id, reservationId = some id → OwnedBy input.customerId usageReservations id (v d)) :
    Own input.customerId (appendEvent clock input meterKey amount periodKey reservationId) v d := by
  refine (own_insertUnless ht rfl fun _ => rfl).bind fun event v₁ d₁ ht hlast _ => ?_
  cases event with
  | none => exact (confines_selectOne ht).last
  | some event =>
    have hclose : Own input.customerId (closeReservation reservationId) v₁ d₁ := by
      cases reservationId with
      | none => exact .pure ht trivial
      | some id =>
        exact Confines.bind (confines_byId ht ((h id rfl).lasting (by decide) hlast) (by decide) ⟨rfl, fun _ => rfl⟩)
          fun _ _ _ ht _ _ => .pure ht trivial
    refine hclose.bind fun _ _ _ ht _ _ => ?_
    refine Confines.bind (confines_updateOne ht (own_hits (fun _ => rfl) fun e hp => ?_) ⟨rfl, fun _ => rfl⟩) fun totals _ _ ht _ _ => ?_
    · simp only [isTotals, Bool.and_eq_true, beq_iff_eq] at hp
      exact names_self hp.1.1
    · exact (confines_writeThresholds _ _ _ _ _ _ ht).last

/-- A reservation that is looked up under the customer's id is the customer's. -/
lemma ownedBy_reservation {customerId reservationId : ℕ} {e : ReservationRow}
    (h : (d .usageReservations).find? (isOwnReservation reservationId customerId) = some e) :
    OwnedBy customerId usageReservations reservationId d := by
  have hfound := List.find?_some h
  simp only [isOwnReservation, Bool.and_eq_true, beq_iff_eq] at hfound
  rw [← hfound.1]
  exact ownedBy_of_mem (List.mem_of_find?_eq_some h) rfl (names_self hfound.2)

lemma confines_commit (clock : Clock) (input : CommitInput) (ht : Acting input.customerId v d) :
    Own input.customerId (commit clock input) v d := by
  refine (confines_select ht).bind fun existing _ _ ht _ _ => ?_
  cases existing with
  | some existing => exact .pure ht trivial
  | none =>
    dsimp only
    split
    · refine (confines_selectForUpdate ht).bind fun reservation _ _ ht _ hfound => ?_
      cases reservation with
      | none => exact .fail _
      | some reservation =>
        have howned := ownedBy_reservation hfound.symm
        dsimp only
        split
        · exact .fail _
        split
        · refine Confines.bind (confines_byId ht howned (by decide) ⟨rfl, fun _ => rfl⟩) fun _ _ _ ht _ _ => ?_
          exact Confines.bind (confines_totals ht _ _ fun _ => rfl) fun _ _ _ ht _ _ => .pure ht trivial
        · exact confines_appendEvent ht fun id hid => by cases hid; exact howned
    · refine (confines_lockTotals ht _ _).bind fun _ _ _ ht _ _ => ?_
      refine (confines_expireStale ht _ _ _).bind fun _ _ _ ht _ _ => ?_
      refine (confines_selectOne ht).bind fun totals _ _ ht _ _ => ?_
      refine (confines_recordDecision ht rfl).bind fun _ _ _ ht _ _ => ?_
      split
      · exact (confines_writeOutbox ht _ _ _).last
      · exact confines_appendEvent ht fun id hid => by cases hid

lemma confines_release {customerId : ℕ} (reservationId : ℕ) (ht : Acting customerId v d) :
    Own customerId (release customerId reservationId) v d := by
  refine (confines_selectForUpdate ht).bind fun reservation _ _ ht _ hfound => ?_
  cases reservation with
  | none => exact .pure ht trivial
  | some reservation =>
    have howned := ownedBy_reservation hfound.symm
    dsimp only
    split
    · exact .pure ht trivial
    refine Confines.bind (confines_byId ht howned (by decide) ⟨rfl, fun _ => rfl⟩) fun _ _ _ ht _ _ => ?_
    exact Confines.bind (confines_totals ht _ _ fun _ => rfl) fun _ _ _ ht _ _ => .pure ht trivial

end Usage

section Installations
variable {ε : Type} [FromSql ε] {customerId : ℕ} {v : Database → Database} {d : Database}

lemma confines_ensureDefaultFleet (ht : Acting customerId v d) (displayName : String) (channel : Option ℕ) :
    tenancy.Confines (.customer customerId) (fun fleet x => OwnedBy customerId fleets fleet.id x)
      (ensureDefaultFleet customerId displayName channel : Tx ε _) v d := by
  refine Confines.mono (confines_insertOrFind (t := fleets) ht ?_) fun fleet x h => ?_
  · exact own_row rfl fun _ => rfl
  rcases h with ⟨hval, hmem⟩ | hfound
  · exact ownedBy_of_mem hmem rfl (names_self (congrArg Fleet.customerId hval))
  · have hdefault := List.find?_some hfound
    simp only [isDefaultFleet, Bool.and_eq_true, beq_iff_eq] at hdefault
    exact ownedBy_of_mem (List.mem_of_find?_eq_some hfound) rfl (names_self hdefault.1.1)

lemma confines_ensureFleetApplication (ht : Acting customerId v d) {fleetId : ℕ} (h : OwnedBy customerId fleets fleetId (v d))
    (productId : ℕ) (channel : Option ℕ) :
    Own customerId (ensureFleetApplication fleetId productId channel : Tx ε Unit) v d :=
  (confines_insertUnless ht (h.newRow rfl rfl fun _ => rfl)).last

lemma confines_registerDevice (ht : Acting customerId v d) (device : Option DeviceIdentity) :
    Own customerId (registerDevice customerId device : Tx ε _) v d := by
  cases device with
  | none => exact .pure ht trivial
  | some device =>
    refine Confines.bind (confines_upsert (t := devices) ht (own_row rfl fun _ => rfl) (fun e he => ?_) rfl
      ⟨rfl, fun _ => rfl⟩) fun _ _ _ ht _ _ => .pure ht trivial
    simp [Schema.keys, uniqueKeys] at he
    exact ⟨rfl, names_self he.1⟩

/-- An installation that is looked up under the customer's id is the customer's. -/
lemma ownedBy_installation {p : Entry Installation → Bool} {e : Entry Installation}
    (h : (d .installations).find? p = some e) (hp : p e = true → e.val.customerId = customerId) :
    OwnedBy customerId installations e.id d :=
  ownedBy_of_mem (List.mem_of_find?_eq_some h) rfl (names_self (hp (List.find?_some h)))

lemma confines_heartbeat (ht : Acting customerId v d) (clock : Clock) (installationId : ℕ) (appVersion : Option String) :
    Own customerId (heartbeatInstallation clock customerId installationId appVersion : Tx ε _) v d := by
  refine Confines.bind (confines_update ht (own_hits (fun _ => rfl) fun e hp => ?_) ⟨rfl, fun _ => rfl⟩)
    fun _ _ _ ht _ _ => .pure ht trivial
  simp only [Bool.and_eq_true, beq_iff_eq] at hp
  exact names_self hp.2

end Installations

section Licensing
variable {customerId : ℕ} {v : Database → Database} {d : Database}

lemma confines_recordInstallation (ht : Acting customerId v d) (clock : Clock) (input : ValidatedRegistration)
    (product : Entry Product) (deviceId : Option ℕ) (fleetId : ℕ) :
    Own customerId (recordInstallation clock customerId input product deviceId fleetId) v d := by
  refine (own_insertUnless ht rfl fun _ => rfl).bind fun inserted _ _ ht _ _ => ?_
  cases inserted with
  | some installation => exact (confines_writeOutbox ht _ _ _).last
  | none =>
    refine (confines_selectOneForUpdate ht).bind fun prior _ _ ht _ hprior => ?_
    have howned : OwnedBy customerId installations prior.id _ := ownedBy_installation hprior fun hp => by
      simp only [Bool.and_eq_true, beq_iff_eq] at hp
      exact hp.1
    split
    · exact .fail _
    · exact Confines.bind (confines_updateOne ht (howned.hits rfl) ⟨rfl, fun _ => rfl⟩)
        fun _ _ _ ht _ _ => .pure ht trivial

lemma confines_register (ht : Acting customerId v d) (clock : Clock) (input : ValidatedRegistration) :
    Own customerId (registerInstallation clock customerId input) v d := by
  refine (confines_select ht).bind fun product _ _ ht _ _ => ?_
  cases product with
  | none => exact .fail _
  | some product =>
    refine (confines_registerDevice ht _).bind fun device _ _ ht _ _ => ?_
    refine (confines_select ht).bind fun channel _ _ ht _ _ => ?_
    refine (confines_ensureDefaultFleet ht _ _).bind fun fleet _ _ ht _ hfleet => ?_
    refine (confines_ensureFleetApplication ht hfleet _ _).bind fun _ _ _ ht _ _ => ?_
    exact confines_recordInstallation ht _ _ _ _ _

lemma confines_policyLimit (ht : Acting customerId v d) (now : Time) (licenseId : ℕ) :
    Own customerId (commercialPolicyDeviceLimitForLicense now licenseId : Tx ActivationError _) v d := by
  refine (confines_select ht).bind fun plan _ _ ht _ _ => ?_
  cases plan with
  | none => exact .pure ht trivial
  | some plan =>
    dsimp only
    unfold commercialPolicyDeviceLimit
    split
    · exact .pure ht trivial
    · exact (confines_select ht).mono fun _ _ _ => trivial

lemma confines_activate (ht : Acting customerId v d) (clock : Clock) (installationId : ℕ) (licenseId : Option ℕ)
    (correlationId : Option String) :
    Own customerId (activateInstallation clock customerId installationId licenseId correlationId) v d := by
  refine (confines_select ht).bind fun context v₁ d₁ ht _ hcontext => ?_
  cases context with
  | none => exact .fail _
  | some context =>
    obtain ⟨installation, deviceStatus⟩ := context
    obtain ⟨found, hfound, hpair⟩ := Option.map_eq_some_iff.mp hcontext.symm
    cases hpair
    have howned : OwnedBy customerId installations installation.id (v₁ d₁) := ownedBy_installation hfound fun hp => by
      simp only [Bool.and_eq_true, beq_iff_eq] at hp
      exact hp.2
    dsimp only
    split
    · exact .fail _
    split
    · exact .fail _
    refine (confines_selectForUpdate ht).bind fun license _ _ ht hl₂ _ => ?_
    cases license with
    | none =>
      dsimp only
      split <;> exact .fail _
    | some license =>
      dsimp only
      split
      · exact .fail _
      split
      · exact .fail _
      split
      · exact .fail _
      refine (confines_select ht).bind fun blocked _ _ ht hl₃ _ => ?_
      split
      · exact .fail _
      refine (confines_policyLimit ht _ _).bind fun limit _ _ ht hl₄ _ => ?_
      refine (confines_select ht).bind fun count _ _ ht hl₅ _ => ?_
      refine (confines_select ht).bind fun existing _ _ ht hl₆ _ => ?_
      cases existing with
      | some activation => exact .pure ht trivial
      | none =>
        dsimp only
        split
        · exact .fail _
        have howned := howned.lasting (by decide) ((((hl₂.trans hl₃).trans hl₄).trans hl₅).trans hl₆)
        refine (confines_insertRow ht (howned.newRow rfl rfl fun _ => rfl)).bind fun activation _ _ ht _ _ => ?_
        refine (confines_writeCustomerAudit ht rfl).bind fun _ _ _ ht _ _ => ?_
        exact (confines_writeOutbox ht _ _ _).last

lemma confines_deactivate (ht : Acting customerId v d) (clock : Clock) (installationId : ℕ)
    (correlationId : Option String) :
    Own customerId (deactivateInstallation clock customerId installationId correlationId) v d := by
  refine (confines_selectForUpdate ht).bind fun installation v₁ d₁ ht _ hfound => ?_
  cases installation with
  | none => exact .fail _
  | some installation =>
    have howned : OwnedBy customerId installations installationId (v₁ d₁) := by
      have hp := List.find?_some hfound.symm
      simp only [Bool.and_eq_true, beq_iff_eq] at hp
      rw [← hp.1]
      exact ownedBy_installation hfound.symm fun _ => hp.2
    dsimp only
    split
    · exact .pure ht trivial
    refine Confines.bind (confines_byId ht howned (by decide) ⟨rfl, fun _ => rfl⟩) fun _ _ _ ht hl _ => ?_
    have howned := howned.lasting (by decide) hl
    refine Confines.bind (confines_update ht (howned.hits_via rfl fun e hp => ?_) ⟨rfl, fun _ => rfl⟩) fun released _ _ ht _ _ => ?_
    · simp only [Bool.and_eq_true, beq_iff_eq] at hp
      exact ⟨congrArg (fun i => some (installations, i)) hp.1, rfl⟩
    · exact (confines_writeCustomerAudit ht rfl).last

lemma confines_lease (ht : Acting customerId v d) (signer : Signer) (clock : Clock) (installationId : ℕ)
    (leaseTtl : Time) (correlationId : Option String) :
    Own customerId (issueOfflineLease signer clock customerId installationId leaseTtl correlationId) v d := by
  refine (confines_select ht).bind fun context v₁ d₁ ht _ hcontext => ?_
  cases context with
  | none => exact .fail _
  | some context =>
    have howned : OwnedBy customerId installations installationId (v₁ d₁) := by
      obtain ⟨found, hfound, -⟩ := Option.bind_eq_some_iff.mp hcontext.symm
      have hp := List.find?_some hfound
      simp only [Bool.and_eq_true, beq_iff_eq] at hp
      rw [← hp.1]
      exact ownedBy_installation hfound fun _ => hp.2
    dsimp only
    split
    · exact .fail _
    split
    · exact .fail _
    split
    · exact .fail _
    split
    · exact .fail _
    split
    · exact .fail _
    split
    · exact .fail _
    refine (confines_select ht).bind fun blocked _ _ ht hl _ => ?_
    split
    · exact .fail _
    have howned := howned.lasting (by decide) hl
    refine (confines_insertKeyed ht fun n => howned.newRow rfl rfl fun _ => rfl).bind fun row _ _ ht _ _ => ?_
    exact (confines_writeCustomerAudit ht rfl).last

end Licensing

section Accounts
variable {ε : Type} [FromSql ε] {customerId : ℕ} {v : Database → Database} {d : Database}

lemma confines_setMfaRequired (ht : Acting customerId v d) (required : Bool) :
    Own customerId (setMfaRequired customerId required : Tx ε Unit) v d := by
  refine Confines.bind (confines_update ht (own_hits (fun _ => rfl) fun e hp => ?_) ⟨rfl, fun _ => rfl⟩)
    fun _ _ _ ht _ _ => .pure ht trivial
  exact names_self (beq_iff_eq.mp hp)

/-- A session that exists already is answered as it is, whoever it belongs to. -/
lemma confines_checkout (ht : Acting customerId v d) (planVersionId : ℕ) (session : String) :
    Own customerId (recordCheckoutSession customerId planVersionId session : Tx ε _) v d :=
  confines_upsert_same (t := checkoutSessions) ht (own_row rfl fun _ => rfl) rfl

lemma ownedBy_openRequest {request : DeletionRequestRow} (h : openRequest customerId d = some request) :
    OwnedBy customerId accountDeletionRequests request.id d := by
  obtain ⟨hmem, hcond⟩ := List.mem_filter.mp (mem_of_firstBy h)
  simp only [Bool.and_eq_true, beq_iff_eq] at hcond
  exact ownedBy_of_mem hmem rfl (names_self hcond.1)

lemma confines_requestDeletion (ht : Acting customerId v d) (clock : Clock) (reason correlationId : Option String) :
    Own customerId (requestDeletion clock customerId reason correlationId : Tx ε _) v d := by
  refine (confines_selectForUpdate ht).bind fun existing _ _ ht _ _ => ?_
  cases existing with
  | some request => exact .pure ht trivial
  | none =>
    refine (own_insertRow ht rfl fun _ => rfl).bind fun request _ _ ht _ _ => ?_
    exact (confines_writeCustomerAudit ht rfl).last

lemma confines_cancelRequest (ht : Acting customerId v d) (correlationId : Option String) :
    Own customerId (cancelRequest customerId correlationId) v d := by
  refine (confines_selectForUpdate ht).bind fun request _ _ ht _ hfound => ?_
  cases request with
  | none => exact .fail _
  | some request =>
    dsimp only
    split
    · exact .fail _
    refine Confines.bind (confines_updateOne ht ((ownedBy_openRequest hfound.symm).hits rfl) ⟨rfl, fun _ => rfl⟩) fun updated _ _ ht _ _ => ?_
    exact (confines_writeCustomerAudit ht rfl).last

end Accounts

/-- Whatever a customer requests writes rows of that customer only. -/
theorem confines_request {customerId : ℕ} {v : Database → Database} {d : Database} (ht : Acting customerId v d)
    (clock : Clock) (ctx : CustomerContext) (request : CustomerRequest) :
    tenancy.Confines (.customer customerId) (fun _ _ => True) (request.prog clock ctx customerId) v d := by
  cases request with
  | mfaStatus enabled =>
    unfold CustomerRequest.prog
    dsimp only
    split
    · exact (confines_setMfaRequired ht _).translate fun _ _ => id
    · exact .fail ()
  | register => exact (confines_register ht _ _).translate fun _ _ => id
  | activate => exact (confines_activate ht _ _ _ _).translate fun _ _ => id
  | heartbeat => exact (confines_heartbeat ht _ _ _).translate fun _ _ => id
  | deactivate => exact (confines_deactivate ht _ _ _).translate fun _ _ => id
  | lease => exact (confines_lease ht _ _ _ _ _).translate fun _ _ => id
  | checkout => exact (confines_checkout ht _ _).translate fun _ _ => id
  | reserve input => exact (confines_reserve clock { input with customerId := customerId } ht).translate fun _ _ => id
  | commit input => exact (confines_commit clock { input with customerId := customerId } ht).translate fun _ _ => id
  | release => exact (confines_release _ ht).translate fun _ _ => id
  | requestDeletion => exact (confines_requestDeletion ht _ _ _).translate fun _ _ => id
  | cancelDeletion => exact (confines_cancelRequest ht _).translate fun _ _ => id

/-- The profile is that of the authenticated user. -/
def IsUser (uid customerId : ℕ) (d : Database) : Prop :=
  ∃ e ∈ d .customerProfiles, e.id = customerId ∧ e.val.authUserId = uid

lemma IsUser.lasting {uid customerId : ℕ} {d d' : Database} (h : IsUser uid customerId d)
    (hd : serviceColumns.Lasting d d') : IsUser uid customerId d' := by
  obtain ⟨e, he, hid, huser⟩ := h
  obtain ⟨e', he', hid', hfix⟩ := hd customerProfiles rfl e he
  exact ⟨e', he', hid'.trans hid, (congrArg CustomerProfile.authUserId hfix).trans huser⟩

lemma isUser_of_find {uid : ℕ} {d : Database} {e : Entry CustomerProfile}
    (h : (d .customerProfiles).find? (isAuthUser uid) = some e) : IsUser uid e.id d :=
  ⟨e, List.mem_of_find?_eq_some h, rfl, by simpa [isAuthUser] using List.find?_some h⟩

/-- The user that a request or a provisioning call comes from. -/
def authUser : ServiceCall → Option ℕ
  | .operation (.customer _ authUserId _ _) => some authUserId
  | .operation (.provision _ input) => some input.authUserId
  | _ => none

/-- A commit for a user: rows of the user's own profile, if anything. -/
def ActsFor (uid : ℕ) (r : Except Unit Unit) (d d' : Database) : Prop :=
  match r with
  | .ok _ => ∃ customerId N, Keyed N d' ∧ IsUser uid customerId d' ∧ tenancy.Written (.customer customerId) d d'
  | .error _ => d' = d

section Sessions
variable {uid : ℕ} {L : List (Lock TableName UniqueKey)} {v : Database → Database} {d : Database}
  {D : Env Row UniqueKey → Change Row → List (Lock TableName UniqueKey) → Prop}

lemma commits_acting {r : Except Unit Unit}
    (h : ∀ a, r = .ok a → ∃ customerId, Acting customerId v d ∧ IsUser uid customerId (v d)) :
    serviceColumns.lasting.Commits (ActsFor uid) r L v d := by
  refine commits_tracked (T := tenancy) (Q := fun A x => ∃ customerId, A = .customer customerId ∧ IsUser uid customerId x)
    (fun A x x' hx hq => ?_) (fun a ha => ?_) (fun a A x N hwritten hk hq => ?_) fun _ _ => rfl
  · obtain ⟨customerId, hA, huser⟩ := hq
    exact ⟨customerId, hA, huser.lasting hx⟩
  · obtain ⟨customerId, ht, huser⟩ := h a ha
    exact ⟨_, ht, customerId, rfl, huser⟩
  · obtain ⟨customerId, rfl, huser⟩ := hq
    exact ⟨customerId, N, hk, huser, hwritten⟩

/-- The caller that passes `require_active` is the customer of the user's profile. -/
lemma isUser_of_context {aal : Option String} {clock : Clock} {customerId : ℕ}
    (h : (customerContext uid aal d).requireActive clock = .ok customerId) : IsUser uid customerId d := by
  have hid : (customerContext uid aal d).customerId = some customerId := by
    unfold CustomerContext.requireActive CustomerContext.requireAal2 at h
    cases hctx : (customerContext uid aal d).customerId with
    | none => simp [hctx] at h
    | some id =>
      rw [hctx] at h
      dsimp only at h
      split at h
      · cases h
      split at h
      · cases h
      split at h
      · split at h <;> cases h
        rfl
      · cases h
        rfl
  unfold customerContext at hid
  split at hid
  · rename_i e hfound
    cases hid
    exact isUser_of_find hfound
  · cases hid

lemma safe_customer (clock : Clock) (aal : Option String) (request : CustomerRequest) (d : Database) :
    serviceColumns.lasting.Safe (fun _ _ _ => True) (serviceColumns.lasting.Commits (ActsFor uid))
      (Operation.customer clock uid aal request).prog [] id d := by
  refine safe_bind.mpr (safe_select fun d' _ _ env _ _ => ?_)
  dsimp only
  split
  · rename_i customerId hactive
    have huser := isUser_of_context hactive
    refine Safe.mono (fun r L v d'' h => ?_)
      (confines_request (tracked_id _ d') clock (customerContext uid aal d') request [])
    refine commits_acting fun a ha => ⟨customerId, ?_⟩
    obtain ⟨ht, hlast, -⟩ := h a ha
    exact ⟨ht, huser.lasting hlast⟩
  · exact commits_acting fun a ha => by cases ha

lemma confines_welcome {ε : Type} [FromSql ε] {customerId : ℕ} (ht : Acting customerId v d) {history : StatusHistory}
    {profile : Entry CustomerProfile} {eventType key : String} {payload : JsonValue.Value}
    (hhistory : history.customerId = customerId) (hprofile : profile.id = customerId) :
    tenancy.Confines (.customer customerId) (fun a _ => a.1.id = customerId) (do
      let _ ← insertRow customerStatusHistory history
      writeOutbox eventType key payload
      pure (profile, true) : Tx ε _) v d := by
  refine Confines.bind (own_insertRow ht rfl fun _ => names_self hhistory) fun _ _ _ ht _ _ => ?_
  exact (confines_writeOutbox ht _ _ _).bind fun _ _ _ ht _ _ => .pure ht hprofile

/-- What provisioning does once the profile is there. -/
lemma confines_fleetAndEmail {ε : Type} [FromSql ε] {profile : Entry CustomerProfile} (ht : Acting profile.id v d)
    (input : ProvisionInput) (created : Bool) : Own profile.id (do
      let channel ← select fun d => (findProduct "authorforge" d).bind fun id => stableChannel id d
      let fleet ← ensureDefaultFleet profile.id (fleetName profile.val.displayName) channel
      let product ← select (findProduct "authorforge")
      enrollFleet fleet.id product channel
      recordEmail profile.id input.email
      pure ⟨profile, fleet.id, created⟩ : Tx ε ProvisionedCustomer) v d := by
  refine (confines_select ht).bind fun channel _ _ ht _ _ => ?_
  refine (confines_ensureDefaultFleet ht _ _).bind fun fleet _ _ ht _ hfleet => ?_
  refine (confines_select ht).bind fun product v₁ d₁ ht hlast _ => ?_
  have hfleet := hfleet.lasting (by decide) hlast
  have henroll : Own profile.id (enrollFleet fleet.id product channel : Tx ε Unit) v₁ d₁ := by
    cases product with
    | none => exact .pure ht trivial
    | some productId => exact confines_ensureFleetApplication ht hfleet _ _
  refine henroll.bind fun _ v₂ d₂ ht _ _ => ?_
  have hemail : Own profile.id (recordEmail profile.id input.email : Tx ε Unit) v₂ d₂ := by
    cases input.email with
    | none => exact .pure ht trivial
    | some email => exact (own_insertUnless ht rfl fun _ => rfl).last
  exact hemail.last

lemma safe_ensureProfile {ε : Type} [FromSql ε] (clock : Clock) (input : ProvisionInput) (d : Database) :
    serviceColumns.lasting.Safe (fun _ _ _ => True) (fun r _ v' d' => ∀ a, r = .ok a →
      Acting a.1.id v' d' ∧ IsUser input.authUserId a.1.id (v' d'))
      (ensureProfile clock input : Tx ε _) [] id d := by
  refine safe_bind.mpr (safe_statement fun d₁ _ _ env henv _ =>
    ⟨fun c inserted hat _ => ?_, fun e _ _ a ha => by cases ha⟩)
  rcases tryInsertUnless_ok hat with ⟨-, rfl, rfl⟩ | ⟨-, rfl, rfl⟩
  · refine safe_bind.mpr (safe_statement fun d₂ _ _ env₂ henv₂ _ =>
      ⟨fun c e hat₂ _ a ha => ?_, fun e _ _ a ha => by cases ha⟩)
    split at hat₂ <;> cases hat₂
    rename_i hfound
    cases ha
    rw [henv₂] at hfound
    exact ⟨tracked_id _ d₂, isUser_of_find hfound⟩
  · -- The new profile is the tenant from here on.
    have ht : Acting env.fresh (fun x => (Change.insert customerProfiles (newProfile clock input)).apply env.fresh (id x))
        d₁ := (tracked_id _ d₁).step trivial trivial fun x N _ _ =>
      mine_direct rfl fun ω hω => (Option.some.inj hω).symm
    have huser : IsUser input.authUserId env.fresh
        ((Change.insert customerProfiles (newProfile clock input)).apply env.fresh (id d₁)) :=
      ⟨_, mem_insert, rfl, rfl⟩
    refine Safe.mono (fun r L v' d' h a ha => ?_) (confines_welcome ht rfl rfl _)
    obtain ⟨ht, hlast, hid⟩ := h a ha
    rw [hid]
    exact ⟨ht, huser.lasting hlast⟩

lemma safe_provision (clock : Clock) (input : ProvisionInput) (d : Database) :
    serviceColumns.lasting.Safe (fun _ _ _ => True) (serviceColumns.lasting.Commits (ActsFor input.authUserId))
      (Operation.provision clock input).prog [] id d := by
  refine safe_translate (safe_bind.mpr (Safe.mono (fun r L v' d' h => ?_) (safe_ensureProfile clock input d)))
  cases r with
  | error e => exact commits_acting fun a ha => by cases ha
  | ok a =>
    obtain ⟨ht, huser⟩ := h a rfl
    refine Safe.mono (fun r' L' v'' d'' h' => ?_) (confines_fleetAndEmail ht input a.2 L)
    refine commits_acting fun b hb => ⟨a.1.id, ?_⟩
    cases r' with
    | error e => cases hb
    | ok c =>
      obtain ⟨ht', hlast, -⟩ := h' c rfl
      exact ⟨ht', huser.lasting hlast⟩

end Sessions

section Views
variable {uid actor : ℕ} {d d' : Database} {N N' : ℕ}

/-- Everybody but the customer `actor`, and the catalog. -/
def others (actor : ℕ) (ω : Tenant) : Bool := ω != .customer actor

@[simp] lemma others_self : others actor (.customer actor) = false := by simp [others]

@[simp] lemma others_catalog : others actor .catalog = true := rfl

/-- The user's profile is not that of `actor`. -/
def Stranger (uid actor : ℕ) (d : Database) : Prop :=
  ∀ e ∈ d .customerProfiles, e.val.authUserId = uid → e.id ≠ actor

lemma others_of_current (h : Stranger uid actor d) {customerId : ℕ} (hcurrent : currentCustomerId uid d = some customerId) :
    others actor (.customer customerId) = true := by
  obtain ⟨e, hfound, rfl⟩ := Option.map_eq_some_iff.mp hcurrent
  have hne := h e (List.mem_of_find?_eq_some hfound) (by simpa [isAuthUser] using List.find?_some hfound)
  simpa [others] using hne

/-- What the user reads belongs to others than `actor`. -/
lemma visible_others (hk : Keyed N d) (h : Stranger uid actor d) {t : TableName} {e : Entry (Row t)}
    (he : e ∈ d t) (hvisible : visible uid d t e = true) : (tenancy.owner d t e).any (others actor) = true := by
  have howned : ∀ c, (currentCustomerId uid d == some c) = true → others actor (.customer c) = true :=
    fun c hc => others_of_current h (beq_iff_eq.mp hc)
  cases t with
  | customerProfiles =>
    have hne := h e he (beq_iff_eq.mp hvisible)
    change others actor (.customer e.id) = true
    simpa [others] using hne
  | fleetApplications =>
    obtain ⟨f, hf, hcond⟩ := List.any_eq_true.mp hvisible
    rw [Bool.and_eq_true] at hcond
    have hfind : (d .fleets).find? (fun x => x.id == e.val.fleetId) = some f :=
      hk.find_of_mem hf hcond.1 fun x hx => (beq_iff_eq.mp hx).trans (beq_iff_eq.mp hcond.1).symm
    change (((d .fleets).find? fun x => x.id == e.val.fleetId).bind (rowTenant fleets)).any (others actor) = true
    rw [hfind]
    exact howned _ hcond.2
  | customerStatusHistory | customerEmails | billingAccounts | subscriptions | licenses | installations | devices
  | usagePeriodTotals | usageReservations | accountDeletionRequests | fleets => exact howned _ hvisible
  | products | plans | planVersions | features | planFeatures | releaseChannels => rfl
  | customerMfaHistory | stripeCustomers | checkoutSessions | invoiceReferences | stripeWebhookEvents
  | licenseActivations | licenseLeases | licenseRevocations | entitlementOverrides | usageMeters | usageEvents
  | quotaDecisions | commercialAuditEvents | outboxEvents | commercialPolicyVersions =>
    exact absurd hvisible Bool.false_ne_true

/-- A search that only the rows of others can satisfy. -/
lemma find_others {t : TableName} {p : Entry (Row t) → Bool} (hspared : tenancy.Spared (others actor) d d')
    (h : ∀ e ∈ d t, p e = true → (tenancy.owner d t e).any (others actor) = true)
    (h' : ∀ e ∈ d' t, p e = true → (tenancy.owner d' t e).any (others actor) = true) :
    (d' t).filter p = (d t).filter p := by
  have hrows : ∀ x : Database, (∀ e ∈ x t, p e = true → (tenancy.owner x t e).any (others actor) = true) →
      (x t).filter p = (tenancy.rowsOf (others actor) x t).filter p := by
    intro x hx
    rw [rowsOf, List.filter_filter]
    refine List.filter_congr fun e he => ?_
    cases hp : p e with
    | false => rfl
    | true => simp [hx e he hp]
  rw [hrows d h, hrows d' h', hspared t]

lemma current_congr (h : Stranger uid actor d) (h' : Stranger uid actor d')
    (hspared : tenancy.Spared (others actor) d d') : currentCustomerId uid d' = currentCustomerId uid d := by
  have hprofiles : (d' .customerProfiles).filter (isAuthUser uid) = (d .customerProfiles).filter (isAuthUser uid) := by
    refine find_others (t := customerProfiles) hspared (fun e he hp => ?_) fun e he hp => ?_
    · have hne := h e he (beq_iff_eq.mp hp)
      change others actor (.customer e.id) = true
      simpa [others] using hne
    · have hne := h' e he (beq_iff_eq.mp hp)
      change others actor (.customer e.id) = true
      simpa [others] using hne
  rw [currentCustomerId, currentCustomerId, ← List.head?_filter, ← List.head?_filter, hprofiles]

/-- The policies let through the same rows before and after what spares everybody but `actor`. -/
theorem view_congr (hk : Keyed N d) (hk' : Keyed N' d') (h : Stranger uid actor d) (h' : Stranger uid actor d')
    (hspared : tenancy.Spared (others actor) d d') (t : TableName) : view uid d' t = view uid d t := by
  have hcurrent := current_congr h h' hspared
  have hfleets : ∀ fleetId, ((d' .fleets).any fun f => f.id == fleetId && currentCustomerId uid d == some f.val.customerId) =
      (d .fleets).any fun f => f.id == fleetId && currentCustomerId uid d == some f.val.customerId := by
    intro fleetId
    have hfound := find_others (t := fleets) (p := fun f => f.id == fleetId && currentCustomerId uid d == some f.val.customerId)
      hspared (fun e _ hp => others_of_current h (beq_iff_eq.mp (Bool.and_eq_true_iff.mp hp).2))
      fun e _ hp => others_of_current h (beq_iff_eq.mp (Bool.and_eq_true_iff.mp hp).2)
    have hany : ∀ fleets : List (Entry Fleet),
        (fleets.any fun f => f.id == fleetId && currentCustomerId uid d == some f.val.customerId) =
          (fleets.filter fun f => f.id == fleetId && currentCustomerId uid d == some f.val.customerId).any fun _ => true :=
      fun fleets => by simp
    rw [hany, hany, hfound]
  have hvisible : visible uid d' t = visible uid d t := by
    funext e
    cases t with
    | fleetApplications =>
      change ((d' .fleets).any fun f => f.id == e.val.fleetId && currentCustomerId uid d' == some f.val.customerId) = _
      rw [hcurrent]
      exact hfleets e.val.fleetId
    | customerStatusHistory | customerEmails | billingAccounts | subscriptions | licenses | installations | devices
    | usagePeriodTotals | usageReservations | accountDeletionRequests | fleets =>
      exact congrArg (· == some e.val.customerId) hcurrent
    | _ => rfl
  have hview := find_others (p := visible uid d t) hspared (fun e he hv => visible_others hk h he hv) fun e he hv =>
    visible_others hk' h' he (by rw [hvisible]; exact hv)
  rw [view, view, hvisible, hview]

/-- A commit for one user leaves the others' view and rows alone. -/
lemma ActsFor.isolated {w : ℕ} {r : Except Unit Unit} (h : ActsFor w r d d') (hk : Keyed N d) (hne : uid ≠ w) :
    (∀ t, view uid d' t = view uid d t) ∧
      ∀ e ∈ d .customerProfiles, e.val.authUserId = uid → ∀ t,
        tenancy.rowsOf (· == .customer e.id) d' t = tenancy.rowsOf (· == .customer e.id) d t := by
  cases r with
  | error err =>
    obtain rfl : d' = d := h
    exact ⟨fun _ => rfl, fun _ _ _ _ => rfl⟩
  | ok a =>
    obtain ⟨actor, N', hk', ⟨profile, hprofile, rfl, huser⟩, hwritten⟩ := h
    -- The actor's profile is that of `w`, in both states.
    have hstranger' : Stranger uid profile.id d' := by
      rintro e he rfl hid
      exact hne (by rw [hk'.unique he hprofile hid, huser])
    have hstranger : Stranger uid profile.id d := by
      intro e he hu hid
      obtain ⟨e', he', hid', hfix⟩ := hwritten.lasting customerProfiles rfl e he
      exact hstranger' e' he' ((congrArg CustomerProfile.authUserId hfix).trans hu) (hid'.trans hid)
    refine ⟨view_congr hk hk' hstranger hstranger' (hwritten.spared _ others_self), fun e he hu t => ?_⟩
    exact hwritten.spared (· == .customer e.id)
      (beq_eq_false_iff_ne.mpr fun hsame => hstranger e he hu (Tenant.customer.inj hsame).symm) t

end Views

/-- What a session commits for its user. -/
def Post (calls : List ServiceCall) (i : ℕ) (r : Except Unit Unit) (d d' : Database) : Prop :=
  ∀ call uid, calls[i]? = some call → authUser call = some uid → ActsFor uid r d d'

lemma safe_call {calls : List ServiceCall} {i : ℕ} {call : ServiceCall} (hcall : calls[i]? = some call) (d : Database) :
    serviceColumns.lasting.Safe (fun _ _ _ => True) (serviceColumns.lasting.Commits (Post calls i)) call.prog [] id d := by
  -- A session without a user only has to keep what lasts.
  have hanonymous : authUser call = none →
      serviceColumns.lasting.Safe (fun _ _ _ => True) (serviceColumns.lasting.Commits (Post calls i)) call.prog [] id d := by
    intro hnone
    refine safe_respects (call_respects call) tame_id fun r L v d' hv d'' _ _ hkeyed => ?_
    have hpost : ∀ r d d', Post calls i r d d' := by
      intro r d d' call' uid hcall' huid
      obtain rfl : call = call' := Option.some.inj (hcall.symm.trans hcall')
      rw [hnone] at huid
      cases huid
    cases r with
    | ok a => exact ⟨hv.allowed L hkeyed, hpost _ _ _⟩
    | error e => exact hpost _ _ _
  have huser : ∀ uid, authUser call = some uid → serviceColumns.lasting.Safe (fun _ _ _ => True)
      (serviceColumns.lasting.Commits (ActsFor uid)) call.prog [] id d → serviceColumns.lasting.Safe (fun _ _ _ => True)
      (serviceColumns.lasting.Commits (Post calls i)) call.prog [] id d := by
    intro uid huid hsafe
    refine Safe.mono (fun r L v d' h d'' hd'' hr hkeyed => ?_) hsafe
    have hcommit := h d'' hd'' hr hkeyed
    have hpost : ∀ r d d', ActsFor uid r d d' → Post calls i r d d' := by
      intro r d d' hacts call' uid' hcall' huid'
      obtain rfl : call = call' := Option.some.inj (hcall.symm.trans hcall')
      rw [huid] at huid'
      cases huid'
      exact hacts
    cases r with
    | ok a => exact ⟨hcommit.1, hpost _ _ _ hcommit.2⟩
    | error e => exact hpost _ _ _ hcommit
  cases call with
  | publish => exact hanonymous rfl
  | operation op =>
    cases op with
    | customer clock uid aal request => exact huser uid rfl (safe_customer clock aal request d)
    | provision clock input => exact huser input.authUserId rfl (safe_provision clock input d)
    | _ => exact hanonymous rfl

/-- However requests, operators, Stripe and the worker are interleaved and cut off, a commit on behalf of one
authenticated user changes neither what another user reads nor any row of another user's customer. -/
theorem commit_isolated {store : DbStore} (hstore : Stored store) (calls : List ServiceCall)
    {y : Sys Row UniqueKey Unit Unit} (hy : Sys.Reachable (Sys.start store (calls.map ServiceCall.prog)) y)
    {c : Commit Row Unit Unit} (hc : c ∈ y.log) {call : ServiceCall} (hcall : calls[c.session]? = some call)
    {uid other : ℕ} (huid : authUser call = some uid) (hother : other ≠ uid) :
    (∀ t, view other c.after t = view other c.before t) ∧
      ∀ e ∈ c.before .customerProfiles, e.val.authUserId = other → ∀ t,
        tenancy.rowsOf (· == .customer e.id) c.after t = tenancy.rowsOf (· == .customer e.id) c.before t := by
  have hsound : Sound serviceColumns.lasting (fun _ _ _ _ => True) (Post calls) y := by
    refine reach_sound ⟨⟨_, hstore.keyed⟩, fun K => K.elim⟩ hstore.keyed (fun i p hp d _ => ?_) hy
    rw [List.getElem?_map, Option.map_eq_some_iff] at hp
    obtain ⟨call, hcall, rfl⟩ := hp
    exact safe_call hcall d
  obtain ⟨⟨⟨N, hk⟩, -⟩, -, hpost⟩ := hsound.log c hc
  exact (hpost call uid hcall huid).isolated hk hother

lemma sampleCalls_commit : (Sys.run provisionMoves (Sys.start sampleStore (sampleCalls.map ServiceCall.prog))).any
    (fun y => y.log.head?.any (·.session == 0)) = true := by
  decide

/-- The user whose account is provisioned first changes nothing for the customer already there. -/
theorem commit_isolated_sample : ∃ (y : Sys Row UniqueKey Unit Unit) (c : Commit Row Unit Unit),
    Sys.run provisionMoves (Sys.start sampleStore (sampleCalls.map ServiceCall.prog)) = some y ∧ c ∈ y.log ∧
    (∀ t, view 100 c.after t = view 100 c.before t) ∧
      ∀ e ∈ c.before .customerProfiles, e.val.authUserId = 100 → ∀ t,
        tenancy.rowsOf (· == .customer e.id) c.after t = tenancy.rowsOf (· == .customer e.id) c.before t := by
  obtain ⟨y, hy, hlog⟩ := (Option.any_eq_true _ _).mp sampleCalls_commit
  obtain ⟨c, hhead, hfirst⟩ := (Option.any_eq_true _ _).mp hlog
  have hc : c ∈ y.log := List.mem_of_mem_head? hhead
  have hcall : sampleCalls[c.session]? = some (.operation (.provision ⟨0, 0⟩ ⟨101, some "x", none, none, none⟩)) := by
    rw [beq_iff_eq.mp hfirst]
    rfl
  exact ⟨y, c, hy, hc, commit_isolated sampleStore_stored sampleCalls (Sys.reachable_of_run .start hy) hc hcall rfl (by decide)⟩

end ForgeCustomer.TenantIsolation
