import ForgeCustomer.LicenseChanges

/-!
# Licenses along a run

Which rows of licenses, activations and leases an operation can add, and what follows for runs of
any length: a revoked license stays revoked, and activations stay within a customer.
-/
namespace ForgeCustomer.LicenseRuns
open SqlTables SqlPrograms SqlStatements DomainRules StripeEvents DatabaseTables AuditWriters
  LicensingRepository CommerceRepository LicenseSync SubscriptionProjection AdminRepository
  CustomerRepository EntitlementsRepository PrivacyRepository ServiceOperations LicenseChanges TableName

variable {s : DbStore} {ε : Type} [FromSql ε]

/-- A property of subscriptions, licenses and revocations that survives a projection and the sync after it. -/
structure KeptByProjection (P : Database → Prop) : Prop where
  reads : ∀ d d' : Database, (∀ t ∈ [subscriptions, licenses, licenseRevocations], d' t = d t) → P d → P d'
  projected : ∀ clock input, (upsertSubscriptionProjection clock input : Tx StripeWebhookApplyError _).Maintains P
  paid : ∀ subscriptionId status t,
    (updateSubscriptionStatusFromInvoice subscriptionId status t : Tx StripeWebhookApplyError _).Maintains P
  synced : ∀ clock customerId subscriptionId planVersionId status,
    (syncLicenseForSubscription clock customerId subscriptionId planVersionId status :
      Tx StripeWebhookApplyError _).Maintains P

section Projections
variable {P : Database → Prop}

lemma KeptByProjection.others {ε α : Type} {S : List TableName} {p : Tx ε α} (hP : KeptByProjection P) (hp : Checked S p)
    (hS : ∀ t ∈ [subscriptions, licenses, licenseRevocations], t ∉ S) : p.Maintains P :=
  hp.maintains_tables hS hP.reads

lemma maintains_syncLicenseFromSubscriptionTruth (hP : KeptByProjection P) (clock : Clock) (event : ParsedStripeEvent)
    (row : SubscriptionRow) (status : SubscriptionStatus) :
    (syncLicenseFromSubscriptionTruth clock event row status : Tx StripeWebhookApplyError _).Maintains P := by
  refine Prog.Maintains.bind (hP.synced _ _ _ _ _) fun sync => ?_
  cases sync with
  | none => exact .pure _ _
  | some sync => exact hP.others (writeAudit_checked (S := [commercialAuditEvents]) (by decide) _) (by decide)

lemma maintains_applySubscriptionChange (hP : KeptByProjection P) (clock : Clock) (webhookEventId : ℕ)
    (event : ParsedStripeEvent) (change : StripeSubscriptionChange) :
    (applySubscriptionChange clock webhookEventId event change).Maintains P := by
  have haudit : ∀ record : AuditRecord, (writeAudit record : Tx StripeWebhookApplyError Unit).Maintains P :=
    fun record => hP.others (writeAudit_checked (S := [commercialAuditEvents]) (by decide) record) (by decide)
  refine (maintains_select _).bind fun existing => ?_
  split
  · exact haudit _
  refine Prog.Maintains.bind (hP.others (resolveCustomerId_checked (S := []) _ _ _) (by decide)) fun customer => ?_
  cases customer with
  | none => exact .fail _ _
  | some customerId =>
    refine Prog.Maintains.bind (hP.others (resolvePlanVersionId_checked (S := []) _ _ _) (by decide))
      fun planVersion => ?_
    cases planVersion with
    | none => exact .fail _ _
    | some planVersionId =>
      refine Prog.Maintains.bind (hP.others (ensureBillingAccount_checked (S := [billingAccounts]) (by decide) _)
        (by decide)) fun account => ?_
      refine Prog.Maintains.bind (hP.others (linkStripeCustomer_checked (S := [stripeCustomers]) (by decide) _ _)
        (by decide)) fun _ => ?_
      refine Prog.Maintains.bind (hP.projected clock _) fun row => Prog.Maintains.bind (haudit _) fun _ => ?_
      refine Prog.Maintains.bind (hP.others (writeSubscriptionOutbox_checked (S := [outboxEvents]) (by decide) _ _ _)
        (by decide)) fun _ => ?_
      exact maintains_syncLicenseFromSubscriptionTruth hP _ _ _ _

lemma maintains_applyInvoiceChange (hP : KeptByProjection P) (clock : Clock) (webhookEventId : ℕ)
    (event : ParsedStripeEvent) (invoice : StripeInvoiceChange) :
    (applyInvoiceChange clock webhookEventId event invoice).Maintains P := by
  have haudit : ∀ record : AuditRecord, (writeAudit record : Tx StripeWebhookApplyError Unit).Maintains P :=
    fun record => hP.others (writeAudit_checked (S := [commercialAuditEvents]) (by decide) record) (by decide)
  refine (maintains_select _).bind fun existing => ?_
  cases existing with
  | none => exact .fail _ _
  | some existing =>
    refine Prog.Maintains.bind (hP.others (recordInvoiceReference_checked (S := [invoiceReferences]) (by decide) _ _)
      (by decide)) fun _ => ?_
    split
    · exact haudit _
    split
    · exact haudit _
    refine Prog.Maintains.bind (hP.paid _ _ _) fun row => ?_
    split
    · refine Prog.Maintains.bind (haudit _) fun _ => ?_
      refine Prog.Maintains.bind (hP.others (writeSubscriptionOutbox_checked (S := [outboxEvents]) (by decide) _ _ _)
        (by decide)) fun _ => ?_
      exact maintains_syncLicenseFromSubscriptionTruth hP _ _ _ _
    · exact haudit _

lemma maintains_processStripeWebhookEvent (hP : KeptByProjection P) (clock : Clock) (event : ParsedStripeEvent) :
    (processStripeWebhookEvent clock event).Maintains P := by
  have hsupported : ∀ id, (applySupportedEvent clock id event).Maintains P := by
    intro id
    unfold applySupportedEvent
    split
    · split
      · exact .fail _ _
      · exact hP.others (applyCheckoutCompleted_checked _ _) (by decide)
    split
    · split
      · exact .fail _ _
      · exact maintains_applySubscriptionChange hP _ _ _ _
    split
    · split
      · exact .fail _ _
      · exact maintains_applyInvoiceChange hP _ _ _ _
    · exact .pure _ _
  have happly : ∀ (id : ℕ) (answer : StripeWebhookRecord), (do
      applySupportedEvent clock id event
      markWebhookProcessed clock id
      pure answer : Tx StripeWebhookApplyError _).Maintains P := by
    intro id answer
    refine Prog.Maintains.bind (hsupported id) fun _ => ?_
    refine hP.others (S := [stripeWebhookEvents]) ?_ (by decide)
    refine Checked.bind ?_ fun _ => .pure _
    exact (checked_update (by decide) (unkeyed (by decide)) _ _).bind fun _ => .pure _
  refine Prog.Maintains.bind (hP.others (checked_insertUnless (S := [stripeWebhookEvents]) (by decide) _) (by decide))
    fun inserted => ?_
  cases inserted with
  | none =>
    refine (maintains_selectOne _).bind fun existing => ?_
    split
    · exact happly _ _
    · exact .pure _ _
  | some inserted =>
    dsimp only
    split
    · exact .pure _ _
    · exact happly _ _

lemma maintains_applyAdminResync (hP : KeptByProjection P) (clock : Clock) (subscriptionId : ℕ)
    (change : StripeSubscriptionChange) (operatorId reason : String) (correlationId : Option String) :
    (applyAdminResync clock subscriptionId change operatorId reason correlationId).Maintains P := by
  refine (maintains_selectForUpdate _).bind fun existing => ?_
  cases existing with
  | none => exact .pure _ _
  | some existing =>
    refine Prog.Maintains.bind (hP.others (resolveCustomerId_checked (S := []) _ _ _) (by decide)) fun customer => ?_
    cases customer with
    | none => exact .fail _ _
    | some customerId =>
      refine Prog.Maintains.bind (hP.others (resolvePlanVersionId_checked (S := []) _ _ _) (by decide))
        fun planVersion => ?_
      cases planVersion with
      | none => exact .fail _ _
      | some planVersionId =>
        refine Prog.Maintains.bind (hP.others (ensureBillingAccount_checked (S := [billingAccounts]) (by decide) _)
          (by decide)) fun account => ?_
        refine Prog.Maintains.bind (hP.others (linkStripeCustomer_checked (S := [stripeCustomers]) (by decide) _ _)
          (by decide)) fun _ => ?_
        refine Prog.Maintains.bind (hP.projected clock _) fun row => ?_
        refine Prog.Maintains.bind (hP.others (writeOperatorAudit_checked (S := [commercialAuditEvents]) (by decide) _)
          (by decide)) fun _ => ?_
        refine Prog.Maintains.bind (hP.others (writeResyncOutbox_checked (S := [outboxEvents]) (by decide) _ _ _)
          (by decide)) fun _ => ?_
        refine Prog.Maintains.bind (hP.synced _ _ _ _ _) fun sync => ?_
        exact hP.others (S := [commercialAuditEvents]) ((auditResyncedLicense_checked (by decide) _ _ _ _ _).bind
          fun _ => .pure _) (by decide)

end Projections

section Owners
variable {i : ℕ} {q : Subscription → Prop}

/-- `q` is about columns that neither a projection nor an invoice overwrites. -/
def KeptByStripe (q : Subscription → Prop) : Prop :=
  (∀ input r, q r → q (project input r)) ∧ ∀ status t r, q r → q (setPaymentStatus status t r)

lemma KeptByStripe.projection (hq : KeptByStripe q) : KeptByProjection (RowIs subscriptions i q) where
  reads _ _ hsame h := h.congr (hsame subscriptions (by decide))
  projected clock input := by
    unfold upsertSubscriptionProjection
    split
    · exact maintains_updateOne_rowIs fun e _ _ h => hq.1 input e.val h
    · exact maintains_insertRow_rowIs _
  paid _ _ _ := maintains_updateOne_rowIs fun e _ _ h => hq.2 _ _ e.val h
  synced _ _ _ _ _ :=
    maintains_rowIs_of_checked (syncLicenseForSubscription_checked (S := [licenses]) (by decide) _ _ _ _ _) (by decide)

/-- What Stripe does not overwrite, no operation does. -/
theorem apply_subscription_rowIs (hs : Stored s) (hq : KeptByStripe q) (h : RowIs subscriptions i q s.db)
    (op : Operation) : RowIs subscriptions i q (op.apply s).db := by
  have hframe : subscriptions ∉ op.tables → RowIs subscriptions i q (op.apply s).db := fun ht =>
    h.congr ((op.apply_follows s).table ht)
  cases op with
  | webhook clock event => exact (maintains_processStripeWebhookEvent hq.projection clock event).execute hs.keyed h
  | resync clock subscriptionId change operatorId reason correlationId =>
    exact (maintains_applyAdminResync hq.projection clock subscriptionId change operatorId reason
      correlationId).execute hs.keyed h
  | customer clock authUserId aal request =>
    refine hframe ?_
    cases request <;> dsimp only [Operation.tables, CustomerRequest.tables] <;> decide
  | _ =>
    refine hframe ?_
    dsimp only [Operation.tables]
    decide

/-- The customer of a subscription never changes. -/
lemma ownedBy_kept (customerId : ℕ) : KeptByStripe fun r => r.customerId = customerId :=
  ⟨fun _ _ h => h, fun _ _ _ h => h⟩

end Owners

/-- An operation keeps owner, product and subscription of every license. -/
lemma rowIs_of_effect {op : Operation} {s' : DbStore} (h : LicenseEffect op s s') {l : ℕ}
    {q : License → Prop} (hq : ∀ r r', r'.customerId = r.customerId ∧ r'.productId = r.productId ∧
      r'.subscriptionId = r.subscriptionId → q r → q r') (hl : RowIs licenses l q s.db) :
    RowIs licenses l q s'.db := by
  have hupdate : ∀ {p : Entry License → Bool} {f : License → License}, (∀ r, (f r).customerId = r.customerId ∧
      (f r).productId = r.productId ∧ (f r).subscriptionId = r.subscriptionId) →
      s'.db licenses = updateRows p f (s.db licenses) → RowIs licenses l q s'.db := by
    intro p f hf hdb
    have hset := RowIs.update (p := p) (f := f) hl fun e _ _ h => hq _ _ (hf _) h
    exact hset.congr (by rw [hdb, Db.put_self])
  have happend : ∀ {n : ℕ} {v : License}, s'.db licenses = s.db licenses ++ [⟨n, v⟩] →
      RowIs licenses l q s'.db := by
    intro n v hdb
    exact (hl.insert (n := n) (v := v)).congr (by rw [hdb, Db.put_self])
  cases h with
  | same kept => exact hl.congr kept
  | issued clock input n v operator owner unlinked appended => exact happend appended
  | revoked p updated =>
    exact hupdate (f := fun r => { r with status := .revoked }) (fun _ => ⟨rfl, rfl, rfl⟩) updated
  | synced status c i source sync =>
    obtain ⟨-, hsync⟩ := sync
    generalize hrows : s'.db licenses = rows at hsync
    cases hsync with
    | same => exact hl.congr hrows
    | issued n v unlinked grants owner link => exact happend hrows
    | changed e f linked unrevoked kept => exact hupdate kept hrows

/-- No operation lifts a revocation. -/
lemma revoked_of_effect (hk : s.Keyed) {op : Operation} {s' : DbStore}
    (h : LicenseEffect op s s') {l : ℕ} (hl : RowIs licenses l (fun r => r.status = .revoked) s.db) :
    RowIs licenses l (fun r => r.status = .revoked) s'.db := by
  cases h with
  | same kept => exact hl.congr kept
  | issued clock input n v operator owner unlinked appended =>
    exact (hl.insert (n := n) (v := v)).congr (by rw [appended, Db.put_self])
  | revoked p updated =>
    exact (RowIs.update (p := p) (f := fun r => { r with status := .revoked }) hl fun _ _ _ _ => rfl).congr
      (by rw [updated, Db.put_self])
  | synced status c i source sync =>
    obtain ⟨-, hsync⟩ := sync
    generalize hrows : s'.db licenses = rows at hsync
    cases hsync with
    | same => exact hl.congr hrows
    | issued n v unlinked grants owner link =>
      exact (hl.insert (n := n) (v := v)).congr (by rw [hrows, Db.put_self])
    | changed e f linked unrevoked kept =>
      have hmem : e ∈ s.db licenses := List.mem_of_find?_eq_some linked
      refine (RowIs.update (p := fun x => x.id == e.id) (f := f) hl fun x hid hp hx => ?_).congr
        (by rw [hrows, Db.put_self])
      have he : e.id = l := (beq_iff_eq.mp hp).symm.trans hid
      exact absurd (hl.of_mem hk hmem he) unrevoked

/-- The device limit that an activation is checked against. -/
def effectiveLimit (now : Time) (license : Entry License) (d : Database) : ℕ :=
  ((licensePlan license.id d).bind fun plan => policyDeviceLimit now plan.productKey plan.planKey d).getD
    license.val.deviceLimit

/-- The active activations of a license. -/
def activeDevices (licenseId : ℕ) (d : Database) : ℕ :=
  ((d .licenseActivations).filter fun e => e.val.licenseId == licenseId && e.val.status == .active).length

/-- The checks of an activation that inserts a row. -/
structure Activatable (clock : Clock) (installation : Entry Installation)
    (deviceStatus : Option DeviceStatus) (license : Entry License) (d : Database) : Prop where
  installed : installation.val.status ≠ .deactivated
  device : deviceStatus ≠ some .revoked
  active : license.val.status = .active
  unexpired : license.val.expiresAt.any (fun t => decide (t ≤ clock.utcNow)) = false
  unblocked : (d .licenseRevocations).any (fun e =>
    revocationBlocks license.id installation.id installation.val.deviceId e.val) = false
  inactive : (d .licenseActivations).find? (isActivationOf license.id installation.id) = none
  slot : canActivateDevice (countDevices (activeDevices license.id d))
    (effectiveLimit clock.now license d) = true

/-- The row that an activation inserts. -/
def newActivation (clock : Clock) (installation : Entry Installation) (license : Entry License) :
    LicenseActivation :=
  { licenseId := license.id
    installationId := installation.id
    deviceId := installation.val.deviceId
    status := .active
    activatedAt := clock.now
    deactivatedAt := none }

lemma ensures_policyLimit {now : Time} {license : Entry License} :
    (commercialPolicyDeviceLimitForLicense now license.id : Tx ε _).Ensures s fun limit s' =>
      limit.getD license.val.deviceLimit = effectiveLimit now license s.db ∧ s'.db = s.db := by
  refine ensures_select.bind fun plan s₀ h₀ => ?_
  obtain ⟨rfl, rfl⟩ := h₀
  unfold effectiveLimit
  cases licensePlan license.id s.db with
  | none => exact .pure ⟨rfl, rfl⟩
  | some plan =>
    obtain ⟨limit, s', hrun, rfl, hdb⟩ := runs_commercialPolicyDeviceLimit (ε := ε)
      (s := ⟨s.db, s.seq + 1⟩) now plan.productKey plan.planKey
    intro a s'' hr
    rw [hrun] at hr
    cases hr
    exact ⟨rfl, hdb⟩

lemma runs_policyLimit {now : Time} {license : Entry License} :
    (commercialPolicyDeviceLimitForLicense now license.id : Tx ε _).Runs s fun limit s' =>
      limit.getD license.val.deviceLimit = effectiveLimit now license s.db ∧ s'.db = s.db := by
  have hruns : (commercialPolicyDeviceLimitForLicense now license.id : Tx ε _).Runs s fun _ _ => True := by
    refine Prog.Runs.step (run_select _ _) ?_
    cases licensePlan license.id s.db with
    | none => exact .pure trivial
    | some plan => exact Prog.Runs.mono (runs_commercialPolicyDeviceLimit _ _ _) fun _ _ _ => trivial
  exact Prog.Runs.mono (hruns.and_ensures ensures_policyLimit) fun _ _ hq => hq.2

/-- An activation either inserts its row, all checks passed, or changes no activation. -/
theorem ensures_activateInstallation (clock : Clock) (customerId installationId : ℕ)
    (licenseId : Option ℕ) (correlationId : Option String) :
    (activateInstallation clock customerId installationId licenseId correlationId).Ensures s fun _ s' =>
      s'.db licenseActivations = s.db licenseActivations ∨
      ∃ installation deviceStatus license n,
        installationContext installationId customerId s.db = some (installation, deviceStatus) ∧
        pickLicense clock.now customerId installation.val.productId licenseId s.db = some license ∧
        Activatable clock installation deviceStatus license s.db ∧
        s'.db licenseActivations =
          s.db licenseActivations ++ [⟨n, newActivation clock installation license⟩] := by
  refine ensures_select.bind fun context s₀ h₀ => ?_
  obtain ⟨hcontext, rfl⟩ := h₀
  cases context with
  | none => exact .fail
  | some context =>
    obtain ⟨installation, deviceStatus⟩ := context
    dsimp only
    split
    · exact .fail
    rename_i hinstalled
    split
    · exact .fail
    rename_i hdevice
    refine ensures_selectForUpdate.bind fun license s₁ h₁ => ?_
    obtain ⟨hlicense, rfl⟩ := h₁
    cases license with
    | none => dsimp only; split <;> exact .fail
    | some license =>
      dsimp only
      split
      · exact .fail
      split
      · exact .fail
      rename_i hactive
      split
      · exact .fail
      rename_i hunexpired
      refine ensures_select.bind fun blocked s₂ h₂ => ?_
      obtain ⟨hblocked, rfl⟩ := h₂
      split
      · exact .fail
      rename_i hunblocked
      refine Prog.Ensures.bind ensures_policyLimit fun limit s₃ h₃ => ?_
      obtain ⟨hlimit, hdb₃⟩ := h₃
      refine ensures_select.bind fun count s₄ h₄ => ?_
      obtain ⟨hcount, rfl⟩ := h₄
      refine ensures_select.bind fun existing s₅ h₅ => ?_
      obtain ⟨hexisting, rfl⟩ := h₅
      have hdb₃ : s₃.db = s.db := hdb₃
      dsimp only at hcount hexisting hblocked
      rw [hdb₃] at hcount hexisting
      cases existing with
      | some activation => exact .pure (.inl (congrFun hdb₃ _))
      | none =>
        dsimp only
        split
        · exact .fail
        rename_i hslot
        refine ensures_insertRow.bind fun activation s₆ h₆ => ?_
        refine Prog.Ensures.bind (writeCustomerAudit_checked (S := [commercialAuditEvents]) (by decide)
          _).ensures_frame fun _ s₇ h₇ => ?_
        refine Prog.Ensures.bind (writeOutbox_checked (S := [outboxEvents]) (by decide) _ _
          _).ensures_frame fun _ s₈ h₈ => .pure (.inr ?_)
        have happended : s₈.db licenseActivations = s.db licenseActivations ++
            [⟨s₃.seq + 1 + 1, newActivation clock installation license⟩] := by
          rw [h₈ _ (by decide), h₇ _ (by decide), h₆.2, Db.put_self]
          simp only [hdb₃]
          rfl
        refine ⟨installation, deviceStatus, license, _, hcontext.symm, hlicense.symm, ?_, happended⟩
        · refine ⟨hinstalled, hdevice, by simpa using hactive, by simpa using hunexpired, ?_,
            hexisting.symm, ?_⟩
          · rw [← hblocked]
            simpa using hunblocked
          · rw [← hlimit, activeDevices, ← hcount]
            simpa using hslot

/-- Whoever passes the checks gets the row. -/
theorem runs_activateInstallation (hs : Stored s) {clock : Clock} {customerId installationId : ℕ}
    {licenseId : Option ℕ} (correlationId : Option String) {installation : Entry Installation}
    {deviceStatus : Option DeviceStatus} {license : Entry License}
    (hcontext : installationContext installationId customerId s.db = some (installation, deviceStatus))
    (hpick : pickLicense clock.now customerId installation.val.productId licenseId s.db = some license)
    (hpresent : installation ∈ s.db installations) (howner : installation.val.customerId = customerId)
    (hknown : license ∈ s.db licenses) (h : Activatable clock installation deviceStatus license s.db) :
    (activateInstallation clock customerId installationId licenseId correlationId).Runs s fun _ s' =>
      ∃ n, s'.db licenseActivations =
        s.db licenseActivations ++ [⟨n, newActivation clock installation license⟩] := by
  have hrevoked : license.val.status ≠ .revoked := by
    rw [h.active]
    decide
  refine Prog.Runs.step (run_select _ _) ?_
  rw [hcontext]
  dsimp only
  rw [if_neg h.installed, if_neg h.device]
  refine Prog.Runs.step (run_selectForUpdate _ _ _) ?_
  dsimp only
  rw [hpick]
  dsimp only
  rw [if_neg hrevoked, if_neg (by simp [h.active]), if_neg (by simp [h.unexpired])]
  refine Prog.Runs.step (run_select _ _) ?_
  dsimp only
  rw [if_neg (by simp [h.unblocked])]
  refine Prog.Runs.bind runs_policyLimit fun limit s₃ h₃ => ?_
  obtain ⟨hlimit, hdb₃⟩ := h₃
  refine Prog.Runs.step (run_select _ _) ?_
  refine Prog.Runs.step (run_select _ _) ?_
  dsimp only
  rw [hdb₃, h.inactive]
  dsimp only
  rw [if_neg]
  swap
  · rw [hlimit]
    have hslot := h.slot
    unfold activeDevices at hslot
    simp [hslot]
  have htaken : s.db.taken licenseActivations (newActivation clock installation license) = false := by
    rw [Db.taken, List.any_eq_false]
    intro e he
    have hnone := List.find?_eq_none.mp h.inactive e he
    simp only [isActivationOf, Bool.and_eq_true, beq_iff_eq, not_and] at hnone
    simp only [Schema.keys, uniqueKeys, newActivation, if_true]
    split
    · rename_i hactive
      intro hany
      obtain ⟨hl, hi⟩ : e.val.licenseId = license.id ∧ e.val.installationId = installation.id := by
        simpa using hany
      exact hnone ⟨hl, hi⟩ hactive
    · simp
  have hrefs : s.db.refsOk licenseActivations (newActivation clock installation license) = true := by
    have hdevice := hs.intact installations installation hpresent
    have hlicense : s.db.has licenses license.id = true := Db.has_iff.mpr ⟨license, hknown, rfl⟩
    have hinstallation : s.db.has installations installation.id = true :=
      Db.has_iff.mpr ⟨installation, hpresent, rfl⟩
    simp only [Db.refsOk, Schema.refs, foreignKeys, newActivation, List.all_append, List.all_cons,
      List.all_nil, Db.resolves, hlicense, hinstallation, Bool.and_true, Bool.true_and] at hdevice ⊢
    simp only [Bool.and_eq_true] at hdevice
    exact hdevice.1.2
  refine Prog.Runs.step (run_insertRow (s := ⟨s.db, s₃.seq + 1 + 1⟩) rfl htaken hrefs) ?_
  have hcustomer : s.db.has customerProfiles customerId = true := by
    have hall := hs.intact installations installation hpresent
    simp only [Db.refsOk, Schema.refs, foreignKeys, List.all_append, List.all_cons, Db.resolves,
      Bool.and_eq_true, howner] at hall
    exact hall.1.1.1
  refine Prog.Runs.bind (Prog.Runs.and_ensures (runs_writeCustomerAudit ?_)
    (writeCustomerAudit_checked (S := [commercialAuditEvents]) (by decide) _).ensures_frame)
    fun _ s₇ h₇ => ?_
  · dsimp only
    rw [Db.has, Db.put_of_ne _ (by decide)]
    exact hcustomer
  refine Prog.Runs.bind (Prog.Runs.and_ensures (runs_writeOutbox _ _ _)
    (writeOutbox_checked (S := [outboxEvents]) (by decide) _ _ _).ensures_frame) fun _ s₈ h₈ => ?_
  refine .pure ⟨s₃.seq + 1 + 1, ?_⟩
  rw [h₈.2 _ (by decide), h₇.2 _ (by decide)]
  exact Db.put_self s.db licenseActivations _

/-- The installation that a request is about, of the requesting customer. -/
lemma installationContext_spec {installationId customerId : ℕ} {d : Database}
    {installation : Entry Installation} {deviceStatus : Option DeviceStatus}
    (h : installationContext installationId customerId d = some (installation, deviceStatus)) :
    installation ∈ d installations ∧ installation.id = installationId ∧
      installation.val.customerId = customerId := by
  obtain ⟨e, he, heq⟩ := Option.map_eq_some_iff.mp h
  cases heq
  have hcond := List.find?_some he
  simp only [Bool.and_eq_true, beq_iff_eq] at hcond
  exact ⟨List.mem_of_find?_eq_some he, hcond.1, hcond.2⟩

/-- The license that an activation picks: of the customer, and without an explicit id of the product. -/
lemma pickLicense_spec {now : Time} {customerId productId : ℕ} {licenseId : Option ℕ} {d : Database}
    {license : Entry License} (h : pickLicense now customerId productId licenseId d = some license) :
    license ∈ d licenses ∧ license.val.customerId = customerId ∧
      (licenseId = none → license.val.productId = productId) ∧ ∀ id, licenseId = some id → license.id = id := by
  unfold pickLicense at h
  split at h
  · have hcond := List.find?_some h
    simp only [Bool.and_eq_true, beq_iff_eq] at hcond
    exact ⟨List.mem_of_find?_eq_some h, hcond.2, fun h => (by cases h), fun _ h => (by cases h; exact hcond.1)⟩
  · have hmem := mem_of_firstBy h
    obtain ⟨hmem, hcond⟩ := List.mem_filter.mp hmem
    simp only [Bool.and_eq_true, beq_iff_eq] at hcond
    exact ⟨hmem, hcond.1.1.1, fun _ => hcond.1.1.2, fun _ h => (by cases h)⟩

/-- A lease is issued on an active license that is activated on the installation, for the product of
the installation. -/
theorem ensures_issueOfflineLease (signer : Signer) (clock : Clock) (customerId installationId : ℕ)
    (leaseTtl : Time) (correlationId : Option String) :
    (issueOfflineLease signer clock customerId installationId leaseTtl correlationId).Ensures s
      fun lease s' => ∃ installation ∈ s.db installations, ∃ activation ∈ s.db licenseActivations,
        ∃ license ∈ s.db licenses, ∃ row : Entry LicenseLease,
        installation.id = installationId ∧ installation.val.customerId = customerId ∧
        activation.val.installationId = installationId ∧ activation.val.licenseId = license.id ∧
        license.val.status = .active ∧ row.val.licenseId = license.id ∧
        row.val.installationId = installationId ∧ lease.licenseId = license.id ∧
        (s.db.lookup .products installation.val.productId).map (·.key) = some lease.product ∧
        s'.db licenseLeases = s.db licenseLeases ++ [row] := by
  refine ensures_select.bind fun context s₀ h₀ => ?_
  obtain ⟨hcontext, rfl⟩ := h₀
  cases context with
  | none => exact .fail
  | some context =>
    obtain ⟨installation, hfind, hctx⟩ := Option.bind_eq_some_iff.mp hcontext.symm
    obtain ⟨product, hproduct, rfl⟩ := Option.map_eq_some_iff.mp hctx
    dsimp only
    split
    · exact .fail
    split
    · exact .fail
    split
    · exact .fail
    rename_i license hlicense
    obtain ⟨activation, hactivation, hlicense⟩ := Option.bind_eq_some_iff.mp hlicense
    split
    · exact .fail
    split
    · exact .fail
    rename_i hactive
    split
    · exact .fail
    refine ensures_select.bind fun blocked s₁ h₁ => ?_
    obtain ⟨-, rfl⟩ := h₁
    split
    · exact .fail
    refine ensures_insertKeyed.bind fun row s₂ h₂ => ?_
    obtain ⟨rfl, hdb₂⟩ := h₂
    refine Prog.Ensures.bind (writeCustomerAudit_checked (S := [commercialAuditEvents]) (by decide)
      _).ensures_frame fun _ s₃ h₃ => .pure ?_
    have hleases := h₃ licenseLeases (by decide)
    rw [hdb₂, Db.put_self] at hleases
    have hcond := List.find?_some hfind
    simp only [Bool.and_eq_true, beq_iff_eq] at hcond
    obtain ⟨hmem, hact⟩ := List.mem_filter.mp (mem_of_firstBy hactivation)
    simp only [Bool.and_eq_true, beq_iff_eq] at hact
    have hid : license.id = activation.val.licenseId := by simpa using List.find?_some hlicense
    exact ⟨installation, List.mem_of_find?_eq_some hfind, activation, hmem, license,
      List.mem_of_find?_eq_some hlicense, _, hcond.1, hcond.2, hact.1, hid.symm, by simpa using hactive, rfl,
      rfl, rfl, by rw [hproduct]; rfl, hleases⟩

/-- The request activates the license on the installation, all checks passed. -/
def Activates (op : Operation) (s : DbStore) (clock : Clock) (installation : Entry Installation)
    (license : Entry License) : Prop :=
  ∃ authUserId aal licenseId correlationId deviceStatus,
    op = .customer clock authUserId aal (.activate installation.id licenseId correlationId) ∧
    (customerContext authUserId aal s.db).requireActive clock = .ok installation.val.customerId ∧
    installationContext installation.id installation.val.customerId s.db =
      some (installation, deviceStatus) ∧
    pickLicense clock.now installation.val.customerId installation.val.productId licenseId s.db =
      some license ∧
    Activatable clock installation deviceStatus license s.db

inductive ActivationEffect (op : Operation) (s s' : DbStore) : Prop
  | same (kept : s'.db licenseActivations = s.db licenseActivations)
  | released (p : Entry LicenseActivation → Bool) (now : Time)
      (updated : s'.db licenseActivations = updateRows p (endActivation now) (s.db licenseActivations))
  | activated (clock : Clock) (installation : Entry Installation) (license : Entry License) (n : ℕ)
      (request : Activates op s clock installation license)
      (appended : s'.db licenseActivations =
        s.db licenseActivations ++ [⟨n, newActivation clock installation license⟩])

inductive LeaseEffect (s s' : DbStore) : Prop
  | same (kept : s'.db licenseLeases = s.db licenseLeases)
  | issued (activation : Entry LicenseActivation) (license : Entry License) (row : Entry LicenseLease)
      (activated : activation ∈ s.db licenseActivations) (known : license ∈ s.db licenses)
      (active : license.val.status = .active) (of : activation.val.licenseId = license.id)
      (licensed : row.val.licenseId = license.id)
      (installed : row.val.installationId = activation.val.installationId)
      (appended : s'.db licenseLeases = s.db licenseLeases ++ [row])

lemma ensures_deactivateInstallation (op : Operation) (clock : Clock) (customerId installationId : ℕ)
    (correlationId : Option String) :
    (deactivateInstallation clock customerId installationId correlationId).Ensures s fun _ s' =>
      ActivationEffect op s s' := by
  refine ensures_selectForUpdate.bind fun installation s₀ h₀ => ?_
  obtain ⟨-, rfl⟩ := h₀
  cases installation with
  | none => exact .fail
  | some installation =>
    dsimp only
    split
    · exact .pure (.same rfl)
    refine Prog.Ensures.bind (checked_update (S := [installations]) (by decide) (unkeyed (by decide)) _
      _).ensures_frame fun _ s₁ h₁ => ?_
    refine ensures_update.bind fun released s₂ h₂ => ?_
    refine Prog.Ensures.bind (writeCustomerAudit_checked (S := [commercialAuditEvents]) (by decide)
      _).ensures_frame fun _ s₃ h₃ => .pure ?_
    have hupdated := h₃ licenseActivations (by decide)
    rw [h₂.2, Db.put_self, h₁ _ (by decide)] at hupdated
    exact .released _ _ hupdated

theorem apply_activations (op : Operation) (s : DbStore) : ActivationEffect op s (op.apply s) := by
  have hframe : licenseActivations ∉ op.tables → ActivationEffect op s (op.apply s) := fun ht =>
    .same ((op.apply_follows s).table ht)
  have hsame : ∀ s' : DbStore, s'.db = s.db → ActivationEffect op s s' := fun s' h => .same (congrFun h _)
  cases op with
  | executeDeletion clock operatorId requestId reason correlationId =>
    refine after_ensures ((executeDeletion_executed clock operatorId requestId reason correlationId).mono
      fun _ s' h => ?_) hsame
    obtain ⟨request, hdone⟩ := h
    exact .released _ _ hdone.frozen.activations
  | customer clock authUserId aal request =>
    cases request with
    | activate installationId licenseId correlationId =>
      unfold Operation.apply
      dsimp only
      split
      · rename_i customerId hactive
        refine after_ensures (Prog.Ensures.mono (ensures_activateInstallation clock customerId installationId
          licenseId correlationId) fun _ s' h => ?_) hsame
        rcases h with h | ⟨installation, deviceStatus, license, n, hcontext, hpick, hchecks, happended⟩
        · exact .same h
        · obtain ⟨-, rfl, rfl⟩ := installationContext_spec hcontext
          exact .activated clock installation license n ⟨authUserId, aal, licenseId, correlationId,
            deviceStatus, rfl, hactive, hcontext, hpick, hchecks⟩ happended
      · exact .same rfl
    | deactivate installationId correlationId =>
      unfold Operation.apply
      dsimp only
      split
      · exact after_ensures (ensures_deactivateInstallation _ _ _ _ _) hsame
      · exact .same rfl
    | _ =>
      refine hframe ?_
      dsimp only [Operation.tables, CustomerRequest.tables]
      decide
  | _ =>
    refine hframe ?_
    dsimp only [Operation.tables]
    decide

theorem apply_leases (op : Operation) (s : DbStore) : LeaseEffect s (op.apply s) := by
  have hframe : licenseLeases ∉ op.tables → LeaseEffect s (op.apply s) := fun ht =>
    .same ((op.apply_follows s).table ht)
  cases op with
  | customer clock authUserId aal request =>
    cases request with
    | lease signer installationId leaseTtl correlationId =>
      unfold Operation.apply
      dsimp only
      split
      · refine after_ensures (Prog.Ensures.mono (ensures_issueOfflineLease signer clock _ installationId
          leaseTtl correlationId) fun _ s' h => ?_) fun s' h => .same (congrFun h _)
        obtain ⟨installation, -, activation, hactivated, license, hknown, row, -, -, hinstalled, hof, hactive,
          hlicensed, hrow, -, -, happended⟩ := h
        exact .issued activation license row hactivated hknown hactive hof hlicensed
          (hrow.trans hinstalled.symm) happended
      · exact .same rfl
    | _ =>
      refine hframe ?_
      dsimp only [Operation.tables, CustomerRequest.tables]
      decide
  | _ =>
    refine hframe ?_
    dsimp only [Operation.tables]
    decide

end ForgeCustomer.LicenseRuns
