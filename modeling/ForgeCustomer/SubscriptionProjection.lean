import ForgeCustomer.LicenseSync

/-!
# What Stripe events do to a projected subscription

For a subscription that is already stored, each event is a function of the projected columns:
stale events are skipped, subscription events overwrite all of them, and invoices overwrite the
status unless a payment arrives for a canceled subscription.
-/
namespace ForgeCustomer.SubscriptionProjection
open SqlTables SqlPrograms SqlStatements DomainRules StripeEvents DatabaseTables AuditWriters
  LicensingRepository CommerceRepository LicenseSync TableName

/-- The projected columns of a subscription row, with the identity it keeps. -/
@[ext] structure Projection where
  subscriptionId : ℕ
  customerId : ℕ
  planVersionId : ℕ
  status : SubscriptionStatus
  currentPeriodStart : Option Time
  currentPeriodEnd : Option Time
  cancelAtPeriodEnd : Bool
  stripeEventAt : Option Time
deriving DecidableEq

def projection (row : SubscriptionRow) : Projection :=
  { subscriptionId := row.id
    customerId := row.val.customerId
    planVersionId := row.val.planVersionId
    status := row.val.status
    currentPeriodStart := row.val.currentPeriodStart
    currentPeriodEnd := row.val.currentPeriodEnd
    cancelAtPeriodEnd := row.val.cancelAtPeriodEnd
    stripeEventAt := row.val.stripeEventAt }

/-- The row that `find_subscription_by_stripe_id` finds. -/
def subscriptionOf (stripeSubscriptionId : String) (d : Database) : Option SubscriptionRow :=
  (d .subscriptions).find? fun e => e.val.stripeSubscriptionId == stripeSubscriptionId

/-- What is projected for a Stripe subscription. -/
def projected (stripeSubscriptionId : String) (d : Database) : Option Projection :=
  (subscriptionOf stripeSubscriptionId d).map projection

/-- A full projection of a subscription object. -/
def changeEffect (change : StripeSubscriptionChange) (stripeEventAt : Option Time) (p : Projection) :
    Projection :=
  { p with
    planVersionId := change.planVersionId.getD p.planVersionId
    status := change.status
    currentPeriodStart := change.currentPeriodStart
    currentPeriodEnd := change.currentPeriodEnd
    cancelAtPeriodEnd := change.cancelAtPeriodEnd
    stripeEventAt := stripeEventAt }

/-- A payment outcome. Invoices are not authoritative for leaving `canceled`. -/
def invoiceEffect (status : SubscriptionStatus) (stripeEventAt : Option Time) (p : Projection) :
    Projection :=
  if p.status = .canceled ∧ status = .active then p
  else { p with status := status, stripeEventAt := stripeEventAt }

/-- A payment for a canceled subscription. -/
lemma invoiceEffect_kept {status : SubscriptionStatus} {p : Projection}
    (h : p.status = .canceled ∧ status = .active) (stripeEventAt : Option Time) :
    invoiceEffect status stripeEventAt p = p := if_pos h

lemma invoiceEffect_written {status : SubscriptionStatus} {p : Projection}
    (h : ¬(p.status = .canceled ∧ status = .active)) (stripeEventAt : Option Time) :
    invoiceEffect status stripeEventAt p =
      { p with status := status, stripeEventAt := stripeEventAt } := if_neg h

/-- The customer and the plan version that the object's metadata name are stored. -/
def metadataStored (change : StripeSubscriptionChange) (d : Database) : Bool :=
  change.customerId.all (d.has .customerProfiles) && change.planVersionId.all (d.has .planVersions)

set_option linter.unusedSectionVars false

variable {s : DbStore}

lemma subscriptionOf_mem {sid : String} {d : Database} {row : SubscriptionRow}
    (h : subscriptionOf sid d = some row) : row ∈ d .subscriptions :=
  List.mem_of_find?_eq_some h

lemma subscriptionOf_id {sid : String} {d : Database} {row : SubscriptionRow}
    (h : subscriptionOf sid d = some row) : row.val.stripeSubscriptionId = sid := by
  simpa using List.find?_some h

lemma subscriptionOf_congr {sid : String} {d d' : Database} (h : d' .subscriptions = d .subscriptions) :
    subscriptionOf sid d' = subscriptionOf sid d := by
  rw [subscriptionOf, subscriptionOf, h]

lemma projected_congr {sid : String} {d d' : Database} (h : d' .subscriptions = d .subscriptions) :
    projected sid d' = projected sid d := by
  rw [projected, projected, subscriptionOf_congr h]

/-- The foreign keys of a stored subscription. -/
lemma subscription_refs {d : Database} (hd : d.Intact) {row : SubscriptionRow}
    (h : row ∈ d .subscriptions) :
    d.has .customerProfiles row.val.customerId = true ∧
      d.has .billingAccounts row.val.billingAccountId = true ∧
      d.has .planVersions row.val.planVersionId = true := by
  simpa [Db.refsOk, Schema.refs, foreignKeys, Db.resolves] using hd .subscriptions row h

/-- An update of one row that keeps the Stripe id. -/
lemma subscriptionOf_update {sid : String} {d : Database} {row : SubscriptionRow}
    (h : subscriptionOf sid d = some row) {i : ℕ} {f : Subscription → Subscription}
    (hf : ∀ r, (f r).stripeSubscriptionId = r.stripeSubscriptionId) :
    subscriptionOf sid (d.put .subscriptions (updateRows (fun x => x.id == i) f (d .subscriptions))) =
      some (if row.id = i then ⟨row.id, f row.val⟩ else row) := by
  rw [subscriptionOf] at h ⊢
  rw [Db.put_self, find_updateRows, h]
  · simp [updateEntry]
  · intro x _ _
    simp [hf]

section Steps
variable {ε : Type} [FromSql ε]

lemma runs_writeAudit {record : AuditRecord}
    (h : record.customerId.all (s.db.has .customerProfiles) = true) :
    (writeAudit record : Tx ε Unit).Runs s fun _ _ => True := by
  refine (runs_insertRow rfl rfl ?_).bind fun _ _ _ => .pure trivial
  cases hc : record.customerId with
  | none => simp [Db.refsOk, Schema.refs, foreignKeys]
  | some c => simpa [Db.refsOk, Schema.refs, foreignKeys, hc, Db.resolves] using h

lemma runs_writeSubscriptionOutbox (discriminator : String) (occurredAt : Option Time)
    (row : SubscriptionRow) :
    (writeSubscriptionOutbox discriminator occurredAt row : Tx ε Unit).Runs s fun _ _ => True :=
  Prog.Runs.step (run_select _ _) (runs_writeOutbox _ _ _)

lemma run_resolveCustomerId (metadata : Option ℕ) (stripeCustomerId : Option String)
    (row : SubscriptionRow) :
    (resolveCustomerId metadata stripeCustomerId (some row) : Tx ε _).run s =
      (.ok (some (metadata.getD row.val.customerId)), s) := by
  cases metadata <;> rfl

lemma run_resolvePlanVersionId (metadata : Option ℕ) (stripePriceId : Option String)
    (row : SubscriptionRow) :
    (resolvePlanVersionId metadata stripePriceId (some row) : Tx ε _).run s =
      (.ok (some (metadata.getD row.val.planVersionId)), s) := by
  cases metadata <;> rfl

lemma runs_ensureBillingAccount {customerId : ℕ} (h : s.db.has .customerProfiles customerId = true) :
    (ensureBillingAccount customerId : Tx ε ℕ).Runs s fun id s' => s'.db.has .billingAccounts id = true := by
  refine (runs_upsert rfl ?_ ?_).bind fun e s' he => .pure (Db.has_iff.mpr ⟨e, he, rfl⟩)
  · exact fun e _ => Db.updateRefusal_of_same rfl rfl
  · intro _
    simpa [Db.refsOk, Schema.refs, foreignKeys, Db.resolves] using h

/-- No billing account is ever kept for a customer that is not stored. -/
lemma fails_ensureBillingAccount (hd : s.db.Intact) {customerId : ℕ}
    (h : s.db.has .customerProfiles customerId = false) :
    (ensureBillingAccount customerId : Tx ε ℕ).Fails s := by
  refine (fails_upsert ?_ ?_).bind
  · refine List.find?_eq_none.mpr fun e he hkey => ?_
    have hc : e.val.customerId = customerId := by
      simpa [Schema.keys, uniqueKeys] using hkey
    have hstored := hd .billingAccounts e he
    simp [Db.refsOk, Schema.refs, foreignKeys, Db.resolves, hc, h] at hstored
  · simpa [Db.refsOk, Schema.refs, foreignKeys, Db.resolves] using h

lemma runs_linkStripeCustomer {billingAccountId : ℕ}
    (h : s.db.has .billingAccounts billingAccountId = true) (stripeCustomerId : Option String) :
    (linkStripeCustomer billingAccountId stripeCustomerId : Tx ε Unit).Runs s fun _ _ => True := by
  unfold linkStripeCustomer
  split
  · exact .pure trivial
  · refine (runs_insertUnless rfl ?_).bind fun _ _ _ => .pure trivial
    simpa [Db.refsOk, Schema.refs, foreignKeys, Db.resolves] using h

lemma runs_recordInvoiceReference {subscriptionId : ℕ} {invoice : StripeInvoiceChange}
    (h : s.db.has .subscriptions subscriptionId = true)
    (hvalid : ["paid", "open", "void", "uncollectible", "draft"].contains invoice.invoiceStatus = true) :
    (recordInvoiceReference subscriptionId invoice : Tx ε Unit).Runs s fun _ _ => True := by
  have hrefs : ∀ r : InvoiceReference, r.subscriptionId = some subscriptionId →
      s.db.refsOk .invoiceReferences r = true := by
    intro r hr
    simp [Db.refsOk, Schema.refs, foreignKeys, Db.resolves, hr, h]
  refine (runs_upsert hvalid ?_ ?_).bind fun _ _ _ => .pure trivial
  · exact fun e _ => Db.updateRefusal_none hvalid (hrefs _ rfl)
  · exact fun _ => hrefs _ rfl

/-- Overwriting a stored row. -/
lemma runs_upsertSubscriptionProjection (hs : Stored s) (clock : Clock) {sid : String}
    {input : SubscriptionProjectionInput} {row : SubscriptionRow} (hex : input.existing = some row)
    (hrow : subscriptionOf sid s.db = some row)
    (ha : s.db.has .billingAccounts input.billingAccountId = true)
    (hp : s.db.has .planVersions input.planVersionId = true) :
    (upsertSubscriptionProjection clock input : Tx ε _).Runs s fun r s' =>
      r = ⟨row.id, project input row.val⟩ ∧ subscriptionOf sid s'.db = some r := by
  have hmem := subscriptionOf_mem hrow
  have hc := (subscription_refs hs.intact hmem).1
  unfold upsertSubscriptionProjection
  rw [hex]
  refine Prog.Runs.mono (runs_updateOne hs.keyed hmem (Db.updateRefusal_none rfl ?_)) fun r s' h => ?_
  · simp [Db.refsOk, Schema.refs, foreignKeys, Db.resolves, project, hc, ha, hp]
  · refine ⟨h.1, ?_⟩
    rw [h.2, subscriptionOf_update (f := project input) hrow fun _ => rfl, if_pos rfl, h.1]

/-- A plan version that is not stored is refused by its foreign key. -/
lemma fails_upsertSubscriptionProjection (hs : Stored s) (clock : Clock)
    {input : SubscriptionProjectionInput} {row : SubscriptionRow} (hex : input.existing = some row)
    (hrow : row ∈ s.db .subscriptions) (hp : s.db.has .planVersions input.planVersionId = false) :
    (upsertSubscriptionProjection clock input : Tx ε _).Fails s := by
  have hstored := (subscription_refs hs.intact hrow).2.2
  have hne : input.planVersionId ≠ row.val.planVersionId := by
    intro heq
    rw [heq, hstored] at hp
    cases hp
  unfold upsertSubscriptionProjection
  rw [hex]
  refine fails_updateOne hs.keyed hrow ?_
  simp [Db.updateRefusal, Schema.check, checkRow, Schema.refs, foreignKeys, Db.resolves, project, hp, hne]

lemma runs_syncLicenseFromSubscriptionTruth (hs : Stored s) (clock : Clock) (event : ParsedStripeEvent)
    {row : SubscriptionRow} (status : SubscriptionStatus) (hrow : row ∈ s.db .subscriptions) :
    (syncLicenseFromSubscriptionTruth clock event row status : Tx ε Unit).Runs s fun _ s' =>
      ∃ limit, planDeviceLimit clock.now row.val.planVersionId s.db = some limit ∧
        licenseTerms row.val.customerId row.id s'.db =
          syncedTerms limit status (licenseTerms row.val.customerId row.id s.db) := by
  obtain ⟨hc, -, hp⟩ := subscription_refs hs.intact hrow
  have hsub : s.db.has .subscriptions row.id = true := Db.has_iff.mpr ⟨row, hrow, rfl⟩
  have hsync := runs_syncLicenseForSubscription (ε := ε) clock hs.intact status hc hsub hp
  have hchecked := syncLicenseForSubscription_checked (ε := ε) (S := [licenses]) (by decide) clock
    row.val.customerId row.id row.val.planVersionId status
  refine hchecked.runs_bind hs hsync fun sync s' h _ hsame => ?_
  cases sync with
  | none => exact .pure h
  | some sync =>
    have hc' : s'.db.has .customerProfiles row.val.customerId = true := by
      rwa [Db.has_congr (hsame .customerProfiles (by decide))]
    refine Prog.Runs.mono ((runs_writeAudit (by simpa using hc')).touches
      (writeAudit_checked (S := [commercialAuditEvents]) (by decide) _).touches) fun _ s'' h'' => ?_
    obtain ⟨limit, hlimit, hterms⟩ := h
    exact ⟨limit, hlimit, by rw [← hterms, licenseTerms_congr (h''.2 .licenses (by decide))]⟩

/-- What follows every change of a row: the audit record, the outbox event and the license. -/
lemma runs_followUp (hs : Stored s) (clock : Clock) (event : ParsedStripeEvent) {record : AuditRecord}
    (discriminator : String) {row : SubscriptionRow} (status : SubscriptionStatus)
    (hrow : row ∈ s.db .subscriptions) (hrecord : record.customerId = some row.val.customerId) :
    (do
      writeAudit record
      writeSubscriptionOutbox discriminator event.createdAt row
      syncLicenseFromSubscriptionTruth clock event row status : Tx ε Unit).Runs s fun _ s' =>
      (∃ limit, planDeviceLimit clock.now row.val.planVersionId s.db = some limit ∧
        licenseTerms row.val.customerId row.id s'.db =
          syncedTerms limit status (licenseTerms row.val.customerId row.id s.db)) ∧
      s'.db .subscriptions = s.db .subscriptions := by
  have hc := (subscription_refs hs.intact hrow).1
  refine Checked.runs_bind (writeAudit_checked (S := [commercialAuditEvents]) (by decide) _) hs
    (runs_writeAudit (by simpa [hrecord] using hc)) fun _ s₁ _ hs₁ h₁ => ?_
  refine Checked.runs_bind (writeSubscriptionOutbox_checked (S := [outboxEvents]) (by decide) _ _ _) hs₁
    (runs_writeSubscriptionOutbox _ _ _) fun _ s₂ _ hs₂ h₂ => ?_
  have hsame : ∀ t, t ∉ [commercialAuditEvents, outboxEvents] → s₂.db t = s.db t := by
    intro t ht
    simp only [List.mem_cons, List.not_mem_nil, or_false, not_or] at ht
    rw [h₂ t (by simp [ht.2]), h₁ t (by simp [ht.1])]
  have hrow₂ : row ∈ s₂.db .subscriptions := by rwa [hsame .subscriptions (by decide)]
  have hsync := runs_syncLicenseFromSubscriptionTruth (ε := ε) hs₂ clock event status hrow₂
  have hchecked := syncLicenseFromSubscriptionTruth_checked (ε := ε)
    (S := [licenses, commercialAuditEvents]) (by decide) (by decide) clock event row status
  refine Prog.Runs.mono (hsync.touches hchecked.touches) fun _ s₃ h₃ => ?_
  obtain ⟨⟨limit, hlimit, hterms⟩, h₃⟩ := h₃
  refine ⟨⟨limit, ?_, ?_⟩, ?_⟩
  · rw [← hlimit]
    refine (planDeviceLimit_congr (fun t ht => hsame t ?_) _ _).symm
    revert ht
    cases t <;> decide
  · rw [hterms, licenseTerms_congr (hsame .licenses (by decide))]
  · rw [h₃ .subscriptions (by decide), hsame .subscriptions (by decide)]

end Steps

section Changes
variable {change : StripeSubscriptionChange} {row : SubscriptionRow} {event : ParsedStripeEvent}

lemma metadataStored_iff {d : Database} : metadataStored change d = true ↔
    (∀ c, change.customerId = some c → d.has .customerProfiles c = true) ∧
      ∀ p, change.planVersionId = some p → d.has .planVersions p = true := by
  simp [metadataStored, Option.all_eq_true]

/-- A stale subscription event only leaves an audit record. -/
lemma runs_applySubscriptionChange_stale (hs : Stored s) (clock : Clock) (webhookEventId : ℕ)
    (hrow : subscriptionOf change.stripeSubscriptionId s.db = some row)
    (hstale : isStaleEvent event.createdAt row.val.stripeEventAt = true) :
    (applySubscriptionChange clock webhookEventId event change).Runs s fun _ s' =>
      ∀ t, t ≠ commercialAuditEvents → s'.db t = s.db t := by
  have hc := (subscription_refs hs.intact (subscriptionOf_mem hrow)).1
  refine Prog.Runs.step (run_select _ _) ?_
  rw [show (s.db .subscriptions).find? _ = some row from hrow]
  simp only [Option.bind_some, hstale, if_true]
  refine Prog.Runs.mono ((runs_writeAudit (by simpa using hc)).touches
    (writeAudit_checked (S := [commercialAuditEvents]) (by decide) _).touches) fun _ s' h t ht => ?_
  exact h.2 t (by simpa using ht)

/-- Any other subscription event overwrites the row and syncs the license. -/
theorem runs_applySubscriptionChange (hs : Stored s) (clock : Clock) (webhookEventId : ℕ)
    (hrow : subscriptionOf change.stripeSubscriptionId s.db = some row)
    (hfresh : isStaleEvent event.createdAt row.val.stripeEventAt = false)
    (hmeta : metadataStored change s.db = true) :
    (applySubscriptionChange clock webhookEventId event change).Runs s fun _ s' =>
      projected change.stripeSubscriptionId s'.db =
        some (changeEffect change event.createdAt (projection row)) ∧
      ∃ limit, planDeviceLimit clock.now (change.planVersionId.getD row.val.planVersionId) s.db = some limit ∧
        licenseTerms row.val.customerId row.id s'.db =
          syncedTerms limit change.status (licenseTerms row.val.customerId row.id s.db) := by
  obtain ⟨hcustomer, hplan⟩ := metadataStored_iff.mp hmeta
  have hmem := subscriptionOf_mem hrow
  obtain ⟨hc, -, hp⟩ := subscription_refs hs.intact hmem
  refine Prog.Runs.step (run_select _ _) ?_
  rw [show (s.db .subscriptions).find? _ = some row from hrow]
  simp only [Option.bind_some, hfresh, if_false, Bool.false_eq_true]
  refine Prog.Runs.step (run_resolveCustomerId _ _ _) ?_
  refine Prog.Runs.step (run_resolvePlanVersionId _ _ _) ?_
  dsimp only
  have hs₀ : Stored (⟨s.db, s.seq + 1⟩ : DbStore) := hs.advance (Nat.le_succ _)
  have hcustomer : s.db.has .customerProfiles (change.customerId.getD row.val.customerId) = true := by
    cases hm : change.customerId with
    | none => exact hc
    | some c => exact hcustomer c hm
  have hplan : s.db.has .planVersions (change.planVersionId.getD row.val.planVersionId) = true := by
    cases hm : change.planVersionId with
    | none => exact hp
    | some p => exact hplan p hm
  refine Checked.runs_bind (ensureBillingAccount_checked (S := [billingAccounts]) (by decide) _) hs₀
    (runs_ensureBillingAccount hcustomer) fun account s₁ ha hs₁ h₁ => ?_
  refine Checked.runs_bind (linkStripeCustomer_checked (S := [stripeCustomers]) (by decide) _ _) hs₁
    (runs_linkStripeCustomer ha _) fun _ s₂ _ hs₂ h₂ => ?_
  have hsame : ∀ t, t ∉ [billingAccounts, stripeCustomers] → s₂.db t = s.db t := by
    intro t ht
    simp only [List.mem_cons, List.not_mem_nil, or_false, not_or] at ht
    rw [h₂ t (by simp [ht.2]), h₁ t (by simp [ht.1])]
  have hrow₂ : subscriptionOf change.stripeSubscriptionId s₂.db = some row := by
    rwa [subscriptionOf_congr (hsame .subscriptions (by decide))]
  refine Checked.runs_bind (upsertSubscriptionProjection_checked (S := [subscriptions]) (by decide) _ _) hs₂
    (runs_upsertSubscriptionProjection hs₂ clock rfl hrow₂ ?_ ?_) fun r s₃ hr hs₃ h₃ => ?_
  · rwa [Db.has_congr (h₂ .billingAccounts (by decide))]
  · rwa [Db.has_congr (hsame .planVersions (by decide))]
  obtain ⟨rfl, hrow₃⟩ := hr
  refine Prog.Runs.mono (runs_followUp hs₃ clock event _ change.status (subscriptionOf_mem hrow₃) rfl)
    fun _ s₄ h => ?_
  obtain ⟨⟨limit, hlimit, hterms⟩, hsubs⟩ := h
  refine ⟨?_, limit, ?_, ?_⟩
  · rw [projected, subscriptionOf_congr hsubs, hrow₃]
    rfl
  · rw [← hlimit]
    refine (planDeviceLimit_congr (fun t ht => ?_) _ _).symm
    rw [h₃ t ?_, hsame t ?_]
    all_goals revert ht; cases t <;> decide
  · have hsame₃ : s₃.db .licenses = s.db .licenses := by
      rw [h₃ .licenses (by decide), hsame .licenses (by decide)]
    rw [← licenseTerms_congr hsame₃]
    exact hterms

/-- A customer or plan version in the metadata that is not stored fails the whole event. -/
theorem fails_applySubscriptionChange (hs : Stored s) (clock : Clock) (webhookEventId : ℕ)
    (hrow : subscriptionOf change.stripeSubscriptionId s.db = some row)
    (hfresh : isStaleEvent event.createdAt row.val.stripeEventAt = false)
    (hmeta : metadataStored change s.db = false) :
    (applySubscriptionChange clock webhookEventId event change).Fails s := by
  have hmem := subscriptionOf_mem hrow
  obtain ⟨hc, -, hp⟩ := subscription_refs hs.intact hmem
  refine Prog.Fails.step (run_select _ _) ?_
  rw [show (s.db .subscriptions).find? _ = some row from hrow]
  simp only [Option.bind_some, hfresh, if_false, Bool.false_eq_true]
  refine Prog.Fails.step (run_resolveCustomerId _ _ _) ?_
  refine Prog.Fails.step (run_resolvePlanVersionId _ _ _) ?_
  dsimp only
  have hs₀ : Stored (⟨s.db, s.seq + 1⟩ : DbStore) := hs.advance (Nat.le_succ _)
  cases hcustomer : s.db.has .customerProfiles (change.customerId.getD row.val.customerId) with
  | false => exact (fails_ensureBillingAccount hs₀.intact hcustomer).bind
  | true =>
    have hplan : s.db.has .planVersions (change.planVersionId.getD row.val.planVersionId) = false := by
      by_contra hplan
      rw [Bool.not_eq_false] at hplan
      have hstored : metadataStored change s.db = true := by
        refine metadataStored_iff.mpr ⟨fun c h => ?_, fun p h => ?_⟩
        · simpa [h] using hcustomer
        · simpa [h] using hplan
      rw [hmeta] at hstored
      cases hstored
    have haccount := ensureBillingAccount_checked (ε := StripeWebhookApplyError) (S := [billingAccounts])
      (by decide) (change.customerId.getD row.val.customerId)
    refine Prog.Runs.bind_fails ((runs_ensureBillingAccount (s := ⟨s.db, s.seq + 1⟩) hcustomer).and_ensures
      (haccount.ensures hs₀)) fun account s₁ h₁ => ?_
    obtain ⟨ha, hs₁, h₁⟩ := h₁
    have hlink := linkStripeCustomer_checked (ε := StripeWebhookApplyError) (S := [stripeCustomers])
      (by decide) account change.stripeCustomerId
    refine Prog.Runs.bind_fails ((runs_linkStripeCustomer ha _).and_ensures (hlink.ensures hs₁))
      fun _ s₂ h₂ => ?_
    obtain ⟨-, hs₂, h₂⟩ := h₂
    have hsame : ∀ t, t ∉ [billingAccounts, stripeCustomers] → s₂.db t = s.db t := by
      intro t ht
      simp only [List.mem_cons, List.not_mem_nil, or_false, not_or] at ht
      rw [h₂ t (by simp [ht.2]), h₁ t (by simp [ht.1])]
    refine (fails_upsertSubscriptionProjection hs₂ clock rfl (?_ : row ∈ _) ?_).bind
    · rwa [hsame .subscriptions (by decide)]
    · rwa [Db.has_congr (hsame .planVersions (by decide))]

end Changes

section Invoices
variable {invoice : StripeInvoiceChange} {row : SubscriptionRow} {event : ParsedStripeEvent}

/-- An invoice always gets recorded; unless it is stale, its outcome is projected. -/
theorem runs_applyInvoiceChange (hs : Stored s) (clock : Clock) (webhookEventId : ℕ)
    (hrow : subscriptionOf invoice.stripeSubscriptionId s.db = some row)
    (hvalid : ["paid", "open", "void", "uncollectible", "draft"].contains invoice.invoiceStatus = true) :
    (applyInvoiceChange clock webhookEventId event invoice).Runs s fun _ s' =>
      projected invoice.stripeSubscriptionId s'.db =
        some (if isStaleEvent event.createdAt row.val.stripeEventAt then projection row
          else invoiceEffect invoice.status event.createdAt (projection row)) := by
  have hmem := subscriptionOf_mem hrow
  obtain ⟨hc, -, hp⟩ := subscription_refs hs.intact hmem
  refine Prog.Runs.step (run_select _ _) ?_
  rw [show (s.db .subscriptions).find? _ = some row from hrow]
  dsimp only
  have hs₀ : Stored (⟨s.db, s.seq + 1⟩ : DbStore) := hs.advance (Nat.le_succ _)
  have hsub : s.db.has .subscriptions row.id = true := Db.has_iff.mpr ⟨row, hmem, rfl⟩
  refine Checked.runs_bind (recordInvoiceReference_checked (S := [invoiceReferences]) (by decide) _ _) hs₀
    (runs_recordInvoiceReference hsub hvalid) fun _ s₁ _ hs₁ h₁ => ?_
  have hrow₁ : subscriptionOf invoice.stripeSubscriptionId s₁.db = some row := by
    rwa [subscriptionOf_congr (h₁ .subscriptions (by decide))]
  have hc₁ : s₁.db.has .customerProfiles row.val.customerId = true := by
    rwa [Db.has_congr (h₁ .customerProfiles (by decide))]
  have haudit : ∀ {s' : DbStore} {record : AuditRecord},
      record.customerId.all (s'.db.has .customerProfiles) = true →
      (writeAudit record : Tx StripeWebhookApplyError Unit).Runs s' fun _ s'' =>
        s''.db .subscriptions = s'.db .subscriptions := fun h =>
    Prog.Runs.mono ((runs_writeAudit h).touches
      (writeAudit_checked (S := [commercialAuditEvents]) (by decide) _).touches)
      fun _ _ h => h.2 .subscriptions (by decide)
  split
  · refine Prog.Runs.mono (haudit (by simpa using hc₁)) fun _ s₂ h => ?_
    rw [projected, subscriptionOf_congr h, hrow₁]
    rfl
  · split
    · rename_i hclosed
      refine Prog.Runs.mono (haudit (by simpa using hc₁)) fun _ s₂ h => ?_
      rw [projected, subscriptionOf_congr h, hrow₁, invoiceEffect_kept (p := projection row) hclosed]
      rfl
    · rename_i hopen
      have hmem₁ := subscriptionOf_mem hrow₁
      have hupdate := runs_updateOne (ε := StripeWebhookApplyError) hs₁.keyed hmem₁
        (f := setPaymentStatus invoice.status event.createdAt) (Db.updateRefusal_of_same rfl rfl)
      refine Checked.runs_bind
        (updateSubscriptionStatusFromInvoice_checked (S := [subscriptions]) (by decide) _ _ _) hs₁
        hupdate fun r s₂ hr hs₂ h₂ => ?_
      obtain ⟨rfl, hdb⟩ := hr
      have hrow₂ : subscriptionOf invoice.stripeSubscriptionId s₂.db =
          some ⟨row.id, setPaymentStatus invoice.status event.createdAt row.val⟩ := by
        rw [hdb, subscriptionOf_update (f := setPaymentStatus invoice.status event.createdAt) hrow₁
          fun _ => rfl, if_pos rfl]
      have hfinal : ∀ {s₃ : DbStore}, s₃.db .subscriptions = s₂.db .subscriptions →
          projected invoice.stripeSubscriptionId s₃.db =
            some (invoiceEffect invoice.status event.createdAt (projection row)) := by
        intro s₃ h
        rw [projected, subscriptionOf_congr h, hrow₂, invoiceEffect_written (p := projection row) hopen]
        rfl
      split
      · exact Prog.Runs.mono (runs_followUp hs₂ clock event _ invoice.status (subscriptionOf_mem hrow₂) rfl)
          fun _ s₃ h => hfinal h.2
      · refine Prog.Runs.mono (haudit ?_) fun _ s₃ h => hfinal h
        rw [Option.all_some, Db.has_congr (h₂ .customerProfiles (by decide))]
        exact hc₁

end Invoices

/-- What an event does to the projection. -/
def eventEffect (event : ParsedStripeEvent) (p : Projection) : Projection :=
  if isStaleEvent event.createdAt p.stripeEventAt then p
  else match event.subscriptionChange, event.invoiceChange with
    | some change, _ => changeEffect change event.createdAt p
    | none, some invoice => invoiceEffect invoice.status event.createdAt p
    | none, none => p

/-- Stale events are always accepted, other subscription events if their metadata are stored. -/
def accepted (event : ParsedStripeEvent) (p : Projection) (d : Database) : Bool :=
  isStaleEvent event.createdAt p.stripeEventAt ||
    event.subscriptionChange.all fun change => metadataStored change d

/-- The event is a subscription event or an invoice of the Stripe subscription. -/
def isAbout (stripeSubscriptionId : String) (event : ParsedStripeEvent) : Bool :=
  (event.subscriptionChange.map (·.stripeSubscriptionId)).or
    (event.invoiceChange.map (·.stripeSubscriptionId)) == some stripeSubscriptionId

lemma accepted_congr {event : ParsedStripeEvent} {p : Projection} {d d' : Database}
    (hc : d' .customerProfiles = d .customerProfiles) (hp : d' .planVersions = d .planVersions) :
    accepted event p d' = accepted event p d := by
  have hmeta : ∀ change, metadataStored change d' = metadataStored change d := by
    intro change
    rw [metadataStored, metadataStored, funext (Db.has_congr hc), funext (Db.has_congr hp)]
  simp only [accepted, hmeta]

section Events
variable {event : ParsedStripeEvent} {sid : String} {p : Projection}

lemma applySupportedEvent_change {change : StripeSubscriptionChange}
    (h : event.subscriptionChange = some change) (clock : Clock) (webhookEventId : ℕ) :
    applySupportedEvent clock webhookEventId event =
      applySubscriptionChange clock webhookEventId event change := by
  have htype := h
  unfold ParsedStripeEvent.subscriptionChange at htype
  split at htype
  · rename_i hmem
    unfold applySupportedEvent
    rw [if_neg, if_pos hmem, h]
    rintro heq
    rw [heq] at hmem
    revert hmem
    decide
  · cases htype

lemma applySupportedEvent_invoice {invoice : StripeInvoiceChange}
    (h : event.invoiceChange = some invoice) (clock : Clock) (webhookEventId : ℕ) :
    applySupportedEvent clock webhookEventId event =
      applyInvoiceChange clock webhookEventId event invoice := by
  have htype := h
  unfold ParsedStripeEvent.invoiceChange at htype
  split at htype
  · rename_i hmem
    unfold applySupportedEvent
    rw [if_neg, if_neg, if_pos hmem, h]
    all_goals
      rintro hother
      simp only [List.contains_cons, List.contains_nil, Bool.or_false, Bool.or_eq_true, beq_iff_eq] at hmem
      rcases hmem with hmem | hmem <;> rw [hmem] at hother <;> revert hother <;> decide
  · cases htype

lemma invoiceChange_of_change {change : StripeSubscriptionChange}
    (h : event.subscriptionChange = some change) : event.invoiceChange = none := by
  unfold ParsedStripeEvent.subscriptionChange at h
  split at h
  · rename_i hmem
    unfold ParsedStripeEvent.invoiceChange
    rw [if_neg]
    rintro hother
    simp only [List.contains_cons, List.contains_nil, Bool.or_false, Bool.or_eq_true, beq_iff_eq] at hmem
    rcases hmem with hmem | hmem | hmem <;> rw [hmem] at hother <;> revert hother <;> decide
  · cases h

lemma isAbout_cases (h : isAbout sid event = true) :
    (∃ change, event.subscriptionChange = some change ∧ change.stripeSubscriptionId = sid) ∨
      ∃ invoice, event.subscriptionChange = none ∧ event.invoiceChange = some invoice ∧
        invoice.stripeSubscriptionId = sid := by
  unfold isAbout at h
  rw [beq_iff_eq] at h
  cases hc : event.subscriptionChange with
  | some change => exact .inl ⟨change, rfl, by simpa [hc] using h⟩
  | none =>
    rw [hc] at h
    obtain ⟨invoice, hi, hsid⟩ := Option.map_eq_some_iff.mp h
    exact .inr ⟨invoice, rfl, hi, hsid⟩

lemma invoiceChange_valid {invoice : StripeInvoiceChange} (h : event.invoiceChange = some invoice) :
    ["paid", "open", "void", "uncollectible", "draft"].contains invoice.invoiceStatus = true := by
  unfold ParsedStripeEvent.invoiceChange at h
  split at h
  · obtain ⟨id, -, h⟩ := Option.bind_eq_some_iff.mp h
    obtain ⟨subscription, -, h⟩ := Option.map_eq_some_iff.mp h
    rw [← h]
    exact invoiceStatus_valid _ _
  · cases h

/-- An accepted event does to a stored subscription what `eventEffect` says. -/
theorem runs_applySupportedEvent (hs : Stored s) (clock : Clock) (webhookEventId : ℕ)
    (hp : projected sid s.db = some p) (habout : isAbout sid event = true)
    (hacc : accepted event p s.db = true) :
    (applySupportedEvent clock webhookEventId event).Runs s fun _ s' =>
      projected sid s'.db = some (eventEffect event p) := by
  obtain ⟨row, hrow, rfl⟩ := Option.map_eq_some_iff.mp hp
  have hmark : (projection row).stripeEventAt = row.val.stripeEventAt := rfl
  rcases isAbout_cases habout with ⟨change, hchange, rfl⟩ | ⟨invoice, hnone, hinvoice, rfl⟩
  · rw [applySupportedEvent_change hchange]
    cases hstale : isStaleEvent event.createdAt row.val.stripeEventAt with
    | true =>
      refine Prog.Runs.mono (runs_applySubscriptionChange_stale hs clock webhookEventId hrow hstale)
        fun _ s' h => ?_
      rw [projected_congr (h .subscriptions (by decide)), hp, eventEffect, hmark, if_pos hstale]
    | false =>
      rw [accepted, hmark, hstale, hchange, Option.all_some, Bool.false_or] at hacc
      refine Prog.Runs.mono (runs_applySubscriptionChange hs clock webhookEventId hrow hstale hacc)
        fun _ s' h => ?_
      simp [h.1, eventEffect, hmark, hstale, hchange]
  · rw [applySupportedEvent_invoice hinvoice]
    refine Prog.Runs.mono (runs_applyInvoiceChange hs clock webhookEventId hrow
      (invoiceChange_valid hinvoice)) fun _ s' h => ?_
    simp only [h, eventEffect, hmark, hnone, hinvoice]

/-- Any other event about a stored subscription fails. -/
theorem fails_applySupportedEvent (hs : Stored s) (clock : Clock) (webhookEventId : ℕ)
    (hp : projected sid s.db = some p) (habout : isAbout sid event = true)
    (hacc : accepted event p s.db = false) :
    (applySupportedEvent clock webhookEventId event).Fails s := by
  obtain ⟨row, hrow, rfl⟩ := Option.map_eq_some_iff.mp hp
  rw [accepted, Bool.or_eq_false_iff] at hacc
  rcases isAbout_cases habout with ⟨change, hchange, rfl⟩ | ⟨invoice, hnone, hinvoice, rfl⟩
  · rw [applySupportedEvent_change hchange]
    rw [hchange, Option.all_some] at hacc
    exact fails_applySubscriptionChange hs clock webhookEventId hrow hacc.1 hacc.2
  · simp [hnone] at hacc

end Events

section Others
variable {sid : String}

/-- An update of a row with another Stripe id. -/
lemma subscriptionOf_update_other (hk : s.Keyed) {r : SubscriptionRow} (hr : r ∈ s.db .subscriptions)
    (hne : r.val.stripeSubscriptionId ≠ sid) {f : Subscription → Subscription}
    (hf : ∀ r, (f r).stripeSubscriptionId = r.stripeSubscriptionId) :
    subscriptionOf sid (s.db.put .subscriptions (updateRows (fun x => x.id == r.id) f (s.db .subscriptions))) =
      subscriptionOf sid s.db := by
  cases h : subscriptionOf sid s.db with
  | none =>
    rw [subscriptionOf] at h ⊢
    rw [Db.put_self, find_updateRows, h]
    · rfl
    · intro x _ _
      simp [hf]
  | some row =>
    rw [subscriptionOf_update h hf, if_neg]
    intro hid
    have heq := Keyed.unique hk (subscriptionOf_mem h) hr hid
    exact hne (heq ▸ subscriptionOf_id h)

lemma subscriptionOf_insert_other {d : Database} {n : ℕ} {v : Subscription} (hne : v.stripeSubscriptionId ≠ sid) :
    subscriptionOf sid (d.put .subscriptions (d .subscriptions ++ [⟨n, v⟩])) = subscriptionOf sid d := by
  rw [subscriptionOf, subscriptionOf, Db.put_self, List.find?_append]
  simp [hne]

lemma ensures_upsertSubscriptionProjection_other {ε : Type} [FromSql ε] (hs : Stored s) (clock : Clock)
    {input : SubscriptionProjectionInput} (hne : input.stripeSubscriptionId ≠ sid)
    (hex : ∀ r, input.existing = some r → r ∈ s.db .subscriptions ∧ r.val.stripeSubscriptionId ≠ sid) :
    (upsertSubscriptionProjection clock input : Tx ε _).Ensures s fun _ s' =>
      subscriptionOf sid s'.db = subscriptionOf sid s.db := by
  unfold upsertSubscriptionProjection
  cases hi : input.existing with
  | none =>
    refine Prog.Ensures.mono ensures_insertRow fun _ s' h => ?_
    rw [h.2, subscriptionOf_insert_other hne]
  | some r =>
    obtain ⟨hr, hr'⟩ := hex r hi
    refine Prog.Ensures.mono ensures_updateOne fun _ s' h => ?_
    rw [h.2, subscriptionOf_update_other (f := project input) hs.keyed hr hr' fun _ => rfl]

variable {change : StripeSubscriptionChange} {invoice : StripeInvoiceChange} {event : ParsedStripeEvent}

/-- What a checked program that does not write subscriptions ensures about them. -/
lemma ensures_subscriptionOf {ε α : Type} {S : List TableName} {p : Tx ε α} (hp : Checked S p)
    (hs : Stored s) (hS : subscriptions ∉ S) :
    p.Ensures s fun _ s' => subscriptionOf sid s'.db = subscriptionOf sid s.db :=
  Prog.Ensures.mono (hp.ensures hs) fun _ _ h => subscriptionOf_congr (h.2 .subscriptions hS)

lemma ensures_followUp_other {ε : Type} [FromSql ε] (hs : Stored s) (clock : Clock) (record : AuditRecord)
    (discriminator : String) (row : SubscriptionRow) (status : SubscriptionStatus) :
    (do
      writeAudit record
      writeSubscriptionOutbox discriminator event.createdAt row
      syncLicenseFromSubscriptionTruth clock event row status : Tx ε Unit).Ensures s fun _ s' =>
      subscriptionOf sid s'.db = subscriptionOf sid s.db := by
  exact ensures_subscriptionOf (followUp_checked (S := [commercialAuditEvents, outboxEvents, licenses]) (by decide)
    (by decide) (by decide) clock event record discriminator row status) hs (by decide)

/-- Overwriting the projection of another Stripe subscription, with all that comes before. -/
lemma ensures_applySubscriptionChange_other (hs : Stored s) (clock : Clock) (webhookEventId : ℕ)
    (hne : change.stripeSubscriptionId ≠ sid) :
    (applySubscriptionChange clock webhookEventId event change).Ensures s fun _ s' =>
      subscriptionOf sid s'.db = subscriptionOf sid s.db := by
  refine ensures_select.bind fun existing s₀ h₀ => ?_
  obtain ⟨hexisting, rfl⟩ := h₀
  have hs₀ : Stored (⟨s.db, s.seq + 1⟩ : DbStore) := hs.advance (Nat.le_succ _)
  split
  · exact ensures_subscriptionOf (writeAudit_checked (S := [commercialAuditEvents]) (by decide) _) hs₀
      (by decide)
  refine Checked.ensures_bind (resolveCustomerId_checked (S := []) _ _ _) hs₀ fun customer s₁ hs₁ h₁ => ?_
  cases customer with
  | none => exact .fail
  | some customerId =>
    refine Checked.ensures_bind (resolvePlanVersionId_checked (S := []) _ _ _) hs₁
      fun planVersion s₂ hs₂ h₂ => ?_
    cases planVersion with
    | none => exact .fail
    | some planVersionId =>
      refine Checked.ensures_bind (ensureBillingAccount_checked (S := [billingAccounts]) (by decide) _) hs₂
        fun account s₃ hs₃ h₃ => ?_
      refine Checked.ensures_bind (linkStripeCustomer_checked (S := [stripeCustomers]) (by decide) _ _) hs₃
        fun _ s₄ hs₄ h₄ => ?_
      have hsame : s₄.db .subscriptions = s.db .subscriptions := by
        rw [h₄ _ (by decide), h₃ _ (by decide), h₂ _ (by decide), h₁ _ (by decide)]
      refine Prog.Ensures.bind ((ensures_upsertSubscriptionProjection_other hs₄ clock hne ?_).and
        ((upsertSubscriptionProjection_checked (S := [subscriptions]) (by decide) _ _).ensures hs₄))
        fun row s₅ h₅ => ?_
      · intro r hr
        have hr : subscriptionOf change.stripeSubscriptionId s.db = some r := hexisting.symm.trans hr
        refine ⟨by rw [hsame]; exact subscriptionOf_mem hr, ?_⟩
        rwa [subscriptionOf_id hr]
      · exact Prog.Ensures.mono (ensures_followUp_other h₅.2.1 _ _ _ _ _) fun _ s₆ h₆ =>
          h₆.trans (h₅.1.trans (subscriptionOf_congr hsame))

lemma ensures_applyInvoiceChange_other (hs : Stored s) (clock : Clock) (webhookEventId : ℕ)
    (hne : invoice.stripeSubscriptionId ≠ sid) :
    (applyInvoiceChange clock webhookEventId event invoice).Ensures s fun _ s' =>
      subscriptionOf sid s'.db = subscriptionOf sid s.db := by
  refine ensures_select.bind fun existing s₀ h₀ => ?_
  obtain ⟨hexisting, rfl⟩ := h₀
  have hs₀ : Stored (⟨s.db, s.seq + 1⟩ : DbStore) := hs.advance (Nat.le_succ _)
  cases existing with
  | none => exact .fail
  | some existing =>
    have hrow : subscriptionOf invoice.stripeSubscriptionId s.db = some existing := hexisting.symm
    refine Checked.ensures_bind (recordInvoiceReference_checked (S := [invoiceReferences]) (by decide) _ _)
      hs₀ fun _ s₁ hs₁ h₁ => ?_
    have hsame : s₁.db .subscriptions = s.db .subscriptions := h₁ _ (by decide)
    have haudit : ∀ {s' : DbStore} (record : AuditRecord), Stored s' →
        (writeAudit record : Tx StripeWebhookApplyError Unit).Ensures s' fun _ s'' =>
          subscriptionOf sid s''.db = subscriptionOf sid s'.db := fun record hs' =>
      ensures_subscriptionOf (writeAudit_checked (S := [commercialAuditEvents]) (by decide) record) hs'
        (by decide)
    split
    · exact Prog.Ensures.mono (haudit _ hs₁) fun _ s₂ h => by rw [h, subscriptionOf_congr hsame]
    split
    · exact Prog.Ensures.mono (haudit _ hs₁) fun _ s₂ h => by rw [h, subscriptionOf_congr hsame]
    refine Prog.Ensures.bind (ensures_updateOne.and
      ((updateSubscriptionStatusFromInvoice_checked (S := [subscriptions]) (by decide) _ _ _).ensures hs₁))
      fun row s₂ h₂ => ?_
    obtain ⟨⟨-, hdb⟩, hs₂, -⟩ := h₂
    have hmem : existing ∈ s₁.db .subscriptions := by
      rw [hsame]
      exact subscriptionOf_mem hrow
    have hother : subscriptionOf sid s₂.db = subscriptionOf sid s.db := by
      rw [hdb, subscriptionOf_update_other (f := setPaymentStatus invoice.status event.createdAt)
        hs₁.keyed hmem ?_ fun _ => rfl, subscriptionOf_congr hsame]
      rwa [subscriptionOf_id hrow]
    split
    · exact Prog.Ensures.mono (ensures_followUp_other hs₂ _ _ _ _ _) fun _ s₃ h => h.trans hother
    · exact Prog.Ensures.mono (haudit _ hs₂) fun _ s₃ h => h.trans hother

/-- An event that is not about a subscription leaves it alone. -/
theorem ensures_applySupportedEvent_other (hs : Stored s) (clock : Clock) (webhookEventId : ℕ)
    (h : isAbout sid event = false) :
    (applySupportedEvent clock webhookEventId event).Ensures s fun _ s' =>
      subscriptionOf sid s'.db = subscriptionOf sid s.db := by
  unfold isAbout at h
  unfold applySupportedEvent
  split
  · split
    · exact .fail
    · exact ensures_subscriptionOf (applyCheckoutCompleted_checked _ _) hs (by decide)
  split
  · split
    · exact .fail
    · rename_i change hchange
      refine ensures_applySubscriptionChange_other hs _ _ fun heq => ?_
      simp [hchange, heq] at h
  split
  · rename_i hno _
    split
    · exact .fail
    · rename_i invoice hinvoice
      refine ensures_applyInvoiceChange_other hs _ _ fun heq => ?_
      have hnone : event.subscriptionChange = none := by
        unfold ParsedStripeEvent.subscriptionChange
        exact if_neg hno
      simp [hnone, hinvoice, heq] at h
  · exact .pure rfl

end Others

section Resync
variable {sid : String} {row : SubscriptionRow} {change : StripeSubscriptionChange}

lemma runs_writeResyncOutbox (changed : Bool) (now : Time) (row : SubscriptionRow) :
    (writeResyncOutbox changed now row).Runs s fun _ _ => True := by
  unfold writeResyncOutbox
  split
  · exact Prog.Runs.step (run_newKey _) (runs_writeSubscriptionOutbox _ _ _)
  · exact .pure trivial

lemma runs_auditResyncedLicense {row : SubscriptionRow}
    (hc : s.db.has .customerProfiles row.val.customerId = true) (operatorId reason : String)
    (correlationId : Option String) (sync : Option LicenseSyncOutcome) :
    (auditResyncedLicense operatorId reason correlationId row sync).Runs s fun _ _ => True := by
  cases sync with
  | none => exact .pure trivial
  | some sync => exact runs_writeOperatorAudit (by simpa using hc)

/-- What follows the row of a resync: the audit record, the outbox event, the license and its audit record. -/
lemma runs_resyncFollowUp {α : Type} (hs : Stored s) (clock : Clock) (operatorId reason : String)
    (correlationId : Option String) {record : OperatorAudit} (changed : Bool) {row : SubscriptionRow}
    (status : SubscriptionStatus) (hrow : row ∈ s.db .subscriptions)
    (hrecord : record.customerId = some row.val.customerId) (answer : Option LicenseSyncOutcome → α) :
    (do
      writeOperatorAudit record
      writeResyncOutbox changed clock.utcNow row
      let sync ← syncLicenseForSubscription clock row.val.customerId row.id row.val.planVersionId status
      auditResyncedLicense operatorId reason correlationId row sync
      pure (answer sync) : Tx StripeWebhookApplyError α).Runs s fun _ s' =>
      (∃ limit, planDeviceLimit clock.now row.val.planVersionId s.db = some limit ∧
        licenseTerms row.val.customerId row.id s'.db =
          syncedTerms limit status (licenseTerms row.val.customerId row.id s.db)) ∧
      s'.db .subscriptions = s.db .subscriptions := by
  have hc := (subscription_refs hs.intact hrow).1
  refine Checked.runs_bind (writeOperatorAudit_checked (S := [commercialAuditEvents]) (by decide) _) hs
    (runs_writeOperatorAudit (by simpa [hrecord] using hc)) fun _ s₁ _ hs₁ h₁ => ?_
  refine Checked.runs_bind (writeResyncOutbox_checked (S := [outboxEvents]) (by decide) _ _ _) hs₁ (runs_writeResyncOutbox _ _ _)
    fun _ s₂ _ hs₂ h₂ => ?_
  have hsame : ∀ t, t ∉ [commercialAuditEvents, outboxEvents] → s₂.db t = s.db t := by
    intro t ht
    simp only [List.mem_cons, List.not_mem_nil, or_false, not_or] at ht
    rw [h₂ t (by simp [ht.2]), h₁ t (by simp [ht.1])]
  have hrow₂ : row ∈ s₂.db .subscriptions := by rwa [hsame .subscriptions (by decide)]
  obtain ⟨hc₂, -, hp₂⟩ := subscription_refs hs₂.intact hrow₂
  refine Checked.runs_bind (syncLicenseForSubscription_checked (S := [licenses]) (by decide) _ _ _ _ _) hs₂
    (runs_syncLicenseForSubscription clock hs₂.intact status hc₂ (Db.has_iff.mpr ⟨row, hrow₂, rfl⟩) hp₂)
    fun sync s₃ h hs₃ h₃ => ?_
  have hc₃ : s₃.db.has .customerProfiles row.val.customerId = true := by
    rwa [Db.has_congr (h₃ .customerProfiles (by decide))]
  refine Prog.Runs.bind ((runs_auditResyncedLicense hc₃ operatorId reason correlationId sync).touches
    (auditResyncedLicense_checked (S := [commercialAuditEvents]) (by decide) _ _ _ _ _).touches) fun _ s₄ h₄ => .pure ?_
  obtain ⟨limit, hlimit, hterms⟩ := h
  refine ⟨⟨limit, ?_, ?_⟩, ?_⟩
  · rw [← hlimit]
    refine (planDeviceLimit_congr (fun t ht => hsame t ?_) _ _).symm
    revert ht
    cases t <;> decide
  · rw [licenseTerms_congr (h₄.2 .licenses (by decide)), hterms, licenseTerms_congr (hsame .licenses (by decide))]
  · rw [h₄.2 .subscriptions (by decide), h₃ .subscriptions (by decide), hsame .subscriptions (by decide)]

/-- A resync of a stored subscription overwrites the row and syncs the license, and stamps the
row with the server's clock. -/
theorem runs_applyAdminResync (hs : Stored s) (clock : Clock) (operatorId reason : String)
    (correlationId : Option String) (hrow : subscriptionOf sid s.db = some row)
    (hmeta : metadataStored change s.db = true) :
    (applyAdminResync clock row.id change operatorId reason correlationId).Runs s fun _ s' =>
      projected sid s'.db = some (changeEffect change (some clock.utcNow) (projection row)) ∧
      ∃ limit, planDeviceLimit clock.now (change.planVersionId.getD row.val.planVersionId) s.db = some limit ∧
        licenseTerms row.val.customerId row.id s'.db =
          syncedTerms limit change.status (licenseTerms row.val.customerId row.id s.db) := by
  obtain ⟨hcustomer, hplan⟩ := metadataStored_iff.mp hmeta
  have hmem := subscriptionOf_mem hrow
  obtain ⟨hc, -, hp⟩ := subscription_refs hs.intact hmem
  have hfind : (s.db .subscriptions).find? (fun e => e.id == row.id) = some row := by
    have h := Keyed.filter_id hs.keyed hmem
    rw [← List.head?_filter, h]
    rfl
  refine Prog.Runs.step (run_selectForUpdate _ _ _) ?_
  rw [hfind]
  refine Prog.Runs.step (run_resolveCustomerId _ _ _) ?_
  refine Prog.Runs.step (run_resolvePlanVersionId _ _ _) ?_
  dsimp only
  have hs₀ : Stored (⟨s.db, s.seq + 1⟩ : DbStore) := hs.advance (Nat.le_succ _)
  have hcustomer : s.db.has .customerProfiles (change.customerId.getD row.val.customerId) = true := by
    cases hm : change.customerId with
    | none => exact hc
    | some c => exact hcustomer c hm
  have hplan : s.db.has .planVersions (change.planVersionId.getD row.val.planVersionId) = true := by
    cases hm : change.planVersionId with
    | none => exact hp
    | some p => exact hplan p hm
  refine Checked.runs_bind (ensureBillingAccount_checked (S := [billingAccounts]) (by decide) _) hs₀
    (runs_ensureBillingAccount hcustomer) fun account s₁ ha hs₁ h₁ => ?_
  refine Checked.runs_bind (linkStripeCustomer_checked (S := [stripeCustomers]) (by decide) _ _) hs₁
    (runs_linkStripeCustomer ha _) fun _ s₂ _ hs₂ h₂ => ?_
  have hsame : ∀ t, t ∉ [billingAccounts, stripeCustomers] → s₂.db t = s.db t := by
    intro t ht
    simp only [List.mem_cons, List.not_mem_nil, or_false, not_or] at ht
    rw [h₂ t (by simp [ht.2]), h₁ t (by simp [ht.1])]
  have hrow₂ : subscriptionOf sid s₂.db = some row := by
    rwa [subscriptionOf_congr (hsame .subscriptions (by decide))]
  refine Checked.runs_bind (upsertSubscriptionProjection_checked (S := [subscriptions]) (by decide) _ _) hs₂
    (runs_upsertSubscriptionProjection hs₂ clock rfl hrow₂ ?_ ?_) fun r s₃ hr hs₃ h₃ => ?_
  · rwa [Db.has_congr (h₂ .billingAccounts (by decide))]
  · rwa [Db.has_congr (hsame .planVersions (by decide))]
  obtain ⟨rfl, hrow₃⟩ := hr
  refine Prog.Runs.mono (runs_resyncFollowUp hs₃ clock operatorId reason correlationId _ change.status
    (subscriptionOf_mem hrow₃) rfl _) fun _ s₄ h => ?_
  obtain ⟨⟨limit, hlimit, hterms⟩, hsubs⟩ := h
  refine ⟨?_, limit, ?_, ?_⟩
  · rw [projected, subscriptionOf_congr hsubs, hrow₃]
    rfl
  · rw [← hlimit]
    refine (planDeviceLimit_congr (fun t ht => ?_) _ _).symm
    rw [h₃ t ?_, hsame t ?_]
    all_goals revert ht; cases t <;> decide
  · have hsame₃ : s₃.db .licenses = s.db .licenses := by
      rw [h₃ .licenses (by decide), hsame .licenses (by decide)]
    rw [← licenseTerms_congr hsame₃]
    exact hterms

end Resync
end ForgeCustomer.SubscriptionProjection
