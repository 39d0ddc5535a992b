import ForgeCustomer.ServiceOperations
import ForgeCustomer.SubscriptionProjection

/-!
# What operations do to licenses

Licenses are issued by operators and by the sync that follows a subscription, and change their
status by sync, revocation and deletion. Nothing else writes them.
-/
namespace ForgeCustomer.LicenseChanges
open SqlTables SqlPrograms SqlStatements DomainRules StripeEvents DatabaseTables AuditWriters
  LicensingRepository CommerceRepository LicenseSync SubscriptionProjection AdminRepository
  PrivacyRepository ServiceOperations TableName

/-- What a sync makes of the license table. -/
inductive Synced (customerId subscriptionId : ℕ) (status : SubscriptionStatus)
    (rows : List (Entry License)) : List (Entry License) → Prop
  | same : Synced customerId subscriptionId status rows rows
  | issued (n : ℕ) (v : License) (unlinked : rows.find? (isLicenseOf customerId subscriptionId) = none)
      (grants : status.grantsCloud = true) (owner : v.customerId = customerId)
      (link : v.subscriptionId = some subscriptionId) :
      Synced customerId subscriptionId status rows (rows ++ [⟨n, v⟩])
  | changed (e : Entry License) (f : License → License)
      (linked : rows.find? (isLicenseOf customerId subscriptionId) = some e)
      (unrevoked : e.val.status ≠ .revoked)
      (kept : ∀ r, (f r).customerId = r.customerId ∧ (f r).productId = r.productId ∧
        (f r).subscriptionId = r.subscriptionId) :
      Synced customerId subscriptionId status rows (updateRows (fun x => x.id == e.id) f rows)

variable {ε : Type} [FromSql ε] {s : DbStore} {customerId subscriptionId : ℕ}

/-- The sync never touches a revoked license. -/
lemma unrevoked_of_action {old : LicenseStatus} {status : SubscriptionStatus} {action : LicenseSyncAction}
    (h : licenseSyncAction (some old) status = some action) : old ≠ .revoked := by
  rintro rfl
  cases h

lemma ensures_applyLicenseSync (clock : Clock) (productId deviceLimit : ℕ) (status : SubscriptionStatus)
    {existing : Option (Entry License)} (he : existing = linkedLicense customerId subscriptionId s.db) :
    (applyLicenseSync clock customerId subscriptionId productId deviceLimit status existing
      (licenseSyncAction (existing.map (·.val.status)) status) : Tx ε _).Ensures s fun _ s' =>
      Synced customerId subscriptionId status (s.db licenses) (s'.db licenses) := by
  have hupdate : ∀ {e : Entry License} {f : License → License}, existing = some e →
      e.val.status ≠ .revoked → (∀ r, (f r).customerId = r.customerId ∧ (f r).productId = r.productId ∧
        (f r).subscriptionId = r.subscriptionId) →
      (update licenses (fun x => x.id == e.id) f : Tx ε _).Ensures s fun _ s' =>
        Synced customerId subscriptionId status (s.db licenses) (s'.db licenses) := by
    intro e f hsome hrevoked hf
    refine Prog.Ensures.mono ensures_update fun _ s' h => ?_
    rw [h.2, Db.put_self]
    exact .changed e f (he.symm.trans hsome) hrevoked hf
  cases existing with
  | none =>
    cases hgrants : status.grantsCloud with
    | false =>
      simp only [Option.map_none, licenseSyncAction, hgrants, applyLicenseSync]
      exact .pure .same
    | true =>
      simp only [Option.map_none, licenseSyncAction, hgrants, applyLicenseSync, if_true]
      refine ensures_insertRow.bind fun e s' h => .pure ?_
      rw [h.2, Db.put_self]
      exact .issued _ _ he.symm hgrants rfl rfl
  | some e =>
    simp only [Option.map_some]
    cases haction : licenseSyncAction (some e.val.status) status with
    | none =>
      simp only [applyLicenseSync]
      split
      · rename_i hcond
        have hrevoked : e.val.status ≠ .revoked := by
          rw [hcond.1]
          decide
        refine Prog.Ensures.bind (hupdate rfl hrevoked fun _ => ⟨rfl, rfl, rfl⟩) fun _ _ h => ?_
        exact .pure h
      · exact .pure .same
    | some action =>
      have hrevoked := unrevoked_of_action haction
      cases action with
      | issue => exact .pure .same
      | reactivate | suspend | expire =>
        refine Prog.Ensures.bind (hupdate rfl hrevoked fun _ => ⟨rfl, rfl, rfl⟩) fun _ _ h => ?_
        exact .pure h

theorem ensures_syncLicenseForSubscription (clock : Clock) (planVersionId : ℕ)
    (status : SubscriptionStatus) :
    (syncLicenseForSubscription clock customerId subscriptionId planVersionId status : Tx ε _).Ensures s
      fun _ s' => Synced customerId subscriptionId status (s.db licenses) (s'.db licenses) := by
  refine ensures_select.bind fun plan s₀ h₀ => ?_
  obtain ⟨-, rfl⟩ := h₀
  cases plan with
  | none => exact .pure .same
  | some plan =>
    refine Prog.Ensures.bind (commercialPolicyDeviceLimit_checked (S := []) _ _ _).ensures_frame
      fun limit s₁ h₁ => ?_
    have hsame : s₁.db licenses = s.db licenses := h₁ _ (by decide)
    refine ensures_selectForUpdate.bind fun existing s₂ h₂ => ?_
    obtain ⟨hexisting, rfl⟩ := h₂
    refine Prog.Ensures.mono (ensures_applyLicenseSync (s := ⟨s₁.db, s₁.seq + 1⟩) _ _ _ _ hexisting)
      fun _ s₃ h₃ => ?_
    rwa [← hsame]

/-- The license table after a sync for the stored subscription. -/
def SyncedFor (status : SubscriptionStatus) (customerId subscriptionId : ℕ) (s s' : DbStore) : Prop :=
  (∃ r ∈ s'.db subscriptions, r.id = subscriptionId ∧ r.val.customerId = customerId) ∧
    Synced customerId subscriptionId status (s.db licenses) (s'.db licenses)

/-- The subscription that an event or a resync is about, with its customer: the stored one, or a new
one of the customer that the event is resolved to. -/
def Subject (stripeSubscriptionId : String) (resolved : Option ℕ) (d : Database)
    (customerId subscriptionId : ℕ) : Prop :=
  match subscriptionOf stripeSubscriptionId d with
  | some row => row.id = subscriptionId ∧ row.val.customerId = customerId
  | none => resolved = some customerId

/-- The customer of a new subscription: from the metadata, else the linked Stripe customer's. -/
def newCustomer (change : StripeSubscriptionChange) (d : Database) : Option ℕ :=
  change.customerId.or (change.stripeCustomerId.bind fun id => linkedCustomer id d)

lemma ensures_resolveCustomerId {metadata : Option ℕ} {stripeCustomerId : Option String} :
    (resolveCustomerId metadata stripeCustomerId none : Tx ε _).Ensures s fun c s' =>
      c = metadata.or (stripeCustomerId.bind fun id => linkedCustomer id s.db) ∧ s'.db = s.db := by
  cases metadata with
  | some c => exact .pure ⟨rfl, rfl⟩
  | none =>
    cases stripeCustomerId with
    | none => exact .pure ⟨rfl, rfl⟩
    | some id => exact Prog.Ensures.mono ensures_select fun _ _ h => ⟨h.1, by rw [h.2]⟩

/-- The row that a full projection writes. -/
lemma ensures_upsertSubscriptionProjection (hk : s.Keyed) (clock : Clock)
    {input : SubscriptionProjectionInput} (hin : ∀ e, input.existing = some e → e ∈ s.db subscriptions) :
    (upsertSubscriptionProjection clock input : Tx ε _).Ensures s fun row s' =>
      row ∈ s'.db subscriptions ∧ row.val.status = input.status ∧
      (∀ e, input.existing = some e → row.id = e.id ∧ row.val.customerId = e.val.customerId) ∧
      (input.existing = none → row.val.customerId = input.customerId) := by
  unfold upsertSubscriptionProjection
  cases hi : input.existing with
  | none =>
    refine Prog.Ensures.mono ensures_insertRow fun row s' h => ?_
    obtain ⟨rfl, hdb⟩ := h
    refine ⟨?_, rfl, fun e he => (by cases he), fun _ => rfl⟩
    rw [hdb, Db.put_self]
    simp
  | some e =>
    refine Prog.Ensures.mono ensures_updateOne fun row s' h => ?_
    obtain ⟨⟨e₀, he₀, hid, rfl⟩, hdb⟩ := h
    have heq : e₀ = e := hk.unique he₀ (hin e hi) (by simpa using hid)
    refine ⟨?_, rfl, fun e' he' => ?_, fun h => (by cases h)⟩
    · rw [hdb, Db.put_self]
      exact mem_updateRows.mpr ⟨e₀, he₀, by rw [if_pos hid]⟩
    · cases he'
      rw [heq]
      exact ⟨rfl, rfl⟩

/-- After a written row: audit record and outbox event leave the licenses to the sync. -/
lemma ensures_followUp (clock : Clock) (event : ParsedStripeEvent) (record : AuditRecord)
    (discriminator : String) {row : SubscriptionRow} (status : SubscriptionStatus)
    (hrow : row ∈ s.db subscriptions) :
    (do
      writeAudit record
      writeSubscriptionOutbox discriminator event.createdAt row
      syncLicenseFromSubscriptionTruth clock event row status : Tx ε Unit).Ensures s fun _ s' =>
      SyncedFor status row.val.customerId row.id s s' := by
  refine Prog.Ensures.bind (writeAudit_checked (S := [commercialAuditEvents]) (by decide) _).ensures_frame
    fun _ s₁ h₁ => ?_
  refine Prog.Ensures.bind (writeSubscriptionOutbox_checked (S := [outboxEvents]) (by decide) _ _
    _).ensures_frame fun _ s₂ h₂ => ?_
  have hlicenses : s₂.db licenses = s.db licenses := by rw [h₂ _ (by decide), h₁ _ (by decide)]
  have hrow₂ : row ∈ s₂.db subscriptions := by rwa [h₂ _ (by decide), h₁ _ (by decide)]
  refine Prog.Ensures.bind (Prog.Ensures.and (ensures_syncLicenseForSubscription clock _ status)
    (syncLicenseForSubscription_checked (S := [licenses]) (by decide) _ _ _ _ _).ensures_frame)
    fun sync s₃ h₃ => ?_
  have hdone : ∀ {s₄ : DbStore}, (∀ t, t ∉ [commercialAuditEvents] → s₄.db t = s₃.db t) →
      SyncedFor status row.val.customerId row.id s s₄ := by
    intro s₄ h₄
    refine ⟨⟨row, ?_, rfl, rfl⟩, ?_⟩
    · rwa [h₄ _ (by decide), h₃.2 _ (by decide)]
    · rw [h₄ _ (by decide), ← hlicenses]
      exact h₃.1
  cases sync with
  | none => exact .pure (hdone fun _ _ => rfl)
  | some sync =>
    exact Prog.Ensures.mono (writeAudit_checked (S := [commercialAuditEvents]) (by decide)
      _).ensures_frame fun _ s₄ h₄ => hdone h₄

lemma SyncedFor.of_same {status : SubscriptionStatus} {s₀ s' : DbStore}
    (h : SyncedFor status customerId subscriptionId s s') (hs : s.db licenses = s₀.db licenses) :
    SyncedFor status customerId subscriptionId s₀ s' := ⟨h.1, hs ▸ h.2⟩

theorem ensures_applySubscriptionChange (hs : Stored s) (clock : Clock) (webhookEventId : ℕ)
    (event : ParsedStripeEvent) (change : StripeSubscriptionChange) :
    (applySubscriptionChange clock webhookEventId event change).Ensures s fun _ s' =>
      s'.db licenses = s.db licenses ∨
      isStaleEvent event.createdAt ((subscriptionOf change.stripeSubscriptionId s.db).bind
        fun row => row.val.stripeEventAt) = false ∧
      ∃ c i, Subject change.stripeSubscriptionId (newCustomer change s.db) s.db c i ∧
        SyncedFor change.status c i s s' := by
  refine ensures_select.bind fun existing s₀ h₀ => ?_
  obtain ⟨hexisting, rfl⟩ := h₀
  have hexisting : subscriptionOf change.stripeSubscriptionId s.db = existing := hexisting.symm
  have hs₀ : Stored (⟨s.db, s.seq + 1⟩ : DbStore) := hs.advance (Nat.le_succ _)
  rw [hexisting]
  split
  · exact Prog.Ensures.mono (writeAudit_checked (S := [commercialAuditEvents]) (by decide)
      _).ensures_frame fun _ s₁ h₁ => .inl (h₁ _ (by decide))
  rename_i hfresh
  have hresolve : (resolveCustomerId change.customerId change.stripeCustomerId existing :
      Tx StripeWebhookApplyError _).Ensures ⟨s.db, s.seq + 1⟩ fun c s' => s'.db = s.db ∧ Stored s' ∧
        (existing = none → c = newCustomer change s.db) := by
    refine Prog.Ensures.mono (Prog.Ensures.and ((resolveCustomerId_checked (S := []) _ _ _).ensures hs₀)
      (R := fun c _ => existing = none → c = newCustomer change s.db) ?_) fun c s₁ h₁ => ?_
    · cases existing with
      | none => exact Prog.Ensures.mono ensures_resolveCustomerId fun _ _ h _ => h.1
      | some row => exact fun _ _ _ h => (by cases h)
    · exact ⟨funext fun t => h₁.1.2 t (by simp), h₁.1.1, h₁.2⟩
  refine Prog.Ensures.bind hresolve fun customer s₁ h₁ => ?_
  obtain ⟨hdb₁, hs₁, hcustomer⟩ := h₁
  cases customer with
  | none => exact .fail
  | some customerId =>
    refine Checked.ensures_bind (resolvePlanVersionId_checked (S := []) _ _ _) hs₁
      fun planVersion s₂ hs₂ h₂ => ?_
    cases planVersion with
    | none => exact .fail
    | some planVersionId =>
      refine Checked.ensures_bind (ensureBillingAccount_checked (S := [billingAccounts]) (by decide) _) hs₂
        fun account s₃ hs₃ h₃ => ?_
      refine Checked.ensures_bind (linkStripeCustomer_checked (S := [stripeCustomers]) (by decide) _ _) hs₃
        fun _ s₄ hs₄ h₄ => ?_
      have hsubs₄ : s₄.db subscriptions = s.db subscriptions := by
        rw [h₄ _ (by decide), h₃ _ (by decide), h₂ _ (by decide), hdb₁]
      have hlicenses₄ : s₄.db licenses = s.db licenses := by
        rw [h₄ _ (by decide), h₃ _ (by decide), h₂ _ (by decide), hdb₁]
      refine Prog.Ensures.bind (Prog.Ensures.and (ensures_upsertSubscriptionProjection hs₄.keyed clock ?_)
        (upsertSubscriptionProjection_checked (S := [subscriptions]) (by decide) _ _).ensures_frame)
        fun row s₅ h₅ => ?_
      · intro e he
        rw [hsubs₄]
        exact subscriptionOf_mem (hexisting.trans he)
      obtain ⟨⟨hrow, -, hkept, hnew⟩, h₅⟩ := h₅
      refine Prog.Ensures.mono (ensures_followUp clock event _ _ change.status hrow) fun _ s₆ h₆ => ?_
      refine .inr ⟨(Bool.not_eq_true _).mp hfresh, row.val.customerId, row.id, ?_,
        h₆.of_same ((h₅ _ (by decide)).trans hlicenses₄)⟩
      rw [Subject, hexisting]
      cases existing with
      | some e => exact ⟨(hkept e rfl).1.symm, (hkept e rfl).2.symm⟩
      | none => exact (hcustomer rfl).symm.trans (congrArg some (hnew rfl).symm)

theorem ensures_applyInvoiceChange (hs : Stored s) (clock : Clock) (webhookEventId : ℕ)
    (event : ParsedStripeEvent) (invoice : StripeInvoiceChange) :
    (applyInvoiceChange clock webhookEventId event invoice).Ensures s fun _ s' =>
      s'.db licenses = s.db licenses ∨
      ∃ row, subscriptionOf invoice.stripeSubscriptionId s.db = some row ∧
        isStaleEvent event.createdAt row.val.stripeEventAt = false ∧
        ¬(row.val.status = .canceled ∧ invoice.status = .active) ∧
        row.val.status ≠ invoice.status ∧
        SyncedFor invoice.status row.val.customerId row.id s s' := by
  refine ensures_select.bind fun existing s₀ h₀ => ?_
  obtain ⟨hexisting, rfl⟩ := h₀
  have hs₀ : Stored (⟨s.db, s.seq + 1⟩ : DbStore) := hs.advance (Nat.le_succ _)
  cases existing with
  | none => exact .fail
  | some existing =>
    have hrow : subscriptionOf invoice.stripeSubscriptionId s.db = some existing := hexisting.symm
    refine Checked.ensures_bind (recordInvoiceReference_checked (S := [invoiceReferences]) (by decide) _ _)
      hs₀ fun _ s₁ hs₁ h₁ => ?_
    have haudit : ∀ {s' : DbStore} (record : AuditRecord), s'.db licenses = s.db licenses →
        (writeAudit record : Tx StripeWebhookApplyError Unit).Ensures s' fun _ s'' =>
          s''.db licenses = s.db licenses := fun record h =>
      Prog.Ensures.mono (writeAudit_checked (S := [commercialAuditEvents]) (by decide)
        record).ensures_frame fun _ s'' h' => (h' _ (by decide)).trans h
    have hlicenses₁ : s₁.db licenses = s.db licenses := h₁ _ (by decide)
    split
    · exact Prog.Ensures.mono (haudit _ hlicenses₁) fun _ _ h => .inl h
    rename_i hfresh
    split
    · exact Prog.Ensures.mono (haudit _ hlicenses₁) fun _ _ h => .inl h
    rename_i hkept
    refine Prog.Ensures.bind (Prog.Ensures.and ensures_updateOne
      (updateSubscriptionStatusFromInvoice_checked (S := [subscriptions]) (by decide) _ _ _).ensures_frame)
      fun row s₂ h₂ => ?_
    obtain ⟨⟨⟨e₀, he₀, hid, rfl⟩, hdb⟩, h₂⟩ := h₂
    have hlicenses₂ : s₂.db licenses = s.db licenses := (h₂ _ (by decide)).trans hlicenses₁
    have hmem : existing ∈ s₁.db subscriptions := by
      rw [h₁ _ (by decide)]
      exact subscriptionOf_mem hrow
    have heq : e₀ = existing := hs₁.keyed.unique he₀ hmem (by simpa using hid)
    subst heq
    split
    · rename_i hchanged
      have hrow₂ : (⟨e₀.id, setPaymentStatus invoice.status event.createdAt e₀.val⟩ : SubscriptionRow) ∈
          s₂.db subscriptions := by
        rw [hdb, Db.put_self]
        exact mem_updateRows.mpr ⟨e₀, he₀, by rw [if_pos hid]⟩
      refine Prog.Ensures.mono (ensures_followUp clock event _ _ invoice.status hrow₂) fun _ s₃ h₃ => ?_
      refine .inr ⟨e₀, hrow, (Bool.not_eq_true _).mp hfresh, hkept, fun hstatus => hchanged ?_,
        h₃.of_same hlicenses₂⟩
      simp [subscriptionState, setPaymentStatus, hstatus]
    · exact Prog.Ensures.mono (haudit _ hlicenses₂) fun _ _ h => .inl h

/-- The events and resyncs whose sync runs with `status` for the subscription of the customer. -/
def SyncSource : Operation → DbStore → SubscriptionStatus → ℕ → ℕ → Prop
  | .webhook _ event, s, status, customerId, subscriptionId =>
    (∃ change, event.subscriptionChange = some change ∧ change.status = status ∧
      isStaleEvent event.createdAt ((subscriptionOf change.stripeSubscriptionId s.db).bind
        fun row => row.val.stripeEventAt) = false ∧
      Subject change.stripeSubscriptionId (newCustomer change s.db) s.db customerId subscriptionId) ∨
    ∃ invoice row, event.invoiceChange = some invoice ∧ invoice.status = status ∧
      subscriptionOf invoice.stripeSubscriptionId s.db = some row ∧ row.id = subscriptionId ∧
      row.val.customerId = customerId ∧ isStaleEvent event.createdAt row.val.stripeEventAt = false ∧
      ¬(row.val.status = .canceled ∧ invoice.status = .active) ∧ row.val.status ≠ invoice.status
  | .resync _ target change _ _ _, s, status, customerId, subscriptionId =>
    change.status = status ∧ target = subscriptionId ∧
      ∃ row ∈ s.db subscriptions, row.id = subscriptionId ∧ row.val.customerId = customerId
  | _, _, _, _, _ => False

lemma writeResyncOutbox_frame (changed : Bool) (now : Time) (row : SubscriptionRow) :
    (writeResyncOutbox changed now row).Ensures s fun _ s' =>
      ∀ t, t ∉ [outboxEvents] → s'.db t = s.db t :=
  (writeResyncOutbox_checked (by decide) _ _ _).ensures_frame

lemma auditResyncedLicense_frame (operatorId reason : String) (correlationId : Option String)
    (row : SubscriptionRow) (sync : Option LicenseSyncOutcome) :
    (auditResyncedLicense operatorId reason correlationId row sync).Ensures s fun _ s' =>
      ∀ t, t ∉ [commercialAuditEvents] → s'.db t = s.db t :=
  (auditResyncedLicense_checked (by decide) _ _ _ _ _).ensures_frame

/-- A transaction syncs the licenses as its operation says, or leaves them alone. -/
def Syncs (op : Operation) (s s' : DbStore) : Prop :=
  s'.db licenses = s.db licenses ∨
    ∃ status c i, SyncSource op s status c i ∧ SyncedFor status c i s s'

lemma newCustomer_congr {d d' : Database} (hs : d' .stripeCustomers = d .stripeCustomers)
    (hb : d' .billingAccounts = d .billingAccounts) (change : StripeSubscriptionChange) :
    newCustomer change d' = newCustomer change d := by
  have hlookup : ∀ id, d'.lookup .billingAccounts id = d.lookup .billingAccounts id := by
    intro id
    rw [Db.lookup, Db.lookup, hb]
  simp only [newCustomer, linkedCustomer, hs, hlookup]

lemma ensures_applySupportedEvent (hs : Stored s) (clock : Clock) (webhookEventId : ℕ)
    (event : ParsedStripeEvent) :
    (applySupportedEvent clock webhookEventId event).Ensures s fun _ s' =>
      Syncs (.webhook clock event) s s' := by
  unfold applySupportedEvent
  split
  · split
    · exact .fail
    · exact Prog.Ensures.mono (applyCheckoutCompleted_checked _ _).ensures_frame fun _ _ h =>
        .inl (h _ (by decide))
  split
  · split
    · exact .fail
    · rename_i change hchange
      refine Prog.Ensures.mono (ensures_applySubscriptionChange hs _ _ _ _) fun _ s' h => ?_
      rcases h with h | ⟨hfresh, c, i, hsubject, hsync⟩
      · exact .inl h
      · exact .inr ⟨_, c, i, .inl ⟨change, hchange, rfl, hfresh, hsubject⟩, hsync⟩
  split
  · split
    · exact .fail
    · rename_i invoice hinvoice
      refine Prog.Ensures.mono (ensures_applyInvoiceChange hs _ _ _ _) fun _ s' h => ?_
      rcases h with h | ⟨row, hrow, hfresh, hkept, hmoved, hsync⟩
      · exact .inl h
      · exact .inr ⟨_, _, _, .inr ⟨invoice, row, hinvoice, rfl, hrow, rfl, rfl, hfresh, hkept, hmoved⟩,
          hsync⟩
  · exact .pure (.inl rfl)

/-- The receipt before and the mark after the event do not matter. -/
lemma Syncs.around {clock : Clock} {event : ParsedStripeEvent} {s₀ s₁ s₂ : DbStore}
    (h : Syncs (.webhook clock event) s₀ s₁) (h₀ : ∀ t, t ∉ [stripeWebhookEvents] → s₀.db t = s.db t)
    (h₁ : ∀ t, t ∉ [stripeWebhookEvents] → s₂.db t = s₁.db t) : Syncs (.webhook clock event) s s₂ := by
  have hlicenses₀ : s₀.db licenses = s.db licenses := h₀ _ (by decide)
  have hlicenses₁ : s₂.db licenses = s₁.db licenses := h₁ _ (by decide)
  have hsubs : ∀ sid, subscriptionOf sid s₀.db = subscriptionOf sid s.db := fun _ =>
    subscriptionOf_congr (h₀ _ (by decide))
  rcases h with h | ⟨status, c, i, hsource, ⟨r, hr, hid, hc⟩, hsync⟩
  · exact .inl (hlicenses₁.trans (h.trans hlicenses₀))
  · refine .inr ⟨status, c, i, ?_, ⟨r, by rwa [h₁ _ (by decide)], hid, hc⟩, ?_⟩
    · simp only [SyncSource, Subject, hsubs,
        newCustomer_congr (h₀ stripeCustomers (by decide)) (h₀ billingAccounts (by decide))] at hsource ⊢
      exact hsource
    · rwa [hlicenses₁, ← hlicenses₀]

theorem ensures_processStripeWebhookEvent (hs : Stored s) (clock : Clock) (event : ParsedStripeEvent) :
    (processStripeWebhookEvent clock event).Ensures s fun _ s' => Syncs (.webhook clock event) s s' := by
  have happly : ∀ {s₀ : DbStore} (id : ℕ) (answer : StripeWebhookRecord), Stored s₀ →
      (∀ t, t ∉ [stripeWebhookEvents] → s₀.db t = s.db t) → (do
        applySupportedEvent clock id event
        markWebhookProcessed clock id
        pure answer : Tx StripeWebhookApplyError _).Ensures s₀ fun _ s' =>
          Syncs (.webhook clock event) s s' := by
    intro s₀ id answer hs₀ h₀
    refine Prog.Ensures.bind (ensures_applySupportedEvent hs₀ clock id event) fun _ s₁ h₁ => ?_
    have hmark : Checked (ε := StripeWebhookApplyError) [stripeWebhookEvents]
        (markWebhookProcessed clock id) :=
      (checked_update (by decide) (unkeyed (by decide)) _ _).bind fun _ => .pure _
    exact Prog.Ensures.bind hmark.ensures_frame fun _ s₂ h₂ => .pure (h₁.around h₀ h₂)
  have hreceipt : Checked (ε := StripeWebhookApplyError) [stripeWebhookEvents]
      (insertWebhookReceipt clock event) := checked_insertUnless (by decide) _
  refine Checked.ensures_bind hreceipt hs fun inserted s₁ hs₁ h₁ => ?_
  cases inserted with
  | none =>
    refine Checked.ensures_bind (checked_selectOne (S := []) _) hs₁ fun existing s₂ hs₂ h₂ => ?_
    have hsame : ∀ t, t ∉ [stripeWebhookEvents] → s₂.db t = s.db t := fun t ht =>
      (h₂ t (by simp)).trans (h₁ t ht)
    split
    · exact happly _ _ hs₂ hsame
    · exact .pure (.inl (hsame _ (by decide)))
  | some inserted =>
    dsimp only
    split
    · exact .pure (.inl (h₁ _ (by decide)))
    · exact happly _ _ hs₁ h₁

theorem ensures_applyAdminResync (hs : Stored s) (clock : Clock) (subscriptionId : ℕ)
    (change : StripeSubscriptionChange) (operatorId reason : String) (correlationId : Option String) :
    (applyAdminResync clock subscriptionId change operatorId reason correlationId).Ensures s fun _ s' =>
      Syncs (.resync clock subscriptionId change operatorId reason correlationId) s s' := by
  refine ensures_selectForUpdate.bind fun existing s₀ h₀ => ?_
  obtain ⟨hexisting, rfl⟩ := h₀
  have hs₀ : Stored (⟨s.db, s.seq + 1⟩ : DbStore) := hs.advance (Nat.le_succ _)
  cases existing with
  | none => exact .pure (.inl rfl)
  | some existing =>
    have hid : existing.id = subscriptionId := by
      simpa using List.find?_some hexisting.symm
    have hmem : existing ∈ s.db subscriptions := List.mem_of_find?_eq_some hexisting.symm
    refine Checked.ensures_bind (resolveCustomerId_checked (S := []) _ _ _) hs₀ fun customer s₁ hs₁ h₁ => ?_
    cases customer with
    | none => exact .fail
    | some customerId =>
      refine Checked.ensures_bind (resolvePlanVersionId_checked (S := []) _ _ _) hs₁
        fun planVersion s₂ hs₂ h₂ => ?_
      cases planVersion with
      | none => exact .fail
      | some planVersionId =>
        refine Checked.ensures_bind (ensureBillingAccount_checked (S := [billingAccounts]) (by decide) _) hs₂
          fun account s₃ hs₃ h₃ => ?_
        refine Checked.ensures_bind (linkStripeCustomer_checked (S := [stripeCustomers]) (by decide) _ _) hs₃
          fun _ s₄ hs₄ h₄ => ?_
        have hsubs₄ : s₄.db subscriptions = s.db subscriptions := by
          rw [h₄ _ (by decide), h₃ _ (by decide), h₂ _ (by decide), h₁ _ (by decide)]
        have hlicenses₄ : s₄.db licenses = s.db licenses := by
          rw [h₄ _ (by decide), h₃ _ (by decide), h₂ _ (by decide), h₁ _ (by decide)]
        refine Prog.Ensures.bind (Prog.Ensures.and (ensures_upsertSubscriptionProjection hs₄.keyed clock ?_)
          (upsertSubscriptionProjection_checked (S := [subscriptions]) (by decide) _ _).ensures_frame)
          fun row s₅ h₅ => ?_
        · intro e he
          cases he
          rwa [hsubs₄]
        obtain ⟨⟨hrow, -, hkept, -⟩, h₅⟩ := h₅
        obtain ⟨hrowId, hrowCustomer⟩ := hkept existing rfl
        refine Prog.Ensures.bind (writeOperatorAudit_checked (S := [commercialAuditEvents]) (by decide)
          _).ensures_frame fun _ s₆ h₆ => ?_
        refine Prog.Ensures.bind (writeResyncOutbox_frame _ _ _) fun _ s₇ h₇ => ?_
        refine Prog.Ensures.bind (Prog.Ensures.and
          (ensures_syncLicenseForSubscription clock _ change.status)
          (syncLicenseForSubscription_checked (S := [licenses]) (by decide) _ _ _ _ _).ensures_frame)
          fun sync s₈ h₈ => ?_
        refine Prog.Ensures.bind (auditResyncedLicense_frame _ _ _ _ _) fun _ s₉ h₉ => .pure ?_
        refine .inr ⟨change.status, row.val.customerId, row.id, ⟨rfl, hid.symm.trans hrowId.symm,
          existing, hmem, hrowId.symm, hrowCustomer.symm⟩, ⟨row, ?_, rfl, rfl⟩, ?_⟩
        · rwa [h₉ _ (by decide), h₈.2 _ (by decide), h₇ _ (by decide), h₆ _ (by decide)]
        · rw [h₉ _ (by decide), ← hlicenses₄, ← h₅ licenses (by decide), ← h₆ licenses (by decide),
            ← h₇ licenses (by decide)]
          exact h₈.1

/-- What an operation makes of the license table. -/
inductive LicenseEffect (op : Operation) (s s' : DbStore) : Prop
  | same (kept : s'.db licenses = s.db licenses)
  | issued (clock : Clock) (input : IssueLicenseInput) (n : ℕ) (v : License)
      (operator : op = .issueLicense clock input) (owner : v.customerId = input.customerId)
      (unlinked : v.subscriptionId = none) (appended : s'.db licenses = s.db licenses ++ [⟨n, v⟩])
  | revoked (p : Entry License → Bool)
      (updated : s'.db licenses = updateRows p (fun r => { r with status := .revoked }) (s.db licenses))
  | synced (status : SubscriptionStatus) (c i : ℕ) (source : SyncSource op s status c i)
      (sync : SyncedFor status c i s s')

lemma ensures_issueLicense (clock : Clock) (input : IssueLicenseInput) :
    (AdminRepository.issueLicense clock input).Ensures s fun _ s' =>
      LicenseEffect (.issueLicense clock input) s s' := by
  refine ensures_select.bind fun known s₀ h₀ => ?_
  obtain ⟨-, rfl⟩ := h₀
  split
  · exact .fail
  refine ensures_select.bind fun product s₁ h₁ => ?_
  obtain ⟨-, rfl⟩ := h₁
  cases product with
  | none => exact .fail
  | some product =>
    refine ensures_insertRow.bind fun license s₂ h₂ => ?_
    refine Prog.Ensures.bind (writeOperatorAudit_checked (S := [commercialAuditEvents]) (by decide)
      _).ensures_frame fun _ s₃ h₃ => .pure ?_
    have happended := h₃ licenses (by decide)
    rw [h₂.2, Db.put_self] at happended
    exact .issued clock input _ _ rfl rfl rfl happended

lemma ensures_revokeLicense (op : Operation) (clock : Clock) (operatorId : String) (licenseId : ℕ)
    (reason : String) (correlationId : Option String) :
    (AdminRepository.revokeLicense clock operatorId licenseId reason correlationId).Ensures s fun _ s' =>
      LicenseEffect op s s' ∧ RowIs licenses licenseId (fun r => r.status = .revoked) s'.db := by
  refine ensures_selectForUpdate.bind fun license s₀ h₀ => ?_
  obtain ⟨hlicense, rfl⟩ := h₀
  cases license with
  | none => exact .fail
  | some license =>
    have hmem : license ∈ s.db licenses := List.mem_of_find?_eq_some hlicense.symm
    have hid : license.id = licenseId := by simpa using List.find?_some hlicense.symm
    dsimp only
    split
    · rename_i hrevoked
      exact .pure ⟨.same rfl, license, hmem, hid, hrevoked⟩
    refine ensures_update.bind fun _ s₁ h₁ => ?_
    have hrevoked : RowIs licenses licenseId (fun r => r.status = .revoked) s₁.db := by
      rw [h₁.2]
      exact RowIs.set (p := fun _ => True) ⟨license, hmem, hid, trivial⟩ fun _ _ => rfl
    have hrest : ∀ {α : Type} {p : Tx AdminError α}, Checked [licenseRevocations, commercialAuditEvents,
        outboxEvents] p → p.Ensures s₁ fun _ s' => LicenseEffect op s s' ∧
          RowIs licenses licenseId (fun r => r.status = .revoked) s'.db := by
      intro α p hp
      refine Prog.Ensures.mono hp.ensures_frame fun _ s₂ h₂ => ?_
      have hsame : s₂.db licenses = s₁.db licenses := h₂ _ (by decide)
      refine ⟨.revoked (fun e => e.id == licenseId) ?_, hrevoked.congr hsame⟩
      rw [hsame, h₁.2, Db.put_self]
    refine hrest ?_
    refine (checked_insertRow (by decide) _).bind fun _ => ?_
    refine (writeOperatorAudit_checked (by decide) _).bind fun _ => ?_
    exact (writeOutbox_checked (by decide) _ _ _).bind fun _ => .pure _

/-- Every operation changes the licenses in one of these ways. -/
theorem apply_licenses (hs : Stored s) (op : Operation) : LicenseEffect op s (op.apply s) := by
  have hframe : licenses ∉ op.tables → LicenseEffect op s (op.apply s) := fun ht =>
    .same ((op.apply_follows s).table ht)
  have hafter : ∀ {ε α : Type} {p : Tx ε α}, (p.Ensures s fun _ s' => LicenseEffect op s s') →
      LicenseEffect op s (after p s) := by
    intro ε α p hp
    rcases hexec : p.execute s with ⟨r, s'⟩
    rw [after, hexec]
    rcases hp.execute hexec with ⟨a, -, hq⟩ | ⟨-, hdb⟩
    · exact hq
    · exact .same (congrFun hdb _)
  have hsyncs : ∀ {s' : DbStore}, Syncs op s s' → LicenseEffect op s s' := by
    rintro s' (h | ⟨status, c, i, hsource, hsync⟩)
    · exact .same h
    · exact .synced status c i hsource hsync
  cases op with
  | webhook clock event =>
    exact hafter (Prog.Ensures.mono (ensures_processStripeWebhookEvent hs clock event) fun _ _ h => hsyncs h)
  | resync clock subscriptionId change operatorId reason correlationId =>
    exact hafter (Prog.Ensures.mono (ensures_applyAdminResync hs clock subscriptionId change operatorId
      reason correlationId) fun _ _ h => hsyncs h)
  | issueLicense clock input => exact hafter (ensures_issueLicense clock input)
  | revokeLicense clock operatorId licenseId reason correlationId =>
    exact hafter (Prog.Ensures.mono (ensures_revokeLicense _ clock operatorId licenseId reason
      correlationId) fun _ _ h => h.1)
  | executeDeletion clock operatorId requestId reason correlationId =>
    refine hafter ((executeDeletion_executed clock operatorId requestId reason correlationId).mono fun _ s' h => ?_)
    obtain ⟨request, hdone⟩ := h
    exact .revoked _ hdone.frozen.licenses
  | customer clock authUserId aal request =>
    refine hframe ?_
    cases request <;> dsimp only [Operation.tables, CustomerRequest.tables] <;> decide
  | _ =>
    refine hframe ?_
    dsimp only [Operation.tables]
    decide

end ForgeCustomer.LicenseChanges
