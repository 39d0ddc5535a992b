import ForgeCustomer.LicenseChanges
import ForgeCustomer.WebhookOrder

/-!
# Owners of billing accounts

Every subscription has a customer and a billing account. Webhooks and resyncs rewrite the account, but
never the customer.
-/
namespace ForgeCustomer.BillingOwners
open SqlTables SqlPrograms SqlStatements StripeEvents DatabaseTables AuditWriters LicensingRepository
  CommerceRepository SubscriptionProjection ServiceOperations LicenseChanges WebhookDelivery WebhookOrder TableName

variable {s : DbStore} {change : StripeSubscriptionChange} {event : ParsedStripeEvent}

/-- A billing account of the customer. -/
def AccountOf (customerId accountId : ℕ) (d : Database) : Prop :=
  RowIs billingAccounts accountId (fun r => r.customerId = customerId) d

/-- Every subscription is billed to its own customer. -/
def BillingOwned (d : Database) : Prop :=
  ∀ e ∈ d .subscriptions, AccountOf e.val.customerId e.val.billingAccountId d

/-- No account changes hands. -/
def AccountsKept (d d' : Database) : Prop := ∀ c a, AccountOf c a d → AccountOf c a d'

lemma AccountsKept.of_same {d d' : Database} (h : d' billingAccounts = d billingAccounts) : AccountsKept d d' :=
  fun _ _ ha => ha.congr h

lemma AccountsKept.trans {d d' d'' : Database} (h : AccountsKept d d') (h' : AccountsKept d' d'') :
    AccountsKept d d'' := fun c a ha => h' c a (h c a ha)

lemma BillingOwned.mono {d d' : Database} (h : BillingOwned d) (hsubs : d' subscriptions = d subscriptions)
    (hkept : AccountsKept d d') : BillingOwned d' := by
  intro e he
  rw [hsubs] at he
  exact hkept _ _ (h e he)

lemma BillingOwned.frame {S : List TableName} {d d' : Database} (h : BillingOwned d)
    (hframe : ∀ t, t ∉ S → d' t = d t) (hsubs : subscriptions ∉ S) (haccounts : billingAccounts ∉ S) :
    BillingOwned d' := h.mono (hframe _ hsubs) (.of_same (hframe _ haccounts))

/-- The account that is found or made. -/
lemma ensures_ensureBillingAccount {ε : Type} [FromSql ε] (customerId : ℕ) :
    (ensureBillingAccount customerId : Tx ε ℕ).Ensures s fun a s' =>
      AccountOf customerId a s'.db ∧ AccountsKept s.db s'.db := by
  refine Prog.Ensures.bind ensures_upsert fun e s' h => .pure ?_
  rcases h with ⟨e₀, hholder, rfl, hdb⟩ | ⟨rfl, hdb⟩
  · have hsame : s'.db billingAccounts = s.db billingAccounts := by
      rw [hdb, Db.put_self]
      exact (List.map_congr_left fun e _ => ite_self e).trans (List.map_id' _)
    have hcustomer : e₀.val.customerId = customerId := by
      have hkey := List.find?_some hholder
      simpa [Schema.keys, uniqueKeys, eq_comm] using hkey
    exact ⟨⟨e₀, hsame ▸ mem_of_holder hholder, rfl, hcustomer⟩, .of_same hsame⟩
  · refine ⟨⟨⟨s.seq, ⟨customerId⟩⟩, ?_, rfl, rfl⟩, fun c a ha => ?_⟩
    · rw [hdb, Db.put_self]
      simp
    · rw [AccountOf, hdb]
      exact ha.insert

/-- The customer of a projection of a stored row: from the metadata, else the row's own. -/
lemma ensures_resolveCustomerId_stored {ε : Type} [FromSql ε] {existing : Option SubscriptionRow} :
    (resolveCustomerId change.customerId change.stripeCustomerId existing : Tx ε _).Ensures s fun c _ =>
      ∀ e, existing = some e → c = some (change.customerId.getD e.val.customerId) := by
  cases existing with
  | none => exact fun _ _ _ e he => (by cases he)
  | some row =>
    intro c s' hrun e he
    rw [run_resolveCustomerId] at hrun
    cases hrun
    cases he
    rfl

lemma ensures_resolvePlanVersionId_metadata {ε : Type} [FromSql ε] {existing : Option SubscriptionRow} :
    (resolvePlanVersionId change.planVersionId change.stripePriceId existing : Tx ε _).Ensures s fun p _ =>
      ∀ v, change.planVersionId = some v → p = some v := by
  cases hplan : change.planVersionId with
  | none => exact fun _ _ _ v hv => (by cases hv)
  | some v =>
    refine Prog.Ensures.pure ?_
    exact fun v' hv => hv

/-- The subscription table after a full projection. -/
lemma ensures_upsertSubscriptionProjection_billed (hk : s.Keyed) (clock : Clock)
    {input : SubscriptionProjectionInput} :
    (upsertSubscriptionProjection clock input : Tx StripeWebhookApplyError _).Ensures s fun row s' =>
      row.val.billingAccountId = input.billingAccountId ∧ row.val.planVersionId = input.planVersionId ∧
        ∀ e ∈ s'.db subscriptions, e = row ∨ e ∈ s.db subscriptions := by
  unfold upsertSubscriptionProjection
  cases hi : input.existing with
  | none =>
    refine Prog.Ensures.mono ensures_insertRow fun row s' h => ?_
    obtain ⟨rfl, hdb⟩ := h
    refine ⟨rfl, rfl, fun e he => ?_⟩
    rw [hdb, Db.put_self, List.mem_append, List.mem_singleton] at he
    exact he.symm
  | some e₁ =>
    refine Prog.Ensures.mono ensures_updateOne fun row s' h => ?_
    obtain ⟨⟨e₀, he₀, hid, rfl⟩, hdb⟩ := h
    refine ⟨rfl, rfl, fun e he => ?_⟩
    rw [hdb, Db.put_self] at he
    obtain ⟨x, hx, rfl⟩ := mem_updateRows.mp he
    by_cases hxid : (x.id == e₁.id) = true
    · have heq : x = e₀ := hk.unique hx he₀ (by simp only [beq_iff_eq] at hid hxid; rw [hid, hxid])
      rw [if_pos hxid, heq]
      exact .inl rfl
    · rw [if_neg hxid]
      exact .inr hx

/-- What a projection of a change does to subscriptions and accounts. -/
structure Rebilled (change : StripeSubscriptionChange) (existing : Option SubscriptionRow) (d d' : Database)
    (row : SubscriptionRow) : Prop where
  stored : row ∈ d' subscriptions
  others : ∀ e ∈ d' subscriptions, e = row ∨ e ∈ d subscriptions
  kept : AccountsKept d d'
  plan : ∀ p, change.planVersionId = some p → row.val.planVersionId = p
  again : ∀ e, existing = some e → row.val.customerId = e.val.customerId ∧
    AccountOf (change.customerId.getD e.val.customerId) row.val.billingAccountId d'
  fresh : existing = none → AccountOf row.val.customerId row.val.billingAccountId d'

/-- What webhooks and resyncs share: customer and plan are resolved, the account is found, the row is
written; `k` follows. -/
lemma ensures_rebill {α : Type} (hs : Stored s) (clock : Clock) {existing : Option SubscriptionRow}
    (hin : ∀ e, existing = some e → e ∈ s.db subscriptions) (eventAt : Option Time)
    (k : SubscriptionRow → Tx StripeWebhookApplyError α)
    (hk : ∀ row, Checked [commercialAuditEvents, outboxEvents, licenses] (k row)) :
    (do
      let customer ← resolveCustomerId change.customerId change.stripeCustomerId existing
      match customer with
      | none => .fail .missingCustomer
      | some customerId =>
        let planVersion ← resolvePlanVersionId change.planVersionId change.stripePriceId existing
        match planVersion with
        | none => .fail .missingPlanVersion
        | some planVersionId =>
          let billingAccountId ← ensureBillingAccount customerId
          linkStripeCustomer billingAccountId change.stripeCustomerId
          let row ← upsertSubscriptionProjection clock
            { existing := existing
              customerId := customerId
              billingAccountId := billingAccountId
              planVersionId := planVersionId
              stripeSubscriptionId := change.stripeSubscriptionId
              status := change.status
              currentPeriodStart := change.currentPeriodStart
              currentPeriodEnd := change.currentPeriodEnd
              cancelAtPeriodEnd := change.cancelAtPeriodEnd
              stripeEventAt := eventAt }
          k row : Tx StripeWebhookApplyError α).Ensures s fun _ s' =>
      ∃ row, Rebilled change existing s.db s'.db row := by
  refine Prog.Ensures.bind (ensures_resolveCustomerId_stored.and
    ((resolveCustomerId_checked (S := []) _ _ _).ensures hs)) fun customer s₁ h₁ => ?_
  obtain ⟨hcustomer, hs₁, h₁⟩ := h₁
  cases customer with
  | none => exact .fail
  | some customerId =>
    refine Prog.Ensures.bind (ensures_resolvePlanVersionId_metadata.and
      ((resolvePlanVersionId_checked (S := []) _ _ _).ensures hs₁)) fun planVersion s₂ h₂ => ?_
    obtain ⟨hplan, hs₂, h₂⟩ := h₂
    cases planVersion with
    | none => exact .fail
    | some planVersionId =>
      refine Prog.Ensures.bind ((ensures_ensureBillingAccount customerId).and
        ((ensureBillingAccount_checked (S := [billingAccounts]) (by decide) _).ensures hs₂))
        fun account s₃ h₃ => ?_
      obtain ⟨⟨haccount, hkept⟩, hs₃, h₃⟩ := h₃
      refine Checked.ensures_bind (linkStripeCustomer_checked (S := [stripeCustomers]) (by decide) _ _) hs₃
        fun _ s₄ hs₄ h₄ => ?_
      have hsubs₄ : s₄.db subscriptions = s.db subscriptions := by
        rw [h₄ _ (by decide), h₃ _ (by decide), h₂ _ (by decide), h₁ _ (by decide)]
      have hin₄ : ∀ e, existing = some e → e ∈ s₄.db subscriptions := by rwa [hsubs₄]
      refine Prog.Ensures.bind (((ensures_upsertSubscriptionProjection hs₄.keyed clock hin₄).and
        (ensures_upsertSubscriptionProjection_billed hs₄.keyed clock)).and
        (upsertSubscriptionProjection_checked (S := [subscriptions]) (by decide) _ _).ensures_frame)
        fun row s₅ h₅ => ?_
      obtain ⟨⟨⟨hrow, -, hagain, hnew⟩, hbilled, hplanned, hothers⟩, h₅⟩ := h₅
      refine Prog.Ensures.mono (hk row).ensures_frame fun _ s₆ h₆ => ⟨row, ?_⟩
      have haccounts : s₆.db billingAccounts = s₃.db billingAccounts := by
        rw [h₆ _ (by decide), h₅ _ (by decide), h₄ _ (by decide)]
      have hsubs₆ : s₆.db subscriptions = s₅.db subscriptions := h₆ _ (by decide)
      have howner : AccountOf customerId row.val.billingAccountId s₆.db := by
        rw [hbilled]
        exact haccount.congr haccounts
      have hkept₂ : AccountsKept s.db s₂.db := .of_same (by rw [h₂ _ (by decide), h₁ _ (by decide)])
      refine
        { stored := hsubs₆ ▸ hrow
          others := fun e he => ?_
          kept := (hkept₂.trans hkept).trans (.of_same haccounts)
          plan := fun p hp => ?_
          again := fun e he => ⟨(hagain e he).2, ?_⟩
          fresh := fun he => ?_ }
      · rw [hsubs₆] at he
        exact hsubs₄ ▸ hothers e he
      · rw [hplanned]
        exact Option.some.inj (hplan p hp)
      · rw [← Option.some.inj (hcustomer e he)]
        exact howner
      · rw [hnew he]
        exact howner

/-- The metadata of a change names another customer than the row's, and nothing that is not stored. -/
def NamesOther (change : StripeSubscriptionChange) (row : SubscriptionRow) (d : Database) : Prop :=
  metadataStored change d = true ∧ ∃ c, change.customerId = some c ∧ c ≠ row.val.customerId

lemma has_of_accountOf {c a : ℕ} {d : Database} (hd : d.Intact) (h : AccountOf c a d) :
    d.has .customerProfiles c = true := by
  obtain ⟨e, he, -, rfl⟩ := h
  have hrefs := hd .billingAccounts e he
  simpa [Db.refsOk, Schema.refs, foreignKeys, Db.resolves] using hrefs

/-- A projection keeps the accounts where they belong unless its metadata names another customer. -/
lemma Rebilled.owned {existing : Option SubscriptionRow} {d d' : Database} {row : SubscriptionRow}
    (h : Rebilled change existing d d' row) (hd' : d'.Intact) (howned : BillingOwned d)
    (hno : ∀ e, existing = some e → ¬NamesOther change e d') : BillingOwned d' := by
  intro e he
  rcases h.others e he with rfl | hold
  · cases hex : existing with
    | none => exact h.fresh hex
    | some e₀ =>
      obtain ⟨hcustomer, haccount⟩ := h.again e₀ hex
      have hsame : change.customerId.getD e₀.val.customerId = e₀.val.customerId := by
        cases hc : change.customerId with
        | none => rfl
        | some c =>
          rw [hc] at haccount
          by_contra hne
          refine hno e₀ hex ⟨metadataStored_iff.mpr ⟨fun c' hc' => ?_, fun p hp => ?_⟩, c, hc, hne⟩
          · have heq : c = c' := Option.some.inj (hc.symm.trans hc')
            exact heq ▸ has_of_accountOf hd' haccount
          · rw [← h.plan p hp]
            exact (subscription_refs hd' h.stored).2.2
      rw [hcustomer, ← hsame]
      exact haccount
  · exact h.kept _ _ (howned e hold)

lemma NamesOther.congr {row : SubscriptionRow} {d d' : Database} (h : NamesOther change row d')
    (hcustomers : d' customerProfiles = d customerProfiles) (hplans : d' planVersions = d planVersions) :
    NamesOther change row d := by
  obtain ⟨hmeta, hother⟩ := h
  obtain ⟨hc, hp⟩ := metadataStored_iff.mp hmeta
  refine ⟨metadataStored_iff.mpr ⟨fun c h => ?_, fun p h => ?_⟩, hother⟩
  · rw [← Db.has_congr hcustomers]
    exact hc c h
  · rw [← Db.has_congr hplans]
    exact hp p h

lemma ensures_applySubscriptionChange_owned (hs : Stored s) (clock : Clock) (webhookEventId : ℕ)
    (howned : BillingOwned s.db)
    (hno : ∀ row, subscriptionOf change.stripeSubscriptionId s.db = some row →
      isStaleEvent event.createdAt row.val.stripeEventAt = false → ¬NamesOther change row s.db) :
    (applySubscriptionChange clock webhookEventId event change).Ensures s fun _ s' => BillingOwned s'.db := by
  have hs₀ : Stored (⟨s.db, s.seq + 1⟩ : DbStore) := hs.advance (Nat.le_succ _)
  have hrebill : (applySubscriptionChange clock webhookEventId event change).Ensures s fun _ s' =>
      BillingOwned s'.db ∨ ∃ existing row, subscriptionOf change.stripeSubscriptionId s.db = existing ∧
        isStaleEvent event.createdAt (existing.bind fun row => row.val.stripeEventAt) = false ∧
        Rebilled change existing s.db s'.db row := by
    refine ensures_select.bind fun existing s₀ h₀ => ?_
    obtain ⟨hexisting, rfl⟩ := h₀
    have hexisting : subscriptionOf change.stripeSubscriptionId s.db = existing := hexisting.symm
    split
    · exact Prog.Ensures.mono (writeAudit_checked (S := [commercialAuditEvents]) (by decide)
        _).ensures_frame fun _ s₁ h₁ => .inl (howned.frame h₁ (by decide) (by decide))
    · rename_i hfresh
      refine Prog.Ensures.mono (ensures_rebill hs₀ clock (fun e he => subscriptionOf_mem (hexisting.trans he))
        event.createdAt _ fun row => followUp_checked (by decide) (by decide) (by decide) _ _ _ _ row _) fun _ s' h => ?_
      obtain ⟨row, hrow⟩ := h
      exact .inr ⟨existing, row, hexisting, (Bool.not_eq_true _).mp hfresh, hrow⟩
  refine Prog.Ensures.mono (hrebill.and ((applySubscriptionChange_checked clock webhookEventId event
    change).ensures hs)) fun _ s' h => ?_
  obtain ⟨hcases, hs', hframe⟩ := h
  rcases hcases with hdone | ⟨existing, row, hexisting, hfresh, hrow⟩
  · exact hdone
  · refine hrow.owned hs'.intact howned fun e he hother => ?_
    rw [he] at hexisting hfresh
    exact hno e hexisting hfresh (hother.congr (hframe _ (by decide)) (hframe _ (by decide)))

lemma ensures_applyAdminResync_owned (hs : Stored s) (clock : Clock) (subscriptionId : ℕ)
    (operatorId reason : String) (correlationId : Option String) (howned : BillingOwned s.db)
    (hno : ∀ row ∈ s.db subscriptions, row.id = subscriptionId → ¬NamesOther change row s.db) :
    (applyAdminResync clock subscriptionId change operatorId reason correlationId).Ensures s fun _ s' =>
      BillingOwned s'.db := by
  have hs₀ : Stored (⟨s.db, s.seq + 1⟩ : DbStore) := hs.advance (Nat.le_succ _)
  have hrebill : (applyAdminResync clock subscriptionId change operatorId reason correlationId).Ensures s
      fun _ s' => BillingOwned s'.db ∨ ∃ e ∈ s.db subscriptions, e.id = subscriptionId ∧
        ∃ row, Rebilled change (some e) s.db s'.db row := by
    refine ensures_selectForUpdate.bind fun existing s₀ h₀ => ?_
    obtain ⟨hexisting, rfl⟩ := h₀
    cases existing with
    | none => exact .pure (.inl howned)
    | some e =>
      have hmem : e ∈ s.db subscriptions := List.mem_of_find?_eq_some hexisting.symm
      have hid : e.id = subscriptionId := by
        simpa using List.find?_some hexisting.symm
      refine Prog.Ensures.mono (ensures_rebill hs₀ clock (fun e' he' => ?_) (some clock.utcNow) _ fun row => ?_)
        fun _ s' h => .inr ⟨e, hmem, hid, h⟩
      · cases he'
        exact hmem
      · exact resyncFollowUp_checked (by decide) (by decide) (by decide) _ _ _ _ _ _ row _ _
  refine Prog.Ensures.mono (hrebill.and ((applyAdminResync_checked clock subscriptionId change operatorId reason
    correlationId).ensures hs)) fun _ s' h => ?_
  obtain ⟨hcases, hs', hframe⟩ := h
  rcases hcases with hdone | ⟨e, he, hid, row, hrow⟩
  · exact hdone
  · refine hrow.owned hs'.intact howned fun e' he' hother => ?_
    cases he'
    exact hno e he hid (hother.congr (hframe _ (by decide)) (hframe _ (by decide)))

/-- An invoice touches neither customer nor account. -/
lemma ensures_applyInvoiceChange_owned (hs : Stored s) (clock : Clock) (webhookEventId : ℕ)
    (invoice : StripeInvoiceChange) (howned : BillingOwned s.db) :
    (applyInvoiceChange clock webhookEventId event invoice).Ensures s fun _ s' => BillingOwned s'.db := by
  refine ensures_select.bind fun existing s₀ h₀ => ?_
  obtain ⟨-, rfl⟩ := h₀
  have hs₀ : Stored (⟨s.db, s.seq + 1⟩ : DbStore) := hs.advance (Nat.le_succ _)
  cases existing with
  | none => exact .fail
  | some existing =>
    refine Checked.ensures_bind (recordInvoiceReference_checked (S := [invoiceReferences]) (by decide) _ _) hs₀
      fun _ s₁ hs₁ h₁ => ?_
    have howned₁ : BillingOwned s₁.db := howned.frame h₁ (by decide) (by decide)
    have haudit : ∀ {s' : DbStore} (record : AuditRecord), BillingOwned s'.db →
        (writeAudit record : Tx StripeWebhookApplyError Unit).Ensures s' fun _ s'' => BillingOwned s''.db :=
      fun record h => Prog.Ensures.mono (writeAudit_checked (S := [commercialAuditEvents]) (by decide)
        record).ensures_frame fun _ s'' h' => h.frame h' (by decide) (by decide)
    split
    · exact haudit _ howned₁
    split
    · exact haudit _ howned₁
    refine Prog.Ensures.bind (Q := fun _ s' => BillingOwned s'.db) ?_ fun row s₂ howned₂ => ?_
    · refine Prog.Ensures.mono (ensures_updateOne.and (updateSubscriptionStatusFromInvoice_checked
        (S := [subscriptions]) (by decide) existing.id invoice.status event.createdAt).ensures_frame)
        fun row s₂ h₂ => ?_
      obtain ⟨⟨-, hdb⟩, h₂⟩ := h₂
      intro e he
      rw [hdb, Db.put_self] at he
      obtain ⟨x, hx, rfl⟩ := mem_updateRows.mp he
      have hx₁ := (howned₁ x hx).congr (h₂ billingAccounts (by decide))
      split
      · exact hx₁
      · exact hx₁
    split
    · exact Prog.Ensures.mono (followUp_checked (S := [commercialAuditEvents, outboxEvents, licenses])
        (by decide) (by decide) (by decide) clock _ _ _ row _).ensures_frame fun _ s₃ h₃ =>
        howned₂.frame h₃ (by decide) (by decide)
    · exact haudit _ howned₂

/-- A checkout makes an account for its own customer at most. -/
lemma ensures_applyCheckoutCompleted_owned (checkout : StripeCheckoutCompleted) (howned : BillingOwned s.db) :
    (applyCheckoutCompleted event checkout).Ensures s fun _ s' => BillingOwned s'.db := by
  refine Prog.Ensures.bind (checked_update (S := [checkoutSessions]) (by decide) (unkeyed (by decide))
    _ _).ensures_frame fun rows s₁ h₁ => ?_
  have howned₁ : BillingOwned s₁.db := howned.frame h₁ (by decide) (by decide)
  have hcomplete : Checked [checkoutSessions] (completeCheckout rows checkout) := by
    unfold completeCheckout
    split
    · exact .pure _
    · exact (checked_upsert (by decide) (unkeyed (by decide)) _ _).bind fun _ => .pure _
    · exact .pure _
  refine Prog.Ensures.bind hcomplete.ensures_frame fun row s₂ h₂ => ?_
  have howned₂ : BillingOwned s₂.db := howned₁.frame h₂ (by decide) (by decide)
  cases row with
  | none => exact .pure howned₂
  | some row =>
    refine Prog.Ensures.bind ((ensures_ensureBillingAccount row.val.customerId).and
      (ensureBillingAccount_checked (S := [billingAccounts]) (by decide) _).ensures_frame) fun account s₃ h₃ => ?_
    have howned₃ : BillingOwned s₃.db := howned₂.mono (h₃.2 _ (by decide)) h₃.1.2
    have hrest : Checked (ε := StripeWebhookApplyError) [stripeCustomers, commercialAuditEvents] (do
        linkStripeCustomer account checkout.stripeCustomerId
        writeAudit
          { eventType := "checkout_completed"
            event := event
            customerId := some row.val.customerId
            targetType := some "checkout_session"
            targetId := some (toString row.id)
            beforeState := none
            afterState := some (.obj [("checkout_session_id", .uuid row.id),
              ("plan_version_id", .uuid row.val.planVersionId), ("status", .str "completed"),
              ("has_stripe_customer", .bool checkout.stripeCustomerId.isSome),
              ("has_stripe_subscription", .bool checkout.stripeSubscriptionId.isSome)]) }) :=
      (linkStripeCustomer_checked (by decide) _ _).bind fun _ => writeAudit_checked (by decide) _
    exact Prog.Ensures.mono hrest.ensures_frame fun _ s₄ h₄ => howned₃.frame h₄ (by decide) (by decide)

/-- A webhook about to be applied, or a resync, whose metadata names another customer than the stored
subscription's. -/
def Reassigns : Operation → DbStore → Prop
  | .webhook _ event, s => Applies event s.db ∧ ∃ change row, event.subscriptionChange = some change ∧
      subscriptionOf change.stripeSubscriptionId s.db = some row ∧
      isStaleEvent event.createdAt row.val.stripeEventAt = false ∧ NamesOther change row s.db
  | .resync _ subscriptionId change _ _ _, s =>
      ∃ row ∈ s.db subscriptions, row.id = subscriptionId ∧ NamesOther change row s.db
  | _, _ => False

lemma ensures_applySupportedEvent_owned (hs : Stored s) (clock : Clock) (webhookEventId : ℕ)
    (howned : BillingOwned s.db)
    (hno : ∀ change row, event.subscriptionChange = some change →
      subscriptionOf change.stripeSubscriptionId s.db = some row →
      isStaleEvent event.createdAt row.val.stripeEventAt = false → ¬NamesOther change row s.db) :
    (applySupportedEvent clock webhookEventId event).Ensures s fun _ s' => BillingOwned s'.db := by
  unfold applySupportedEvent
  split
  · split
    · exact .fail
    · exact ensures_applyCheckoutCompleted_owned _ howned
  split
  · split
    · exact .fail
    · rename_i change hchange
      exact ensures_applySubscriptionChange_owned hs clock _ howned fun row => hno change row hchange
  split
  · split
    · exact .fail
    · exact ensures_applyInvoiceChange_owned hs clock _ _ howned
  · exact .pure howned

/-- Every other operation keeps the accounts where they belong. -/
theorem apply_owned (hs : Stored s) (howned : BillingOwned s.db) (op : Operation) (hno : ¬Reassigns op s) :
    BillingOwned (op.apply s).db := by
  have hframe : subscriptions ∉ op.tables → billingAccounts ∉ op.tables → BillingOwned (op.apply s).db :=
    fun hsubs haccounts => howned.mono ((op.apply_follows s).table hsubs)
      (.of_same ((op.apply_follows s).table haccounts))
  cases op with
  | webhook clock event =>
    refine ensures_deliver hs clock (fun d d' hsame h => ?_) howned fun happlies s₁ id hs₁ hsame => ?_
    · exact h.mono (hsame _ (by decide)) (.of_same (hsame _ (by decide)))
    · have howned₁ : BillingOwned s₁.db := howned.mono (hsame _ (by decide)) (.of_same (hsame _ (by decide)))
      refine ensures_applySupportedEvent_owned hs₁ clock id howned₁ fun change row hchange hrow hfresh hother => ?_
      rw [subscriptionOf_congr (hsame .subscriptions (by decide))] at hrow
      exact hno ⟨happlies, change, row, hchange, hrow, hfresh,
        hother.congr (hsame _ (by decide)) (hsame _ (by decide))⟩
  | resync clock subscriptionId change operatorId reason correlationId =>
    have hall := ensures_applyAdminResync_owned hs clock subscriptionId operatorId reason correlationId howned
      fun row hrow hid hother => hno ⟨row, hrow, hid, hother⟩
    exact after_ensures hall fun s' hdb => hdb ▸ howned
  | customer clock authUserId aal request =>
    refine hframe ?_ ?_
    all_goals cases request <;> dsimp only [Operation.tables, CustomerRequest.tables] <;> decide
  | _ =>
    refine hframe ?_ ?_
    all_goals
      dsimp only [Operation.tables]
      decide

/-- In a run without such an event every subscription stays billed to its own customer. -/
theorem subscriptions_billed_to_their_customer (hs : Stored s) (howned : BillingOwned s.db)
    (ops : List Operation) (hno : EachStep (fun op s => ¬Reassigns op s) ops s) :
    EachState (fun s => BillingOwned s.db) ops s := by
  refine (eachState_of_step (P := fun s => Stored s ∧ BillingOwned s.db) (fun op s h hstep => ?_) ⟨hs, howned⟩
    hno).mono fun s h => h.2
  exact ⟨(op.apply_follows s).stored h.1, apply_owned h.1 h.2 op hstep⟩

/-- The metadata names the customer that the run makes. -/
def movedEvent : ParsedStripeEvent :=
  stripeObject "evt_1" "customer.subscription.updated" 10
    (.obj [("id", .str "sub_1"), ("status", .str "active"),
      ("metadata", .obj [("forgecustomer_customer_id", .str "00000000-0000-0000-0000-000000000008")])])

def movingRun : List Operation :=
  [.provision sampleClock ⟨101, none, none, none, none⟩, .webhook sampleClock movedEvent]

lemma sampleStore_owned : BillingOwned sampleStore.db := by
  intro e he
  cases List.mem_singleton.mp he
  exact ⟨⟨5, ⟨0⟩⟩, by decide, rfl, rfl⟩

/-- The subscription keeps its customer and gets the other one's account. -/
theorem subscription_billed_to_another : Stored sampleStore ∧ BillingOwned sampleStore.db ∧
    ¬EachState (fun s => BillingOwned s.db) movingRun sampleStore := by
  refine ⟨sampleStore_stored, sampleStore_owned, fun h => ?_⟩
  have hlast : BillingOwned (runAll movingRun sampleStore).db := h.2.2
  have hsubs : ∀ e ∈ (runAll movingRun sampleStore).db .subscriptions, e.val.customerId = 0 := by decide
  have haccounts : ∀ e ∈ (runAll movingRun sampleStore).db .subscriptions,
      ∀ a ∈ (runAll movingRun sampleStore).db .billingAccounts, a.id = e.val.billingAccountId →
        a.val.customerId = 8 := by decide
  obtain ⟨e, he⟩ : ∃ e, e ∈ (runAll movingRun sampleStore).db .subscriptions :=
    List.exists_mem_of_length_pos (by decide)
  obtain ⟨a, ha, hid, hcustomer⟩ := hlast e he
  have hother := haccounts e he a ha hid
  rw [hsubs e he, hother] at hcustomer
  cases hcustomer

theorem subscriptions_billed_to_their_customer_sample :
    EachState (fun s => BillingOwned s.db) [.webhook sampleClock deletedEvent] sampleStore := by
  refine subscriptions_billed_to_their_customer sampleStore_stored sampleStore_owned _ ⟨?_, trivial⟩
  rintro ⟨-, change, row, hchange, -, -, -, c, hc, -⟩
  cases hchange
  cases hc

end ForgeCustomer.BillingOwners
