import ForgeCustomer.WebhookOrder

/-!
# Subscriptions along a run

Which operations of the service move a projected subscription, and how it leaves `canceled`.
-/
namespace ForgeCustomer.SubscriptionRuns
open SqlTables SqlPrograms SqlStatements JsonValue DomainRules StripeEvents DatabaseTables AuditWriters
  CommerceRepository SubscriptionProjection ServiceOperations WebhookDelivery WebhookOrder TableName

variable {s : DbStore} {sid : String} {row : SubscriptionRow} {p : Projection}

/-- A resync of another row leaves this one alone. -/
lemma ensures_applyAdminResync_other (hs : Stored s) (clock : Clock) {subscriptionId : ℕ}
    (change : StripeSubscriptionChange) (operatorId reason : String) (correlationId : Option String)
    (hrow : subscriptionOf sid s.db = some row) (hne : row.id ≠ subscriptionId) :
    (applyAdminResync clock subscriptionId change operatorId reason correlationId).Ensures s fun _ s' =>
      subscriptionOf sid s'.db = some row := by
  refine ensures_selectForUpdate.bind fun existing s₀ h₀ => ?_
  obtain ⟨hexisting, rfl⟩ := h₀
  have hs₀ : Stored (⟨s.db, s.seq + 1⟩ : DbStore) := hs.advance (Nat.le_succ _)
  cases existing with
  | none => exact .pure hrow
  | some existing =>
    have hid : existing.id = subscriptionId := by
      simpa using List.find?_some hexisting.symm
    refine Checked.ensures_bind (resolveCustomerId_checked (S := []) _ _ _) hs₀ fun customer s₁ hs₁ h₁ => ?_
    cases customer with
    | none => exact .fail
    | some customerId =>
      refine Checked.ensures_bind (resolvePlanVersionId_checked (S := []) _ _ _) hs₁
        fun planVersion s₂ hs₂ h₂ => ?_
      cases planVersion with
      | none => exact .fail
      | some planVersionId =>
        refine Checked.ensures_bind (ensureBillingAccount_checked (S := [billingAccounts]) (by decide) _) hs₂
          fun account s₃ hs₃ h₃ => ?_
        refine Checked.ensures_bind (linkStripeCustomer_checked (S := [stripeCustomers]) (by decide) _ _) hs₃
          fun _ s₄ hs₄ h₄ => ?_
        have hrow₄ : subscriptionOf sid s₄.db = some row := by
          rwa [subscriptionOf_congr]
          rw [h₄ _ (by decide), h₃ _ (by decide), h₂ _ (by decide), h₁ _ (by decide)]
        have hother : (upsertSubscriptionProjection clock
            { existing := some existing
              customerId := customerId
              billingAccountId := account
              planVersionId := planVersionId
              stripeSubscriptionId := change.stripeSubscriptionId
              status := change.status
              currentPeriodStart := change.currentPeriodStart
              currentPeriodEnd := change.currentPeriodEnd
              cancelAtPeriodEnd := change.cancelAtPeriodEnd
              stripeEventAt := some clock.utcNow } : Tx StripeWebhookApplyError _).Ensures s₄ fun _ s' =>
            subscriptionOf sid s'.db = some row := by
          refine Prog.Ensures.mono ensures_updateOne fun _ s' h => ?_
          rw [h.2, subscriptionOf_update (f := project _) hrow₄ fun _ => rfl, if_neg]
          rwa [hid]
        refine Prog.Ensures.bind (hother.and
          ((upsertSubscriptionProjection_checked (S := [subscriptions]) (by decide) _ _).ensures hs₄))
          fun r s₅ h₅ => ?_
        obtain ⟨hrow₅, hs₅, -⟩ := h₅
        have hrest : Checked (ε := StripeWebhookApplyError) [commercialAuditEvents, outboxEvents, licenses] (do
            writeOperatorAudit
              { eventType := "subscription_resynced"
                operatorId := operatorId
                customerId := some r.val.customerId
                targetType := "subscription"
                targetId := toString r.id
                reason := reason
                beforeState := some (subscriptionState existing).json
                afterState := some (subscriptionState r).json
                correlationId := correlationId }
            writeResyncOutbox (Decidable.decide (subscriptionState existing ≠ subscriptionState r)) clock.utcNow r
            let sync ← LicensingRepository.syncLicenseForSubscription clock r.val.customerId r.id
              r.val.planVersionId change.status
            auditResyncedLicense operatorId reason correlationId r sync
            pure (some (⟨r.id, r.val.customerId, r.val.status,
              Decidable.decide (subscriptionState existing ≠ subscriptionState r),
              sync.map (·.auditEventType)⟩ : AdminResyncOutcome))) := by
          exact resyncFollowUp_checked (by decide) (by decide) (by decide) _ _ _ _ _ _ _ _ _
        exact Prog.Ensures.mono (ensures_subscriptionOf hrest hs₅ (by decide)) fun _ s₆ h₆ => h₆.trans hrow₅

/-- A webhook that is not about a stored subscription leaves it alone. -/
lemma deliver_other (hs : Stored s) (clock : Clock) {event : ParsedStripeEvent}
    (h : isAbout sid event = false) :
    subscriptionOf sid (deliver clock event s).db = subscriptionOf sid s.db := by
  refine ensures_deliver (R := fun d => subscriptionOf sid d = subscriptionOf sid s.db) hs clock ?_ rfl ?_
  · intro d d' hsame hd
    exact (subscriptionOf_congr (hsame _ (by decide))).trans hd
  · intro _ s₁ id hs₁ hsame
    have hbefore : subscriptionOf sid s₁.db = subscriptionOf sid s.db := subscriptionOf_congr (hsame _ (by decide))
    exact (ensures_applySupportedEvent_other hs₁ clock id h).mono fun _ s₂ h₂ => h₂.trans hbefore

/-- The operations that may move the row: webhooks about it and resyncs of it. -/
def moves (sid : String) (rowId : ℕ) : Operation → Bool
  | .webhook _ event => isAbout sid event
  | .resync _ subscriptionId _ _ _ _ => subscriptionId == rowId
  | _ => false

/-- No other operation of the service touches a projected subscription. -/
theorem apply_subscriptionOf (hs : Stored s) (hrow : subscriptionOf sid s.db = some row) {op : Operation}
    (h : moves sid row.id op = false) : subscriptionOf sid (op.apply s).db = some row := by
  have hframe : subscriptions ∉ op.tables → subscriptionOf sid (op.apply s).db = some row := by
    intro ht
    rwa [subscriptionOf_congr ((op.apply_follows s).table ht)]
  cases op with
  | webhook clock event => exact (deliver_other hs clock h).trans hrow
  | resync clock subscriptionId change operatorId reason correlationId =>
    have hne : row.id ≠ subscriptionId := by
      intro heq
      simp [moves, heq] at h
    have hall := ensures_applyAdminResync_other hs clock change operatorId reason correlationId hrow hne
    rcases hexec : (applyAdminResync clock subscriptionId change operatorId reason
      correlationId).execute s with ⟨r, s'⟩
    rw [Operation.apply, after, hexec]
    rcases hall.execute hexec with ⟨a, -, hq⟩ | ⟨-, hdb⟩
    · exact hq
    · rw [← hrow]
      exact congrArg _ hdb
  | customer clock authUserId aal request =>
    refine hframe ?_
    cases request <;> dsimp only [Operation.tables, CustomerRequest.tables] <;> decide
  | provision | suspend | restore | requireMfa | issueLicense | revokeLicense | override | adjustUsage
  | fleetPolicy | sweep | advanceDeletion | rejectDeletion | executeDeletion =>
    refine hframe ?_
    dsimp only [Operation.tables]
    decide

def statusOf (sid : String) (d : Database) : Option SubscriptionStatus := (projected sid d).map (·.status)

/-- A newer subscription event, or a resync. -/
def Renews (sid : String) : Operation → DbStore → Prop
  | .webhook _ event, s => ∃ p change, projected sid s.db = some p ∧
      event.subscriptionChange = some change ∧ change.stripeSubscriptionId = sid ∧
      isStaleEvent event.createdAt p.stripeEventAt = false
  | .resync _ subscriptionId _ _ _ _, s => ∃ p, projected sid s.db = some p ∧ p.subscriptionId = subscriptionId
  | _, _ => False

/-- A payment failure that is neither stale nor a duplicate. -/
def FailedPayment (sid : String) : Operation → DbStore → Prop
  | .webhook _ event, s => ∃ p invoice, projected sid s.db = some p ∧
      event.invoiceChange = some invoice ∧ invoice.stripeSubscriptionId = sid ∧
      event.eventType = "invoice.payment_failed" ∧
      pending event s.db = true ∧ isStaleEvent event.createdAt p.stripeEventAt = false
  | _, _ => False

lemma invoiceChange_type {event : ParsedStripeEvent} {invoice : StripeInvoiceChange}
    (h : event.invoiceChange = some invoice) :
    event.eventType = "invoice.paid" ∨ event.eventType = "invoice.payment_failed" := by
  unfold ParsedStripeEvent.invoiceChange at h
  split at h
  · rename_i hmem
    simpa using hmem
  · cases h

/-- Webhooks carry what `parse_event` makes of a payload. -/
def Genuine : Operation → Prop
  | .webhook _ event => ∃ value, parseEvent value = some event
  | _ => True

lemma receiptStatus_of_parse {event : ParsedStripeEvent} (h : ∃ value, parseEvent value = some event) :
    event.receiptStatus = if isSupportedWebhookEvent event.eventType then .received else .ignored := by
  obtain ⟨value, hparse⟩ := h
  obtain ⟨id, -, hparse⟩ := Option.bind_eq_some_iff.mp hparse
  obtain ⟨eventType, -, rfl⟩ := Option.map_eq_some_iff.mp hparse
  rfl

lemma supported_of_about {event : ParsedStripeEvent} (habout : isAbout sid event = true) :
    isSupportedWebhookEvent event.eventType = true := by
  rcases isAbout_cases habout with ⟨change, hchange, -⟩ | ⟨invoice, -, hinvoice, -⟩
  · unfold ParsedStripeEvent.subscriptionChange at hchange
    split at hchange
    · rename_i hmem
      simp only [isSupportedWebhookEvent, List.contains_cons, List.contains_nil, Bool.or_false,
        Bool.or_eq_true, beq_iff_eq] at hmem ⊢
      tauto
    · cases hchange
  · rcases invoiceChange_type hinvoice with htype | htype <;> rw [htype] <;> decide

lemma statusOf_of {d : Database} (h : projected sid d = some p) : statusOf sid d = some p.status := by
  rw [statusOf, h]
  rfl

/-- An event of a canceled subscription that does not renew it reopens it exactly if it is a
payment failure. -/
lemma deliver_canceled (hs : Stored s) (clock : Clock) {event : ParsedStripeEvent}
    (hp : projected sid s.db = some p) (hc : p.status = .canceled) (habout : isAbout sid event = true)
    (hgenuine : ∃ value, parseEvent value = some event) (hrenews : ¬Renews sid (.webhook clock event) s) :
    statusOf sid (deliver clock event s).db = some .canceled ↔
      ¬FailedPayment sid (.webhook clock event) s := by
  have hkeep : projected sid (deliver clock event s).db = some p →
      statusOf sid (deliver clock event s).db = some .canceled := by
    intro h
    rw [statusOf_of h, hc]
  by_cases hpending : pending event s.db = true
  · by_cases hstale : isStaleEvent event.createdAt p.stripeEventAt = true
    · have hacc : accepted event p s.db = true := by
        rw [accepted, hstale, Bool.true_or]
      have happ := (deliver_applied hs clock hp habout hpending hacc).projected
      rw [eventEffect, if_pos hstale] at happ
      refine iff_of_true (hkeep happ) ?_
      rintro ⟨p', invoice, hp', -, -, -, -, hfresh⟩
      cases hp.symm.trans hp'
      rw [hstale] at hfresh
      cases hfresh
    · have hfresh := (Bool.not_eq_true _).mp hstale
      rcases isAbout_cases habout with ⟨change, hchange, hsid⟩ | ⟨invoice, hnone, hinvoice, hsid⟩
      · exact absurd ⟨p, change, hp, hchange, hsid, hfresh⟩ hrenews
      · have hacc : accepted event p s.db = true := by
          rw [accepted, hnone]
          simp
        have happ := (deliver_applied hs clock hp habout hpending hacc).projected
        rw [eventEffect, if_neg hstale, hnone, hinvoice] at happ
        dsimp only at happ
        have hstatus := invoiceChange_status hinvoice
        rcases invoiceChange_type hinvoice with htype | htype
        · rw [if_pos htype] at hstatus
          rw [invoiceEffect_kept ⟨hc, hstatus⟩] at happ
          refine iff_of_true (hkeep happ) ?_
          rintro ⟨p', invoice', -, -, -, htype', -⟩
          rw [htype] at htype'
          revert htype'
          decide
        · rw [if_neg (by rw [htype]; decide)] at hstatus
          refine iff_of_false ?_ fun h => h ⟨p, invoice, hp, hinvoice, hsid, htype, hpending, hfresh⟩
          rw [statusOf_of happ, hstatus, invoiceEffect_written (by simp)]
          simp
  · have hheld : ∃ r, receiptOf event.id s.db = some r ∧
        ¬(r.val.status = .received ∧ event.receiptStatus = .received) := by
      rw [pending_iff] at hpending
      push Not at hpending
      obtain ⟨hne, hstatus⟩ := hpending
        ((receiptStatus_of_parse hgenuine).trans (if_pos (supported_of_about habout)))
      obtain ⟨r, hr⟩ := Option.ne_none_iff_exists'.mp hne
      exact ⟨r, hr, fun h => hstatus r hr h.1⟩
    obtain ⟨r, hr, hstatus⟩ := hheld
    refine iff_of_true (hkeep ?_) ?_
    · rw [deliver_duplicate clock hr hstatus, hp]
    · rintro ⟨p', invoice, -, -, -, -, hpending', -⟩
      exact hpending hpending'

lemma rowId_of_projected {d : Database} (h : projected sid d = some p) :
    ∃ row, subscriptionOf sid d = some row ∧ row.id = p.subscriptionId ∧ projection row = p := by
  obtain ⟨row, hrow, rfl⟩ := Option.map_eq_some_iff.mp h
  exact ⟨row, hrow, rfl, rfl⟩

/-- One step from `canceled`. -/
lemma apply_canceled (hs : Stored s) (hc : statusOf sid s.db = some .canceled) {op : Operation}
    (hgenuine : Genuine op) (hrenews : ¬Renews sid op s) :
    statusOf sid (op.apply s).db = some .canceled ↔ ¬FailedPayment sid op s := by
  obtain ⟨p, hp, hstatus⟩ := Option.map_eq_some_iff.mp hc
  obtain ⟨row, hrow, hid, rfl⟩ := rowId_of_projected hp
  by_cases hmoves : moves sid row.id op = true
  · cases op with
    | webhook clock event => exact deliver_canceled hs clock hp hstatus hmoves hgenuine hrenews
    | resync clock subscriptionId change operatorId reason correlationId =>
      refine absurd ⟨projection row, hp, ?_⟩ hrenews
      exact (beq_iff_eq.mp hmoves).symm
    | _ => cases hmoves
  · have hmoves := (Bool.not_eq_true _).mp hmoves
    have hkept := apply_subscriptionOf hs hrow hmoves
    refine iff_of_true ?_ ?_
    · rw [statusOf, projected, hkept]
      exact congrArg some hstatus
    · intro h
      cases op with
      | webhook clock event =>
        obtain ⟨p', invoice, -, hinvoice, hsid, -⟩ := h
        have hnone : event.subscriptionChange = none := by
          cases hchange : event.subscriptionChange with
          | none => rfl
          | some change =>
            rw [invoiceChange_of_change hchange] at hinvoice
            cases hinvoice
        have habout : isAbout sid event = true := by
          simp [isAbout, hnone, hinvoice, hsid]
        rw [moves, habout] at hmoves
        cases hmoves
      | _ => exact h

/-- A canceled subscription that no newer subscription event and no resync renews stays canceled
exactly as long as no fresh payment failure arrives. -/
theorem canceled_final_iff (hs : Stored s) (hc : statusOf sid s.db = some .canceled) {ops : List Operation}
    (hops : EachStep (fun op s => Genuine op ∧ ¬Renews sid op s) ops s) :
    EachState (fun s => statusOf sid s.db = some .canceled) ops s ↔
      EachStep (fun op s => ¬FailedPayment sid op s) ops s := by
  refine eachState_iff (I := fun s => Stored s) (fun op s h => (op.apply_follows s).stored h) ?_ hs hc hops
  exact fun op s hs hc hq => apply_canceled hs hc hq.1 hq.2

/-- The sample subscription is deleted at 10; a payment failure of 20 arrives. -/
def canceledStore : DbStore := deliver sampleClock deletedEvent sampleStore

def failedPayload : Value :=
  .obj [("id", .str "evt_3"), ("type", .str "invoice.payment_failed"), ("created", .int 20),
    ("data", .obj [("object", .obj [("id", .str "in_2"), ("subscription", .str "sub_1")])])]

def failedOperation : Operation :=
  .webhook sampleClock ((parseEvent failedPayload).getD (stripeObject "" "" 0 .null))

lemma canceledStore_stored : Stored canceledStore := deliver_stored sampleStore_stored _ _

lemma canceledStore_canceled : statusOf "sub_1" canceledStore.db = some .canceled := by decide

lemma failedOperation_genuine : Genuine failedOperation := ⟨failedPayload, rfl⟩

lemma failedOperation_not_renewing (s : DbStore) : ¬Renews "sub_1" failedOperation s := by
  rintro ⟨p, change, -, hchange, -⟩
  cases hchange

/-- An invoice event reopens a canceled subscription. -/
theorem canceled_reopened : Stored canceledStore ∧ statusOf "sub_1" canceledStore.db = some .canceled ∧
    Genuine failedOperation ∧ ¬Renews "sub_1" failedOperation canceledStore ∧
    statusOf "sub_1" (failedOperation.apply canceledStore).db = some .pastDue :=
  ⟨canceledStore_stored, canceledStore_canceled, failedOperation_genuine,
    failedOperation_not_renewing _, by decide⟩

theorem canceled_final_iff_sample :
    EachState (fun s => statusOf "sub_1" s.db = some .canceled) [failedOperation] canceledStore ↔
      EachStep (fun op s => ¬FailedPayment "sub_1" op s) [failedOperation] canceledStore :=
  canceled_final_iff canceledStore_stored canceledStore_canceled
    ⟨⟨failedOperation_genuine, failedOperation_not_renewing _⟩, trivial⟩

end ForgeCustomer.SubscriptionRuns
