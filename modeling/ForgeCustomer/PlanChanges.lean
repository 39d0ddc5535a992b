import ForgeCustomer.EntitlementEvaluation
import ForgeCustomer.LicenseOrder

/-!
# Plan changes

Which plan version a subscription is projected to, and which device limit and entitlement layer follow from it.
Both write paths look at the metadata first, then at the stored row, and only then at the price.
-/
namespace ForgeCustomer.PlanChanges
open SqlTables SqlPrograms SqlStatements DomainRules StripeEvents DatabaseTables AuditWriters LicensingRepository
  CommerceRepository LicenseSync SubscriptionProjection ServiceOperations WebhookDelivery WebhookOrder
  LicenseOrder EntitlementEvaluation TableName

variable {s s' : DbStore} {change : StripeSubscriptionChange} {event : ParsedStripeEvent} {clock : Clock}
  {planVersionId : ℕ} {d d' : Database} {existing : Option SubscriptionRow} {row : SubscriptionRow} {now : Time}

/-- The plan version is the only active one sold at the price of the object. -/
def SoldAs (change : StripeSubscriptionChange) (planVersionId : ℕ) (d : Database) : Prop :=
  ∃ price, change.stripePriceId = some price ∧ d.has planVersions planVersionId = true ∧
    ∀ e ∈ d planVersions, e.val.stripePriceId = some price ∧ e.val.status = .active ↔ e.id = planVersionId

/-- A subscription event that is applied and not stale, or a resync that succeeds. -/
inductive Reprojected (change : StripeSubscriptionChange) (clock : Clock) (s s' : DbStore) : Prop
  | webhook (event : ParsedStripeEvent) (record : StripeWebhookRecord)
      (about : event.subscriptionChange = some change) (applies : Applies event s.db)
      (fresh : isStaleEvent event.createdAt ((subscriptionOf change.stripeSubscriptionId s.db).bind
        fun row => row.val.stripeEventAt) = false)
      (succeeds : (processStripeWebhookEvent clock event).execute s = (.ok record, s'))
  | resync (row : SubscriptionRow) (operatorId reason : String) (correlationId : Option String)
      (outcome : Option AdminResyncOutcome)
      (about : subscriptionOf change.stripeSubscriptionId s.db = some row)
      (succeeds : (applyAdminResync clock row.id change operatorId reason correlationId).execute s =
        (.ok outcome, s'))

/-- A subscription as `current_subscription` reads it. -/
def planned (row : SubscriptionRow) (d : Database) : Option PlannedSubscription :=
  (planContext d row.val.planVersionId).map fun plan =>
    ⟨row.val.planVersionId, row.val.status, plan.planKey, row.val.stripeEventAt, row.val.createdAt⟩

/-- What a plan version puts on top of the included layer. -/
def layerOf (t : EntitlementState) (productKey : String) (planVersionId : ℕ) (included : PlanLayer) : PlanLayer :=
  planLayer t planVersionId
    ((planContext t.db planVersionId).bind fun plan =>
      (activeDocument t productKey).bind fun policy => limitsForPlan policy plan.planKey)
    included.quotas included.cadences

/-- The subscription is projected to the plan version, its active license has a device limit that `fits`, and
wherever it is its customer's current subscription, the entitlement layer is that plan's. -/
structure Projected (stripeSubscriptionId : String) (planVersionId : ℕ) (fits : ℕ → Prop) (row : SubscriptionRow)
    (d : Database) : Prop where
  stored : subscriptionOf stripeSubscriptionId d = some row
  plan : row.val.planVersionId = planVersionId
  license : ∀ limit, licenseTerms row.val.customerId row.id d = some (.active, limit) → fits limit
  layer : ∀ (t : EntitlementState) (productKey : String) (productId : ℕ) (included : PlanLayer), t.db = d →
    currentSubscription row.val.customerId productId d = planned row d →
    subscribedLayer t productKey (currentSubscription row.val.customerId productId d) included =
      layerOf t productKey planVersionId included

/-- The plan version takes effect: license and entitlements are those of the plan. -/
def TakesEffect (stripeSubscriptionId : String) (planVersionId : ℕ) (now : Time) (d : Database) : Prop :=
  ∃ row, Projected stripeSubscriptionId planVersionId
    (fun limit => planDeviceLimit now planVersionId d = some limit) row d

/-- What is looked at before the price, the metadata and then the stored row, names no other plan version. -/
def PriceDecides (change : StripeSubscriptionChange) (planVersionId : ℕ) (d : Database) : Prop :=
  match change.planVersionId with
  | some named => named = planVersionId
  | none => ∀ row, subscriptionOf change.stripeSubscriptionId d = some row → row.val.planVersionId = planVersionId

/-- In `past_due` the linked license is kept as it is. -/
def KeptInGrace (change : StripeSubscriptionChange) (d : Database) (limit : ℕ) : Prop :=
  change.status = .pastDue ∧ ∃ row, subscriptionOf change.stripeSubscriptionId d = some row ∧
    licenseTerms row.val.customerId row.id d = some (.active, limit)

/-- The plan version that `resolve_plan_version_id` finds. -/
def resolvedPlan (change : StripeSubscriptionChange) (existing : Option SubscriptionRow) (d : Database) : Option ℕ :=
  match change.planVersionId, existing, change.stripePriceId with
  | some planVersionId, _, _ => some planVersionId
  | none, some row, _ => some row.val.planVersionId
  | none, none, some stripePriceId => planVersionOfPrice stripePriceId d
  | none, none, none => none

lemma ensures_resolvePlanVersionId {ε : Type} [FromSql ε] :
    (resolvePlanVersionId change.planVersionId change.stripePriceId existing : Tx ε _).Ensures s fun p s' =>
      p = resolvedPlan change existing s.db ∧ s'.db = s.db := by
  cases hmeta : change.planVersionId with
  | some planVersionId => exact .pure ⟨by simp [resolvedPlan, hmeta], rfl⟩
  | none =>
    cases existing with
    | some row => exact .pure ⟨by simp [resolvedPlan, hmeta], rfl⟩
    | none =>
      cases hprice : change.stripePriceId with
      | none => exact .pure ⟨by simp [resolvedPlan, hmeta, hprice], rfl⟩
      | some price =>
        refine Prog.Ensures.mono ensures_select fun p s' h => ?_
        exact ⟨by simp [resolvedPlan, hmeta, hprice, h.1], by rw [h.2]⟩

/-- The written row is the one that is found again under the Stripe id. -/
lemma ensures_upsertSubscriptionProjection_found {ε : Type} [FromSql ε] (hs : Stored s) (clock : Clock)
    {input : SubscriptionProjectionInput}
    (hexisting : subscriptionOf input.stripeSubscriptionId s.db = input.existing) :
    (upsertSubscriptionProjection clock input : Tx ε _).Ensures s fun row s' =>
      subscriptionOf input.stripeSubscriptionId s'.db = some row ∧ row.val.planVersionId = input.planVersionId ∧
      (∀ e, input.existing = some e → row.id = e.id ∧ row.val.customerId = e.val.customerId) ∧
      (input.existing = none → s.db.has subscriptions row.id = false) := by
  unfold upsertSubscriptionProjection
  cases hi : input.existing with
  | none =>
    refine Prog.Ensures.mono ensures_insertRow fun row s' h => ?_
    obtain ⟨rfl, hdb⟩ := h
    rw [hi, subscriptionOf, List.find?_eq_none] at hexisting
    refine ⟨?_, rfl, fun e he => (by cases he), fun _ => ?_⟩
    · rw [hdb, subscriptionOf, Db.put_self, List.find?_append, List.find?_eq_none.mpr hexisting]
      simp
    · rw [Db.has, List.any_eq_false]
      intro e he hid
      exact absurd (hs.keyed.below _ e he) (by simp [beq_iff_eq.mp hid])
  | some e =>
    rw [hi] at hexisting
    refine Prog.Ensures.mono ensures_updateOne fun row s' h => ?_
    obtain ⟨⟨e₀, he₀, hid, rfl⟩, hdb⟩ := h
    obtain rfl : e₀ = e := hs.keyed.unique he₀ (subscriptionOf_mem hexisting) (by simpa using hid)
    refine ⟨?_, rfl, fun e' he' => ?_, fun h => (by cases h)⟩
    · rw [hdb, subscriptionOf_update (f := project input) hexisting fun _ => rfl, if_pos rfl]
    · cases he'
      exact ⟨rfl, rfl⟩

/-- Row and license after a projection. -/
structure Reprojects (change : StripeSubscriptionChange) (existing : Option SubscriptionRow) (now : Time)
    (d d' : Database) (row : SubscriptionRow) : Prop where
  stored : subscriptionOf change.stripeSubscriptionId d' = some row
  plan : resolvedPlan change existing d = some row.val.planVersionId
  terms : ∃ limit, planDeviceLimit now row.val.planVersionId d' = some limit ∧
    licenseTerms row.val.customerId row.id d' =
      syncedTerms limit change.status (existing.bind fun e => licenseTerms e.val.customerId e.id d)

/-- What webhooks and resyncs share, as in `ensures_rebill`; the continuation `k` syncs the license. -/
lemma ensures_reproject {α : Type} (hs : Stored s) (clock : Clock)
    (hexisting : subscriptionOf change.stripeSubscriptionId s.db = existing) (eventAt : Option Time)
    (k : SubscriptionRow → Tx StripeWebhookApplyError α)
    (hframe : ∀ row, Checked [commercialAuditEvents, outboxEvents, licenses] (k row))
    (hk : ∀ row s₁, Stored s₁ → row ∈ s₁.db subscriptions → (k row).Ensures s₁ fun _ s' =>
      ∃ limit, planDeviceLimit clock.now row.val.planVersionId s₁.db = some limit ∧
        licenseTerms row.val.customerId row.id s'.db =
          syncedTerms limit change.status (licenseTerms row.val.customerId row.id s₁.db)) :
    (do
      let customer ← resolveCustomerId change.customerId change.stripeCustomerId existing
      match customer with
      | none => .fail .missingCustomer
      | some customerId =>
        let planVersion ← resolvePlanVersionId change.planVersionId change.stripePriceId existing
        match planVersion with
        | none => .fail .missingPlanVersion
        | some planVersionId =>
          let billingAccountId ← ensureBillingAccount customerId
          linkStripeCustomer billingAccountId change.stripeCustomerId
          let row ← upsertSubscriptionProjection clock
            { existing := existing
              customerId := customerId
              billingAccountId := billingAccountId
              planVersionId := planVersionId
              stripeSubscriptionId := change.stripeSubscriptionId
              status := change.status
              currentPeriodStart := change.currentPeriodStart
              currentPeriodEnd := change.currentPeriodEnd
              cancelAtPeriodEnd := change.cancelAtPeriodEnd
              stripeEventAt := eventAt }
          k row : Tx StripeWebhookApplyError α).Ensures s fun _ s' =>
      ∃ row, Reprojects change existing clock.now s.db s'.db row := by
  refine Checked.ensures_bind (resolveCustomerId_checked (S := []) _ _ _) hs fun customer s₁ hs₁ h₁ => ?_
  cases customer with
  | none => exact .fail
  | some customerId =>
    refine Prog.Ensures.bind (ensures_resolvePlanVersionId.and
      ((resolvePlanVersionId_checked (S := []) _ _ _).ensures hs₁)) fun planVersion s₂ h₂ => ?_
    obtain ⟨⟨hplan, hdb₂⟩, hs₂, -⟩ := h₂
    have hdb₁ : s₁.db = s.db := funext fun t => h₁ t (by simp)
    rw [hdb₁] at hplan hdb₂
    cases planVersion with
    | none => exact .fail
    | some planVersionId =>
      refine Checked.ensures_bind (ensureBillingAccount_checked (S := [billingAccounts]) (by decide) _) hs₂
        fun account s₃ hs₃ h₃ => ?_
      refine Checked.ensures_bind (linkStripeCustomer_checked (S := [stripeCustomers]) (by decide) _ _) hs₃
        fun _ s₄ hs₄ h₄ => ?_
      have hsame₄ : ∀ t, t ∉ [billingAccounts, stripeCustomers] → s₄.db t = s.db t := by
        intro t ht
        simp only [List.mem_cons, List.not_mem_nil, or_false, not_or] at ht
        rw [h₄ t (by simp [ht.2]), h₃ t (by simp [ht.1]), hdb₂]
      have hexisting₄ : subscriptionOf change.stripeSubscriptionId s₄.db = existing := by
        rw [subscriptionOf_congr (hsame₄ _ (by decide)), hexisting]
      refine Prog.Ensures.bind ((ensures_upsertSubscriptionProjection_found hs₄ clock hexisting₄).and
        ((upsertSubscriptionProjection_checked (S := [subscriptions]) (by decide) _ _).ensures hs₄))
        fun row s₅ h₅ => ?_
      obtain ⟨⟨hrow, hrowPlan, hagain, hnew⟩, hs₅, h₅⟩ := h₅
      refine Prog.Ensures.mono ((hk row s₅ hs₅ (subscriptionOf_mem hrow)).and (hframe row).ensures_frame)
        fun _ s₆ h₆ => ⟨row, ?_⟩
      obtain ⟨⟨limit, hlimit, hterms⟩, h₆⟩ := h₆
      have hlicenses : s₅.db licenses = s.db licenses := by rw [h₅ _ (by decide), hsame₄ _ (by decide)]
      refine ⟨?_, ?_, limit, ?_, ?_⟩
      · rw [subscriptionOf_congr (h₆ _ (by decide)), hrow]
      · rw [← hplan, hrowPlan]
      · rw [← hlimit]
        refine planDeviceLimit_congr (fun t ht => h₆ t ?_) _ _
        revert ht
        cases t <;> decide
      · rw [hterms]
        congr 1
        cases existing with
        | none =>
          rw [licenseTerms_congr (h₅ _ (by decide))]
          exact licenseTerms_unstored hs₄.intact (hnew rfl) _
        | some e =>
          obtain ⟨hid, hcustomer⟩ := hagain e rfl
          rw [hid, hcustomer, licenseTerms_congr hlicenses]
          rfl

lemma Reprojects.congr {d₁ d₁' d₂ d₂' : Database} (h : Reprojects change existing now d₁ d₁' row)
    (hplans : d₂ planVersions = d₁ planVersions) (hlicenses : d₂ licenses = d₁ licenses)
    (hsame : ∀ t, t ≠ stripeWebhookEvents → d₂' t = d₁' t) : Reprojects change existing now d₂ d₂' row := by
  obtain ⟨hstored, hplan, limit, hlimit, hterms⟩ := h
  refine ⟨?_, ?_, limit, ?_, ?_⟩
  · rw [subscriptionOf_congr (hsame _ (by decide)), hstored]
  · rw [← hplan]
    unfold resolvedPlan
    split <;> simp [planVersionOfPrice, hplans]
  · rw [← hlimit]
    refine planDeviceLimit_congr (fun t ht => hsame t ?_) _ _
    rintro rfl
    revert ht
    decide
  · rw [licenseTerms_congr (hsame _ (by decide)), hterms]
    cases existing with
    | none => rfl
    | some e => simp only [Option.bind_some, licenseTerms_congr hlicenses]

lemma ensures_applySubscriptionChange_reprojects (hs : Stored s) (clock : Clock) (webhookEventId : ℕ)
    (hexisting : subscriptionOf change.stripeSubscriptionId s.db = existing)
    (hfresh : isStaleEvent event.createdAt (existing.bind fun row => row.val.stripeEventAt) = false) :
    (applySubscriptionChange clock webhookEventId event change).Ensures s fun _ s' =>
      ∃ row, Reprojects change existing clock.now s.db s'.db row := by
  have hs₀ : Stored (⟨s.db, s.seq + 1⟩ : DbStore) := hs.advance (Nat.le_succ _)
  refine ensures_select.bind fun found s₀ h₀ => ?_
  obtain ⟨hfound, rfl⟩ := h₀
  obtain rfl : found = existing := hfound.trans hexisting
  rw [if_neg (by simp [hfresh])]
  refine ensures_reproject hs₀ clock hexisting event.createdAt _ (fun row => ?_) fun row s₁ hs₁ hrow => ?_
  · exact followUp_checked (by decide) (by decide) (by decide) _ _ _ _ row _
  · exact Prog.Ensures.mono (runs_followUp hs₁ clock event _ change.status hrow rfl).ensures fun _ s₂ h => h.1

lemma ensures_process_reprojects (hs : Stored s) (clock : Clock) (habout : event.subscriptionChange = some change)
    (happlies : Applies event s.db) (hexisting : subscriptionOf change.stripeSubscriptionId s.db = existing)
    (hfresh : isStaleEvent event.createdAt (existing.bind fun row => row.val.stripeEventAt) = false) :
    (processStripeWebhookEvent clock event).Ensures s fun _ s' =>
      ∃ row, Reprojects change existing clock.now s.db s'.db row := by
  refine ensures_process (R := fun d => ∃ row, Reprojects change existing clock.now s.db d row) hs clock
    (fun d d' hsame h => ?_) (fun hno => absurd happlies hno) fun _ s₁ id hs₁ hsame => ?_
  · obtain ⟨row, hrow⟩ := h
    exact ⟨row, hrow.congr rfl rfl hsame⟩
  · rw [applySupportedEvent_change habout]
    refine Prog.Ensures.mono (ensures_applySubscriptionChange_reprojects hs₁ clock id
      ((subscriptionOf_congr (hsame _ (by decide))).trans hexisting) hfresh) fun _ s₂ h => ?_
    obtain ⟨row, hrow⟩ := h
    exact ⟨row, hrow.congr (hsame _ (by decide)).symm (hsame _ (by decide)).symm fun _ _ => rfl⟩

lemma ensures_applyAdminResync_reprojects (hs : Stored s) (clock : Clock) (operatorId reason : String)
    (correlationId : Option String) {e : SubscriptionRow}
    (hexisting : subscriptionOf change.stripeSubscriptionId s.db = some e) :
    (applyAdminResync clock e.id change operatorId reason correlationId).Ensures s fun _ s' =>
      ∃ row, Reprojects change (some e) clock.now s.db s'.db row := by
  have hs₀ : Stored (⟨s.db, s.seq + 1⟩ : DbStore) := hs.advance (Nat.le_succ _)
  refine ensures_selectForUpdate.bind fun found s₀ h₀ => ?_
  obtain ⟨hfound, rfl⟩ := h₀
  rw [← List.head?_filter, hs.keyed.filter_id (subscriptionOf_mem hexisting), List.head?_cons] at hfound
  subst hfound
  refine ensures_reproject hs₀ clock hexisting (some clock.utcNow) _ (fun row => ?_) fun row s₁ hs₁ hrow => ?_
  · exact resyncFollowUp_checked (by decide) (by decide) (by decide) _ _ _ _ _ _ row _ _
  · exact Prog.Ensures.mono (runs_resyncFollowUp hs₁ clock operatorId reason correlationId _ change.status hrow
      rfl _).ensures fun _ s₂ h => h.1

/-- Both paths resolve the plan before they overwrite the row and sync its license. -/
lemma Reprojected.reprojects (hs : Stored s) (h : Reprojected change clock s s') : Stored s' ∧
    ∃ row, Reprojects change (subscriptionOf change.stripeSubscriptionId s.db) clock.now s.db s'.db row := by
  cases h with
  | webhook event record about applies fresh succeeds =>
    refine ⟨?_, ?_⟩
    · rw [show s' = _ from (congrArg Prod.snd succeeds).symm]
      exact hs.execute (processStripeWebhookEvent_checked clock event)
    · exact ensures_process_reprojects hs clock about applies rfl fresh _ _ (Prog.run_of_execute_ok succeeds)
  | resync e operatorId reason correlationId outcome about succeeds =>
    refine ⟨?_, ?_⟩
    · rw [show s' = _ from (congrArg Prod.snd succeeds).symm]
      exact hs.execute (applyAdminResync_checked clock e.id change operatorId reason correlationId)
    · rw [about]
      exact ensures_applyAdminResync_reprojects hs clock operatorId reason correlationId about _ _
        (Prog.run_of_execute_ok succeeds)

lemma SoldAs.planVersionOfPrice {price : String} (h : SoldAs change planVersionId d)
    (hprice : change.stripePriceId = some price) : planVersionOfPrice price d = some planVersionId := by
  obtain ⟨price', hprice', hstored, honly⟩ := h
  obtain rfl : price = price' := Option.some.inj (hprice.symm.trans hprice')
  obtain ⟨e, he, hid⟩ := Db.has_iff.mp hstored
  have hsold := (honly e he).mpr hid
  rw [CommerceRepository.planVersionOfPrice]
  obtain ⟨e', he'⟩ : ∃ e', (d planVersions).find? (fun e =>
      e.val.stripePriceId == some price && e.val.status == .active) = some e' := by
    rw [← Option.isSome_iff_exists, List.find?_isSome]
    exact ⟨e, he, by simp [hsold]⟩
  have hmatch := List.find?_some he'
  rw [he', Option.map_some, (honly e' (List.mem_of_find?_eq_some he')).mp (by simpa using hmatch)]

/-- Then the plan version sold at the price is the one found. -/
lemma PriceDecides.resolvedPlan (h : PriceDecides change planVersionId d) (hsold : SoldAs change planVersionId d) :
    resolvedPlan change (subscriptionOf change.stripeSubscriptionId d) d = some planVersionId := by
  unfold PriceDecides at h
  cases hmeta : change.planVersionId with
  | some named =>
    rw [hmeta] at h
    simp [PlanChanges.resolvedPlan, hmeta, h]
  | none =>
    rw [hmeta] at h
    cases hrow : subscriptionOf change.stripeSubscriptionId d with
    | some row => simp [PlanChanges.resolvedPlan, hmeta, h row hrow]
    | none =>
      obtain ⟨price, hprice, -⟩ := id hsold
      simp [PlanChanges.resolvedPlan, hmeta, hprice, hsold.planVersionOfPrice hprice]

/-- An active license after a sync has the limit of the plan, except in dunning grace. -/
lemma syncedTerms_active {limit limit' : ℕ} {status : SubscriptionStatus} {old : Option (LicenseStatus × ℕ)}
    (h : syncedTerms limit status old = some (.active, limit')) :
    limit' = limit ∨ (status = .pastDue ∧ old = some (.active, limit')) := by
  cases old with
  | none =>
    rw [syncedTerms] at h
    split at h
    · exact .inl (congrArg (fun p => p.2) (Option.some.inj h)).symm
    · cases h
  | some terms =>
    obtain ⟨old, oldLimit⟩ := terms
    cases old <;> cases status <;>
      simp_all [syncedTerms, licenseSyncAction, SubscriptionStatus.grantsCloud]

/-- The current subscription brings the layer of its plan version. -/
lemma subscribedLayer_planned (hs : Stored s) (hrow : row ∈ s.db subscriptions) {t : EntitlementState}
    (ht : t.db = s.db) (productKey : String) (included : PlanLayer) :
    subscribedLayer t productKey (planned row s.db) included =
      layerOf t productKey row.val.planVersionId included := by
  obtain ⟨plan, hplan, -⟩ := exists_planContext hs.intact (subscription_refs hs.intact hrow).2.2
  simp only [planned, layerOf, ht, hplan, Option.map_some, Option.bind_some, subscribedLayer]

/-- Where nothing that is looked at before the price names another plan version, the row, the entitlement layer
and, except for a license kept in dunning grace, the device limit are those of the plan version sold. -/
theorem plan_projected (hs : Stored s) (hsold : SoldAs change planVersionId s.db)
    (hdecides : PriceDecides change planVersionId s.db) (h : Reprojected change clock s s') :
    ∃ row, Projected change.stripeSubscriptionId planVersionId
      (fun limit => planDeviceLimit clock.now planVersionId s'.db = some limit ∨ KeptInGrace change s.db limit)
      row s'.db := by
  obtain ⟨hs', row, hrow, hplan, limit, hlimit, hterms⟩ := h.reprojects hs
  rw [hdecides.resolvedPlan hsold] at hplan
  obtain rfl : planVersionId = row.val.planVersionId := Option.some.inj hplan
  refine ⟨row, hrow, rfl, fun limit' hactive => ?_, fun t productKey productId included ht hcurrent => ?_⟩
  · rw [hterms] at hactive
    rcases syncedTerms_active hactive with rfl | ⟨hgrace, hold⟩
    · exact .inl hlimit
    · obtain ⟨e, he, hterms⟩ := Option.bind_eq_some_iff.mp hold
      exact .inr ⟨hgrace, e, he, hterms⟩
  · rw [hcurrent]
    exact subscribedLayer_planned hs' (subscriptionOf_mem hrow) ht productKey included

/-- The tables that plans and their limits are read from are not written. -/
lemma Reprojected.planDeviceLimit_eq (h : Reprojected change clock s s') (now : Time) (planVersionId : ℕ) :
    planDeviceLimit now planVersionId s'.db = planDeviceLimit now planVersionId s.db := by
  cases h with
  | webhook event record about applies fresh succeeds =>
    refine planDeviceLimit_congr (fun t ht => ?_) now planVersionId
    rw [show s' = _ from (congrArg Prod.snd succeeds).symm]
    refine (processStripeWebhookEvent_checked clock event).touches.execute s ?_
    revert ht
    cases t <;> decide
  | resync e operatorId reason correlationId outcome about succeeds =>
    refine planDeviceLimit_congr (fun t ht => ?_) now planVersionId
    rw [show s' = _ from (congrArg Prod.snd succeeds).symm]
    refine (applyAdminResync_checked clock e.id change operatorId reason correlationId).touches.execute s ?_
    revert ht
    cases t <;> decide

/-- A projection that takes effect had nothing before the price that names another plan version. -/
lemma Reprojects.priceDecides (h : Reprojects change (subscriptionOf change.stripeSubscriptionId d) now d d' row) :
    PriceDecides change row.val.planVersionId d := by
  have hplan := h.plan
  unfold PriceDecides
  cases hmeta : change.planVersionId with
  | some named =>
    simp only [resolvedPlan, hmeta, Option.some.injEq] at hplan
    exact hplan
  | none =>
    intro e he
    simpa only [resolvedPlan, hmeta, he, Option.some.injEq] using hplan

/-- The plan version that is sold takes effect exactly where nothing looked at before the price names another one
and no license of another limit is kept in dunning grace. -/
theorem plan_takes_effect_iff (hs : Stored s) (hsold : SoldAs change planVersionId s.db)
    (h : Reprojected change clock s s') :
    TakesEffect change.stripeSubscriptionId planVersionId clock.now s'.db ↔
      PriceDecides change planVersionId s.db ∧
        ∀ limit, KeptInGrace change s.db limit → planDeviceLimit clock.now planVersionId s.db = some limit := by
  constructor
  · rintro ⟨row, heffect⟩
    obtain ⟨-, row', hrow'⟩ := h.reprojects hs
    obtain rfl : row = row' := Option.some.inj (heffect.stored.symm.trans hrow'.stored)
    obtain rfl : row.val.planVersionId = planVersionId := heffect.plan
    refine ⟨hrow'.priceDecides, fun limit hgrace => ?_⟩
    obtain ⟨hpastDue, e, he, hold⟩ := hgrace
    obtain ⟨limit', -, hterms⟩ := hrow'.terms
    rw [he, Option.bind_some, hold, hpastDue] at hterms
    have hfits := heffect.license limit hterms
    rwa [h.planDeviceLimit_eq] at hfits
  · rintro ⟨hdecides, hgrace⟩
    obtain ⟨row, hrow⟩ := plan_projected hs hsold hdecides h
    refine ⟨row, hrow.stored, hrow.plan, fun limit hactive => ?_, hrow.layer⟩
    rcases hrow.license limit hactive with hlimit | hkept
    · exact hlimit
    · rw [h.planDeviceLimit_eq]
      exact hgrace limit hkept

/-- The plan version is the only active one sold at the price, and still does not take effect. -/
structure Ineffective (change : StripeSubscriptionChange) (planVersionId : ℕ) (clock : Clock) (s s' : DbStore) :
    Prop where
  stored : Stored s
  sold : SoldAs change planVersionId s.db
  reprojected : Reprojected change clock s s'
  ineffective : ¬TakesEffect change.stripeSubscriptionId planVersionId clock.now s'.db

/-- An update of `sub_1` to `price_b`. -/
def switchEvent (status : String) (metadataPlan : Option String) : ParsedStripeEvent :=
  stripeObject "evt_3" "customer.subscription.updated" 30
    (.obj [("id", .str "sub_1"), ("status", .str status),
      ("metadata", .obj (metadataPlan.toList.map fun plan => ("plan_version_id", .str plan))),
      ("items", .obj [("data", .arr [.obj [("price", .obj [("id", .str "price_b")])]])])])

def switchChange (status : SubscriptionStatus) (metadataPlan : Option ℕ) : StripeSubscriptionChange :=
  ⟨"sub_1", none, none, metadataPlan, some "price_b", status, none, none, false⟩

/-- The metadata still name the old plan version. -/
def staleEvent : ParsedStripeEvent := switchEvent "active" (some "00000000-0000-0000-0000-000000000003")

/-- The metadata name no plan version. -/
def bareEvent : ParsedStripeEvent := switchEvent "active" none

def currentEvent : ParsedStripeEvent := switchEvent "active" (some "00000000-0000-0000-0000-000000000004")

def graceEvent : ParsedStripeEvent := switchEvent "past_due" (some "00000000-0000-0000-0000-000000000004")

lemma soldAs_switch (status : SubscriptionStatus) (metadataPlan : Option ℕ) :
    SoldAs (switchChange status metadataPlan) 4 sampleStore.db :=
  ⟨"price_b", rfl, by decide, by decide⟩

/-- The first delivery of an event. -/
lemma reprojected_deliver (s : DbStore) (clock : Clock) (habout : event.subscriptionChange = some change)
    (hnew : receiptOf event.id s.db = none) (hreceived : event.receiptStatus = .received)
    (hfresh : isStaleEvent event.createdAt ((subscriptionOf change.stripeSubscriptionId s.db).bind
      fun row => row.val.stripeEventAt) = false)
    (hok : ((processStripeWebhookEvent clock event).execute s).1.toBool = true) :
    Reprojected change clock s (deliver clock event s) := by
  obtain ⟨record, hrecord⟩ := Prog.exists_execute_ok hok
  exact .webhook event record habout (by simp [Applies, hnew, hreceived]) hfresh hrecord

theorem plan_takes_effect_iff_switch :
    TakesEffect "sub_1" 4 sampleClock.now (deliver sampleClock currentEvent sampleStore).db := by
  have hdelivered : Reprojected (switchChange .active (some 4)) sampleClock sampleStore
      (deliver sampleClock currentEvent sampleStore) :=
    reprojected_deliver sampleStore sampleClock rfl rfl rfl (by decide) (by decide)
  have heffect := (plan_takes_effect_iff sampleStore_stored (soldAs_switch .active (some 4)) hdelivered).mpr
    ⟨rfl, fun limit hgrace => absurd hgrace.1 (by decide)⟩
  exact heffect

/-- `sampleStore` with a license of nine devices. -/
def licensedStore : DbStore := ⟨sampleStore.db.put licenses [⟨8, ⟨0, 1, some 6, .active, 9, 0, none⟩⟩], 9⟩

lemma licensedStore_stored : Stored licensedStore := by
  refine ⟨⟨fun t => ?_, fun t => ?_⟩, fun t => ?_⟩ <;> cases t <;>
    simp [licensedStore, sampleStore, sampleRows, Db.put, Db.refsOk, Schema.refs, foreignKeys, Db.resolves, Db.has]

/-- A row that stays at the old plan version. -/
lemma ineffective_of_old (hold : (subscriptionOf "sub_1" d).map (fun row => row.val.planVersionId) = some 3) :
    ¬TakesEffect "sub_1" 4 now d := by
  rintro ⟨row, h⟩
  have hplan : row.val.planVersionId = 4 := h.plan
  rw [h.stored, Option.map_some, hplan] at hold
  cases hold

/-- The metadata that a switch in the portal leaves behind, or else the stored row, win over the price, and a
`past_due` license keeps its limit. -/
theorem plan_switch_lost :
    Ineffective (switchChange .active (some 3)) 4 sampleClock sampleStore
      (deliver sampleClock staleEvent sampleStore) ∧
    Ineffective (switchChange .active none) 4 sampleClock sampleStore
      (deliver sampleClock bareEvent sampleStore) ∧
    Ineffective (switchChange .pastDue (some 4)) 4 sampleClock licensedStore
      (deliver sampleClock graceEvent licensedStore) := by
  refine ⟨⟨sampleStore_stored, soldAs_switch .active (some 3), ?_, ineffective_of_old (by decide)⟩,
    ⟨sampleStore_stored, soldAs_switch .active none, ?_, ineffective_of_old (by decide)⟩,
    ⟨licensedStore_stored, soldAs_switch .pastDue (some 4), ?_, fun h => ?_⟩⟩
  · exact reprojected_deliver sampleStore sampleClock rfl rfl rfl (by decide) (by decide)
  · exact reprojected_deliver sampleStore sampleClock rfl rfl rfl (by decide) (by decide)
  · exact reprojected_deliver licensedStore sampleClock rfl rfl rfl (by decide) (by decide)
  · obtain ⟨row, h⟩ := h
    have hstored : subscriptionOf "sub_1" _ = some row := h.stored
    have hrow : (subscriptionOf "sub_1" (deliver sampleClock graceEvent licensedStore).db).map
        (fun row => (row.val.customerId, row.id)) = some (0, 6) := by decide
    rw [hstored, Option.map_some, Option.some.injEq, Prod.mk.injEq] at hrow
    obtain ⟨hcustomer, hid⟩ := hrow
    have hlimit := h.license 9 (by rw [hcustomer, hid]; decide)
    revert hlimit
    decide

end ForgeCustomer.PlanChanges
