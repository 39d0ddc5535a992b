import ForgeCustomer.LicensingRepository

/-!
# The commerce repository

`repositories::commerce`: Stripe webhooks, applied once per event id, and the operator's
resync.
-/
namespace ForgeCustomer.CommerceRepository
open SqlTables SqlPrograms SqlStatements JsonValue DomainRules StripeEvents DatabaseTables AuditWriters
  LicensingRepository TableName

inductive StripeWebhookApplyError where
  | database (e : SqlError)
  | missingCheckoutFields
  | missingSubscriptionFields
  | missingInvoiceFields
  | missingCustomer
  | missingPlanVersion
  | missingSubscription
deriving DecidableEq

instance : FromSql StripeWebhookApplyError := ⟨.database⟩

inductive RecordOutcome where
  | inserted | duplicate
deriving DecidableEq

structure StripeWebhookRecord where
  outcome : RecordOutcome
  status : ReceiptStatus
deriving DecidableEq

abbrev SubscriptionRow := Entry Subscription

/-- What audit rows show of a subscription. -/
structure SubscriptionState where
  subscriptionId : ℕ
  customerId : ℕ
  planVersionId : ℕ
  status : SubscriptionStatus
  currentPeriodEnd : Option Time
  cancelAtPeriodEnd : Bool
deriving DecidableEq

def subscriptionState (row : SubscriptionRow) : SubscriptionState :=
  { subscriptionId := row.id
    customerId := row.val.customerId
    planVersionId := row.val.planVersionId
    status := row.val.status
    currentPeriodEnd := row.val.currentPeriodEnd
    cancelAtPeriodEnd := row.val.cancelAtPeriodEnd }

def SubscriptionState.json (state : SubscriptionState) : Value :=
  .obj [("subscription_id", .uuid state.subscriptionId), ("customer_id", .uuid state.customerId),
    ("plan_version_id", .uuid state.planVersionId), ("status", .str state.status.asStr),
    ("current_period_end", Value.opt .time state.currentPeriodEnd),
    ("cancel_at_period_end", .bool state.cancelAtPeriodEnd)]

/-- Strictly older than what the projection already shows. -/
def isStaleEvent (incoming existing : Option Time) : Bool :=
  match incoming, existing with
  | some incoming, some existing => incoming < existing
  | _, _ => false

structure AuditRecord where
  eventType : String
  event : ParsedStripeEvent
  customerId : Option ℕ
  targetType : Option String
  targetId : Option String
  beforeState : Option Value
  afterState : Option Value

section
variable {ε : Type} [FromSql ε]

def writeAudit (record : AuditRecord) : Tx ε Unit := do
  let _ ← insertRow commercialAuditEvents
    { eventType := record.eventType
      actorType := .stripe
      actorId := record.event.id
      customerId := record.customerId
      targetType := record.targetType
      targetId := record.targetId
      reason := record.event.eventType
      beforeState := record.beforeState.map sanitize
      afterState := record.afterState.map sanitize
      correlationId := some record.event.id }
  pure ()

def writeSubscriptionOutbox (deliveryDiscriminator : String) (occurredAt : Option Time)
    (subscription : SubscriptionRow) : Tx ε Unit := do
  let plan ← select fun d => planContext d subscription.val.planVersionId
  writeOutbox "subscription_changed"
    s!"subscription_changed:{subscription.id}:{deliveryDiscriminator}"
    (.obj [("customer_id", .uuid subscription.val.customerId), ("subscription_id", .uuid subscription.id),
      ("plan_version_id", .uuid subscription.val.planVersionId),
      ("product", Value.opt (fun p : PlanContext => .str p.productKey) plan),
      ("plan_key", Value.opt (fun p : PlanContext => .str p.planKey) plan),
      ("status", .str subscription.val.status.asStr),
      ("grants_cloud", .bool subscription.val.status.grantsCloud),
      ("cancel_at_period_end", .bool subscription.val.cancelAtPeriodEnd),
      ("current_period_end", Value.opt .time subscription.val.currentPeriodEnd),
      ("occurred_at", Value.opt .time occurredAt)])

/-- Read without a lock. -/
def findSubscriptionByStripeId (stripeSubscriptionId : String) : Tx ε (Option SubscriptionRow) :=
  select fun d => (d .subscriptions).find? fun e => e.val.stripeSubscriptionId == stripeSubscriptionId

/-- The customer a Stripe customer id is linked to. -/
def linkedCustomer (stripeCustomerId : String) (d : Database) : Option ℕ :=
  ((d .stripeCustomers).find? fun e => e.val.stripeCustomerId == stripeCustomerId).bind fun e =>
    (d.lookup .billingAccounts e.val.billingAccountId).map (·.customerId)

/-- Metadata first, then the existing row, then the linked Stripe customer. -/
def resolveCustomerId (metadataCustomerId : Option ℕ) (stripeCustomerId : Option String)
    (existing : Option SubscriptionRow) : Tx ε (Option ℕ) :=
  match metadataCustomerId, existing, stripeCustomerId with
  | some customerId, _, _ => pure (some customerId)
  | none, some row, _ => pure (some row.val.customerId)
  | none, none, some stripeCustomerId => select (linkedCustomer stripeCustomerId)
  | none, none, none => pure none

/-- The active plan version sold at a price. -/
def planVersionOfPrice (stripePriceId : String) (d : Database) : Option ℕ :=
  ((d .planVersions).find? fun e =>
    e.val.stripePriceId == some stripePriceId && e.val.status == .active).map (·.id)

/-- Metadata first, then the existing row, then the price. -/
def resolvePlanVersionId (metadataPlanVersionId : Option ℕ) (stripePriceId : Option String)
    (existing : Option SubscriptionRow) : Tx ε (Option ℕ) :=
  match metadataPlanVersionId, existing, stripePriceId with
  | some planVersionId, _, _ => pure (some planVersionId)
  | none, some row, _ => pure (some row.val.planVersionId)
  | none, none, some stripePriceId => select (planVersionOfPrice stripePriceId)
  | none, none, none => pure none

def ensureBillingAccount (customerId : ℕ) : Tx ε ℕ := do
  let row ← upsert billingAccounts { customerId := customerId } id
  pure row.id

/-- Unicode white space, as `str::trim` strips it. -/
def isWhitespace (c : Char) : Bool :=
  let n := c.toNat
  (9 ≤ n && n ≤ 13) || n == 0x20 || n == 0x85 || n == 0xA0 || n == 0x1680 ||
    (0x2000 ≤ n && n ≤ 0x200A) || n == 0x2028 || n == 0x2029 || n == 0x202F || n == 0x205F || n == 0x3000

def linkStripeCustomer (billingAccountId : ℕ) (stripeCustomerId : Option String) : Tx ε Unit :=
  match stripeCustomerId.filter fun value => !value.toList.all isWhitespace with
  | none => pure ()
  | some stripeCustomerId => do
    let _ ← insertUnless stripeCustomers
      { billingAccountId := billingAccountId, stripeCustomerId := stripeCustomerId }
    pure ()

end

structure SubscriptionProjectionInput where
  existing : Option SubscriptionRow
  customerId : ℕ
  billingAccountId : ℕ
  planVersionId : ℕ
  stripeSubscriptionId : String
  status : SubscriptionStatus
  currentPeriodStart : Option Time
  currentPeriodEnd : Option Time
  cancelAtPeriodEnd : Bool
  stripeEventAt : Option Time

/-- The columns a full projection overwrites. -/
def project (input : SubscriptionProjectionInput) (r : Subscription) : Subscription :=
  { r with
    billingAccountId := input.billingAccountId
    planVersionId := input.planVersionId
    status := input.status
    currentPeriodStart := input.currentPeriodStart
    currentPeriodEnd := input.currentPeriodEnd
    cancelAtPeriodEnd := input.cancelAtPeriodEnd
    stripeEventAt := input.stripeEventAt }

/-- The columns an invoice overwrites. -/
def setPaymentStatus (status : SubscriptionStatus) (stripeEventAt : Option Time) (r : Subscription) :
    Subscription :=
  { r with status := status, stripeEventAt := stripeEventAt }

section
variable {ε : Type} [FromSql ε]

def upsertSubscriptionProjection (clock : Clock) (input : SubscriptionProjectionInput) :
    Tx ε SubscriptionRow :=
  match input.existing with
  | some existing => updateOne subscriptions (fun e => e.id == existing.id) (project input)
  | none =>
    insertRow subscriptions
      { customerId := input.customerId
        billingAccountId := input.billingAccountId
        planVersionId := input.planVersionId
        stripeSubscriptionId := input.stripeSubscriptionId
        status := input.status
        currentPeriodStart := input.currentPeriodStart
        currentPeriodEnd := input.currentPeriodEnd
        cancelAtPeriodEnd := input.cancelAtPeriodEnd
        stripeEventAt := input.stripeEventAt
        createdAt := clock.now }

def updateSubscriptionStatusFromInvoice (subscriptionId : ℕ) (status : SubscriptionStatus)
    (stripeEventAt : Option Time) : Tx ε SubscriptionRow :=
  updateOne subscriptions (fun e => e.id == subscriptionId) (setPaymentStatus status stripeEventAt)

def recordInvoiceReference (subscriptionId : ℕ) (invoice : StripeInvoiceChange) : Tx ε Unit := do
  let _ ← upsert invoiceReferences
    { subscriptionId := some subscriptionId
      stripeInvoiceId := invoice.stripeInvoiceId
      status := invoice.invoiceStatus
      amountDueCents := invoice.amountDueCents
      currency := invoice.currency }
    fun r =>
      { r with
        subscriptionId := some subscriptionId
        status := invoice.invoiceStatus
        amountDueCents := invoice.amountDueCents
        currency := invoice.currency }
  pure ()

/-- Keep the linked license consistent, with a Stripe audit record for any change. -/
def syncLicenseFromSubscriptionTruth (clock : Clock) (event : ParsedStripeEvent)
    (subscription : SubscriptionRow) (status : SubscriptionStatus) : Tx ε Unit := do
  let sync ← syncLicenseForSubscription clock subscription.val.customerId subscription.id
    subscription.val.planVersionId status
  match sync with
  | none => pure ()
  | some sync =>
    writeAudit
      { eventType := sync.auditEventType
        event := event
        customerId := some subscription.val.customerId
        targetType := some "license"
        targetId := some (toString sync.licenseId)
        beforeState := sync.beforeState
        afterState := some sync.afterState }

def recordCheckoutSession (customerId planVersionId : ℕ) (stripeCheckoutSessionId : String) :
    Tx ε (Entry CheckoutSession) :=
  upsert checkoutSessions
    { customerId := customerId
      planVersionId := planVersionId
      stripeCheckoutSessionId := stripeCheckoutSessionId
      status := .created }
    id

end

/-- The session as completed, inserted if the event carries its customer and plan. -/
def completeCheckout (rows : List (Entry CheckoutSession)) (checkout : StripeCheckoutCompleted) :
    Tx StripeWebhookApplyError (Option (Entry CheckoutSession)) :=
  match rows.head?, checkout.customerId, checkout.planVersionId with
  | some row, _, _ => pure (some row)
  | none, some customerId, some planVersionId => do
    let row ← upsert checkoutSessions
      { customerId := customerId
        planVersionId := planVersionId
        stripeCheckoutSessionId := checkout.stripeCheckoutSessionId
        status := .completed }
      fun r => { r with status := .completed }
    pure (some row)
  | none, _, _ => pure none

def applyCheckoutCompleted (event : ParsedStripeEvent) (checkout : StripeCheckoutCompleted) :
    Tx StripeWebhookApplyError Unit := do
  let rows ← update checkoutSessions
    (fun e => e.val.stripeCheckoutSessionId == checkout.stripeCheckoutSessionId)
    fun r => { r with status := .completed }
  let row ← completeCheckout rows checkout
  match row with
  | none => pure ()
  | some row =>
    let billingAccountId ← ensureBillingAccount row.val.customerId
    linkStripeCustomer billingAccountId checkout.stripeCustomerId
    writeAudit
      { eventType := "checkout_completed"
        event := event
        customerId := some row.val.customerId
        targetType := some "checkout_session"
        targetId := some (toString row.id)
        beforeState := none
        afterState := some (.obj [("checkout_session_id", .uuid row.id),
          ("plan_version_id", .uuid row.val.planVersionId), ("status", .str "completed"),
          ("has_stripe_customer", .bool checkout.stripeCustomerId.isSome),
          ("has_stripe_subscription", .bool checkout.stripeSubscriptionId.isSome)]) }

def applySubscriptionChange (clock : Clock) (webhookEventId : ℕ) (event : ParsedStripeEvent)
    (change : StripeSubscriptionChange) : Tx StripeWebhookApplyError Unit := do
  let existing ← findSubscriptionByStripeId change.stripeSubscriptionId
  if isStaleEvent event.createdAt (existing.bind fun row => row.val.stripeEventAt) then
    writeAudit
      { eventType := "subscription_event_skipped"
        event := event
        customerId := existing.map fun row => row.val.customerId
        targetType := some "subscription"
        targetId := existing.map fun row => toString row.id
        beforeState := existing.map fun row => (subscriptionState row).json
        afterState := some (.obj [("reason", .str "out_of_order"), ("event_type", .str event.eventType)]) }
  else
    let customer ← resolveCustomerId change.customerId change.stripeCustomerId existing
    match customer with
    | none => .fail .missingCustomer
    | some customerId =>
      let planVersion ← resolvePlanVersionId change.planVersionId change.stripePriceId existing
      match planVersion with
      | none => .fail .missingPlanVersion
      | some planVersionId =>
        let billingAccountId ← ensureBillingAccount customerId
        linkStripeCustomer billingAccountId change.stripeCustomerId
        let row ← upsertSubscriptionProjection clock
          { existing := existing
            customerId := customerId
            billingAccountId := billingAccountId
            planVersionId := planVersionId
            stripeSubscriptionId := change.stripeSubscriptionId
            status := change.status
            currentPeriodStart := change.currentPeriodStart
            currentPeriodEnd := change.currentPeriodEnd
            cancelAtPeriodEnd := change.cancelAtPeriodEnd
            stripeEventAt := event.createdAt }
        writeAudit
          { eventType := "subscription_changed"
            event := event
            customerId := some row.val.customerId
            targetType := some "subscription"
            targetId := some (toString row.id)
            beforeState := existing.map fun row => (subscriptionState row).json
            afterState := some (subscriptionState row).json }
        writeSubscriptionOutbox (toString webhookEventId) event.createdAt row
        syncLicenseFromSubscriptionTruth clock event row change.status

def applyInvoiceChange (clock : Clock) (webhookEventId : ℕ) (event : ParsedStripeEvent)
    (invoice : StripeInvoiceChange) : Tx StripeWebhookApplyError Unit := do
  let existing ← findSubscriptionByStripeId invoice.stripeSubscriptionId
  match existing with
  | none => .fail .missingSubscription
  | some existing =>
    recordInvoiceReference existing.id invoice
    if isStaleEvent event.createdAt existing.val.stripeEventAt then
      writeAudit
        { eventType := "invoice_event_skipped"
          event := event
          customerId := some existing.val.customerId
          targetType := some "subscription"
          targetId := some (toString existing.id)
          beforeState := some (subscriptionState existing).json
          afterState := some (.obj [("reason", .str "out_of_order"),
            ("invoice_status", .str invoice.invoiceStatus)]) }
    else if existing.val.status = .canceled ∧ invoice.status = .active then
      writeAudit
        { eventType := "invoice_recorded"
          event := event
          customerId := some existing.val.customerId
          targetType := some "subscription"
          targetId := some (toString existing.id)
          beforeState := some (subscriptionState existing).json
          afterState := some (.obj [("invoice_status", .str invoice.invoiceStatus),
            ("subscription_status_preserved", .str existing.val.status.asStr)]) }
    else
      let row ← updateSubscriptionStatusFromInvoice existing.id invoice.status event.createdAt
      if subscriptionState existing ≠ subscriptionState row then
        writeAudit
          { eventType := "subscription_changed"
            event := event
            customerId := some row.val.customerId
            targetType := some "subscription"
            targetId := some (toString row.id)
            beforeState := some (subscriptionState existing).json
            afterState := some (subscriptionState row).json }
        writeSubscriptionOutbox (toString webhookEventId) event.createdAt row
        syncLicenseFromSubscriptionTruth clock event row invoice.status
      else
        writeAudit
          { eventType := "invoice_recorded"
            event := event
            customerId := some row.val.customerId
            targetType := some "subscription"
            targetId := some (toString row.id)
            beforeState := none
            afterState := some (.obj [("invoice_status", .str invoice.invoiceStatus)]) }

def applySupportedEvent (clock : Clock) (webhookEventId : ℕ) (event : ParsedStripeEvent) :
    Tx StripeWebhookApplyError Unit :=
  if event.eventType = "checkout.session.completed" then
    match event.checkoutCompleted with
    | none => .fail .missingCheckoutFields
    | some checkout => applyCheckoutCompleted event checkout
  else if ["customer.subscription.created", "customer.subscription.updated",
      "customer.subscription.deleted"].contains event.eventType then
    match event.subscriptionChange with
    | none => .fail .missingSubscriptionFields
    | some change => applySubscriptionChange clock webhookEventId event change
  else if ["invoice.paid", "invoice.payment_failed"].contains event.eventType then
    match event.invoiceChange with
    | none => .fail .missingInvoiceFields
    | some invoice => applyInvoiceChange clock webhookEventId event invoice
  else pure ()

section
variable {ε : Type} [FromSql ε]

def insertWebhookReceipt (clock : Clock) (event : ParsedStripeEvent) :
    Tx ε (Option (Entry StripeWebhookEvent)) :=
  insertUnless stripeWebhookEvents
    { stripeEventId := event.id
      eventType := event.eventType
      status := event.receiptStatus
      processedAt := if event.receiptStatus = .ignored then some clock.now else none
      payloadSummary := event.payloadSummary }

def fetchWebhookReceipt (eventId : String) : Tx ε (Entry StripeWebhookEvent) :=
  selectOne fun d => (d .stripeWebhookEvents).find? fun e => e.val.stripeEventId == eventId

def markWebhookProcessed (clock : Clock) (webhookEventId : ℕ) : Tx ε Unit := do
  let _ ← update stripeWebhookEvents (fun e => e.id == webhookEventId)
    fun r => { r with status := .processed, processedAt := some clock.now }
  pure ()

end

/-- Store and apply a verified Stripe event exactly once. -/
def processStripeWebhookEvent (clock : Clock) (event : ParsedStripeEvent) :
    Tx StripeWebhookApplyError StripeWebhookRecord := do
  let inserted ← insertWebhookReceipt clock event
  match inserted with
  | none =>
    let existing ← fetchWebhookReceipt event.id
    if existing.val.status = .received ∧ event.receiptStatus = .received then
      applySupportedEvent clock existing.id event
      markWebhookProcessed clock existing.id
      pure ⟨.duplicate, .processed⟩
    else pure ⟨.duplicate, existing.val.status⟩
  | some inserted =>
    if event.receiptStatus = .ignored then pure ⟨.inserted, inserted.val.status⟩
    else
      applySupportedEvent clock inserted.id event
      markWebhookProcessed clock inserted.id
      pure ⟨.inserted, .processed⟩

structure AdminResyncOutcome where
  subscriptionId : ℕ
  customerId : ℕ
  status : SubscriptionStatus
  changed : Bool
  licenseChange : Option String
deriving DecidableEq

/-- The `subscription_changed` event is only queued when the projection changed. -/
def writeResyncOutbox (changed : Bool) (now : Time) (row : SubscriptionRow) :
    Tx StripeWebhookApplyError Unit :=
  if changed then do
    let key ← newKey
    writeSubscriptionOutbox s!"resync:{key}" (some now) row
  else pure ()

def auditResyncedLicense (operatorId reason : String) (correlationId : Option String)
    (row : SubscriptionRow) (sync : Option LicenseSyncOutcome) : Tx StripeWebhookApplyError Unit :=
  match sync with
  | none => pure ()
  | some sync =>
    writeOperatorAudit
      { eventType := sync.auditEventType
        operatorId := operatorId
        customerId := some row.val.customerId
        targetType := "license"
        targetId := toString sync.licenseId
        reason := reason
        beforeState := sync.beforeState
        afterState := some sync.afterState
        correlationId := correlationId }

/-- Apply freshly fetched Stripe truth on an operator's behalf. The projection's
`stripe_event_at` is set to now, so that older webhooks arriving later are stale. -/
def applyAdminResync (clock : Clock) (subscriptionId : ℕ) (change : StripeSubscriptionChange)
    (operatorId reason : String) (correlationId : Option String) :
    Tx StripeWebhookApplyError (Option AdminResyncOutcome) := do
  let existing ← selectForUpdate subscriptions fun d =>
    (d .subscriptions).find? fun e => e.id == subscriptionId
  match existing with
  | none => pure none
  | some existing =>
    let customer ← resolveCustomerId change.customerId change.stripeCustomerId (some existing)
    match customer with
    | none => .fail .missingCustomer
    | some customerId =>
      let planVersion ← resolvePlanVersionId change.planVersionId change.stripePriceId (some existing)
      match planVersion with
      | none => .fail .missingPlanVersion
      | some planVersionId =>
        let billingAccountId ← ensureBillingAccount customerId
        linkStripeCustomer billingAccountId change.stripeCustomerId
        let row ← upsertSubscriptionProjection clock
          { existing := some existing
            customerId := customerId
            billingAccountId := billingAccountId
            planVersionId := planVersionId
            stripeSubscriptionId := change.stripeSubscriptionId
            status := change.status
            currentPeriodStart := change.currentPeriodStart
            currentPeriodEnd := change.currentPeriodEnd
            cancelAtPeriodEnd := change.cancelAtPeriodEnd
            stripeEventAt := some clock.utcNow }
        let changed := decide (subscriptionState existing ≠ subscriptionState row)
        writeOperatorAudit
          { eventType := "subscription_resynced"
            operatorId := operatorId
            customerId := some row.val.customerId
            targetType := "subscription"
            targetId := toString row.id
            reason := reason
            beforeState := some (subscriptionState existing).json
            afterState := some (subscriptionState row).json
            correlationId := correlationId }
        writeResyncOutbox changed clock.utcNow row
        let sync ← syncLicenseForSubscription clock row.val.customerId row.id row.val.planVersionId
          change.status
        auditResyncedLicense operatorId reason correlationId row sync
        pure (some ⟨row.id, row.val.customerId, row.val.status, changed,
          sync.map (·.auditEventType)⟩)

section Checked
variable {ε : Type} [FromSql ε] {S : List TableName}

lemma writeAudit_checked (h : commercialAuditEvents ∈ S) (record : AuditRecord) :
    Checked S (writeAudit record : Tx ε Unit) :=
  (checked_insertRow h _).bind fun _ => .pure ()

lemma writeSubscriptionOutbox_checked (h : outboxEvents ∈ S) (discriminator : String)
    (occurredAt : Option Time) (row : SubscriptionRow) :
    Checked S (writeSubscriptionOutbox discriminator occurredAt row : Tx ε Unit) :=
  (checked_select _).bind fun _ => writeOutbox_checked h _ _ _

lemma resolveCustomerId_checked (metadata : Option ℕ) (stripeCustomerId : Option String)
    (existing : Option SubscriptionRow) :
    Checked S (resolveCustomerId metadata stripeCustomerId existing : Tx ε _) := by
  unfold resolveCustomerId
  split
  · exact .pure _
  · exact .pure _
  · exact checked_select _
  · exact .pure _

lemma resolvePlanVersionId_checked (metadata : Option ℕ) (stripePriceId : Option String)
    (existing : Option SubscriptionRow) :
    Checked S (resolvePlanVersionId metadata stripePriceId existing : Tx ε _) := by
  unfold resolvePlanVersionId
  split
  · exact .pure _
  · exact .pure _
  · exact checked_select _
  · exact .pure _

lemma ensureBillingAccount_checked (h : billingAccounts ∈ S) (customerId : ℕ) :
    Checked S (ensureBillingAccount customerId : Tx ε ℕ) :=
  (checked_upsert h (unkeyed (by decide)) _ _).bind fun _ => .pure _

lemma linkStripeCustomer_checked (h : stripeCustomers ∈ S) (billingAccountId : ℕ)
    (stripeCustomerId : Option String) :
    Checked S (linkStripeCustomer billingAccountId stripeCustomerId : Tx ε Unit) := by
  unfold linkStripeCustomer
  split
  · exact .pure _
  · exact (checked_insertUnless h _).bind fun _ => .pure _

lemma upsertSubscriptionProjection_checked (h : subscriptions ∈ S) (clock : Clock)
    (input : SubscriptionProjectionInput) :
    Checked S (upsertSubscriptionProjection clock input : Tx ε _) := by
  unfold upsertSubscriptionProjection
  split
  · exact checked_updateOne h (unkeyed (by decide)) _ _
  · exact checked_insertRow h _

lemma updateSubscriptionStatusFromInvoice_checked (h : subscriptions ∈ S) (subscriptionId : ℕ)
    (status : SubscriptionStatus) (stripeEventAt : Option Time) :
    Checked S (updateSubscriptionStatusFromInvoice subscriptionId status stripeEventAt : Tx ε _) :=
  checked_updateOne h (unkeyed (by decide)) _ _

lemma recordInvoiceReference_checked (h : invoiceReferences ∈ S) (subscriptionId : ℕ)
    (invoice : StripeInvoiceChange) :
    Checked S (recordInvoiceReference subscriptionId invoice : Tx ε Unit) :=
  (checked_upsert h (unkeyed (by decide)) _ _).bind fun _ => .pure _

lemma syncLicenseFromSubscriptionTruth_checked (h : licenses ∈ S) (h' : commercialAuditEvents ∈ S)
    (clock : Clock) (event : ParsedStripeEvent) (row : SubscriptionRow) (status : SubscriptionStatus) :
    Checked S (syncLicenseFromSubscriptionTruth clock event row status : Tx ε Unit) := by
  refine (syncLicenseForSubscription_checked h _ _ _ _ _).bind fun sync => ?_
  cases sync with
  | none => exact .pure _
  | some sync => exact writeAudit_checked h' _

/-- What follows every change of a row. -/
lemma followUp_checked (haudit : commercialAuditEvents ∈ S) (houtbox : outboxEvents ∈ S) (hlicenses : licenses ∈ S)
    (clock : Clock) (event : ParsedStripeEvent) (record : AuditRecord) (discriminator : String)
    (row : SubscriptionRow) (status : SubscriptionStatus) :
    Checked S (do
      writeAudit record
      writeSubscriptionOutbox discriminator event.createdAt row
      syncLicenseFromSubscriptionTruth clock event row status : Tx ε Unit) := by
  refine (writeAudit_checked haudit _).bind fun _ => ?_
  refine (writeSubscriptionOutbox_checked houtbox _ _ _).bind fun _ => ?_
  exact syncLicenseFromSubscriptionTruth_checked hlicenses haudit _ _ _ _

lemma recordCheckoutSession_checked (h : checkoutSessions ∈ S) (customerId planVersionId : ℕ)
    (stripeCheckoutSessionId : String) :
    Checked S (recordCheckoutSession customerId planVersionId stripeCheckoutSessionId : Tx ε _) :=
  checked_upsert h (unkeyed (by decide)) _ _

end Checked

/-- The tables that Stripe truth is projected to. -/
def projectionTables : List TableName :=
  [checkoutSessions, billingAccounts, stripeCustomers, subscriptions, licenses, invoiceReferences,
    commercialAuditEvents, outboxEvents]

/-- The tables that a completed checkout is recorded in. -/
def checkoutTables : List TableName :=
  [checkoutSessions, billingAccounts, stripeCustomers, commercialAuditEvents]

lemma completeCheckout_checked (rows : List (Entry CheckoutSession))
    (checkout : StripeCheckoutCompleted) : Checked checkoutTables (completeCheckout rows checkout) := by
  unfold completeCheckout
  split
  · exact .pure _
  · exact (checked_upsert (by decide) (unkeyed (by decide)) _ _).bind fun _ => .pure _
  · exact .pure _

lemma applyCheckoutCompleted_checked (event : ParsedStripeEvent) (checkout : StripeCheckoutCompleted) :
    Checked checkoutTables (applyCheckoutCompleted event checkout) := by
  refine (checked_update (by decide) (unkeyed (by decide)) _ _).bind fun rows => ?_
  refine (completeCheckout_checked rows checkout).bind fun row => ?_
  cases row with
  | none => exact .pure _
  | some row =>
    refine (ensureBillingAccount_checked (by decide) _).bind fun account => ?_
    refine (linkStripeCustomer_checked (by decide) _ _).bind fun _ => ?_
    exact writeAudit_checked (by decide) _

lemma applySubscriptionChange_checked (clock : Clock) (webhookEventId : ℕ) (event : ParsedStripeEvent)
    (change : StripeSubscriptionChange) :
    Checked projectionTables (applySubscriptionChange clock webhookEventId event change) := by
  refine (checked_select _).bind fun existing => ?_
  split
  · exact writeAudit_checked (by decide) _
  refine (resolveCustomerId_checked _ _ _).bind fun customer => ?_
  cases customer with
  | none => exact .fail _
  | some customerId =>
    refine (resolvePlanVersionId_checked _ _ _).bind fun planVersion => ?_
    cases planVersion with
    | none => exact .fail _
    | some planVersionId =>
      refine (ensureBillingAccount_checked (by decide) _).bind fun account => ?_
      refine (linkStripeCustomer_checked (by decide) _ _).bind fun _ => ?_
      refine (upsertSubscriptionProjection_checked (by decide) _ _).bind fun row => ?_
      exact followUp_checked (by decide) (by decide) (by decide) _ _ _ _ row _

lemma applyInvoiceChange_checked (clock : Clock) (webhookEventId : ℕ) (event : ParsedStripeEvent)
    (invoice : StripeInvoiceChange) :
    Checked projectionTables (applyInvoiceChange clock webhookEventId event invoice) := by
  refine (checked_select _).bind fun existing => ?_
  cases existing with
  | none => exact .fail _
  | some existing =>
    refine (recordInvoiceReference_checked (by decide) _ _).bind fun _ => ?_
    split
    · exact writeAudit_checked (by decide) _
    split
    · exact writeAudit_checked (by decide) _
    refine (updateSubscriptionStatusFromInvoice_checked (by decide) _ _ _).bind fun row => ?_
    split
    · exact followUp_checked (by decide) (by decide) (by decide) _ _ _ _ row _
    · exact writeAudit_checked (by decide) _

lemma applySupportedEvent_checked (clock : Clock) (webhookEventId : ℕ) (event : ParsedStripeEvent) :
    Checked projectionTables (applySupportedEvent clock webhookEventId event) := by
  unfold applySupportedEvent
  split
  · split
    · exact .fail _
    · exact (applyCheckoutCompleted_checked _ _).mono (by decide)
  split
  · split
    · exact .fail _
    · exact applySubscriptionChange_checked _ _ _ _
  split
  · split
    · exact .fail _
    · exact applyInvoiceChange_checked _ _ _ _
  · exact .pure _

lemma processStripeWebhookEvent_checked (clock : Clock) (event : ParsedStripeEvent) :
    Checked (stripeWebhookEvents :: projectionTables) (processStripeWebhookEvent clock event) := by
  have apply : ∀ id outcome, Checked (stripeWebhookEvents :: projectionTables) (do
      applySupportedEvent clock id event
      markWebhookProcessed clock id
      pure (⟨outcome, .processed⟩ : StripeWebhookRecord)) := fun id outcome => by
    refine Checked.bind ((applySupportedEvent_checked clock id event).mono (by decide)) fun _ => ?_
    refine Checked.bind ?_ fun _ => .pure _
    exact (checked_update (by decide) (unkeyed (by decide)) _ _).bind fun _ => .pure _
  refine (checked_insertUnless (by decide) _).bind fun inserted => ?_
  cases inserted with
  | none =>
    refine (checked_selectOne _).bind fun existing => ?_
    split
    · exact apply _ _
    · exact .pure _
  | some inserted =>
    dsimp only
    split
    · exact .pure _
    · exact apply _ _

lemma writeResyncOutbox_checked {S : List TableName} (h : outboxEvents ∈ S) (changed : Bool) (now : Time)
    (row : SubscriptionRow) : Checked S (writeResyncOutbox changed now row) := by
  unfold writeResyncOutbox
  split
  · exact checked_newKey.bind fun _ => writeSubscriptionOutbox_checked h _ _ _
  · exact .pure _

lemma auditResyncedLicense_checked {S : List TableName} (h : commercialAuditEvents ∈ S) (operatorId reason : String)
    (correlationId : Option String) (row : SubscriptionRow) (sync : Option LicenseSyncOutcome) :
    Checked S (auditResyncedLicense operatorId reason correlationId row sync) := by
  cases sync with
  | none => exact .pure _
  | some sync => exact writeOperatorAudit_checked h _

/-- What a resync writes after its row. -/
lemma resyncFollowUp_checked {α : Type} {S : List TableName} (haudit : commercialAuditEvents ∈ S)
    (houtbox : outboxEvents ∈ S) (hlicenses : licenses ∈ S) (clock : Clock) (operatorId reason : String)
    (correlationId : Option String) (record : OperatorAudit) (changed : Bool) (row : SubscriptionRow)
    (status : SubscriptionStatus) (answer : Option LicenseSyncOutcome → α) :
    Checked S (do
      writeOperatorAudit record
      writeResyncOutbox changed clock.utcNow row
      let sync ← syncLicenseForSubscription clock row.val.customerId row.id row.val.planVersionId status
      auditResyncedLicense operatorId reason correlationId row sync
      pure (answer sync) : Tx StripeWebhookApplyError α) := by
  refine (writeOperatorAudit_checked haudit _).bind fun _ => ?_
  refine (writeResyncOutbox_checked houtbox _ _ _).bind fun _ => ?_
  refine (syncLicenseForSubscription_checked hlicenses _ _ _ _ _).bind fun sync => ?_
  exact (auditResyncedLicense_checked haudit _ _ _ _ _).bind fun _ => .pure _

lemma applyAdminResync_checked (clock : Clock) (subscriptionId : ℕ) (change : StripeSubscriptionChange)
    (operatorId reason : String) (correlationId : Option String) :
    Checked projectionTables
      (applyAdminResync clock subscriptionId change operatorId reason correlationId) := by
  refine (checked_selectForUpdate _ _).bind fun existing => ?_
  cases existing with
  | none => exact .pure _
  | some existing =>
    refine (resolveCustomerId_checked _ _ _).bind fun customer => ?_
    cases customer with
    | none => exact .fail _
    | some customerId =>
      refine (resolvePlanVersionId_checked _ _ _).bind fun planVersion => ?_
      cases planVersion with
      | none => exact .fail _
      | some planVersionId =>
        refine (ensureBillingAccount_checked (by decide) _).bind fun account => ?_
        refine (linkStripeCustomer_checked (by decide) _ _).bind fun _ => ?_
        refine (upsertSubscriptionProjection_checked (by decide) _ _).bind fun row => ?_
        exact resyncFollowUp_checked (by decide) (by decide) (by decide) _ _ _ _ _ _ row _ _

end ForgeCustomer.CommerceRepository
