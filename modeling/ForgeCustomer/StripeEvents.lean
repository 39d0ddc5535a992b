import ForgeCustomer.DomainRules
import ForgeCustomer.JsonValue

/-!
# Reading Stripe objects

`integrations::stripe`: what the webhook and the resync take from a Stripe JSON object.
-/
namespace ForgeCustomer.StripeEvents
open JsonValue DomainRules

/-- Instants in microseconds since the epoch. -/
abbrev Time := ℤ

structure StripeCheckoutCompleted where
  stripeCheckoutSessionId : String
  customerId : Option ℕ
  planVersionId : Option ℕ
  stripeCustomerId : Option String
  stripeSubscriptionId : Option String
deriving DecidableEq

structure StripeSubscriptionChange where
  stripeSubscriptionId : String
  stripeCustomerId : Option String
  customerId : Option ℕ
  planVersionId : Option ℕ
  stripePriceId : Option String
  status : SubscriptionStatus
  currentPeriodStart : Option Time
  currentPeriodEnd : Option Time
  cancelAtPeriodEnd : Bool
deriving DecidableEq

structure StripeInvoiceChange where
  stripeInvoiceId : String
  stripeSubscriptionId : String
  status : SubscriptionStatus
  invoiceStatus : String
  amountDueCents : Option ℤ
  currency : Option String
deriving DecidableEq

inductive ReceiptStatus where
  | received | processed | ignored | failed
deriving DecidableEq

def ReceiptStatus.asStr : ReceiptStatus → String
  | received => "received"
  | processed => "processed"
  | ignored => "ignored"
  | failed => "failed"

structure ParsedStripeEvent where
  id : String
  eventType : String
  created : Option ℤ
  objectId : Option String
  objectType : Option String
  object : Value
  payloadSummary : Value
  receiptStatus : ReceiptStatus

/-- Events that are applied; all others are acknowledged and ignored. -/
def isSupportedWebhookEvent (eventType : String) : Bool :=
  ["checkout.session.completed", "customer.subscription.created", "customer.subscription.updated",
    "customer.subscription.deleted", "invoice.paid", "invoice.payment_failed"].contains eventType

def metadataString (value : Value) (key : String) : Option String :=
  (value.get "metadata").bind fun v => stringField v key

def metadataUuid (value : Value) (key : String) : Option ℕ := (metadataString value key).bind parseUuid

/-- `Utc.timestamp_opt(..).single()`: seconds outside the calendar's range are dropped. -/
def unixSeconds (value : Option ℤ) : Option Time :=
  value.bind fun s => if -8334601228800 ≤ s ∧ s ≤ 8210266876799 then some (s * 1000000) else none

def firstSubscriptionItem (value : Value) : Option Value :=
  ((value.get "items").bind fun items => (items.get "data").bind Value.asArray).bind List.head?

def subscriptionPriceId (value : Value) : Option String :=
  (firstSubscriptionItem value).bind fun item =>
    ((item.get "price").bind fun price => stringField price "id").or
      ((item.get "plan").bind fun plan => stringField plan "id")

def subscriptionPeriod (value : Value) (field : String) : Option Time :=
  unixSeconds ((integerField value field).or
    ((firstSubscriptionItem value).bind fun item => integerField item field))

/-- The subscription an invoice names, in the old or the new place. -/
def invoiceSubscriptionId (value : Value) : Option String :=
  let direct := (value.get "subscription").filter fun v => !v.isNull
  let parent := (value.get "parent").bind fun p =>
    ((p.get "type").bind Value.asStr).bind fun type =>
      if type = "subscription_details" then
        (p.get "subscription_details").bind fun d => d.get "subscription"
      else none
  (direct.or parent).bind fun reference =>
    (reference.asStr.filter fun id => id ≠ "").or (stringField reference "id")

def subscriptionChangeFromObject (object : Value) (defaultStatus : String) :
    Option StripeSubscriptionChange :=
  (stringField object "id").map fun id =>
    { stripeSubscriptionId := id
      stripeCustomerId := stringField object "customer"
      customerId := metadataUuid object "forgecustomer_customer_id"
      planVersionId := metadataUuid object "plan_version_id"
      stripePriceId := subscriptionPriceId object
      status := normalizeStripeStatus ((stringField object "status").getD defaultStatus)
      currentPeriodStart := subscriptionPeriod object "current_period_start"
      currentPeriodEnd := subscriptionPeriod object "current_period_end"
      cancelAtPeriodEnd := (boolField object "cancel_at_period_end").getD false }

def invoiceStatus (eventType : String) (object : Value) : String :=
  let fallback := if eventType = "invoice.paid" then "paid" else "open"
  let raw := (stringField object "status").getD fallback
  if ["paid", "open", "void", "uncollectible", "draft"].contains raw then raw else fallback

namespace ParsedStripeEvent

def createdAt (event : ParsedStripeEvent) : Option Time := unixSeconds event.created

def checkoutCompleted (event : ParsedStripeEvent) : Option StripeCheckoutCompleted :=
  if event.eventType ≠ "checkout.session.completed" then none
  else (stringField event.object "id").map fun id =>
    { stripeCheckoutSessionId := id
      customerId := (metadataUuid event.object "forgecustomer_customer_id").or
        (uuidField event.object "client_reference_id")
      planVersionId := metadataUuid event.object "plan_version_id"
      stripeCustomerId := stringField event.object "customer"
      stripeSubscriptionId := stringField event.object "subscription" }

def subscriptionChange (event : ParsedStripeEvent) : Option StripeSubscriptionChange :=
  if ["customer.subscription.created", "customer.subscription.updated",
      "customer.subscription.deleted"].contains event.eventType then
    subscriptionChangeFromObject event.object
      (if event.eventType = "customer.subscription.deleted" then "canceled" else "incomplete")
  else none

def invoiceChange (event : ParsedStripeEvent) : Option StripeInvoiceChange :=
  if ["invoice.paid", "invoice.payment_failed"].contains event.eventType then
    (stringField event.object "id").bind fun id =>
      (invoiceSubscriptionId event.object).map fun subscription =>
        { stripeInvoiceId := id
          stripeSubscriptionId := subscription
          status := if event.eventType = "invoice.paid" then .active else .pastDue
          invoiceStatus := StripeEvents.invoiceStatus event.eventType event.object
          amountDueCents := integerField event.object "amount_due"
          currency := stringField event.object "currency" }
  else none

end ParsedStripeEvent

/-- `parse_event` on the parsed payload. -/
def parseEvent (value : Value) : Option ParsedStripeEvent :=
  (stringField value "id").bind fun id =>
    (stringField value "type").map fun eventType =>
      let created := integerField value "created"
      let object := ((value.get "data").bind fun v => v.get "object").getD .null
      let objectId := stringField object "id"
      let objectType := stringField object "object"
      { id := id
        eventType := eventType
        created := created
        objectId := objectId
        objectType := objectType
        object := object
        payloadSummary := .obj [("event_id", .str id), ("event_type", .str eventType),
          ("created", Value.opt .int created), ("object_id", Value.opt .str objectId),
          ("object_type", Value.opt .str objectType)]
        receiptStatus := if isSupportedWebhookEvent eventType then .received else .ignored }

/-- An invoice event reports a payment: success makes the subscription active, failure past due. -/
lemma invoiceChange_status {event : ParsedStripeEvent} {invoice : StripeInvoiceChange}
    (h : event.invoiceChange = some invoice) :
    invoice.status = if event.eventType = "invoice.paid" then .active else .pastDue := by
  unfold ParsedStripeEvent.invoiceChange at h
  split at h
  · obtain ⟨id, -, h⟩ := Option.bind_eq_some_iff.mp h
    obtain ⟨subscription, -, h⟩ := Option.map_eq_some_iff.mp h
    rw [← h]
  · cases h

/-- The stored status of an invoice passes its check constraint. -/
lemma invoiceStatus_valid (eventType : String) (object : Value) :
    ["paid", "open", "void", "uncollectible", "draft"].contains (invoiceStatus eventType object) := by
  unfold invoiceStatus
  dsimp only
  split_ifs <;> first | assumption | decide

end ForgeCustomer.StripeEvents
