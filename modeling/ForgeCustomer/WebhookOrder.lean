import ForgeCustomer.WatermarkOrder
import ForgeCustomer.WebhookDelivery

/-!
# The order of webhooks

A projected subscription is a register with a watermark, and its webhooks are the events of
such a register. Deliveries may come in any order and more than once.
-/
namespace ForgeCustomer.WebhookOrder
open SqlTables SqlPrograms DomainRules StripeEvents DatabaseTables AuditWriters CommerceRepository
  SubscriptionProjection ServiceOperations WebhookDelivery WatermarkOrder TableName

/-- The columns besides the status that subscription events write. -/
structure Terms where
  planVersionId : ℕ
  currentPeriodStart : Option Time
  currentPeriodEnd : Option Time
  cancelAtPeriodEnd : Bool
deriving DecidableEq

/-- A payment sets `active` and cannot leave `canceled`; a failed one sets `past_due`. -/
def paymentStatuses : Statuses SubscriptionStatus where
  closed := .canceled
  paid := .active
  failed := .pastDue
  paid_ne_closed := by decide
  failed_ne_closed := by decide
  failed_ne_paid := by decide

def terms (p : Projection) : Terms :=
  ⟨p.planVersionId, p.currentPeriodStart, p.currentPeriodEnd, p.cancelAtPeriodEnd⟩

/-- The register that a projection with the watermark `w` is. -/
def register (p : Projection) (w : Time) : Reg SubscriptionStatus Terms := ⟨p.status, terms p, w⟩

/-- What the subscription row shows. -/
def shown (sid : String) (d : Database) : Option (SubscriptionStatus × Terms) :=
  (projected sid d).map fun p => (p.status, terms p)

/-- An event as the register sees it; without a plan in its metadata the row's plan stays. -/
def orderEvent (planVersionId : ℕ) (event : ParsedStripeEvent) : Event SubscriptionStatus Terms :=
  let time := event.createdAt.getD 0
  match event.subscriptionChange with
  | some change => .full time change.status ⟨change.planVersionId.getD planVersionId,
      change.currentPeriodStart, change.currentPeriodEnd, change.cancelAtPeriodEnd⟩
  | none => if event.eventType = "invoice.paid" then .paid time else .failed time

/-- The event has not been applied yet, and what its metadata name is stored. -/
def effective (d : Database) (event : ParsedStripeEvent) : Bool :=
  pending event d && event.subscriptionChange.all fun change => metadataStored change d

/-- Deliver events one at a time. -/
def deliverAll (ds : List (Clock × ParsedStripeEvent)) (s : DbStore) : DbStore :=
  ds.foldl (fun s d => deliver d.1 d.2 s) s

/-- A supported event about the subscription with the time `t`. -/
structure Relevant (sid : String) (event : ParsedStripeEvent) (t : Time) : Prop where
  about : isAbout sid event = true
  received : event.receiptStatus = .received
  time : event.createdAt = some t

/-- Supported events about one subscription, in the order of their times, which are later than
`w`; the events have different ids and all subscription events the same metadata. -/
structure Batch (sid : String) (w : Time) (es : List ParsedStripeEvent) : Prop where
  relevant : ∀ e ∈ es, ∃ t, Relevant sid e t ∧ w < t
  sorted : es.Pairwise fun a b => ∀ t t', a.createdAt = some t → b.createdAt = some t' → t < t'
  ids : (es.map (·.id)).Nodup
  metadata : ∃ customer plan, ∀ e ∈ es, ∀ change, e.subscriptionChange = some change →
    change.customerId = customer ∧ change.planVersionId = plan

/-- However the events are delivered, the row ends up as after deliveries in time order. -/
def OrderIndependent (sid : String) (clock : Clock) (es : List ParsedStripeEvent) (s : DbStore) : Prop :=
  ∀ ds : List (Clock × ParsedStripeEvent), (∀ e, e ∈ ds.map Prod.snd ↔ e ∈ es) →
    shown sid (deliverAll ds s).db = shown sid (deliverAll (es.map fun e => (clock, e)) s).db

variable {s : DbStore} {sid : String} {p : Projection} {w : Time} {event : ParsedStripeEvent}

lemma isStale_iff {t : Time} : isStaleEvent (some t) (some w) = true ↔ t < w := by
  simp [isStaleEvent]

lemma invoice_status {invoice : StripeInvoiceChange} (h : event.invoiceChange = some invoice) :
    invoice.status = if event.eventType = "invoice.paid" then .active else .pastDue :=
  invoiceChange_status h

lemma orderEvent_time {t : Time} (h : Relevant sid event t) {plan : ℕ} :
    (orderEvent plan event).time = t := by
  unfold orderEvent
  rw [h.time]
  cases event.subscriptionChange with
  | some change => rfl
  | none =>
    dsimp only
    split <;> rfl

/-- On the register, the effect of an event is that of the register's rules. -/
lemma register_eventEffect {t : Time} (h : Relevant sid event t) (hw : p.stripeEventAt = some w)
    {plan : ℕ} (hplan : (∃ change, event.subscriptionChange = some change ∧
      change.planVersionId = none) → p.planVersionId = plan) :
    ∃ w', (eventEffect event p).stripeEventAt = some w' ∧
      register (eventEffect event p) w' = apply paymentStatuses (register p w) (orderEvent plan event) := by
  have htime : (orderEvent plan event).time = t := orderEvent_time h
  by_cases hstale : t < w
  · have heffect : eventEffect event p = p := by
      rw [eventEffect, h.time, hw, if_pos (isStale_iff.mpr hstale)]
    rw [heffect, apply_stale (S := paymentStatuses) (r := register p w) (by rw [htime]; exact hstale)]
    exact ⟨w, hw, rfl⟩
  · have hle : w ≤ t := not_lt.mp hstale
    have hfresh : ¬isStaleEvent (some t) (some w) = true := fun hs => hstale (isStale_iff.mp hs)
    rcases isAbout_cases h.about with ⟨change, hchange, -⟩ | ⟨invoice, hnone, hinvoice, -⟩
    · have heffect : eventEffect event p = changeEffect change (some t) p := by
        rw [eventEffect, h.time, hw, if_neg hfresh, hchange]
      have hevent : orderEvent plan event = .full t change.status ⟨change.planVersionId.getD plan,
          change.currentPeriodStart, change.currentPeriodEnd, change.cancelAtPeriodEnd⟩ := by
        rw [orderEvent, hchange, h.time]
        rfl
      have hkept : change.planVersionId.getD p.planVersionId = change.planVersionId.getD plan := by
        cases hm : change.planVersionId with
        | none => simpa using hplan ⟨change, hchange, hm⟩
        | some m => rfl
      refine ⟨t, by rw [heffect]; rfl, ?_⟩
      rw [heffect, hevent, apply_full (S := paymentStatuses) (r := register p w) _ _ hle, ← hkept]
      rfl
    · have heffect : eventEffect event p = invoiceEffect invoice.status (some t) p := by
        rw [eventEffect, h.time, hw, if_neg hfresh, hnone, hinvoice]
      have hstatus := invoice_status hinvoice
      by_cases hpaid : event.eventType = "invoice.paid"
      · have hevent : orderEvent plan event = .paid t := by
          rw [orderEvent, hnone, h.time]
          exact if_pos hpaid
        rw [if_pos hpaid] at hstatus
        rw [heffect, hevent, hstatus]
        by_cases hclosed : p.status = .canceled
        · rw [invoiceEffect_kept ⟨hclosed, rfl⟩,
            apply_paid_closed (S := paymentStatuses) (r := register p w) (e := .paid t) rfl hclosed]
          exact ⟨w, hw, rfl⟩
        · rw [invoiceEffect_written fun hc => hclosed hc.1,
            apply_paid (S := paymentStatuses) (r := register p w) hle hclosed]
          exact ⟨t, rfl, rfl⟩
      · have hevent : orderEvent plan event = .failed t := by
          rw [orderEvent, hnone, h.time]
          exact if_neg hpaid
        rw [if_neg hpaid] at hstatus
        rw [heffect, hevent, hstatus, invoiceEffect_written (by simp),
          apply_failed (S := paymentStatuses) (r := register p w) hle]
        exact ⟨t, rfl, rfl⟩

/-- The metadata of subscription events are the plan `m`; if there is none, the row has kept `plan`. -/
def PlanKept (m : Option ℕ) (plan : ℕ) (p : Projection) : Prop := m = none → p.planVersionId = plan

lemma PlanKept.eventEffect {m : Option ℕ} {plan : ℕ} (h : PlanKept m plan p)
    (hm : ∀ change, event.subscriptionChange = some change → change.planVersionId = m) :
    PlanKept m plan (eventEffect event p) := by
  intro hnone
  unfold SubscriptionProjection.eventEffect
  split
  · exact h hnone
  · split
    · rename_i change hchange
      have hmeta := hm change hchange
      simp [changeEffect, hmeta, hnone, h hnone]
    · unfold invoiceEffect
      split <;> exact h hnone
    · exact h hnone

lemma metadataStored_deliver (clock : Clock) (event : ParsedStripeEvent) (change : StripeSubscriptionChange) :
    metadataStored change (deliver clock event s).db = metadataStored change s.db := by
  rw [metadataStored, metadataStored,
    funext (Db.has_congr (deliver_table (s := s) clock event (t := .customerProfiles) (by decide))),
    funext (Db.has_congr (deliver_table (s := s) clock event (t := .planVersions) (by decide)))]

/-- Applying one event takes it, and it alone, out of the effective ones. -/
lemma effective_applied {clock : Clock} (hreceipt : receiptStatus event.id (deliver clock event s).db = some .processed)
    (hothers : ∀ id, id ≠ event.id → receiptStatus id (deliver clock event s).db = receiptStatus id s.db)
    (x : ParsedStripeEvent) :
    effective (deliver clock event s).db x = (effective s.db x && decide (x.id ≠ event.id)) := by
  have hmeta : (x.subscriptionChange.all fun change => metadataStored change (deliver clock event s).db) =
      x.subscriptionChange.all fun change => metadataStored change s.db :=
    congrArg (fun f => x.subscriptionChange.all f) (funext (metadataStored_deliver clock event))
  unfold effective pending
  rw [hmeta]
  by_cases hid : x.id = event.id
  · rw [hid, hreceipt]
    simp
  · rw [hothers x.id hid]
    simp [hid]

lemma effective_congr {d d' : Database} (h : d' = d) (x : ParsedStripeEvent) :
    effective d' x = effective d x := by rw [h]

/-- What the deliveries `ds` leave of the register: the first deliveries of the effective events
count. -/
theorem deliverAll_register {m : Option ℕ} {plan : ℕ} {ds : List (Clock × ParsedStripeEvent)}
    (hs : Stored s) (hp : projected sid s.db = some p) (hw : p.stripeEventAt = some w)
    (hplan : PlanKept m plan p)
    (hds : ∀ d ∈ ds, ∃ t, Relevant sid d.2 t)
    (hmeta : ∀ d ∈ ds, ∀ change, d.2.subscriptionChange = some change → change.planVersionId = m)
    (hids : ∀ d ∈ ds, ∀ d' ∈ ds, d.2.id = d'.2.id → d.2 = d'.2) :
    ∃ p' w', projected sid (deliverAll ds s).db = some p' ∧
      register p' w' = run paymentStatuses ((keepFirst (·.id)
        ((ds.map Prod.snd).filter (effective s.db))).map (orderEvent plan)) (register p w) := by
  induction ds generalizing s p w with
  | nil => exact ⟨p, w, hp, rfl⟩
  | cons d ds ih =>
    obtain ⟨clock, event⟩ := d
    obtain ⟨t, hrel⟩ := hds (clock, event) (by simp)
    have ih := fun {s' : DbStore} {p' : Projection} {w' : Time} hs' hp' hw' hplan' =>
      ih (s := s') (p := p') (w := w') hs' hp' hw' hplan' (fun x hx => hds x (by simp [hx]))
        (fun x hx => hmeta x (by simp [hx])) fun x hx y hy => hids x (by simp [hx]) y (by simp [hy])
    have hs' : Stored (deliver clock event s) := deliver_stored hs clock event
    have hchange := hmeta (clock, event) (by simp)
    -- a delivery that changes neither the row nor which of the later events are effective
    have skip : projected sid (deliver clock event s).db = some p → effective s.db event = false →
        (∀ x ∈ ds.map Prod.snd, effective (deliver clock event s).db x = effective s.db x) →
        ∃ p' w', projected sid (deliverAll ((clock, event) :: ds) s).db = some p' ∧
          register p' w' = run paymentStatuses ((keepFirst (·.id)
            ((((clock, event) :: ds).map Prod.snd).filter (effective s.db))).map (orderEvent plan))
              (register p w) := by
      intro hp' heff hrest
      obtain ⟨p', w', hp'', hrun⟩ := ih hs' hp' hw hplan
      rw [List.filter_congr hrest] at hrun
      refine ⟨p', w', hp'', ?_⟩
      rw [hrun, List.map_cons, List.filter_cons_of_neg (by simp [heff])]
    by_cases hpending : pending event s.db = true
    · cases hacc : accepted event p s.db with
      | false =>
        have hdb := deliver_refused hs clock hp hrel.about hpending hacc
        refine skip (by rw [hdb, hp]) ?_ fun x _ => effective_congr hdb x
        rw [accepted, Bool.or_eq_false_iff] at hacc
        rw [effective, hacc.2, Bool.and_false]
      | true =>
        have happ := deliver_applied hs clock hp hrel.about hpending hacc
        by_cases heff : effective s.db event = true
        · obtain ⟨w₁, hw₁, hreg⟩ := register_eventEffect (p := p) hrel hw (by
            rintro ⟨change, hc, hnone⟩
            exact hplan ((hchange change hc).symm.trans hnone))
          obtain ⟨p', w', hp', hrun⟩ := ih hs' happ.projected hw₁ (hplan.eventEffect hchange)
          refine ⟨p', w', hp', ?_⟩
          rw [hrun, hreg, List.map_cons, List.filter_cons_of_pos heff, keepFirst, List.map_cons, run_cons]
          have hrest : (ds.map Prod.snd).filter (effective (deliver clock event s).db) =
              ((ds.map Prod.snd).filter (effective s.db)).filter fun x => decide (x.id ≠ event.id) := by
            rw [List.filter_filter]
            refine List.filter_congr fun x _ => ?_
            rw [effective_applied happ.receipt happ.others, Bool.and_comm]
          rw [hrest, keepFirst_filter]
        · -- accepted as a stale event although its metadata are not stored
          have hmissing : (event.subscriptionChange.all fun change => metadataStored change s.db) = false := by
            rw [effective, hpending, Bool.true_and] at heff
            simpa using heff
          have hstale : isStaleEvent event.createdAt p.stripeEventAt = true := by
            rw [accepted, hmissing, Bool.or_false] at hacc
            exact hacc
          have heffect : eventEffect event p = p := by
            rw [eventEffect, if_pos hstale]
          refine skip (by rw [happ.projected, heffect]) ((Bool.not_eq_true _).mp heff) fun x hx => ?_
          rw [effective_applied happ.receipt happ.others]
          by_cases hid : x.id = event.id
          · obtain ⟨d', hd', rfl⟩ := List.mem_map.mp hx
            have heq := hids d' (by simp [hd']) (clock, event) (by simp) hid
            simp only at heq
            rw [heq, (Bool.not_eq_true _).mp heff, Bool.false_and]
          · simp [hid]
    · have hdb := deliver_again clock hrel.received ((Bool.not_eq_true _).mp hpending)
      refine skip (by rw [hdb, hp]) ?_ fun x _ => effective_congr hdb x
      rw [effective, (Bool.not_eq_true _).mp hpending, Bool.false_and]

lemma shown_of_register {d : Database} {p' : Projection} {w' : Time} {r : Reg SubscriptionStatus Terms}
    (hp : projected sid d = some p') (hr : register p' w' = r) : shown sid d = some r.shown := by
  rw [shown, hp, ← hr]
  rfl

section Batches
variable {es : List ParsedStripeEvent}

lemma Batch.time_ne (h : Batch sid w es) {plan : ℕ} :
    ((es.filter (effective s.db)).map (orderEvent plan)).Pairwise fun a b => a.time ≠ b.time := by
  rw [List.pairwise_map]
  refine (h.sorted.filter _).imp_of_mem fun {a b} ha hb hlt => ?_
  obtain ⟨t, hrel, -⟩ := h.relevant a (List.mem_filter.mp ha).1
  obtain ⟨t', hrel', -⟩ := h.relevant b (List.mem_filter.mp hb).1
  rw [orderEvent_time hrel, orderEvent_time hrel']
  exact (hlt t t' hrel.time hrel'.time).ne

lemma Batch.later (h : Batch sid w es) {plan : ℕ} :
    ∀ e ∈ (es.filter (effective s.db)).map (orderEvent plan), w < e.time := by
  intro e he
  obtain ⟨x, hx, rfl⟩ := List.mem_map.mp he
  obtain ⟨t, hrel, hlt⟩ := h.relevant x (List.mem_filter.mp hx).1
  rwa [orderEvent_time hrel]

/-- Deliveries of a batch are an order of its effective events, as far as the row shows. -/
lemma Batch.deliverAll_shown (h : Batch sid w es) (hs : Stored s) (hp : projected sid s.db = some p)
    (hw : p.stripeEventAt = some w) {ds : List (Clock × ParsedStripeEvent)}
    (hds : ∀ e, e ∈ ds.map Prod.snd ↔ e ∈ es) :
    shown sid (deliverAll ds s).db = some (run paymentStatuses ((keepFirst (·.id)
      ((ds.map Prod.snd).filter (effective s.db))).map (orderEvent p.planVersionId)) (register p w)).shown := by
  obtain ⟨customer, plan, hmeta⟩ := h.metadata
  have hmem : ∀ d ∈ ds, d.2 ∈ es := fun d hd => (hds d.2).mp (List.mem_map_of_mem hd)
  have hids : ∀ d ∈ ds, ∀ d' ∈ ds, d.2.id = d'.2.id → d.2 = d'.2 := fun d hd d' hd' =>
    List.inj_on_of_nodup_map h.ids (hmem d hd) (hmem d' hd')
  obtain ⟨p', w', hp', hrun⟩ := deliverAll_register (m := plan) hs hp hw
    (fun _ => rfl : PlanKept plan p.planVersionId p) (fun d hd => (h.relevant d.2 (hmem d hd)).imp fun _ hr => hr.1)
    (fun d hd change hc => (hmeta d.2 (hmem d hd) change hc).2) hids
  exact shown_of_register hp' hrun

/-- If only the first deliveries of effective events count, all deliveries agree as far as `view` shows
exactly if all orders of the effective events do. -/
lemma deliveries_agree_iff {X : Type} (view : Database → X) (outcome : List ParsedStripeEvent → X)
    (hids : (es.map (·.id)).Nodup)
    (hview : ∀ ds : List (Clock × ParsedStripeEvent), (∀ e, e ∈ ds.map Prod.snd ↔ e ∈ es) →
      view (deliverAll ds s).db = outcome (keepFirst (·.id) ((ds.map Prod.snd).filter (effective s.db))))
    (clock : Clock) :
    (∀ ds : List (Clock × ParsedStripeEvent), (∀ e, e ∈ ds.map Prod.snd ↔ e ∈ es) →
      view (deliverAll ds s).db = view (deliverAll (es.map fun e => (clock, e)) s).db) ↔
    ∀ l, l.Perm (es.filter (effective s.db)) → outcome l = outcome (es.filter (effective s.db)) := by
  have hsnd : ∀ l : List ParsedStripeEvent, (l.map fun e => (clock, e)).map Prod.snd = l := by
    intro l
    rw [List.map_map]
    exact List.map_id l
  have hinOrder : view (deliverAll (es.map fun e => (clock, e)) s).db = outcome (es.filter (effective s.db)) := by
    rw [hview _ fun e => by rw [hsnd], hsnd, keepFirst_of_nodup (hids.sublist (List.filter_sublist.map _))]
  constructor
  · intro h l hl
    -- deliver the chosen order of the effective events first, then all others
    have hmem : ∀ e, e ∈ l ++ (es.filter fun e => !effective s.db e) ↔ e ∈ es := by
      intro e
      rw [List.mem_append, hl.mem_iff, List.mem_filter, List.mem_filter]
      cases effective s.db e <;> simp
    have hsame := h ((l ++ es.filter fun e => !effective s.db e).map fun e => (clock, e))
      (by rw [hsnd]; exact hmem)
    rw [hview _ (by rw [hsnd]; exact hmem), hinOrder, hsnd, List.filter_append, List.filter_filter] at hsame
    have hkeep : l.filter (effective s.db) = l :=
      List.filter_eq_self.mpr fun e he => (List.mem_filter.mp (hl.mem_iff.mp he)).2
    have hdrop : (es.filter fun e => effective s.db e && !effective s.db e) = [] := by
      simp
    have hnodup : (l.map (·.id)).Nodup :=
      (hl.map _).nodup_iff.mpr (hids.sublist (List.filter_sublist.map _))
    rwa [hkeep, hdrop, List.append_nil, keepFirst_of_nodup hnodup] at hsame
  · intro h ds hds
    rw [hview ds hds, hinOrder]
    refine h _ (keepFirst_perm ?_ fun e => ?_)
    · exact hids.sublist (List.filter_sublist.map _)
    · rw [List.mem_filter, List.mem_filter, hds]

/-- The rows that all delivery orders leave agree exactly if the effective events are `OrderFree`. -/
theorem orderIndependent_iff (hs : Stored s) (hp : projected sid s.db = some p)
    (hw : p.stripeEventAt = some w) (hes : Batch sid w es) (clock : Clock) :
    OrderIndependent sid clock es s ↔ OrderFree paymentStatuses (register p w)
      ((es.filter (effective s.db)).map (orderEvent p.planVersionId)) := by
  have hagree := deliveries_agree_iff (shown sid) (fun l => some (run paymentStatuses
    (l.map (orderEvent p.planVersionId)) (register p w)).shown) hes.ids
    (fun ds hds => hes.deliverAll_shown hs hp hw hds) clock
  refine Iff.trans hagree (Iff.trans ?_ (order_independent_iff hes.time_ne hes.later))
  constructor
  · intro h es' hperm
    obtain ⟨l, hl, rfl⟩ := exists_perm_map hperm
    exact Option.some.inj (h l hl)
  · intro h l hl
    exact congrArg some (h _ (hl.map _))

end Batches

def stripeObject (id : String) (eventType : String) (created : ℤ) (object : JsonValue.Value) :
    ParsedStripeEvent :=
  { id := id
    eventType := eventType
    created := some created
    objectId := none
    objectType := none
    object := object
    payloadSummary := .null
    receiptStatus := .received }

/-- The subscription is deleted at 10, and its last invoice is paid at 20. -/
def deletedEvent : ParsedStripeEvent :=
  stripeObject "evt_1" "customer.subscription.deleted" 10
    (.obj [("id", .str "sub_1"), ("status", .str "canceled")])

def paidEvent : ParsedStripeEvent :=
  stripeObject "evt_2" "invoice.paid" 20 (.obj [("id", .str "in_1"), ("subscription", .str "sub_1")])

def sampleClock : Clock := ⟨0, 0⟩

def sampleProjection : Projection := ⟨6, 0, 3, .active, none, none, false, some 0⟩

lemma projected_sample : projected "sub_1" sampleStore.db = some sampleProjection := by decide

lemma batch_sample : Batch "sub_1" 0 [deletedEvent, paidEvent] where
  relevant := by
    intro e he
    rcases List.mem_pair.mp he with rfl | rfl
    · exact ⟨10000000, ⟨by decide, rfl, by decide⟩, by decide⟩
    · exact ⟨20000000, ⟨by decide, rfl, by decide⟩, by decide⟩
  sorted := by
    rw [List.pairwise_pair]
    intro t t' ht ht'
    cases ht
    cases ht'
    decide
  ids := by decide
  metadata := by
    refine ⟨none, none, fun e he change hc => ?_⟩
    rcases List.mem_pair.mp he with rfl | rfl <;> cases hc
    exact ⟨rfl, rfl⟩

/-- Delivered second, the deletion is stale and the subscription stays active. -/
theorem deletion_lost : Stored sampleStore ∧ projected "sub_1" sampleStore.db = some sampleProjection ∧
    Batch "sub_1" 0 [deletedEvent, paidEvent] ∧
    ¬OrderIndependent "sub_1" sampleClock [deletedEvent, paidEvent] sampleStore := by
  refine ⟨sampleStore_stored, projected_sample, batch_sample, fun h => ?_⟩
  have hds := h [(sampleClock, paidEvent), (sampleClock, deletedEvent)] (by simp [or_comm])
  revert hds
  decide

theorem orderIndependent_iff_sample :
    OrderIndependent "sub_1" sampleClock [deletedEvent, paidEvent] sampleStore ↔
      OrderFree paymentStatuses (register sampleProjection 0)
        (([deletedEvent, paidEvent].filter (effective sampleStore.db)).map
          (orderEvent sampleProjection.planVersionId)) :=
  orderIndependent_iff sampleStore_stored projected_sample rfl batch_sample sampleClock

end ForgeCustomer.WebhookOrder
