import ForgeCustomer.ServiceOperations
import ForgeCustomer.SubscriptionProjection

/-!
# Delivering one webhook

`process_stripe_webhook_event` for an event about a stored subscription: the receipt decides
whether the event is applied, and a failed event leaves no receipt.
-/
namespace ForgeCustomer.WebhookDelivery
open SqlTables SqlPrograms SqlStatements StripeEvents DatabaseTables AuditWriters CommerceRepository
  SubscriptionProjection ServiceOperations TableName

/-- The receipt of a Stripe event. -/
def receiptOf (eventId : String) (d : Database) : Option (Entry StripeWebhookEvent) :=
  (d .stripeWebhookEvents).find? fun e => e.val.stripeEventId == eventId

def receiptStatus (eventId : String) (d : Database) : Option ReceiptStatus :=
  (receiptOf eventId d).map (·.val.status)

/-- A supported event that has not been applied yet. -/
def pending (event : ParsedStripeEvent) (d : Database) : Bool :=
  event.receiptStatus == .received && (receiptStatus event.id d).all (· == .received)

/-- The store after a delivery. -/
def deliver (clock : Clock) (event : ParsedStripeEvent) (s : DbStore) : DbStore :=
  after (processStripeWebhookEvent clock event) s

variable {s : DbStore} {event : ParsedStripeEvent} {sid : String} {p : Projection}

lemma deliver_stored (hs : Stored s) (clock : Clock) (event : ParsedStripeEvent) :
    Stored (deliver clock event s) := hs.execute (processStripeWebhookEvent_checked clock event)

/-- Deliveries do not write to the other tables. -/
lemma deliver_table (clock : Clock) (event : ParsedStripeEvent) {t : TableName}
    (h : t ∉ stripeWebhookEvents :: projectionTables) : (deliver clock event s).db t = s.db t :=
  (processStripeWebhookEvent_checked clock event).touches.execute s h

lemma receiptOf_mem {id : String} {d : Database} {r : Entry StripeWebhookEvent}
    (h : receiptOf id d = some r) : r ∈ d .stripeWebhookEvents := List.mem_of_find?_eq_some h

lemma receiptOf_id {id : String} {d : Database} {r : Entry StripeWebhookEvent}
    (h : receiptOf id d = some r) : r.val.stripeEventId = id := by
  simpa using List.find?_some h

lemma receiptStatus_congr {id : String} {d d' : Database}
    (h : d' .stripeWebhookEvents = d .stripeWebhookEvents) : receiptStatus id d' = receiptStatus id d := by
  rw [receiptStatus, receiptStatus, receiptOf, receiptOf, h]

/-- A new receipt is refused exactly when there is one already. -/
lemma taken_receipt {d : Database} {v : StripeWebhookEvent} :
    d.taken .stripeWebhookEvents v = (receiptOf v.stripeEventId d).isSome := by
  rw [Db.taken, receiptOf, Bool.eq_iff_iff, List.any_eq_true, List.find?_isSome]
  simp [Schema.keys, uniqueKeys]

/-- Marking one receipt leaves the status of the others alone. -/
lemma runs_markWebhookProcessed {ε : Type} [FromSql ε] (hk : s.Keyed) (clock : Clock) {id : String}
    {r : Entry StripeWebhookEvent} (hr : receiptOf id s.db = some r) :
    (markWebhookProcessed clock r.id : Tx ε Unit).Runs s fun _ s' =>
      receiptStatus id s'.db = some .processed ∧
        ∀ id', id' ≠ id → receiptStatus id' s'.db = receiptStatus id' s.db := by
  have hnone : ∀ e ∈ s.db .stripeWebhookEvents, (e.id == r.id) = true →
      s.db.updateRefusal .stripeWebhookEvents e.val
        { e.val with status := .processed, processedAt := some clock.now } = none :=
    fun e _ _ => Db.updateRefusal_of_same rfl rfl
  have hfind : ∀ i : String, receiptOf i (s.db.put .stripeWebhookEvents (updateRows (fun e => e.id == r.id)
      (fun v => { v with status := .processed, processedAt := some clock.now })
      (s.db .stripeWebhookEvents))) = (receiptOf i s.db).map (updateEntry (fun e => e.id == r.id)
        fun v => { v with status := .processed, processedAt := some clock.now }) := by
    intro i
    rw [receiptOf, Db.put_self, find_updateRows]
    · rfl
    · exact fun _ _ _ => rfl
  refine Prog.Runs.step (run_update hnone) (.pure ⟨?_, fun id' hne => ?_⟩)
  · rw [receiptStatus, hfind, hr]
    simp [updateEntry]
  · rw [receiptStatus, receiptStatus, hfind]
    cases h : receiptOf id' s.db with
    | none => rfl
    | some e =>
      have hid : ¬(e.id == r.id) = true := by
        intro hid
        have heq := Keyed.unique hk (receiptOf_mem h) (receiptOf_mem hr) (by simpa using hid)
        rw [heq] at h
        exact hne ((receiptOf_id h).symm.trans (receiptOf_id hr))
      simp [updateEntry, hid]

/-- Applying an event and marking its receipt, for an effect `R` that does not depend on receipts. -/
lemma runs_applyAndMark {α : Type} {R : Database → Prop} (hs : Stored s) (clock : Clock)
    (hR : ∀ d d' : Database, (∀ t, t ≠ stripeWebhookEvents → d' t = d t) → R d → R d')
    {r : Entry StripeWebhookEvent} (hr : receiptOf event.id s.db = some r)
    (happly : (applySupportedEvent clock r.id event).Runs s fun _ s' => R s'.db) (answer : α) :
    (do
      applySupportedEvent clock r.id event
      markWebhookProcessed clock r.id
      pure answer : Tx StripeWebhookApplyError α).Runs s fun _ s' =>
      R s'.db ∧
      receiptStatus event.id s'.db = some .processed ∧
        ∀ id, id ≠ event.id → receiptStatus id s'.db = receiptStatus id s.db := by
  refine Checked.runs_bind (applySupportedEvent_checked clock r.id event) hs happly fun _ s₁ hp₁ hs₁ h₁ => ?_
  have hreceipts : s₁.db .stripeWebhookEvents = s.db .stripeWebhookEvents := h₁ _ (by decide)
  have hr₁ : receiptOf event.id s₁.db = some r := by
    rwa [receiptOf, hreceipts]
  have hmarked := runs_markWebhookProcessed (ε := StripeWebhookApplyError) hs₁.keyed clock hr₁
  have hchecked : Checked (ε := StripeWebhookApplyError) [stripeWebhookEvents] (markWebhookProcessed clock r.id) :=
    (checked_update (by decide) (unkeyed (by decide)) _ _).bind fun _ => .pure _
  refine Prog.Runs.bind (hmarked.touches hchecked.touches) fun _ s₂ h₂ => .pure ?_
  obtain ⟨⟨hdone, hother⟩, hsame⟩ := h₂
  refine ⟨hR _ _ (fun t ht => hsame t (by simpa using ht)) hp₁, hdone, fun id hne => ?_⟩
  rw [hother id hne, receiptStatus_congr hreceipts]

/-- What an accepted event leaves behind. -/
structure Applied (sid : String) (event : ParsedStripeEvent) (p : Projection) (s s' : DbStore) : Prop where
  projected : projected sid s'.db = some (eventEffect event p)
  receipt : receiptStatus event.id s'.db = some .processed
  others : ∀ id, id ≠ event.id → receiptStatus id s'.db = receiptStatus id s.db

lemma pending_iff : pending event s.db = true ↔ event.receiptStatus = .received ∧
    (receiptOf event.id s.db = none ∨
      ∃ r, receiptOf event.id s.db = some r ∧ r.val.status = .received) := by
  unfold pending receiptStatus
  cases h : receiptOf event.id s.db with
  | none => simp
  | some r => simp

/-- The receipt that the delivery of a new event inserts. -/
def newReceipt (clock : Clock) (event : ParsedStripeEvent) : StripeWebhookEvent :=
  { stripeEventId := event.id
    eventType := event.eventType
    status := event.receiptStatus
    processedAt := if event.receiptStatus = .ignored then some clock.now else none
    payloadSummary := event.payloadSummary }

lemma run_insertWebhookReceipt_new {ε : Type} [FromSql ε] (clock : Clock)
    (h : receiptOf event.id s.db = none) :
    (insertWebhookReceipt clock event : Tx ε _).run s = (.ok (some ⟨s.seq, newReceipt clock event⟩),
      ⟨s.db.put .stripeWebhookEvents (s.db .stripeWebhookEvents ++ [⟨s.seq, newReceipt clock event⟩]),
        s.seq + 1⟩) := by
  refine run_insertUnless_some rfl ?_ rfl
  rw [taken_receipt]
  simp [h]

lemma run_insertWebhookReceipt_held {ε : Type} [FromSql ε] (clock : Clock)
    {r : Entry StripeWebhookEvent} (h : receiptOf event.id s.db = some r) :
    (insertWebhookReceipt clock event : Tx ε _).run s = (.ok none, ⟨s.db, s.seq + 1⟩) := by
  refine run_insertUnless_none rfl ?_
  rw [taken_receipt]
  simp [h]

lemma run_fetchWebhookReceipt {ε : Type} [FromSql ε] {r : Entry StripeWebhookEvent}
    (h : receiptOf event.id s.db = some r) :
    (fetchWebhookReceipt event.id : Tx ε _).run s = (.ok r, ⟨s.db, s.seq + 1⟩) := run_selectOne h

/-- The store in which a new event is applied. -/
lemma inserted_receipt (hs : Stored s) (clock : Clock) (h : receiptOf event.id s.db = none) {s' : DbStore}
    (hrun : (insertWebhookReceipt clock event : Tx StripeWebhookApplyError _).run s =
      (.ok (some ⟨s.seq, newReceipt clock event⟩), s')) :
    Stored s' ∧ receiptOf event.id s'.db = some ⟨s.seq, newReceipt clock event⟩ ∧
      (∀ id, id ≠ event.id → receiptStatus id s'.db = receiptStatus id s.db) ∧
      ∀ t, t ≠ .stripeWebhookEvents → s'.db t = s.db t := by
  have hchecked : Checked (ε := StripeWebhookApplyError) [stripeWebhookEvents] (insertWebhookReceipt clock event) :=
    checked_insertUnless (by decide) _
  obtain ⟨hs', hsame⟩ := hchecked.ensures hs _ _ hrun
  rw [run_insertWebhookReceipt_new clock h] at hrun
  cases hrun
  refine ⟨hs', ?_, fun id hne => ?_, fun t ht => hsame t (by simpa using ht)⟩
  · rw [receiptOf] at h
    dsimp only [receiptOf]
    rw [Db.put_self, List.find?_append, h]
    simp [newReceipt]
  · dsimp only [receiptStatus, receiptOf]
    rw [Db.put_self, List.find?_append]
    have hnew : (event.id == id) = false := by simpa using fun h => hne h.symm
    simp [newReceipt, hnew]

/-- A pending event that can be applied is applied and marked. -/
lemma deliver_pending {R : Database → Prop} (hs : Stored s) (clock : Clock) (hpending : pending event s.db = true)
    (hR : ∀ d d' : Database, (∀ t, t ≠ stripeWebhookEvents → d' t = d t) → R d → R d')
    (happly : ∀ (s₁ : DbStore) (id : ℕ), Stored s₁ → (∀ t, t ≠ stripeWebhookEvents → s₁.db t = s.db t) →
      (applySupportedEvent clock id event).Runs s₁ fun _ s₂ => R s₂.db) :
    R (deliver clock event s).db ∧ receiptStatus event.id (deliver clock event s).db = some .processed ∧
      ∀ id, id ≠ event.id → receiptStatus id (deliver clock event s).db = receiptStatus id s.db := by
  obtain ⟨hreceived, hreceipt⟩ := pending_iff.mp hpending
  have hrun : (processStripeWebhookEvent clock event).Runs s fun _ s' => R s'.db ∧
      receiptStatus event.id s'.db = some .processed ∧
        ∀ id, id ≠ event.id → receiptStatus id s'.db = receiptStatus id s.db := by
    rcases hreceipt with hnone | ⟨r, hr, hstatus⟩
    · have hins := run_insertWebhookReceipt_new (ε := StripeWebhookApplyError) clock hnone
      refine Prog.Runs.step hins ?_
      obtain ⟨hs₁, hr₁, hother, hsame⟩ := inserted_receipt hs clock hnone hins
      dsimp only
      rw [if_neg (by rw [hreceived]; decide)]
      refine Prog.Runs.mono (runs_applyAndMark hs₁ clock hR hr₁ (happly _ _ hs₁ hsame) _) fun _ s₂ h => ?_
      exact ⟨h.1, h.2.1, fun id hne => (h.2.2 id hne).trans (hother id hne)⟩
    · refine Prog.Runs.step (run_insertWebhookReceipt_held clock hr) ?_
      dsimp only
      refine Prog.Runs.step (run_fetchWebhookReceipt (s := ⟨s.db, s.seq + 1⟩) hr) ?_
      rw [if_pos ⟨hstatus, hreceived⟩]
      have hs₁ : Stored (⟨s.db, s.seq + 1 + 1⟩ : DbStore) := hs.advance (n := s.seq + 1 + 1) (Nat.le_add_right s.seq 2)
      exact runs_applyAndMark hs₁ clock hR hr (happly _ _ hs₁ fun _ _ => rfl) _
  obtain ⟨a, s', hexec, hq⟩ := hrun.execute
  rwa [deliver, after, hexec]

/-- A pending, accepted event is applied once and for all. -/
theorem deliver_applied (hs : Stored s) (clock : Clock) (hp : projected sid s.db = some p)
    (habout : isAbout sid event = true) (hpending : pending event s.db = true)
    (hacc : accepted event p s.db = true) : Applied sid event p s (deliver clock event s) := by
  obtain ⟨hproj, hreceipt, hothers⟩ := deliver_pending (R := fun d => projected sid d = some (eventEffect event p))
    hs clock hpending (fun d d' hsame h => (projected_congr (hsame .subscriptions (by decide))).trans h)
    fun s₁ id hs₁ hsame => by
      refine runs_applySupportedEvent hs₁ clock id ?_ habout ?_
      · exact (projected_congr (hsame .subscriptions (by decide))).trans hp
      · exact (accepted_congr (hsame .customerProfiles (by decide)) (hsame .planVersions (by decide))).trans hacc
  exact ⟨hproj, hreceipt, hothers⟩

/-- A pending event that cannot be applied is rolled back, its receipt included. -/
lemma deliver_fails (hs : Stored s) (clock : Clock) (hpending : pending event s.db = true)
    (happly : ∀ (s₁ : DbStore) (id : ℕ), Stored s₁ → (∀ t, t ≠ stripeWebhookEvents → s₁.db t = s.db t) →
      (applySupportedEvent clock id event).Fails s₁) : (deliver clock event s).db = s.db := by
  obtain ⟨hreceived, hreceipt⟩ := pending_iff.mp hpending
  have hfail : (processStripeWebhookEvent clock event).Fails s := by
    rcases hreceipt with hnone | ⟨r, hr, hstatus⟩
    · have hins := run_insertWebhookReceipt_new (ε := StripeWebhookApplyError) clock hnone
      refine Prog.Fails.step hins ?_
      obtain ⟨hs₁, -, -, hsame⟩ := inserted_receipt hs clock hnone hins
      dsimp only
      rw [if_neg (by rw [hreceived]; decide)]
      exact (happly _ _ hs₁ hsame).bind
    · refine Prog.Fails.step (run_insertWebhookReceipt_held clock hr) ?_
      dsimp only
      refine Prog.Fails.step (run_fetchWebhookReceipt (s := ⟨s.db, s.seq + 1⟩) hr) ?_
      rw [if_pos ⟨hstatus, hreceived⟩]
      have hs₁ : Stored (⟨s.db, s.seq + 1 + 1⟩ : DbStore) := hs.advance (n := s.seq + 1 + 1) (Nat.le_add_right s.seq 2)
      exact (happly _ _ hs₁ fun _ _ => rfl).bind
  obtain ⟨e, s', hexec, hdb⟩ := hfail.execute
  rw [deliver, after, hexec]
  exact hdb

/-- A pending event that is not accepted changes nothing. -/
theorem deliver_refused (hs : Stored s) (clock : Clock) (hp : projected sid s.db = some p)
    (habout : isAbout sid event = true) (hpending : pending event s.db = true)
    (hacc : accepted event p s.db = false) : (deliver clock event s).db = s.db := by
  refine deliver_fails hs clock hpending fun s₁ id hs₁ hsame => ?_
  refine fails_applySupportedEvent (p := p) hs₁ clock id ?_ habout ?_
  · exact (projected_congr (hsame .subscriptions (by decide))).trans hp
  · exact (accepted_congr (hsame .customerProfiles (by decide)) (hsame .planVersions (by decide))).trans hacc

/-- An event with a receipt that is no longer `received` is a duplicate and changes nothing. -/
theorem deliver_duplicate (clock : Clock) {r : Entry StripeWebhookEvent}
    (hr : receiptOf event.id s.db = some r) (hstatus : ¬(r.val.status = .received ∧ event.receiptStatus = .received)) :
    (deliver clock event s).db = s.db := by
  have hrun : (processStripeWebhookEvent clock event).Runs s fun _ s' => s'.db = s.db := by
    refine Prog.Runs.step (run_insertWebhookReceipt_held clock hr) ?_
    dsimp only
    refine Prog.Runs.step (run_fetchWebhookReceipt (s := ⟨s.db, s.seq + 1⟩) hr) ?_
    rw [if_neg hstatus]
    exact .pure rfl
  obtain ⟨a, s', hexec, hdb⟩ := hrun.execute
  rw [deliver, after, hexec]
  exact hdb

/-- A supported event that is not pending has been applied before. -/
lemma deliver_again (clock : Clock) (hreceived : event.receiptStatus = .received)
    (hpending : pending event s.db = false) : (deliver clock event s).db = s.db := by
  have hnot : ¬pending event s.db = true := by simp [hpending]
  rw [pending_iff] at hnot
  push Not at hnot
  obtain ⟨hne, hstatus⟩ := hnot hreceived
  obtain ⟨r, hr⟩ := Option.ne_none_iff_exists'.mp hne
  exact deliver_duplicate clock hr fun hc => hstatus r hr hc.1

/-- A delivery applies the event: it is new and supported, or still in `received`. -/
def Applies (event : ParsedStripeEvent) (d : Database) : Prop :=
  match receiptOf event.id d with
  | none => event.receiptStatus ≠ .ignored
  | some r => r.val.status = .received ∧ event.receiptStatus = .received

/-- A delivery that succeeds: an `R` that does not depend on receipts holds of the store after it, if applying
the event establishes it, or if it holds before and the event is not applied. -/
lemma ensures_process {R : Database → Prop} (hs : Stored s) (clock : Clock)
    (hR : ∀ d d' : Database, (∀ t, t ≠ stripeWebhookEvents → d' t = d t) → R d → R d')
    (hbefore : ¬Applies event s.db → R s.db)
    (happly : Applies event s.db → ∀ (s₁ : DbStore) (id : ℕ), Stored s₁ →
      (∀ t, t ≠ stripeWebhookEvents → s₁.db t = s.db t) →
      (applySupportedEvent clock id event).Ensures s₁ fun _ s₂ => R s₂.db) :
    (processStripeWebhookEvent clock event).Ensures s fun _ s' => R s'.db := by
  have hmark : ∀ id, Checked (ε := StripeWebhookApplyError) [stripeWebhookEvents]
      (markWebhookProcessed clock id) := fun id =>
    (checked_update (by decide) (unkeyed (by decide)) _ _).bind fun _ => .pure _
  have hrest : ∀ (s₁ : DbStore) (id : ℕ) (answer : StripeWebhookRecord), Applies event s.db →
      Stored s₁ → (∀ t, t ≠ stripeWebhookEvents → s₁.db t = s.db t) → (do
        applySupportedEvent clock id event
        markWebhookProcessed clock id
        pure answer : Tx StripeWebhookApplyError _).Ensures s₁ fun _ s' => R s'.db := by
    intro s₁ id answer happlies hs₁ hsame
    refine Prog.Ensures.bind (happly happlies s₁ id hs₁ hsame) fun _ s₂ h₂ => ?_
    exact Prog.Ensures.bind (hmark id).ensures_frame fun _ s₃ h₃ =>
      .pure (hR _ _ (fun t ht => h₃ t (by simpa using ht)) h₂)
  cases hreceipt : receiptOf event.id s.db with
  | none =>
    have hins := run_insertWebhookReceipt_new (ε := StripeWebhookApplyError) clock hreceipt
    obtain ⟨hs₁, -, -, hsame⟩ := inserted_receipt hs clock hreceipt hins
    refine Prog.Ensures.step hins ?_
    dsimp only
    split
    · rename_i hignored
      refine .pure (hR _ _ hsame (hbefore ?_))
      simp [Applies, hreceipt, hignored]
    · rename_i hsupported
      exact hrest _ _ _ (by rwa [Applies, hreceipt]) hs₁ hsame
  | some r =>
    refine Prog.Ensures.step (run_insertWebhookReceipt_held clock hreceipt) ?_
    refine Prog.Ensures.step (run_fetchWebhookReceipt (s := ⟨s.db, s.seq + 1⟩) hreceipt) ?_
    split
    · rename_i hboth
      have hs₁ : Stored (⟨s.db, s.seq + 1 + 1⟩ : DbStore) :=
        hs.advance (n := s.seq + 1 + 1) (Nat.le_add_right s.seq 2)
      exact hrest _ _ _ (by rwa [Applies, hreceipt]) hs₁ fun _ _ => rfl
    · rename_i hnot
      exact .pure (hbefore (by rwa [Applies, hreceipt]))

/-- Whatever happens to a delivery: such an `R` holds of the store after it, if it holds of the store before. -/
lemma ensures_deliver {R : Database → Prop} (hs : Stored s) (clock : Clock)
    (hR : ∀ d d' : Database, (∀ t, t ≠ stripeWebhookEvents → d' t = d t) → R d → R d') (hbefore : R s.db)
    (happly : Applies event s.db → ∀ (s₁ : DbStore) (id : ℕ), Stored s₁ →
      (∀ t, t ≠ stripeWebhookEvents → s₁.db t = s.db t) →
      (applySupportedEvent clock id event).Ensures s₁ fun _ s₂ => R s₂.db) : R (deliver clock event s).db :=
  after_ensures (ensures_process hs clock hR (fun _ => hbefore) happly) fun _ hdb => hdb ▸ hbefore

end ForgeCustomer.WebhookDelivery
