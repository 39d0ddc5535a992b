import ForgeCustomer.SqlAssumptions
import ForgeCustomer.WebhookOrder

/-!
# Deliveries of one event at the same time

Inserting the receipt makes every other delivery of the event wait. A receipt that is already there is only
read, so two deliveries can both find it in `received`.
-/
namespace ForgeCustomer.WebhookRaces
open SqlTables SqlPrograms SqlStatements SqlSessions SqlDiscipline SqlAssumptions Discipline DatabaseTables
  StripeEvents AuditWriters CommerceRepository SubscriptionProjection WebhookDelivery WebhookOrder TableName

def receipts (eventId : String) (d : Database) : List (Entry StripeWebhookEvent) :=
  (d .stripeWebhookEvents).filter fun e => e.val.stripeEventId == eventId

/-- The event has been applied or ignored. -/
def Settled (eventId : String) (d : Database) : Prop :=
  ∃ r, receipts eventId d = [r] ∧ r.val.status ≠ .received

/-- The event was received, and nothing came of it. -/
def Unsettled (eventId : String) (d : Database) : Prop :=
  ∃ r, receipts eventId d = [r] ∧ r.val.status = .received

variable {event : ParsedStripeEvent} {id : String} {d d' : Database} {r : Entry StripeWebhookEvent}

lemma receiptOf_eq_head (id : String) (d : Database) : receiptOf id d = (receipts id d).head? :=
  List.head?_filter.symm

lemma receipts_congr (h : d' .stripeWebhookEvents = d .stripeWebhookEvents) : receipts id d' = receipts id d := by
  rw [receipts, h, receipts]

lemma Settled.congr (h : Settled id d) (hsame : receipts id d' = receipts id d) : Settled id d' := by
  obtain ⟨r, hr, hstatus⟩ := h
  exact ⟨r, hsame.trans hr, hstatus⟩

/-- What has to be locked to change the receipt of an event. -/
def receiptGuard (eventId : String) : List (Entry StripeWebhookEvent) → List (Lock TableName UniqueKey) → Prop
  | [], L => Lock.key (.webhookEvent eventId) ∈ L
  | r :: _, L => Lock.row .stripeWebhookEvents r.id ∈ L

/-- An event has at most one receipt, and a settled one stays. -/
def oneReceipt (eventId : String) : Discipline Row UniqueKey where
  global _ := True
  evolves d d' := Settled eventId d → receipts eventId d' = receipts eventId d
  evolves_refl _ _ := rfl
  evolves_trans _ _ _ h h' hd := (h' (hd.congr (h hd))).trans (h hd)
  Key := Unit
  Part _ := List (Entry StripeWebhookEvent)
  part _ := receipts eventId
  ok _ rs := rs.length ≤ 1
  guards _ := receiptGuard eventId
  guards_mono _ rs L L' h hL := by
    cases rs with
    | nil | cons => exact hL _ h
  exclusive _ rs L L' _ h h' := by
    cases rs with
    | nil | cons => exact ⟨_, h, h'⟩

/-- A delivery that has looked at a receipt in `received` assumes that nobody else settles it. -/
def unsettledStays (eventId : String) : Assumption (oneReceipt eventId) where
  holds w d d' := 2 ≤ w.length → Unsettled eventId d → receipts eventId d' = receipts eventId d
  refl _ _ _ _ := rfl
  trans w d d' d'' _ _ h h' hw hd := by
    have hsame := h hw hd
    obtain ⟨r, hr, hstatus⟩ := hd
    exact (h' hw ⟨r, hsame.trans hr, hstatus⟩).trans hsame

/-- What a delivery may do to the committed rows. -/
structure Delivers (event : ParsedStripeEvent) (answer : Except StripeWebhookApplyError StripeWebhookRecord)
    (d d' : Database) : Prop where
  change : d' = d ∨ ¬Settled event.id d ∧ Settled event.id d' ∧
    (Unsettled event.id d → event.receiptStatus = .received)
  processed : ∀ a, answer = .ok a → a.status = .processed → Settled event.id d'

lemma Delivers.error (e : StripeWebhookApplyError) (d : Database) : Delivers event (.error e) d d :=
  ⟨.inl rfl, fun _ h => by cases h⟩

/-- A delivery at work on the receipt `r`: it has inserted it or has found it in `received`. -/
structure Working (event : ParsedStripeEvent) (r : Entry StripeWebhookEvent) (L : List (Lock TableName UniqueKey))
    (w : List (ℕ × Change Row)) (d : Database) : Prop where
  held : receipts event.id d = [] ∧ Lock.key (.webhookEvent event.id) ∈ L ∨
    2 ≤ w.length ∧ receipts event.id d = [r] ∧ r.val.status = .received ∧ event.receiptStatus = .received
  shows : ∀ x, receipts event.id x = receipts event.id d → receipts event.id (replay w x) = [r]

variable {L L' : List (Lock TableName UniqueKey)} {w : List (ℕ × Change Row)}

lemma Working.kept (h : Working event r L w d) (hr : RelyOn (unsettledStays event.id) L w d d') :
    receipts event.id d' = receipts event.id d := by
  rcases h.held with ⟨hnone, hkey⟩ | ⟨hw, hone, hstatus, -⟩
  · exact hr.1.2.1 () (by simpa only [oneReceipt, hnone, receiptGuard] using hkey)
  · exact hr.2 hw ⟨r, hone, hstatus⟩

lemma Working.rely (h : Working event r L w d) (hr : RelyOn (unsettledStays event.id) L w d d') :
    Working event r L w d' := by
  have hsame := h.kept hr
  refine ⟨?_, fun x hx => h.shows x (hx.trans hsame)⟩
  rw [hsame]
  exact h.held

lemma Working.step (h : Working event r L w d) (hL : ∀ k ∈ L, k ∈ L') {n : ℕ} {c : Change Row}
    (hc : ∀ x, receipts event.id (c.apply n x) = receipts event.id x) : Working event r L' (w ++ [(n, c)]) d where
  held := by
    rcases h.held with ⟨hnone, hkey⟩ | ⟨hw, hone, hboth⟩
    · exact .inl ⟨hnone, hL _ hkey⟩
    · exact .inr ⟨by rw [List.length_append]; omega, hone, hboth⟩
  shows x hx := by
    rw [replay_append, hc]
    exact h.shows x hx

lemma Working.not_settled (h : Working event r L w d) : ¬Settled event.id d := by
  rintro ⟨r', hr', hstatus⟩
  rcases h.held with ⟨hnone, -⟩ | ⟨-, hone, hreceived, -⟩
  · simp [hnone] at hr'
  · obtain rfl : r = r' := by simpa [hone] using hr'
    exact hstatus hreceived

lemma Working.received (h : Working event r L w d) (hd : Unsettled event.id d) : event.receiptStatus = .received := by
  rcases h.held with ⟨hnone, -⟩ | ⟨-, -, -, hevent⟩
  · obtain ⟨r', hr', -⟩ := hd
    simp [hnone] at hr'
  · exact hevent

/-- Whoever has settled the receipt may commit. -/
lemma Working.commits {w' : List (ℕ × Change Row)} {record : StripeWebhookRecord} (h : Working event r L w d)
    (settle : Entry StripeWebhookEvent → Entry StripeWebhookEvent) (hstatus : (settle r).val.status ≠ .received)
    (hrow : receipts event.id d = [r] → Lock.row stripeWebhookEvents r.id ∈ L')
    (hL : ∀ k ∈ L, k ∈ L') (hw : w.length ≤ w'.length)
    (hsettled : ∀ x, receipts event.id (replay w x) = [r] → receipts event.id (replay w' x) = [settle r]) :
    CommitsOn (unsettledStays event.id) (Delivers event) (.ok record) L' w' d := by
  intro d' _ hr _
  have hr' : RelyOn (unsettledStays event.id) L w d d' :=
    ⟨Rely.mono hr.1 hL, fun hlen => hr.2 (hlen.trans hw)⟩
  have hwork := h.rely hr'
  have hsame := h.kept hr'
  have hafter : receipts event.id (replay w' d') = [settle r] := hsettled d' (hwork.shows d' rfl)
  have hdone : Settled event.id (replay w' d') := ⟨settle r, hafter, hstatus⟩
  refine ⟨⟨trivial, fun hs => absurd hs hwork.not_settled, fun _ => ?_, fun _ => .inr ?_⟩,
    .inr ⟨hwork.not_settled, hdone, hwork.received⟩, fun _ _ _ => hdone⟩
  · simp [oneReceipt, hafter]
  · rcases hwork.held with ⟨hnone, hkey⟩ | ⟨-, hone, -⟩
    · simpa only [oneReceipt, hnone, receiptGuard] using hL _ hkey
    · simpa only [oneReceipt, hone, receiptGuard] using hrow (hsame.symm.trans hone)

/-- Set a receipt to `processed`. -/
def processedAt (clock : Clock) (r : Entry StripeWebhookEvent) : Entry StripeWebhookEvent :=
  ⟨r.id, { r.val with status := .processed, processedAt := some clock.now }⟩

lemma receipts_of_receiptOf (hone : (receipts id d).length ≤ 1) (h : receiptOf id d = some r) : receipts id d = [r] := by
  rw [receiptOf_eq_head] at h
  cases hrs : receipts id d with
  | nil => simp [hrs] at h
  | cons r' rs =>
    rw [hrs] at h hone
    simp only [List.head?_cons, Option.some.injEq] at h
    have hrs' : rs = [] := List.eq_nil_of_length_eq_zero (by simpa using hone)
    rw [h, hrs']

/-- Marking is an update of the receipt's row. -/
lemma receipts_mark {ids : List ℕ} (hr : receipts id d = [r]) (hids : r.id ∈ ids) (clock : Clock) (n : ℕ) :
    receipts id ((Change.update stripeWebhookEvents (fun e => e.id == r.id) ids
      fun v => { v with status := .processed, processedAt := some clock.now }).apply n d) = [processedAt clock r] := by
  unfold receipts at hr ⊢
  rw [Change.apply, Db.put_self, filter_updateRows_kept fun _ _ _ => rfl, hr]
  simp [updateEntry, hids, processedAt]

lemma safeOn_mark {record : StripeWebhookRecord} (h : Working event r L w d) (clock : Clock) :
    SafeOn (unsettledStays event.id) (CommitsOn (unsettledStays event.id) (Delivers event)) (do
      markWebhookProcessed clock r.id
      pure record) L w d := by
  rw [markWebhookProcessed, update, updateFrom]
  refine safeOn_bind.mpr (safeOn_bind.mpr (safeOn_statement fun d' hd' hr env he hk => ⟨fun c a hat => ?_,
    fun e _ _ _ _ _ _ _ => .error _ _⟩))
  have hwork := h.rely hr
  have hone : receipts event.id (replay w d') = [r] := hwork.shows d' rfl
  have hmem : r ∈ replay w d' .stripeWebhookEvents := by
    have hr' : r ∈ receipts event.id (replay w d') := by simp [hone]
    exact (List.mem_filter.mp hr').1
  obtain ⟨rfl, -⟩ := tryUpdate_ok hat
  have hids : r.id ∈ ((env.db .stripeWebhookEvents).filter fun e => e.id == r.id).map (·.id) := by
    rw [he]
    exact List.mem_map_of_mem (List.mem_filter.mpr ⟨hmem, by simp⟩)
  refine hwork.commits (processedAt clock) (by simp [processedAt]) (fun _ => ?_)
    (fun k hk => List.mem_append_left _ hk) (by rw [List.length_append]; omega) fun x hx => ?_
  · exact List.mem_append_right _ (by simpa [Change.locks] using hids)
  · rw [replay_append]
    exact receipts_mark hx hids clock _

/-- Whatever applying the event does, the receipt is marked with it. -/
lemma safeOn_applyAndMark {record : StripeWebhookRecord} (h : Working event r L w d) (clock : Clock) :
    SafeOn (unsettledStays event.id) (CommitsOn (unsettledStays event.id) (Delivers event)) (do
      applySupportedEvent clock r.id event
      markWebhookProcessed clock r.id
      pure record) L w d := by
  refine safeOn_bind.mpr (safeOn_touches (applySupportedEvent_checked clock r.id event).touches (F := Working event r)
    h (fun _ _ _ _ hF _ hr => hF.rely hr) (fun _ _ _ _ c _ hF hc hL => hF.step hL fun x => ?_) fun a L' w' d' hF => ?_)
  · exact receipts_congr (hc.apply_eq _ _ (by decide))
  · cases a with
    | ok => exact safeOn_mark hF clock
    | error e => exact fun d'' _ _ _ => .error e d''

lemma safeOn_inserted {record : Entry StripeWebhookEvent} (h : Working event record L w d) (clock : Clock)
    (hnone : receipts event.id d = []) (hstatus : record.val.status = event.receiptStatus) :
    SafeOn (unsettledStays event.id) (CommitsOn (unsettledStays event.id) (Delivers event))
      (if event.receiptStatus = .ignored then pure ⟨.inserted, record.val.status⟩
      else do
        applySupportedEvent clock record.id event
        markWebhookProcessed clock record.id
        pure ⟨.inserted, .processed⟩) L w d := by
  split
  · rename_i hignored
    have hsettled : (id record).val.status ≠ .received := by simp [hstatus, hignored]
    refine h.commits _ hsettled (fun hone => ?_) (fun _ hk => hk) le_rfl fun _ hx => hx
    simp [hnone] at hone
  · exact safeOn_applyAndMark h clock

/-- A delivery that has found a receipt reads it once more. -/
lemma safeOn_found (clock : Clock) (event : ParsedStripeEvent) (n : ℕ) (d : Database) :
    SafeOn (unsettledStays event.id) (CommitsOn (unsettledStays event.id) (Delivers event)) (do
      let existing ← fetchWebhookReceipt event.id
      if existing.val.status = .received ∧ event.receiptStatus = .received then
        applySupportedEvent clock existing.id event
        markWebhookProcessed clock existing.id
        pure ⟨.duplicate, .processed⟩
      else pure ⟨.duplicate, existing.val.status⟩) [] [(n, .nothing)] d := by
  refine safeOn_bind.mpr (safeOn_statement fun d' hd' _ env he _ => ⟨fun c existing hat => ?_,
    fun e _ _ _ _ _ _ _ => .error _ _⟩)
  have hread : receiptOf event.id d' = some existing ∧ c = .nothing := by
    have hview : replay [(n, .nothing)] d' = d' := rfl
    rw [he, hview] at hat
    dsimp only at hat
    split at hat
    · rename_i a ha
      cases hat
      exact ⟨ha, rfl⟩
    · cases hat
  obtain ⟨hfound, rfl⟩ := hread
  have hone := receipts_of_receiptOf (hd'.2 ()) hfound
  dsimp only
  split
  · rename_i hboth
    refine safeOn_applyAndMark ⟨.inr ⟨by simp, hone, hboth⟩, fun x hx => ?_⟩ clock
    exact hx.trans hone
  · rename_i hnot
    intro d'' hd'' hr _
    refine ⟨⟨trivial, fun _ => rfl, hd''.2, fun _ => .inl rfl⟩, .inl rfl, fun a ha hprocessed => ?_⟩
    cases ha
    change existing.val.status = .processed at hprocessed
    have hsettled : Settled event.id d' := ⟨existing, hone, by simp [hprocessed]⟩
    exact hsettled.congr (hr.1.1 hsettled)

lemma receipts_insert {v : StripeWebhookEvent} (hv : v.stripeEventId = id) (hnone : receipts id d = []) (n : ℕ) :
    receipts id ((Change.insert stripeWebhookEvents v).apply n d) = [⟨n, v⟩] := by
  unfold receipts at hnone ⊢
  rw [Change.apply, Db.put_self, List.filter_append, hnone]
  simp [hv]

theorem safeOn_deliver (clock : Clock) (event : ParsedStripeEvent) (d : Database) :
    SafeOn (unsettledStays event.id) (CommitsOn (unsettledStays event.id) (Delivers event))
      (processStripeWebhookEvent clock event) [] [] d := by
  refine safeOn_bind.mpr (safeOn_statement fun d' hd' _ env he hk => ⟨fun c inserted hat => ?_,
    fun e _ _ _ _ _ _ _ => .error _ _⟩)
  rw [he, replay, List.foldl_nil] at hat
  rcases tryInsertUnless_ok hat with ⟨-, rfl, rfl⟩ | ⟨htaken, rfl, rfl⟩
  · exact safeOn_found clock event _ _
  · have hnone : receipts event.id d' = [] := by
      rw [taken_receipt, receiptOf_eq_head] at htaken
      simpa using htaken
    refine safeOn_inserted ⟨.inl ⟨hnone, ?_⟩, fun x hx => ?_⟩ clock hnone rfl
    · simp [Change.locks, Schema.keys, uniqueKeys]
    · have hx' : receipts event.id _ = [] := hx.trans hnone
      exact receipts_insert (by rfl) hx' _

abbrev WebhookSys := Sys Row UniqueKey StripeWebhookApplyError StripeWebhookRecord

def deliveries (event : ParsedStripeEvent) (clocks : List Clock) :
    List (Prog Row UniqueKey StripeWebhookApplyError StripeWebhookRecord) :=
  clocks.map fun clock => processStripeWebhookEvent clock event

/-- While a delivery commits that has found the receipt in `received`, no other delivery has got past the
insert. -/
def NoSecondReader (event : ParsedStripeEvent) (y : WebhookSys) (m : Move) : Prop :=
  event.receiptStatus = .received → Unsettled event.id y.store.db →
    ∀ i a w h, m = .advance i → y.Active i (.done a) w h →
      ∀ j p' w' h', j ≠ i → y.Active j p' w' h' → w'.length < 2

/-- The commit changes something, or its delivery reports the event as processed. -/
def Concludes (c : Commit Row StripeWebhookApplyError StripeWebhookRecord) : Prop :=
  c.after ≠ c.before ∨ ∃ a, c.answer = .ok a ∧ a.status = .processed

variable {y y' : WebhookSys} {m : Move}

abbrev DeliverySound (event : ParsedStripeEvent) (y : WebhookSys) : Prop :=
  SoundOn (fun _ => unsettledStays event.id) (fun _ => Delivers event) y

lemma deliverySound_step (hy : DeliverySound event y) (hD : NoSecondReader event y m) (hm : y.step m = some y') :
    DeliverySound event y' := by
  refine hy.step hm fun i a w h hmove hi hpost j p' w' h' hne hj hw hd => ?_
  rcases hpost.change with hsame | ⟨-, -, hreceived⟩
  · rw [hsame]
  · have := hD (hreceived hd) hd i a w h hmove hi j p' w' h' hne hj
    omega

/-- The commits so far: the first one that concludes is the last one that changes anything. -/
structure AppliedOnce (event : ParsedStripeEvent) (d : Database) (y : WebhookSys) : Prop where
  once : y.log.Pairwise fun c c' => Concludes c → c'.after = c'.before
  settled : ∀ c ∈ y.log, Concludes c → Settled event.id y.store.db
  never : Settled event.id d → Settled event.id y.store.db ∧ ∀ c ∈ y.log, c.after = c.before

lemma AppliedOnce.append (h : AppliedOnce event d y) {c : Commit Row StripeWebhookApplyError StripeWebhookRecord}
    (hlog : y'.log = y.log ++ [c]) (hbefore : c.before = y.store.db) (hafter : c.after = y'.store.db)
    (hc : Delivers event c.answer c.before c.after) : AppliedOnce event d y' := by
  have hsame : Settled event.id y.store.db → c.after = c.before := fun hs =>
    hc.change.resolve_right fun hchanged => hchanged.1 (hbefore ▸ hs)
  have hkept : Settled event.id y.store.db → Settled event.id y'.store.db := fun hs => by
    rwa [← hafter, hsame hs, hbefore]
  refine ⟨?_, fun c' hc' hconcludes => ?_, fun hd => ⟨hkept (h.never hd).1, fun c' hc' => ?_⟩⟩
  · rw [hlog, List.pairwise_append]
    refine ⟨h.once, List.pairwise_singleton _ _, fun c₀ hc₀ c' hc' hconcludes => ?_⟩
    obtain rfl := List.mem_singleton.mp hc'
    exact hsame (h.settled c₀ hc₀ hconcludes)
  · rw [hlog] at hc'
    rcases List.mem_append.mp hc' with hc' | hc'
    · exact hkept (h.settled c' hc' hconcludes)
    · obtain rfl := List.mem_singleton.mp hc'
      rw [← hafter]
      rcases hconcludes with hchanged | ⟨a, ha, hprocessed⟩
      · exact (hc.change.resolve_left hchanged).2.1
      · exact hc.processed a ha hprocessed
  · rw [hlog] at hc'
    rcases List.mem_append.mp hc' with hc' | hc'
    · exact (h.never hd).2 c' hc'
    · obtain rfl := List.mem_singleton.mp hc'
      exact hsame (h.never hd).1

lemma commit_delivers (hy : DeliverySound event y) (hm : y.step m = some y')
    {c : Commit Row StripeWebhookApplyError StripeWebhookRecord} (hlog : y'.log = y.log ++ [c]) :
    Delivers event c.answer c.before c.after := by
  rcases Sys.step_cases hm with ⟨i, a, w, h, rfl, hi, rfl⟩ | ⟨i, e, w, h, rfl, hi, rfl⟩ |
    ⟨i, l, change, n, w, h, rfl, hi, -, rfl⟩ | ⟨i, p, w, h, rfl, hi, rfl⟩
  · obtain rfl : _ = c := by simpa using hlog
    exact (hy.commits hi).2
  · obtain rfl : _ = c := by simpa using hlog
    exact .error e _
  · simp at hlog
  · simp at hlog

lemma appliedOnce_of_reach {store : DbStore} {clocks : List Clock} (hk : store.Keyed)
    (hone : (receipts event.id store.db).length ≤ 1)
    (hy : Sys.ReachWhen (NoSecondReader event) (Sys.start store (deliveries event clocks)) y) :
    DeliverySound event y ∧ AppliedOnce event store.db y := by
  induction hy with
  | start =>
    refine ⟨soundOn_start ⟨trivial, fun _ => hone⟩ hk fun i p hp => ?_, ?_⟩
    · obtain ⟨clock, -, rfl⟩ := List.mem_map.mp (List.mem_of_getElem? hp)
      exact safeOn_deliver clock event store.db
    · exact ⟨.nil, fun c hc => absurd hc (by simp [Sys.start]), fun hd => ⟨hd, by simp [Sys.start]⟩⟩
  | @step y y' m _ hD hm ih =>
    refine ⟨deliverySound_step ih.1 hD hm, ?_⟩
    rcases step_log hm with ⟨hlog, hdb⟩ | ⟨c, hlog, hbefore, hafter⟩
    · refine ⟨by rw [hlog]; exact ih.2.once, ?_, ?_⟩
      · rw [hlog, hdb]
        exact ih.2.settled
      · rw [hlog, hdb]
        exact ih.2.never
    · exact ih.2.append hlog hbefore hafter (commit_delivers ih.1 hm hlog)

/-- Unless a second delivery has already read a receipt in `received` while the first one commits, the event is
applied at most once, and a delivery that reports it as processed is the last one that can change anything. -/
theorem event_applied_once (event : ParsedStripeEvent) (clocks : List Clock) {store : DbStore} (hk : store.Keyed)
    (hone : (receipts event.id store.db).length ≤ 1)
    (hy : Sys.ReachWhen (NoSecondReader event) (Sys.start store (deliveries event clocks)) y) :
    (y.log.Pairwise fun c c' => c.after ≠ c.before → c'.after = c'.before) ∧
    (y.log.Pairwise fun c c' => (∃ a, c.answer = .ok a ∧ a.status = .processed) → c'.after = c'.before) ∧
    (Settled event.id store.db → ∀ c ∈ y.log, c.after = c.before) := by
  obtain ⟨-, happlied⟩ := appliedOnce_of_reach hk hone hy
  refine ⟨happlied.once.imp fun h hchanged => h (.inl hchanged),
    happlied.once.imp fun h hprocessed => h (.inr hprocessed), fun hd => (happlied.never hd).2⟩

/-- The deletion is older than the state of its subscription, so all that applying it does is one audit row. -/
def receivedRows : ∀ t, List (Entry (Row t))
  | .customerProfiles => [⟨0, ⟨100, .individual, none, .active, none, none, false, none, 0⟩⟩]
  | .billingAccounts => [⟨5, ⟨0⟩⟩]
  | .subscriptions => [⟨6, ⟨0, 5, 3, "sub_1", .active, none, none, false, some 20000000, 0⟩⟩]
  | .stripeWebhookEvents => [⟨7, ⟨"evt_1", "customer.subscription.deleted", .received, none, .null⟩⟩]
  | _ => []

def receivedStore : DbStore := ⟨receivedRows, 8⟩

lemma receivedStore_keyed : receivedStore.Keyed := by
  refine ⟨fun t => ?_, fun t => ?_⟩ <;> cases t <;> simp [receivedStore, receivedRows]

def twoDeliveries : WebhookSys := Sys.start receivedStore (deliveries deletedEvent [⟨1, 1⟩, ⟨2, 2⟩])

/-- Both deliveries read the receipt before the first one settles it. -/
def bothReadMoves : List Move :=
  [.advance 0, .advance 1, .advance 0, .advance 1] ++ List.replicate 4 (.advance 0) ++ List.replicate 4 (.advance 1)

/-- The audit rows that each commit has added. -/
def auditsAdded (y : WebhookSys) : List ℕ :=
  y.log.map fun c => (c.after .commercialAuditEvents).length - (c.before .commercialAuditEvents).length

theorem event_applied_twice : receivedStore.Keyed ∧ (receipts deletedEvent.id receivedStore.db).length = 1 ∧
    ∃ y, Sys.Reachable twoDeliveries y ∧
      ¬y.log.Pairwise fun c c' => c.after ≠ c.before → c'.after = c'.before := by
  refine ⟨receivedStore_keyed, by decide, ?_⟩
  have hrun : (Sys.run bothReadMoves twoDeliveries).map auditsAdded = some [1, 1] := by decide
  obtain ⟨y, hy, hadded⟩ := Option.map_eq_some_iff.mp hrun
  refine ⟨y, Sys.reachable_of_run .start hy, fun hpairs => ?_⟩
  have hgrown : ∀ c ∈ y.log, c.after ≠ c.before := by
    intro c hc hsame
    have hmem : (c.after .commercialAuditEvents).length - (c.before .commercialAuditEvents).length ∈ auditsAdded y :=
      List.mem_map_of_mem hc
    rw [hadded, hsame] at hmem
    simp at hmem
  have htwo : y.log.length = 2 := by
    have := congrArg List.length hadded
    simpa [auditsAdded] using this
  obtain ⟨c, c', hlog⟩ := List.length_eq_two.mp htwo
  rw [hlog, List.pairwise_pair] at hpairs
  exact hgrown c' (by simp [hlog]) (hpairs (hgrown c (by simp [hlog])))

/-- No other delivery has got past the insert. -/
def onlyReader (y : WebhookSys) : Move → Bool
  | .advance i => (List.range y.sessions.length).all fun j => j == i ||
    match y.sessions[j]? with
    | some (.running _ w _) => w.length < 2
    | _ => true
  | .abort _ => true

lemma noSecondReader_of_onlyReader (h : onlyReader y m = true) : NoSecondReader event y m := by
  rintro - - i a w held rfl hi j p' w' held' hne hj
  have hlt : j < y.sessions.length := (List.getElem?_eq_some_iff.mp hj).1
  have hj' := List.all_eq_true.mp h j (List.mem_range.mpr hlt)
  simpa [hne, hj] using hj'

/-- One delivery after the other. -/
def inTurnMoves : List Move := List.replicate 6 (.advance 0) ++ List.replicate 3 (.advance 1)

theorem event_applied_once_sample : ∃ y, Sys.runChecked onlyReader inTurnMoves twoDeliveries = some y ∧
    auditsAdded y = [1, 0] ∧ y.log.Pairwise fun c c' => c.after ≠ c.before → c'.after = c'.before := by
  have hrun : (Sys.runChecked onlyReader inTurnMoves twoDeliveries).map auditsAdded = some [1, 0] := by decide
  obtain ⟨y, hy, hadded⟩ := Option.map_eq_some_iff.mp hrun
  have hreach : Sys.ReachWhen (NoSecondReader deletedEvent) twoDeliveries y :=
    Sys.reachWhen_of_runChecked (fun _ _ h => noSecondReader_of_onlyReader h) .start hy
  have honce := event_applied_once deletedEvent [⟨1, 1⟩, ⟨2, 2⟩] receivedStore_keyed (by decide) hreach
  exact ⟨y, hy, hadded, honce.1⟩

end ForgeCustomer.WebhookRaces
