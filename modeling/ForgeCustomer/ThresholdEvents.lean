import ForgeCustomer.ServiceOperations
import ForgeCustomer.UsagePeriods

/-!
# Threshold events

`commit` compares what was used before and after with each mark of the limit. Over a run the events of one
period are those of the marks that the highest total has reached.
-/
namespace ForgeCustomer.ThresholdEvents
open SqlTables SqlPrograms SqlStatements JsonValue DomainRules StripeEvents DatabaseTables AuditWriters UsageRepository
  AdminRepository UsagePeriods ServiceOperations TableName

structure Period where
  customerId : ℕ
  meterKey : String
  periodKey : String

/-- `quota_threshold_reached:{customer}:{meter}:{period}:{pct}`. -/
def Period.deliveryKey (period : Period) (pct : ℕ) : String :=
  s!"quota_threshold_reached:{period.customerId}:{period.meterKey}:{period.periodKey}:{pct}"

lemma deliveryKey_inj {period : Period} {p q : ℕ} : period.deliveryKey p = period.deliveryKey q ↔ p = q := by
  constructor
  · intro h
    unfold Period.deliveryKey at h
    rw [String.append_right_inj] at h
    exact Nat.repr_injective h
  · exact congrArg _

lemma head_append {a b : String} {c : Char} (h : a.toList.head? = some c) :
    (a ++ b).toList.head? = some c := by
  rw [String.toList_append, List.head?_append, h]
  rfl

lemma head_deliveryKey (period : Period) (pct : ℕ) : (period.deliveryKey pct).toList.head? = some 'q' := by
  have hliteral : "quota_threshold_reached:".toList.head? = some 'q' := by decide
  unfold Period.deliveryKey
  repeat apply head_append
  exact hliteral

/-- The event of a denied commit takes no delivery key of the period. -/
lemma failedKey_ne (customerId : ℕ) (idempotencyKey : String) (period : Period) (pct : ℕ) :
    s!"usage_commit_failed:{customerId}:{idempotencyKey}" ≠ period.deliveryKey pct := by
  intro h
  have hliteral : "usage_commit_failed:".toList.head? = some 'u' := by decide
  have hhead : (s!"usage_commit_failed:{customerId}:{idempotencyKey}").toList.head? = some 'u' := by
    repeat apply head_append
    exact hliteral
  rw [h, head_deliveryKey] at hhead
  exact absurd hhead (by decide)

def percentOf (payload : Value) : Option ℤ :=
  match payload.get "threshold_percent" with
  | some (.int n) => some n
  | _ => none

/-- A queued event of the period for one percentage. -/
def isThreshold (period : Period) (pct : ℕ) (e : Entry OutboxEvent) : Bool :=
  e.val.eventType == "quota_threshold_reached" &&
    stringField e.val.payload "customer_id" == some (toString period.customerId) &&
    stringField e.val.payload "meter_key" == some period.meterKey &&
    stringField e.val.payload "period_key" == some period.periodKey &&
    percentOf e.val.payload == some (pct : ℤ)

def queued (period : Period) (pct : ℕ) (events : List (Entry OutboxEvent)) : ℕ :=
  (events.filter (isThreshold period pct)).length

/-- The delivery keys of the period are those of its events. -/
def Tidy (period : Period) (events : List (Entry OutboxEvent)) : Prop :=
  ∀ e ∈ events, ∀ pct, e.val.deliveryKey = period.deliveryKey pct ↔ isThreshold period pct e = true

/-- What a run is about: the used total and the outbox. -/
structure PeriodView where
  used : ℚ
  events : List (Entry OutboxEvent)

def Period.view (period : Period) (d : Database) : PeriodView :=
  ⟨(currentTotals period.customerId period.meterKey period.periodKey d).1, d outboxEvents⟩

section Queueing
variable {period : Period}

/-- The events of `pcts` that were missing have been queued, and no others. -/
def Queues (period : Period) (pcts : List ℕ) (before after : List (Entry OutboxEvent)) : Prop :=
  Tidy period before → Tidy period after ∧ ∀ pct,
    queued period pct after =
      if pct ∈ pcts ∧ queued period pct before = 0 then 1 else queued period pct before

lemma Queues.refl (events : List (Entry OutboxEvent)) : Queues period [] events events :=
  fun htidy => ⟨htidy, fun pct => by simp⟩

lemma Queues.trans {pcts pcts' : List ℕ} {before middle after : List (Entry OutboxEvent)}
    (h : Queues period pcts before middle) (h' : Queues period pcts' middle after) :
    Queues period (pcts ++ pcts') before after := by
  intro htidy
  obtain ⟨hmiddle, hcount⟩ := h htidy
  obtain ⟨hafter, hcount'⟩ := h' hmiddle
  refine ⟨hafter, fun pct => ?_⟩
  rw [hcount', hcount]
  by_cases hpct : pct ∈ pcts ∧ queued period pct before = 0
  · simp [hpct]
  · rw [if_neg hpct]
    by_cases hpct' : pct ∈ pcts' ∧ queued period pct before = 0
    · simp [hpct'.1, hpct'.2]
    · have hneither : ¬(pct ∈ pcts ++ pcts' ∧ queued period pct before = 0) := by
        simp only [List.mem_append]
        tauto
      rw [if_neg hpct', if_neg hneither]

/-- An event that is none of the period's. -/
lemma Queues.other {events : List (Entry OutboxEvent)} {e : Entry OutboxEvent}
    (hkey : ∀ pct, e.val.deliveryKey ≠ period.deliveryKey pct) (hevent : ∀ pct, isThreshold period pct e = false) :
    Queues period [] events (events ++ [e]) := by
  intro htidy
  constructor
  · intro x hx pct
    rcases List.mem_append.mp hx with hx | hx
    · exact htidy x hx pct
    · rw [List.mem_singleton.mp hx, hevent]
      simp [hkey]
  · intro pct
    simp [queued, hevent]

/-- A new event of the period, unless it is there already. -/
lemma Queues.new {events : List (Entry OutboxEvent)} {e : Entry OutboxEvent} {pct : ℕ}
    (hkey : e.val.deliveryKey = period.deliveryKey pct)
    (hevent : ∀ q, isThreshold period q e = true ↔ q = pct)
    (hfree : ∀ x ∈ events, x.val.deliveryKey ≠ period.deliveryKey pct) :
    Queues period [pct] events (events ++ [e]) := by
  intro htidy
  constructor
  · intro x hx q
    rcases List.mem_append.mp hx with hx | hx
    · exact htidy x hx q
    · rw [List.mem_singleton.mp hx, hevent, hkey, deliveryKey_inj, eq_comm]
  · intro q
    by_cases hq : q = pct
    · subst hq
      have hnone : events.filter (isThreshold period q) = [] := by
        rw [List.filter_eq_nil_iff]
        exact fun x hx hthreshold => hfree x hx ((htidy x hx q).mpr hthreshold)
      have hhit : isThreshold period q e = true := (hevent q).mpr rfl
      simp [queued, hnone, hhit]
    · have hmiss : isThreshold period q e = false := by
        rw [← Bool.not_eq_true, hevent]
        exact hq
      simp [queued, hmiss, hq]

lemma Queues.known {events : List (Entry OutboxEvent)} {pct : ℕ}
    (hknown : ∃ e ∈ events, e.val.deliveryKey = period.deliveryKey pct) : Queues period [pct] events events := by
  intro htidy
  refine ⟨htidy, fun q => ?_⟩
  by_cases hq : q = pct
  · subst hq
    obtain ⟨e, he, hkey⟩ := hknown
    have hmem : e ∈ events.filter (isThreshold period q) :=
      List.mem_filter.mpr ⟨he, (htidy e he q).mp hkey⟩
    have hpos : queued period q events ≠ 0 := (List.length_pos_of_mem hmem).ne'
    simp [hpos]
  · simp [hq]

end Queueing

section Statements
variable {period : Period} {s : DbStore}

lemma view_congr {d d' : Database} (htotals : d' usagePeriodTotals = d usagePeriodTotals)
    (houtbox : d' outboxEvents = d outboxEvents) : period.view d' = period.view d := by
  simp only [Period.view, currentTotals, htotals, houtbox]

lemma view_used {d : Database} {e : Entry UsagePeriodTotal}
    (h : (d usagePeriodTotals).find? (isTotals period.customerId period.meterKey period.periodKey) = some e) :
    (period.view d).used = e.val.used :=
  congrArg Prod.fst (currentTotals_of_find h)

lemma keeps_other {ε α : Type} {S : List TableName} {p : Tx ε α} (hp : Checked S p)
    (htotals : usagePeriodTotals ∉ S) (houtbox : outboxEvents ∉ S) : p.Keeps period.view :=
  hp.touches.keeps fun _ _ hsame => view_congr (hsame _ htotals) (hsame _ houtbox)

/-- An update of totals that is not about what is used. -/
lemma keeps_updateTotals {ε : Type} [FromSql ε] (q : Entry UsagePeriodTotal → Bool)
    {f : UsagePeriodTotal → UsagePeriodTotal} (hused : ∀ r, (f r).used = r.used)
    (hkey : ∀ r id, isTotals period.customerId period.meterKey period.periodKey ⟨id, f r⟩ =
      isTotals period.customerId period.meterKey period.periodKey ⟨id, r⟩) :
    (update usagePeriodTotals q f : Tx ε _).Keeps period.view := by
  refine statement_each fun env n d => ?_
  cases htry : tryUpdate (κ := UniqueKey) usagePeriodTotals (fun _ => q) f env.db with
  | error e => rfl
  | ok x =>
    obtain ⟨c, rows⟩ := x
    obtain ⟨rfl, -⟩ := tryUpdate_ok htry
    have hchanged : ∀ ids : List ℕ, period.view ((Change.update usagePeriodTotals q ids f : Change Row).apply n d) =
        period.view d := by
      intro ids
      have hfind : (updateRows (fun e => q e && ids.contains e.id) f (d usagePeriodTotals)).find?
          (isTotals period.customerId period.meterKey period.periodKey) =
            ((d usagePeriodTotals).find? (isTotals period.customerId period.meterKey period.periodKey)).map
              (updateEntry (fun e => q e && ids.contains e.id) f) :=
        find_updateRows fun e _ _ => hkey e.val e.id
      have houtbox : ((Change.update usagePeriodTotals q ids f : Change Row).apply n d) outboxEvents = d outboxEvents :=
        Db.put_of_ne d (by decide) _
      simp only [Period.view, currentTotals, houtbox]
      simp only [Change.apply, Db.put_self, hfind]
      cases (d usagePeriodTotals).find? (isTotals period.customerId period.meterKey period.periodKey) with
      | none => rfl
      | some e =>
        simp only [Option.map_some, updateEntry]
        split_ifs with hit
        · simp [hused]
        · rfl
    exact hchanged _

lemma keeps_freeHold {ε : Type} [FromSql ε] (q : Entry UsagePeriodTotal → Bool) (amount : ℚ) :
    (update usagePeriodTotals q (freeHold amount) : Tx ε _).Keeps period.view :=
  keeps_updateTotals q (fun _ => rfl) fun _ _ => rfl

/-- New totals start with nothing used. -/
lemma keeps_lockTotals {ε : Type} [FromSql ε] (customerId : ℕ) (meterKey periodKey : String) :
    (lockTotals customerId meterKey periodKey : Tx ε _).Keeps period.view := by
  refine Prog.Keeps.bind ?_ fun _ => Prog.Keeps.bind ?_ fun _ => .pure _ _
  · refine statement_each fun env n d => ?_
    cases htry : tryInsertUnless (κ := UniqueKey) usagePeriodTotals
        ⟨customerId, meterKey, periodKey, 0, 0⟩ env.fresh env.db with
    | error e => rfl
    | ok x =>
      obtain ⟨c, inserted⟩ := x
      rcases tryInsertUnless_ok htry with ⟨-, rfl, -⟩ | ⟨-, rfl, -⟩
      · rfl
      have houtbox : ((Change.insert usagePeriodTotals ⟨customerId, meterKey, periodKey, 0, 0⟩ : Change Row).apply n d)
          outboxEvents = d outboxEvents := Db.put_of_ne d (by decide) _
      simp only [attempted, Period.view, currentTotals, houtbox]
      simp only [Change.apply, Db.put_self, List.find?_append]
      cases (d usagePeriodTotals).find? (isTotals period.customerId period.meterKey period.periodKey) with
      | none =>
        simp only [Option.none_or, List.find?_cons, List.find?_nil]
        split <;> rfl
      | some e => rfl
  · exact keeps_other (S := []) (checked_selectOneForUpdate _ _) (by decide) (by decide)

lemma keeps_expireStaleReservations {ε : Type} [FromSql ε] (customerId : ℕ) (meterKey periodKey : String)
    (now : Time) : (expireStaleReservations customerId meterKey periodKey now : Tx ε ℚ).Keeps period.view := by
  refine Prog.Keeps.bind (keeps_other (S := [usageReservations])
    (checked_update (by decide) (unkeyed (by decide)) _ _) (by decide) (by decide)) fun expired => ?_
  dsimp only
  split
  · exact Prog.Keeps.bind (keeps_freeHold _ _) fun _ => .pure _ _
  · exact .pure _ _

lemma keeps_recordDecision {ε : Type} [FromSql ε] (record : DecisionRecord) :
    (recordDecision record : Tx ε ℕ).Keeps period.view :=
  keeps_other (S := [quotaDecisions]) ((checked_insertRow (by decide) _).bind fun _ => .pure _)
    (by decide) (by decide)

lemma keeps_select {ε α : Type} [FromSql ε] (f : Database → α) :
    (select f : Tx ε α).Keeps period.view :=
  keeps_other (S := []) (checked_select f) (by decide) (by decide)

lemma keeps_selectOne {ε α : Type} [FromSql ε] (f : Database → Option α) :
    (selectOne f : Tx ε α).Keeps period.view :=
  keeps_other (S := []) (checked_selectOne f) (by decide) (by decide)

end Statements

section Operations
variable {period : Period} {s : DbStore}

lemma reserve_keeps (clock : Clock) (input : ReserveInput) : (reserve clock input).Keeps period.view := by
  refine Prog.Keeps.bind (keeps_select _) fun existing => ?_
  cases existing with
  | some existing => exact .pure _ _
  | none =>
    refine Prog.Keeps.bind (keeps_lockTotals _ _ _) fun _ => ?_
    refine Prog.Keeps.bind (keeps_expireStaleReservations _ _ _ _) fun _ => ?_
    refine Prog.Keeps.bind (keeps_selectOne _) fun totals => ?_
    refine Prog.Keeps.bind (keeps_recordDecision _) fun _ => ?_
    split
    · exact .pure _ _
    refine Prog.Keeps.bind (keeps_other (S := [usageReservations]) (checked_insertUnless (by decide) _)
      (by decide) (by decide)) fun reservation => ?_
    cases reservation with
    | none => exact Prog.Keeps.bind (keeps_selectOne _) fun _ => .pure _ _
    | some reservation =>
      exact Prog.Keeps.bind (keeps_updateTotals _ (fun _ => rfl) fun _ _ => rfl) fun _ => .pure _ _

lemma release_keeps (customerId reservationId : ℕ) : (release customerId reservationId).Keeps period.view := by
  refine Prog.Keeps.bind (keeps_other (S := []) (checked_selectForUpdate _ _) (by decide) (by decide))
    fun reservation => ?_
  cases reservation with
  | none => exact .pure _ _
  | some reservation =>
    dsimp only
    split
    · exact .pure _ _
    refine Prog.Keeps.bind (keeps_other (S := [usageReservations])
      (checked_update (by decide) (unkeyed (by decide)) _ _) (by decide) (by decide)) fun _ => ?_
    exact Prog.Keeps.bind (keeps_freeHold _ _) fun _ => .pure _ _

lemma freeHolds_keeps (expired : List ReservationRow) : (freeHolds expired).Keeps period.view := by
  induction expired with
  | nil => exact .pure _ _
  | cons reservation expired ih => exact Prog.Keeps.bind (keeps_freeHold _ _) fun _ => ih

lemma sweep_keeps (clock : Clock) (batch : ℕ) : (sweepExpiredReservations clock batch).Keeps period.view := by
  have hpicked : Checked [usageReservations] (updatePicked usageReservations (pickExpired clock.now batch)
      (setReservation .expired) : Tx SqlError _) :=
    checked_updatePicked (by decide) (unkeyed (by decide)) _ _ fun _ _ h => h
  refine Prog.Keeps.bind (keeps_other hpicked (by decide) (by decide)) fun expired => ?_
  exact Prog.Keeps.bind (freeHolds_keeps _) fun _ => .pure _ _

/-- A correction changes what is used by its amount, or, replayed, nothing. -/
lemma ensures_adjustUsage_view {input : UsageAdjustmentInput}
    (hinput : (⟨input.customerId, input.meterKey, input.periodKey⟩ : Period) = period) :
    (adjustUsage input).Ensures s fun _ s' => (period.view s'.db).events = (period.view s.db).events ∧
      ((period.view s'.db).used = (period.view s.db).used ∨
        (period.view s'.db).used = (period.view s.db).used + input.amount) := by
  subst hinput
  refine ensures_select.bind fun known s₀ h₀ => ?_
  obtain ⟨-, rfl⟩ := h₀
  split
  · exact .fail
  refine ensures_select.bind fun metered s₁ h₁ => ?_
  obtain ⟨-, rfl⟩ := h₁
  split
  · exact .fail
  refine Prog.Ensures.bind (Checked.ensures_frame (checked_insertUnless (S := [usageEvents]) (by decide) _))
    fun inserted s₂ h₂ => ?_
  cases inserted with
  | none =>
    refine Prog.Ensures.bind (Checked.ensures_frame (checked_selectOne (S := []) _)) fun existing s₃ h₃ => .pure ?_
    rw [view_congr (h₃ _ (by decide)) (h₃ _ (by decide)), view_congr (h₂ _ (by decide)) (h₂ _ (by decide))]
    exact ⟨rfl, .inl rfl⟩
  | some event =>
    have hupsert : (upsert usagePeriodTotals ⟨input.customerId, input.meterKey, input.periodKey, input.amount, 0⟩
        (fun r => { r with used := r.used + input.amount }) : Tx AdminError _).Ensures s₂ fun _ s' =>
          ∀ t ∉ [usagePeriodTotals], s'.db t = s₂.db t :=
      Checked.ensures_frame (checked_upsert (by decide) (unkeyed (by decide)) _ _)
    refine (ensures_foldTotals.and hupsert).bind fun row s₃ h₃ => ?_
    refine Prog.Ensures.bind (writeOperatorAudit_checked (S := [commercialAuditEvents]) (by decide) _).ensures_frame
      fun _ s₄ h₄ => .pure ?_
    obtain ⟨⟨-, htotals⟩, hsame⟩ := h₃
    have hbefore : Period.view ⟨input.customerId, input.meterKey, input.periodKey⟩ s₂.db =
        Period.view ⟨input.customerId, input.meterKey, input.periodKey⟩ s.db :=
      view_congr (h₂ usagePeriodTotals (by decide)) (h₂ outboxEvents (by decide))
    rw [view_congr (h₄ _ (by decide)) (h₄ _ (by decide))]
    constructor
    · exact (hsame outboxEvents (by decide)).trans (h₂ outboxEvents (by decide))
    · refine .inr ((congrArg Prod.fst htotals).trans ?_)
      exact congrArg (fun v : PeriodView => v.used + input.amount) hbefore

/-- From one view to the next exactly the marks in between are queued. -/
def Crosses (period : Period) (limit : ℚ) (percents : List ℕ) (v v' : PeriodView) : Prop :=
  Queues period (crossedThresholds v.used v'.used (some limit) percents) v.events v'.events

lemma mem_crossedThresholds {before after limit : ℚ} (hlimit : 0 < limit) {percents : List ℕ} {pct : ℕ} :
    pct ∈ crossedThresholds before after (some limit) percents ↔
      pct ∈ percents ∧ before < limit * pct / 100 ∧ limit * pct / 100 ≤ after := by
  simp [crossedThresholds, Option.filter, hlimit]

lemma crossedThresholds_of_le {before after limit : ℚ} {percents : List ℕ} (h : after ≤ before) :
    crossedThresholds before after (some limit) percents = [] := by
  unfold crossedThresholds
  split
  · rfl
  rw [List.filter_eq_nil_iff]
  intro pct _ hcrossed
  simp only [decide_eq_true_eq] at hcrossed
  exact absurd (hcrossed.2.trans h) (not_le.mpr hcrossed.1)

lemma Crosses.of_le {limit : ℚ} {percents : List ℕ} {v v' : PeriodView} (hused : v'.used ≤ v.used)
    (hevents : v'.events = v.events) : Crosses period limit percents v v' := by
  rw [Crosses, crossedThresholds_of_le hused, hevents]
  exact .refl _

lemma view_outbox {d : Database} (rows : List (Entry OutboxEvent)) :
    period.view (d.put outboxEvents rows) = ⟨(period.view d).used, rows⟩ := rfl

/-- Of the period and percentage that `writeThresholds` has put into the event. -/
lemma isThreshold_written {pct q id : ℕ} {usedAfter : ℚ} {limit : Option ℚ} {utcNow : Time} :
    isThreshold period q ⟨id, ⟨"quota_threshold_reached", period.deliveryKey pct,
      sanitize (.obj [("customer_id", .uuid period.customerId), ("meter_key", .str period.meterKey),
        ("period_key", .str period.periodKey), ("threshold_percent", .int pct),
        ("used", .float usedAfter), ("limit", Value.opt .float limit),
        ("occurred_at", .time utcNow)])⟩⟩ = true ↔ pct = q := by
  simp [isThreshold, stringField, percentOf, Value.get, Value.asStr, Value.uuid, sanitize, sanitizeMembers,
    prohibitedKeys]

lemma ensures_writeThresholds {usedAfter : ℚ} {limit : Option ℚ} {utcNow : Time} {thresholds : List ℕ} :
    (writeThresholds period.customerId period.meterKey period.periodKey usedAfter limit utcNow thresholds).Ensures s
      fun _ s' => (period.view s'.db).used = (period.view s.db).used ∧
        Queues period thresholds (period.view s.db).events (period.view s'.db).events := by
  induction thresholds generalizing s with
  | nil => exact .pure ⟨rfl, .refl _⟩
  | cons pct thresholds ih =>
    refine ensures_writeOutbox.bind fun _ s₁ h₁ => ih.mono fun _ s₂ h₂ => ?_
    obtain ⟨hused, hqueued⟩ := h₂
    rcases h₁ with ⟨hsame, hknown⟩ | ⟨hput, hfree⟩
    · rw [hsame] at hused hqueued
      exact ⟨hused, (Queues.known hknown).trans hqueued⟩
    · rw [hput, view_outbox] at hused hqueued
      refine ⟨hused, Queues.trans (Queues.new rfl (fun q => ?_) hfree) hqueued⟩
      exact isThreshold_written.trans eq_comm

/-- Folding an amount into existing totals. -/
lemma ensures_foldCommit {amount reservedDelta : ℚ} :
    (updateOne usagePeriodTotals (isTotals period.customerId period.meterKey period.periodKey)
      (fun r => { freeHold reservedDelta r with used := r.used + amount }) : Tx UsageError _).Ensures s
      fun totals s' => totals.val.used = (period.view s.db).used + amount ∧
        period.view s'.db = ⟨(period.view s.db).used + amount, (period.view s.db).events⟩ := by
  refine ensures_update.bind fun rows s₁ h₁ => ?_
  obtain ⟨rfl, hdb⟩ := h₁
  cases hbefore : (s.db usagePeriodTotals).find? (isTotals period.customerId period.meterKey period.periodKey) with
  | none =>
    have hnone : (s.db usagePeriodTotals).filter
        (isTotals period.customerId period.meterKey period.periodKey) = [] := by
      rw [List.filter_eq_nil_iff]
      simpa using hbefore
    rw [hnone]
    exact .fail
  | some e =>
    have hit : isTotals period.customerId period.meterKey period.periodKey e = true := List.find?_some hbefore
    have hafter : (s₁.db usagePeriodTotals).find? (isTotals period.customerId period.meterKey period.periodKey) =
        some ⟨e.id, { freeHold reservedDelta e.val with used := e.val.used + amount }⟩ := by
      rw [hdb, Db.put_self, find_updateRows (fun _ _ _ => rfl), hbefore]
      simp [updateEntry, hit]
    have houtbox : s₁.db outboxEvents = s.db outboxEvents := by
      rw [hdb]
      exact Db.put_of_ne _ (by decide) _
    have hhead : ((s.db usagePeriodTotals).filter
        (isTotals period.customerId period.meterKey period.periodKey)).head? = some e := by
      rw [List.head?_filter, hbefore]
    obtain ⟨rest, hrows⟩ := List.head?_eq_some_iff.mp hhead
    rw [hrows]
    refine .pure ⟨?_, ?_⟩
    · rw [view_used hbefore]
    · have hview := view_used hafter
      rw [view_used hbefore]
      rw [Period.view] at hview ⊢
      simp only [PeriodView.mk.injEq]
      exact ⟨hview, houtbox⟩

lemma closeReservation_keeps (reservationId : Option ℕ) : (closeReservation reservationId).Keeps period.view := by
  cases reservationId with
  | none => exact .pure _ _
  | some id =>
    exact Prog.Keeps.bind (keeps_other (S := [usageReservations])
      (checked_update (by decide) (unkeyed (by decide)) _ _) (by decide) (by decide)) fun _ => .pure _ _

/-- What keeps the view of a period can go before what crosses marks. -/
lemma ensures_keeps_bind {α β ε : Type} {p : Tx ε α} {k : α → Tx ε β} {Q : PeriodView → Prop}
    (hp : p.Keeps period.view) (hk : ∀ a (s' : DbStore), period.view s'.db = period.view s.db →
      (k a).Ensures s' fun _ s'' => Q (period.view s''.db)) :
    (p >>= k).Ensures s fun _ s' => Q (period.view s'.db) :=
  Prog.Ensures.bind (Q := fun _ s' => period.view s'.db = period.view s.db) (fun _ _ hrun => hp.run_eq hrun) hk

section Commit
variable {limit : ℚ} {percents : List ℕ} {clock : Clock} {input : CommitInput}

lemma ensures_appendEvent {amount : ℚ} {reservationId : Option ℕ} (hcustomer : input.customerId = period.customerId)
    (hlimit : input.limit = some limit) (hpercents : input.thresholdPercents = percents) :
    (appendEvent clock input period.meterKey amount period.periodKey reservationId).Ensures s
      fun _ s' => Crosses period limit percents (period.view s.db) (period.view s'.db) := by
  refine ensures_keeps_bind (keeps_other (S := [usageEvents]) (checked_insertUnless (by decide) _)
    (by decide) (by decide)) fun event s₁ h₁ => ?_
  rw [← h₁]
  cases event with
  | none =>
    refine ensures_keeps_bind (keeps_selectOne _) fun existing s₂ h₂ => .pure ?_
    rw [h₂]
    exact .of_le le_rfl rfl
  | some event =>
    refine ensures_keeps_bind (closeReservation_keeps _) fun _ s₂ h₂ => ?_
    rw [← h₂, hcustomer, hlimit, hpercents]
    refine ensures_foldCommit.bind fun totals s₃ h₃ => ?_
    obtain ⟨htotals, hview⟩ := h₃
    refine ensures_writeThresholds.bind fun _ s₄ h₄ => .pure ?_
    rw [hview] at h₄
    obtain ⟨hused, hqueued⟩ := h₄
    rw [htotals, add_sub_cancel_right] at hqueued
    rw [Crosses, hused]
    exact hqueued

/-- A commit of the period itself: a reservation brings its own meter and period. -/
def CommitsTo (period : Period) (s : DbStore) (input : CommitInput) : Prop :=
  match input.mode with
  | .direct meterKey _ => meterKey = period.meterKey ∧ input.periodKey = period.periodKey
  | .reservation reservationId => ∀ e ∈ s.db usageReservations,
      isOwnReservation reservationId input.customerId e = true →
        e.val.meterKey = period.meterKey ∧ e.val.periodKey = period.periodKey

lemma ensures_commit (hcustomer : input.customerId = period.customerId)
    (hlimit : input.limit = some limit) (hpercents : input.thresholdPercents = percents)
    (hperiod : CommitsTo period s input) : (commit clock input).Ensures s fun _ s' =>
      Crosses period limit percents (period.view s.db) (period.view s'.db) := by
  have hsame : ∀ s' : DbStore, period.view s'.db = period.view s.db →
      Crosses period limit percents (period.view s.db) (period.view s'.db) :=
    fun s' h => .of_le (congrArg PeriodView.used h).le (congrArg PeriodView.events h)
  refine ensures_select.bind fun existing s₁ h₁ => ?_
  obtain ⟨-, rfl⟩ := h₁
  cases existing with
  | some existing => exact .pure (hsame _ rfl)
  | none =>
    unfold CommitsTo at hperiod
    cases hmode : input.mode with
    | reservation reservationId =>
      rw [hmode] at hperiod
      refine ensures_selectForUpdate.bind fun reservation s₂ h₂ => ?_
      obtain ⟨rfl, rfl⟩ := h₂
      split
      · exact .fail
      rename_i id r hfound
      obtain ⟨hmeter, hkey⟩ := hperiod _ (List.mem_of_find?_eq_some hfound) (List.find?_some hfound)
      split
      · exact .fail
      split
      · refine ensures_keeps_bind (keeps_other (S := [usageReservations])
          (checked_update (by decide) (unkeyed (by decide)) _ _) (by decide) (by decide)) fun _ s₃ h₃ => ?_
        refine ensures_keeps_bind (keeps_freeHold _ _) fun _ s₄ h₄ => .pure ?_
        exact hsame s₄ (h₄.trans h₃)
      · rw [hmeter, hkey]
        exact ensures_appendEvent hcustomer hlimit hpercents
    | direct meterKey amount =>
      rw [hmode] at hperiod
      obtain ⟨rfl, hkey⟩ := hperiod
      refine ensures_keeps_bind (keeps_lockTotals _ _ _) fun _ s₂ h₂ => ?_
      refine ensures_keeps_bind (keeps_expireStaleReservations _ _ _ _) fun _ s₃ h₃ => ?_
      refine ensures_keeps_bind (keeps_selectOne _) fun totals s₄ h₄ => ?_
      refine ensures_keeps_bind (keeps_recordDecision _) fun _ s₅ h₅ => ?_
      have hview : period.view s₅.db = period.view s.db := h₅.trans (h₄.trans (h₃.trans h₂))
      rw [← hview]
      split
      · -- A denied commit queues an event of another kind.
        refine ensures_writeOutbox.bind fun _ s₆ h₆ => .pure ?_
        rcases h₆ with ⟨hdb, -⟩ | ⟨hdb, -⟩
        · rw [hdb]
          exact .of_le le_rfl rfl
        · rw [hdb, view_outbox, Crosses, crossedThresholds_of_le le_rfl]
          exact Queues.other (fun pct => failedKey_ne _ _ _ _) fun pct => by simp [isThreshold]
      · rw [hkey]
        exact ensures_appendEvent hcustomer hlimit hpercents

end Commit

end Operations

inductive UsageStep where
  | reserve (clock : Clock) (input : ReserveInput)
  | commit (clock : Clock) (input : CommitInput)
  | release (customerId reservationId : ℕ)
  | sweep (clock : Clock) (batch : ℕ)
  | adjust (input : UsageAdjustmentInput)

def UsageStep.apply : UsageStep → DbStore → DbStore
  | .reserve clock input, s => after (UsageRepository.reserve clock input) s
  | .commit clock input, s => after (UsageRepository.commit clock input) s
  | .release customerId reservationId, s => after (UsageRepository.release customerId reservationId) s
  | .sweep clock batch, s => after (sweepExpiredReservations clock batch) s
  | .adjust input, s => after (adjustUsage input) s

def runSteps (steps : List UsageStep) (s : DbStore) : DbStore := steps.foldl (fun s step => step.apply s) s

section Runs
variable (period : Period) (limit : ℚ) (percents : List ℕ)

/-- A step of a run on the period: its commits have the fixed limit and percentages, its corrections lower what is
used. Reserves, releases and expiries of any period may come in between. -/
def UsageStep.On (s : DbStore) : UsageStep → Prop
  | .commit _ input => input.customerId = period.customerId ∧ input.limit = some limit ∧
      input.thresholdPercents = percents ∧ CommitsTo period s input
  | .adjust input => (⟨input.customerId, input.meterKey, input.periodKey⟩ : Period) = period ∧ input.amount < 0
  | _ => True

def EachOn : List UsageStep → DbStore → Prop
  | [], _ => True
  | step :: steps, s => step.On period limit percents s ∧ EachOn steps (step.apply s)

/-- The highest used total in the states of a run. -/
def highestUsed : List UsageStep → DbStore → ℚ
  | [], s => (period.view s.db).used
  | step :: steps, s => max (period.view s.db).used (highestUsed steps (step.apply s))

/-- Nothing is recorded in the period. -/
structure EmptyPeriod (s : DbStore) : Prop where
  unused : (s.db usagePeriodTotals).find? (isTotals period.customerId period.meterKey period.periodKey) = none
  unqueued : ∀ e ∈ s.db outboxEvents, ∀ pct,
    e.val.deliveryKey ≠ period.deliveryKey pct ∧ isThreshold period pct e = false

/-- The events are those of the marks up to `highest`, each queued once. -/
structure Marked (highest : ℚ) (v : PeriodView) : Prop where
  bound : v.used ≤ highest
  tidy : Tidy period v.events
  marks : ∀ pct, queued period pct v.events = if pct ∈ percents ∧ limit * pct / 100 ≤ highest then 1 else 0

variable {period limit percents}

lemma Marked.start {s : DbStore} (hlimit : 0 < limit) (hpercents : ∀ pct ∈ percents, 0 < pct)
    (h : EmptyPeriod period s) : Marked period limit percents 0 (period.view s.db) := by
  refine ⟨?_, ?_, ?_⟩
  · rw [Period.view, currentTotals, h.unused]
    exact le_rfl
  · intro e he pct
    simp [h.unqueued e he pct]
  · intro pct
    have hnone : (s.db outboxEvents).filter (isThreshold period pct) = [] := by
      rw [List.filter_eq_nil_iff]
      exact fun e he => by simp [h.unqueued e he pct]
    have hunreached : ¬(pct ∈ percents ∧ limit * pct / 100 ≤ 0) := by
      rintro ⟨hpct, hmark⟩
      have hpos : (0 : ℚ) < pct := Nat.cast_pos.mpr (hpercents pct hpct)
      have hmarkpos : 0 < limit * pct / 100 := by positivity
      exact absurd hmark (not_le.mpr hmarkpos)
    rw [if_neg hunreached, Period.view, queued, hnone]
    rfl

/-- A mark is reached by now if it was before or lies in between. -/
lemma Marked.step {highest : ℚ} {v v' : PeriodView} (hlimit : 0 < limit) (h : Marked period limit percents highest v)
    (hcross : Crosses period limit percents v v') :
    Marked period limit percents (max highest v'.used) v' := by
  obtain ⟨htidy, hcount⟩ := hcross h.tidy
  refine ⟨le_max_right _ _, htidy, fun pct => ?_⟩
  simp only [hcount, h.marks, mem_crossedThresholds hlimit, le_max_iff]
  by_cases hpct : pct ∈ percents
  · by_cases hreached : limit * pct / 100 ≤ highest
    · simp [hpct, hreached]
    · have hbelow : v.used < limit * pct / 100 := h.bound.trans_lt (not_le.mp hreached)
      simp [hpct, hreached, hbelow]
  · simp [hpct]

/-- No step of the run skips a mark. -/
lemma step_crosses {step : UsageStep} {s : DbStore} (h : step.On period limit percents s) :
    Crosses period limit percents (period.view s.db) (period.view (step.apply s).db) := by
  have hsame : ∀ s' : DbStore, period.view s'.db = period.view s.db →
      Crosses period limit percents (period.view s.db) (period.view s'.db) :=
    fun s' h => .of_le (congrArg PeriodView.used h).le (congrArg PeriodView.events h)
  cases step with
  | reserve clock input => exact hsame _ ((reserve_keeps clock input).execute s)
  | release customerId reservationId => exact hsame _ ((release_keeps customerId reservationId).execute s)
  | sweep clock batch => exact hsame _ ((sweep_keeps clock batch).execute s)
  | commit clock input =>
    obtain ⟨hcustomer, hlimit, hpercents, hperiod⟩ := h
    exact after_ensures (ensures_commit hcustomer hlimit hpercents hperiod) fun s' h => hsame s' (by rw [h])
  | adjust input =>
    obtain ⟨hinput, hnegative⟩ := h
    refine after_ensures ((ensures_adjustUsage_view hinput).mono fun _ s' hadjusted => ?_)
      fun s' h => hsame s' (by rw [h])
    obtain ⟨hevents, hused | hused⟩ := hadjusted
    · exact .of_le hused.le hevents
    · exact .of_le (by rw [hused]; linarith) hevents

lemma Marked.run {highest : ℚ} {steps : List UsageStep} {s : DbStore} (hlimit : 0 < limit)
    (h : Marked period limit percents highest (period.view s.db)) (hsteps : EachOn period limit percents steps s) :
    Marked period limit percents (max highest (highestUsed period steps s)) (period.view (runSteps steps s).db) := by
  induction steps generalizing highest s with
  | nil =>
    have hmax : max highest (highestUsed period [] s) = highest := max_eq_left h.bound
    rw [hmax]
    exact h
  | cons step steps ih =>
    obtain ⟨hstep, hsteps⟩ := hsteps
    have hnext := ih (h.step hlimit (step_crosses hstep)) hsteps
    have hfirst : (period.view (step.apply s).db).used ≤ highestUsed period steps (step.apply s) := by
      cases steps with
      | nil => exact le_rfl
      | cons step' steps => exact le_max_left _ _
    have hmax : max (max highest (period.view (step.apply s).db).used) (highestUsed period steps (step.apply s)) =
        max highest (highestUsed period (step :: steps) s) := by
      rw [max_assoc, max_eq_right hfirst, highestUsed, ← max_assoc, max_eq_left h.bound]
    rw [← hmax]
    exact hnext

/-- The queued events of a period are those of the marks that the highest total has reached, each queued once. -/
theorem thresholds_once {steps : List UsageStep} {s : DbStore} (hlimit : 0 < limit)
    (hpercents : ∀ pct ∈ percents, 0 < pct) (hempty : EmptyPeriod period s)
    (hsteps : EachOn period limit percents steps s) (pct : ℕ) :
    queued period pct ((runSteps steps s).db outboxEvents) =
      if pct ∈ percents ∧ limit * pct / 100 ≤ highestUsed period steps s then 1 else 0 := by
  have hrun := (Marked.start hlimit hpercents hempty).run hlimit hsteps
  have hfirst : 0 ≤ highestUsed period steps s := by
    have hused : (period.view s.db).used = 0 := by
      rw [Period.view, currentTotals, hempty.unused]
      rfl
    cases steps with
    | nil => exact hused.ge
    | cons step steps => exact hused.ge.trans (le_max_left _ _)
  rw [max_eq_right hfirst] at hrun
  exact hrun.marks pct

end Runs

def tokenRows : ∀ t, List (Entry (Row t))
  | .customerProfiles => [⟨0, ⟨100, .individual, none, .active, none, none, false, none, 0⟩⟩]
  | .usageMeters => [⟨1, ⟨"tokens", "tokens", .monthly⟩⟩]
  | _ => []

def tokenStore : DbStore := ⟨tokenRows, 2⟩

def juneTokens : Period := ⟨0, "tokens", "2026-06"⟩

def commitOf (mode : CommitMode) (key : String) : CommitInput := ⟨0, mode, some 100, "2026-06", [50, 80], key, none⟩

/-- Sixty units are committed and thirty of them given back before the next ones are used. -/
def tokenSteps : List UsageStep :=
  [.reserve ⟨0, 0⟩ ⟨0, "tokens", 60, some 100, "2026-06", 900, "hold", none⟩,
    .commit ⟨1, 1⟩ (commitOf (.reservation 8) "first"),
    .adjust ⟨"op", 0, "tokens", -30, "2026-06", "refund", "refund", none⟩,
    .commit ⟨2, 2⟩ (commitOf (.direct "tokens" 40) "second"),
    .commit ⟨3, 3⟩ (commitOf (.direct "tokens" 20) "third")]

lemma tokens_empty : EmptyPeriod juneTokens tokenStore := by
  refine ⟨rfl, fun e he => ?_⟩
  cases he

lemma tokens_on : EachOn juneTokens 100 [50, 80] tokenSteps tokenStore := by
  have hheld : ∀ e ∈ (runSteps (tokenSteps.take 1) tokenStore).db usageReservations,
      isOwnReservation 8 0 e = true → e.val.meterKey = "tokens" ∧ e.val.periodKey = "2026-06" := by decide +kernel
  exact ⟨trivial, ⟨rfl, rfl, rfl, hheld⟩, ⟨rfl, by decide⟩, ⟨rfl, rfl, rfl, rfl, rfl⟩, ⟨rfl, rfl, rfl, rfl, rfl⟩,
    trivial⟩

/-- The mark of fifty is passed a second time and queued once. -/
theorem thresholds_once_recrossed : highestUsed juneTokens tokenSteps tokenStore = 90 ∧
    queued juneTokens 50 ((runSteps tokenSteps tokenStore).db outboxEvents) =
      if 50 ∈ [50, 80] ∧ (100 : ℚ) * (50 : ℕ) / 100 ≤ highestUsed juneTokens tokenSteps tokenStore then 1 else 0 :=
  ⟨by decide +kernel, thresholds_once (by norm_num) (by decide) tokens_empty tokens_on 50⟩

end ForgeCustomer.ThresholdEvents
