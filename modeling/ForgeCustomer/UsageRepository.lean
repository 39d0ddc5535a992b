import ForgeCustomer.AuditWriters

/-!
# The usage repository

`repositories::usage`: reserve, commit, release and sweep, statement by statement. Amounts are
exact numbers.
-/
namespace ForgeCustomer.UsageRepository
open SqlTables SqlPrograms SqlStatements JsonValue DomainRules StripeEvents DatabaseTables AuditWriters TableName

inductive UsageError where
  | meterNotFound
  | reservationNotFound
  | reservationNotCommittable (status : String)
  | db (e : SqlError)
deriving DecidableEq

instance : FromSql UsageError := ⟨.db⟩

abbrev ReservationRow := Entry UsageReservation
abbrev UsageEventRow := Entry UsageEvent

structure DeniedDecision where
  reason : String
  limit : Option ℚ
  used : ℚ
  reserved : ℚ
  remainingBefore : Option ℚ
deriving DecidableEq

inductive ReserveOutcome where
  | reserved (row : ReservationRow)
  | replayed (row : ReservationRow)
  | denied (decision : DeniedDecision)
deriving DecidableEq

inductive CommitOutcome where
  | committed (event : UsageEventRow) (usedAfter : ℚ) (thresholdsCrossed : List ℕ)
  | replayed (event : UsageEventRow)
  | denied (decision : DeniedDecision)
deriving DecidableEq

inductive ReleaseOutcome where
  | released (amount : ℚ)
  | alreadyTerminal (status : ReservationStatus)
deriving DecidableEq

def isTotals (customerId : ℕ) (meterKey periodKey : String) (e : Entry UsagePeriodTotal) : Bool :=
  e.val.customerId == customerId && e.val.meterKey == meterKey && e.val.periodKey == periodKey

/-- The row that conflicts with new totals is that of the same period. -/
lemma conflicts_totals (v : UsagePeriodTotal) :
    (fun e : Entry UsagePeriodTotal => (uniqueKeys usagePeriodTotals e.val).any
      fun k => (uniqueKeys usagePeriodTotals v).contains k) = isTotals v.customerId v.meterKey v.periodKey := by
  funext e
  rw [Bool.eq_iff_iff]
  simp [uniqueKeys, isTotals, and_assoc]

/-- Pending, overdue and of this customer, meter and period. -/
def isStale (customerId : ℕ) (meterKey periodKey : String) (now : Time) (e : ReservationRow) : Bool :=
  e.val.customerId == customerId && e.val.meterKey == meterKey && e.val.periodKey == periodKey &&
    e.val.status == .pending && (e.val.expiresAt ≤ now)

/-- `reserved = greatest(0, reserved - $4)`. -/
def freeHold (amount : ℚ) (r : UsagePeriodTotal) : UsagePeriodTotal :=
  { r with reserved := max 0 (r.reserved - amount) }

def setReservation (status : ReservationStatus) (r : UsageReservation) : UsageReservation :=
  { r with status := status }

def sumAmounts (rows : List ReservationRow) : ℚ := (rows.map (·.val.amount)).sum

section
variable {ε : Type} [FromSql ε]

/-- Lock (creating if absent) the totals row and return the current `(used, reserved)`. -/
def lockTotals (customerId : ℕ) (meterKey periodKey : String) : Tx ε (ℚ × ℚ) := do
  let _ ← insertUnless usagePeriodTotals
    { customerId := customerId, meterKey := meterKey, periodKey := periodKey, used := 0, reserved := 0 }
  let row ← selectOneForUpdate usagePeriodTotals fun d =>
    (d .usagePeriodTotals).find? (isTotals customerId meterKey periodKey)
  pure (row.val.used, row.val.reserved)

def readTotals (customerId : ℕ) (meterKey periodKey : String) : Tx ε (ℚ × ℚ) :=
  selectOne fun d =>
    ((d .usagePeriodTotals).find? (isTotals customerId meterKey periodKey)).map fun e =>
      (e.val.used, e.val.reserved)

/-- Expire stale pending reservations and release their hold, under the totals lock. -/
def expireStaleReservations (customerId : ℕ) (meterKey periodKey : String) (now : Time) : Tx ε ℚ := do
  let expired ← update usageReservations (isStale customerId meterKey periodKey now)
    (setReservation .expired)
  let reclaimed := sumAmounts expired
  if 0 < reclaimed then
    let _ ← update usagePeriodTotals (isTotals customerId meterKey periodKey) (freeHold reclaimed)
    pure reclaimed
  else pure reclaimed

structure DecisionRecord where
  customerId : ℕ
  meterKey : String
  requested : ℚ
  limit : Option ℚ
  used : ℚ
  reserved : ℚ
  decision : Decision
  reason : String
  correlationId : Option String

def recordDecision (record : DecisionRecord) : Tx ε ℕ := do
  let row ← insertRow quotaDecisions
    { customerId := record.customerId
      meterKey := record.meterKey
      requested := record.requested
      limitValue := record.limit
      usedBefore := record.used
      reservedBefore := record.reserved
      decision := record.decision
      reason := record.reason
      correlationId := record.correlationId }
  pure row.id

end

structure ReserveInput where
  customerId : ℕ
  meterKey : String
  amount : ℚ
  limit : Option ℚ
  periodKey : String
  ttl : Time
  idempotencyKey : String
  correlationId : Option String

def isReservationOf (customerId : ℕ) (idempotencyKey : String) (e : ReservationRow) : Bool :=
  e.val.customerId == customerId && e.val.idempotencyKey == idempotencyKey

/-- Hold `amount` units against the quota, once per idempotency key. -/
def reserve (clock : Clock) (input : ReserveInput) : Tx UsageError ReserveOutcome := do
  let existing ← select fun d =>
    (d .usageReservations).find? (isReservationOf input.customerId input.idempotencyKey)
  match existing with
  | some existing => pure (.replayed existing)
  | none =>
    let _ ← lockTotals input.customerId input.meterKey input.periodKey
    let _ ← expireStaleReservations input.customerId input.meterKey input.periodKey clock.now
    -- Re-read after expiry reclaimed any stale holds.
    let (used, reserved) ← readTotals input.customerId input.meterKey input.periodKey
    let decision := decide input.amount used reserved input.limit
    let _ ← recordDecision
      { customerId := input.customerId
        meterKey := input.meterKey
        requested := input.amount
        limit := input.limit
        used := used
        reserved := reserved
        decision := decision.decision
        reason := decision.reason
        correlationId := input.correlationId }
    match decision.decision with
    | .deny =>
      pure (.denied ⟨decision.reason, input.limit, used, reserved, decision.remainingBefore⟩)
    | .allow =>
      let reservation ← insertUnless usageReservations
        { customerId := input.customerId
          meterKey := input.meterKey
          amount := input.amount
          idempotencyKey := input.idempotencyKey
          status := .pending
          periodKey := input.periodKey
          expiresAt := clock.utcNow + input.ttl }
      match reservation with
      | none =>
        -- Lost an idempotency race after our initial check: surface the winner.
        let existing ← selectOne fun d =>
          (d .usageReservations).find? (isReservationOf input.customerId input.idempotencyKey)
        pure (.replayed existing)
      | some reservation =>
        let _ ← update usagePeriodTotals (isTotals input.customerId input.meterKey input.periodKey)
          fun r => { r with reserved := r.reserved + input.amount }
        pure (.reserved reservation)

inductive CommitMode where
  | reservation (reservationId : ℕ)
  | direct (meterKey : String) (amount : ℚ)
deriving DecidableEq

structure CommitInput where
  customerId : ℕ
  mode : CommitMode
  limit : Option ℚ
  periodKey : String
  thresholdPercents : List ℕ
  idempotencyKey : String
  correlationId : Option String

def isEventOf (customerId : ℕ) (idempotencyKey : String) (e : UsageEventRow) : Bool :=
  e.val.customerId == customerId && e.val.idempotencyKey == idempotencyKey

def isOwnReservation (reservationId customerId : ℕ) (e : ReservationRow) : Bool :=
  e.id == reservationId && e.val.customerId == customerId

/-- One `quota_threshold_reached` event per crossed threshold. -/
def writeThresholds (customerId : ℕ) (meterKey periodKey : String) (usedAfter : ℚ) (limit : Option ℚ)
    (utcNow : Time) : List ℕ → Tx UsageError Unit
  | [] => pure ()
  | pct :: thresholds => do
    writeOutbox "quota_threshold_reached"
      s!"quota_threshold_reached:{customerId}:{meterKey}:{periodKey}:{pct}"
      (.obj [("customer_id", .uuid customerId), ("meter_key", .str meterKey),
        ("period_key", .str periodKey), ("threshold_percent", .int pct),
        ("used", .float usedAfter), ("limit", Value.opt .float limit),
        ("occurred_at", .time utcNow)])
    writeThresholds customerId meterKey periodKey usedAfter limit utcNow thresholds

def closeReservation (reservationId : Option ℕ) : Tx UsageError Unit :=
  match reservationId with
  | none => pure ()
  | some reservationId => do
    let _ ← update usageReservations (fun e => e.id == reservationId) (setReservation .committed)
    pure ()

/-- The ledger insert of a commit and its fold into the totals. -/
def appendEvent (clock : Clock) (input : CommitInput) (meterKey : String) (amount : ℚ)
    (periodKey : String) (reservationId : Option ℕ) :
    Tx UsageError (Except UsageError CommitOutcome) := do
  let event ← insertUnless usageEvents
    { customerId := input.customerId
      meterKey := meterKey
      amount := amount
      periodKey := periodKey
      idempotencyKey := input.idempotencyKey
      reservationId := reservationId
      kind := .commit }
  match event with
  | none =>
    let existing ← selectOne fun d =>
      (d .usageEvents).find? (isEventOf input.customerId input.idempotencyKey)
    pure (.ok (.replayed existing))
  | some event =>
    closeReservation reservationId
    let reservedDelta := if reservationId.isSome then amount else 0
    let totals ← updateOne usagePeriodTotals (isTotals input.customerId meterKey periodKey)
      fun r => { freeHold reservedDelta r with used := r.used + amount }
    let usedAfter := totals.val.used
    let thresholds := crossedThresholds (usedAfter - amount) usedAfter input.limit
      input.thresholdPercents
    writeThresholds input.customerId meterKey periodKey usedAfter input.limit clock.utcNow thresholds
    pure (.ok (.committed event usedAfter thresholds))

/-- Append a usage commit to the ledger, once per idempotency key. The inner error is the one
answered after the transaction has been committed. -/
def commit (clock : Clock) (input : CommitInput) :
    Tx UsageError (Except UsageError CommitOutcome) := do
  let existing ← select fun d =>
    (d .usageEvents).find? (isEventOf input.customerId input.idempotencyKey)
  match existing with
  | some existing => pure (.ok (.replayed existing))
  | none =>
    match input.mode with
    | .reservation reservationId =>
      let reservation ← selectForUpdate usageReservations fun d =>
        (d .usageReservations).find? (isOwnReservation reservationId input.customerId)
      match reservation with
      | none => .fail .reservationNotFound
      | some ⟨_, r⟩ =>
        if r.status ≠ .pending then .fail (.reservationNotCommittable r.status.asStr)
        else if r.expiresAt ≤ clock.utcNow then
          -- Mark it expired and release its hold before failing closed.
          let _ ← update usageReservations (fun e => e.id == reservationId) (setReservation .expired)
          let _ ← update usagePeriodTotals (isTotals input.customerId r.meterKey r.periodKey)
            (freeHold r.amount)
          pure (.error (.reservationNotCommittable "expired"))
        else appendEvent clock input r.meterKey r.amount r.periodKey (some reservationId)
    | .direct meterKey amount =>
      let _ ← lockTotals input.customerId meterKey input.periodKey
      let _ ← expireStaleReservations input.customerId meterKey input.periodKey clock.now
      let (used, reserved) ← readTotals input.customerId meterKey input.periodKey
      let decision := decide amount used reserved input.limit
      let _ ← recordDecision
        { customerId := input.customerId
          meterKey := meterKey
          requested := amount
          limit := input.limit
          used := used
          reserved := reserved
          decision := decision.decision
          reason := decision.reason
          correlationId := input.correlationId }
      match decision.decision with
      | .deny =>
        writeOutbox "usage_commit_failed"
          s!"usage_commit_failed:{input.customerId}:{input.idempotencyKey}"
          (.obj [("customer_id", .uuid input.customerId), ("meter_key", .str meterKey),
            ("period_key", .str input.periodKey), ("requested", .float amount),
            ("limit", Value.opt .float input.limit), ("occurred_at", .time clock.utcNow)])
        pure (.ok (.denied
          ⟨decision.reason, input.limit, used, reserved, decision.remainingBefore⟩))
      | .allow => appendEvent clock input meterKey amount input.periodKey none

/-- Release an unused reservation, freeing its hold. -/
def release (customerId reservationId : ℕ) : Tx SqlError (Option ReleaseOutcome) := do
  let reservation ← selectForUpdate usageReservations fun d =>
    (d .usageReservations).find? (isOwnReservation reservationId customerId)
  match reservation with
  | none => pure none
  | some ⟨_, r⟩ =>
    if r.status ≠ .pending then pure (some (.alreadyTerminal r.status))
    else
      let _ ← update usageReservations (fun e => e.id == reservationId) (setReservation .released)
      let _ ← update usagePeriodTotals (isTotals customerId r.meterKey r.periodKey)
        (freeHold r.amount)
      pure (some (.released r.amount))

/-- Free the holds of the reservations a sweep has expired, one totals update each. -/
def freeHolds : List ReservationRow → Tx SqlError Unit
  | [] => pure ()
  | ⟨_, r⟩ :: expired => do
    let _ ← update usagePeriodTotals (isTotals r.customerId r.meterKey r.periodKey)
      (freeHold r.amount)
    freeHolds expired

/-- The `batch` longest overdue pending reservations that nobody else has locked. -/
def pickExpired (now : Time) (batch : ℕ) (env : Env Row UniqueKey) : List ReservationRow :=
  (((env.db .usageReservations).filter fun e =>
      e.val.status == .pending && (e.val.expiresAt ≤ now) &&
        !env.busy (.row .usageReservations e.id)).insertionSort
    fun a b => a.val.expiresAt ≤ b.val.expiresAt).take batch

lemma mem_pickExpired {now : Time} {batch : ℕ} {env : Env Row UniqueKey} {e : ReservationRow}
    (he : e ∈ pickExpired now batch env) : e ∈ env.db usageReservations ∧ e.val.status = .pending ∧
      env.busy (.row usageReservations e.id) = false := by
  have hmem := List.mem_of_mem_take he
  rw [(List.perm_insertionSort _ _).mem_iff, List.mem_filter] at hmem
  simp only [Bool.and_eq_true, beq_iff_eq, Bool.not_eq_true'] at hmem
  exact ⟨hmem.1, hmem.2.1.1, hmem.2.2⟩

/-- Background sweep: expire overdue pending reservations of any customer. -/
def sweepExpiredReservations (clock : Clock) (batch : ℕ) : Tx SqlError ℕ := do
  let expired ← updatePicked usageReservations (pickExpired clock.now batch) (setReservation .expired)
  freeHolds expired
  pure expired.length

def usageTables : List TableName :=
  [usageReservations, usageEvents, usagePeriodTotals, quotaDecisions, outboxEvents]

section Checked
variable {ε : Type} [FromSql ε]

lemma lockTotals_checked (customerId : ℕ) (meterKey periodKey : String) :
    Checked usageTables (lockTotals customerId meterKey periodKey : Tx ε _) := by
  refine (checked_insertUnless (by decide) _).bind fun _ => ?_
  exact (checked_selectOneForUpdate _ _).bind fun _ => .pure _

lemma expireStaleReservations_checked (customerId : ℕ) (meterKey periodKey : String) (now : Time) :
    Checked usageTables (expireStaleReservations customerId meterKey periodKey now : Tx ε ℚ) := by
  refine (checked_update (by decide) (unkeyed (by decide)) _ _).bind fun expired => ?_
  dsimp only
  split
  · exact (checked_update (by decide) (unkeyed (by decide)) _ _).bind fun _ => .pure _
  · exact .pure _

lemma recordDecision_checked (record : DecisionRecord) :
    Checked usageTables (recordDecision record : Tx ε ℕ) :=
  (checked_insertRow (by decide) _).bind fun _ => .pure _

end Checked

lemma reserve_checked (clock : Clock) (input : ReserveInput) : Checked usageTables (reserve clock input) := by
  refine (checked_select _).bind fun existing => ?_
  cases existing with
  | some existing => exact .pure _
  | none =>
    refine (lockTotals_checked _ _ _).bind fun _ => ?_
    refine (expireStaleReservations_checked _ _ _ _).bind fun _ => ?_
    refine (checked_selectOne _).bind fun totals => ?_
    refine (recordDecision_checked _).bind fun _ => ?_
    split
    · exact .pure _
    refine (checked_insertUnless (by decide) _).bind fun reservation => ?_
    cases reservation with
    | none => exact (checked_selectOne _).bind fun _ => .pure _
    | some reservation =>
      exact (checked_update (by decide) (unkeyed (by decide)) _ _).bind fun _ => .pure _

lemma writeThresholds_checked (customerId : ℕ) (meterKey periodKey : String) (usedAfter : ℚ)
    (limit : Option ℚ) (utcNow : Time) (thresholds : List ℕ) :
    Checked usageTables
      (writeThresholds customerId meterKey periodKey usedAfter limit utcNow thresholds) := by
  induction thresholds with
  | nil => exact .pure ()
  | cons pct thresholds ih => exact (writeOutbox_checked (by decide) _ _ _).bind fun _ => ih

lemma closeReservation_checked (reservationId : Option ℕ) :
    Checked usageTables (closeReservation reservationId) := by
  cases reservationId with
  | none => exact .pure ()
  | some id => exact (checked_update (by decide) (unkeyed (by decide)) _ _).bind fun _ => .pure ()

lemma appendEvent_checked (clock : Clock) (input : CommitInput) (meterKey : String) (amount : ℚ)
    (periodKey : String) (reservationId : Option ℕ) :
    Checked usageTables (appendEvent clock input meterKey amount periodKey reservationId) := by
  refine (checked_insertUnless (by decide) _).bind fun event => ?_
  cases event with
  | none => exact (checked_selectOne _).bind fun _ => .pure _
  | some event =>
    refine (closeReservation_checked _).bind fun _ => ?_
    refine (checked_updateOne (by decide) (unkeyed (by decide)) _ _).bind fun totals => ?_
    exact (writeThresholds_checked _ _ _ _ _ _ _).bind fun _ => .pure _

lemma commit_checked (clock : Clock) (input : CommitInput) : Checked usageTables (commit clock input) := by
  refine (checked_select _).bind fun existing => ?_
  cases existing with
  | some existing => exact .pure _
  | none =>
    dsimp only
    split
    · refine (checked_selectForUpdate _ _).bind fun reservation => ?_
      cases reservation with
      | none => exact .fail _
      | some reservation =>
        dsimp only
        split
        · exact .fail _
        split
        · refine (checked_update (by decide) (unkeyed (by decide)) _ _).bind fun _ => ?_
          exact (checked_update (by decide) (unkeyed (by decide)) _ _).bind fun _ => .pure _
        · exact appendEvent_checked _ _ _ _ _ _
    · refine (lockTotals_checked _ _ _).bind fun _ => ?_
      refine (expireStaleReservations_checked _ _ _ _).bind fun _ => ?_
      refine (checked_selectOne _).bind fun totals => ?_
      refine (recordDecision_checked _).bind fun _ => ?_
      split
      · exact (writeOutbox_checked (by decide) _ _ _).bind fun _ => .pure _
      · exact appendEvent_checked _ _ _ _ _ _

lemma release_checked (customerId reservationId : ℕ) :
    Checked usageTables (release customerId reservationId) := by
  refine (checked_selectForUpdate _ _).bind fun reservation => ?_
  cases reservation with
  | none => exact .pure _
  | some reservation =>
    dsimp only
    split
    · exact .pure _
    refine (checked_update (by decide) (unkeyed (by decide)) _ _).bind fun _ => ?_
    exact (checked_update (by decide) (unkeyed (by decide)) _ _).bind fun _ => .pure _

lemma freeHolds_checked (expired : List ReservationRow) : Checked usageTables (freeHolds expired) := by
  induction expired with
  | nil => exact .pure ()
  | cons reservation expired ih =>
    exact (checked_update (by decide) (unkeyed (by decide)) _ _).bind fun _ => ih

lemma sweepExpiredReservations_checked (clock : Clock) (batch : ℕ) :
    Checked usageTables (sweepExpiredReservations clock batch) := by
  refine Checked.bind (checked_updatePicked (t := usageReservations) (by decide) (unkeyed (by decide)) _ _
    fun _ _ h => h) fun _ => ?_
  exact (freeHolds_checked _).bind fun _ => .pure _

end ForgeCustomer.UsageRepository
