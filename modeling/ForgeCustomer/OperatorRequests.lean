import ForgeCustomer.AdminRepository
import ForgeCustomer.UsagePeriods

/-!
# Requests of operators

`routes::admin_usage_adjust` up to its transaction, with the checks of `domain::admin` and
`domain::entitlement` that it makes.
-/
namespace ForgeCustomer.OperatorRequests
open SqlTables SqlPrograms SqlStatements JsonValue StripeEvents DatabaseTables AuditWriters AdminRepository
  UsageRepository CommercialPolicy UsagePeriods TableName

/-- An operator with the roles of the token. -/
structure AdminContext where
  operatorId : String
  roles : List String

inductive RequestError where
  | forbidden (message : String)
  | badRequest (message : String)
  | validation (message field : String)
deriving DecidableEq

def requireRole (operator : AdminContext) (role : String) : Except RequestError Unit :=
  if operator.roles.contains role then .ok ()
  else .error (.forbidden s!"This operation requires the '{role}' operator role.")

/-- `admin_validation_error`. -/
def validated {α : Type} : Except AdminValidationError α → Except RequestError α
  | .ok a => .ok a
  | .error e => .error (.validation e.message e.field)

/-- The error of a checked value, under the name of its field. -/
def inField {α : Type} (field : String) : Except String α → Except RequestError α
  | .ok a => .ok a
  | .error message => .error (.validation message field)

/-- `Uuid::parse_str` has read the id, or has failed. -/
def parsedUuid (field : String) : Option ℕ → Except RequestError ℕ
  | some id => .ok id
  | none => .error (.validation "must be a UUID" field)

def cleanEntitlementKey (value : String) : Except String String :=
  let value := trim value
  if value = "" then .error "key is required"
  else if 120 < value.utf8ByteSize then .error "key must be at most 120 characters"
  else if value.toList.all (fun c => c.isAlphanum || ['.', '_', '-'].contains c) then .ok value
  else .error "key must contain only letters, numbers, '.', '_', or '-'"

/-- `char::is_control`. -/
def isControl (c : Char) : Bool := c.toNat < 0x20 || (0x7F ≤ c.toNat && c.toNat ≤ 0x9F)

def cleanReason (value : String) : Except AdminValidationError String :=
  let value := trim value
  if value.utf8ByteSize < 3 then .error ⟨"reason", "must be at least 3 characters"⟩
  else if 500 < value.utf8ByteSize then .error ⟨"reason", "must be at most 500 characters"⟩
  else if value.toList.any isControl then .error ⟨"reason", "must not contain control characters"⟩
  else .ok value

/-- A number of a JSON request is finite. -/
def cleanAdjustmentAmount (value : ℚ) : Except AdminValidationError ℚ :=
  if value = 0 then .error ⟨"amount", "must be non-zero"⟩
  else if 10 ^ 12 < |value| then .error ⟨"amount", "must be at most 1e12 in magnitude"⟩
  else .ok value

/-- `Idempotency-Key`, unless it is missing or blank. -/
def idempotencyKey (header : Option String) : Option String := (header.map trim).filter (· ≠ "")

structure AdminUsageAdjustRequest where
  customerId : Option ℕ
  meterKey : String
  amount : ℚ
  periodKey : Option String
  reason : String

/-- What `admin_usage_adjust` hands to its transaction. -/
def adminUsageAdjust (today : UtcDate) (operator : AdminContext) (header : Option String)
    (request : AdminUsageAdjustRequest) (correlationId : Option String) : Except RequestError UsageAdjustmentInput := do
  requireRole operator "admin"
  match idempotencyKey header with
  | none => .error (.badRequest "Usage adjustments require an Idempotency-Key header.")
  | some key =>
    let customerId ← parsedUuid "customer_id" request.customerId
    let meterKey ← inField "meter_key" (cleanEntitlementKey request.meterKey)
    let amount ← validated (cleanAdjustmentAmount request.amount)
    let periodKey ← validated (cleanPeriodKey today request.periodKey)
    let reason ← validated (cleanReason request.reason)
    .ok
      { operatorId := operator.operatorId
        customerId := customerId
        meterKey := meterKey
        amount := amount
        periodKey := periodKey
        idempotencyKey := key
        reason := reason
        correlationId := correlationId }

lemma validated_ok {α : Type} {r : Except AdminValidationError α} {a : α} (h : validated r = .ok a) : r = .ok a := by
  cases r with
  | ok b => exact congrArg Except.ok (Except.ok.inj h)
  | error e => cases h

lemma except_bind_ok {ε α β : Type} {r : Except ε α} {k : α → Except ε β} {b : β} (h : (r >>= k) = .ok b) :
    ∃ a, r = .ok a ∧ k a = .ok b := by
  cases r with
  | ok a => exact ⟨a, rfl, h⟩
  | error e => cases h

/-- The period of an accepted request is a month. -/
lemma adminUsageAdjust_month {today : UtcDate} {operator : AdminContext} {header : Option String}
    {request : AdminUsageAdjustRequest} {correlationId : Option String} {input : UsageAdjustmentInput}
    (h : adminUsageAdjust today operator header request correlationId = .ok input) :
    ∃ month, input.periodKey = String.ofList (monthText month) := by
  unfold adminUsageAdjust at h
  obtain ⟨-, -, h⟩ := except_bind_ok h
  split at h
  · cases h
  obtain ⟨customerId, -, h⟩ := except_bind_ok h
  obtain ⟨meterKey, -, h⟩ := except_bind_ok h
  obtain ⟨amount, -, h⟩ := except_bind_ok h
  obtain ⟨periodKey, hperiod, h⟩ := except_bind_ok h
  obtain ⟨reason, -, h⟩ := except_bind_ok h
  cases h
  exact cleanPeriodKey_month (validated_ok hperiod)

/-- At some date a reserve or a direct commit on the meter counts in the period of the adjustment, and then reads
a total that the adjustment has changed by its amount. -/
def Reaches (meter : UsageMeter) (input : UsageAdjustmentInput) (outcome : AdjustmentOutcome) (s s' : DbStore) : Prop :=
  ∃ date, outcome.periodKey = periodKeyFor meter.resetCadence date ∧
    ∃ totals s'', (lockTotals input.customerId meter.key (periodKeyFor meter.resetCadence date) :
      Tx UsageError _).execute s' = (.ok totals, s'') ∧
        totals.1 = (currentTotals input.customerId meter.key outcome.periodKey s.db).1 + input.amount

variable {s s' : DbStore} {input : UsageAdjustmentInput}

/-- An adjustment that is no replay is folded into the totals of its period. -/
lemma ensures_adjustUsage : (adjustUsage input).Ensures s fun outcome s' => outcome.replayed = false →
    outcome.periodKey = input.periodKey ∧ ∃ e, (s'.db usagePeriodTotals).find?
      (isTotals input.customerId input.meterKey input.periodKey) = some e ∧
        e.val.used = (currentTotals input.customerId input.meterKey input.periodKey s.db).1 + input.amount := by
  refine ensures_select.bind fun known s₀ h₀ => ?_
  obtain ⟨-, rfl⟩ := h₀
  split
  · exact .fail
  refine ensures_select.bind fun metered s₁ h₁ => ?_
  obtain ⟨-, rfl⟩ := h₁
  split
  · exact .fail
  refine Prog.Ensures.bind (Checked.ensures_frame (checked_insertUnless (S := [usageEvents]) (by decide) _))
    fun inserted s₂ h₂ => ?_
  cases inserted with
  | none =>
    refine Prog.Ensures.bind (fun _ _ _ => trivial) fun existing _ (_ : True) => .pure fun h => ?_
    cases h
  | some event =>
    refine ensures_foldTotals.bind fun row s₃ h₃ => ?_
    refine Prog.Ensures.bind (writeOperatorAudit_checked (S := [commercialAuditEvents]) (by decide) _).ensures_frame
      fun _ s₄ h₄ => .pure fun _ => ⟨rfl, ?_⟩
    obtain ⟨hsome, htotals⟩ := h₃
    obtain ⟨e, he⟩ := Option.isSome_iff_exists.mp hsome
    have hbefore : currentTotals input.customerId input.meterKey input.periodKey s₂.db =
        currentTotals input.customerId input.meterKey input.periodKey s.db := by
      rw [currentTotals, h₂ usagePeriodTotals (by decide)]
      rfl
    refine ⟨e, by rw [h₄ usagePeriodTotals (by decide)]; exact he, ?_⟩
    rw [currentTotals_of_find he, hbefore] at htotals
    exact congrArg Prod.fst htotals

/-- Locking existing totals reads them. -/
lemma runs_lockTotals {customerId : ℕ} {meterKey periodKey : String} {e : Entry UsagePeriodTotal}
    (h : (s.db usagePeriodTotals).find? (isTotals customerId meterKey periodKey) = some e) :
    (lockTotals customerId meterKey periodKey : Tx UsageError _).Runs s fun totals _ =>
      totals = (e.val.used, e.val.reserved) := by
  have htaken : s.db.taken (κ := UniqueKey) usagePeriodTotals ⟨customerId, meterKey, periodKey, 0, 0⟩ = true := by
    have hany : (s.db usagePeriodTotals).any (isTotals customerId meterKey periodKey) = true :=
      List.any_eq_true.mpr ⟨e, List.mem_of_find?_eq_some h, List.find?_some h⟩
    rw [← conflicts_totals ⟨customerId, meterKey, periodKey, 0, 0⟩] at hany
    exact hany
  refine Prog.Runs.step (run_insertUnless_none rfl htaken) ?_
  exact Prog.Runs.step (run_selectOneForUpdate h) (.pure rfl)

/-- An adjustment reaches the quota of its meter exactly if the meter resets every month. -/
theorem adjustment_reaches_iff {today : UtcDate} {operator : AdminContext} {header : Option String}
    {request : AdminUsageAdjustRequest} {correlationId : Option String} {outcome : AdjustmentOutcome}
    (hrequest : adminUsageAdjust today operator header request correlationId = .ok input)
    (hdone : (adjustUsage input).execute s = (.ok outcome, s')) (happlied : outcome.replayed = false)
    (meter : UsageMeter) (hkey : meter.key = input.meterKey) :
    Reaches meter input outcome s s' ↔ meter.resetCadence = .monthly := by
  obtain ⟨hperiod, e, hfind, hused⟩ := ensures_adjustUsage outcome s' (Prog.run_of_execute_ok hdone) happlied
  obtain ⟨month, hmonth⟩ := adminUsageAdjust_month hrequest
  constructor
  · rintro ⟨date, hdate, -⟩
    rw [hperiod, hmonth] at hdate
    exact periodKeyFor_eq_month_iff.mp ⟨date, hdate.symm⟩
  · intro hmonthly
    have hdate : outcome.periodKey = periodKeyFor meter.resetCadence month := by
      rw [hperiod, hmonth, hmonthly]
      rfl
    rw [← hkey, ← hperiod] at hfind hused
    obtain ⟨totals, s'', hlocked, htotals⟩ := (runs_lockTotals hfind).execute
    refine ⟨month, hdate, totals, s'', by rw [← hdate]; exact hlocked, ?_⟩
    rw [htotals]
    exact hused

def dailyRows : ∀ t, List (Entry (Row t))
  | .customerProfiles => [⟨0, ⟨100, .individual, none, .active, none, none, false, none, 0⟩⟩]
  | .usageMeters => [⟨1, ⟨"exports", "runs", .daily⟩⟩, ⟨2, ⟨"cloud_tokens", "tokens", .monthly⟩⟩]
  | _ => []

def dailyStore : DbStore := ⟨dailyRows, 3⟩

def midJune : UtcDate := ⟨2026, 6, 15, by decide, by decide⟩

/-- Ten units of June are given back. -/
def refundOf (meterKey : String) : AdminUsageAdjustRequest := ⟨some 0, meterKey, -10, some "2026-06", "refund"⟩

def refundInput (meterKey : String) : UsageAdjustmentInput :=
  ⟨"op", 0, meterKey, -10, "2026-06", "key_1", "refund", none⟩

def supportOperator : AdminContext := ⟨"op", ["admin"]⟩

lemma refund_accepted {meterKey : String} (h : cleanEntitlementKey meterKey = .ok meterKey) :
    adminUsageAdjust midJune supportOperator (some "key_1") (refundOf meterKey) none = .ok (refundInput meterKey) := by
  have hamount : cleanAdjustmentAmount (-10) = .ok (-10) := by
    norm_num [cleanAdjustmentAmount]
  have hperiod : cleanPeriodKey midJune (some "2026-06") = .ok "2026-06" := by rfl
  have hreason : cleanReason "refund" = .ok "refund" := by rfl
  have hkey : idempotencyKey (some "key_1") = some "key_1" := by rfl
  simp only [adminUsageAdjust, hkey, refundOf, h, hamount, hperiod, hreason]
  rfl

/-- The refund never reaches the daily quota. -/
theorem refund_misses_daily_meter : ∃ outcome s',
    adminUsageAdjust midJune supportOperator (some "key_1") (refundOf "exports") none = .ok (refundInput "exports") ∧
    (adjustUsage (refundInput "exports")).execute dailyStore = (.ok outcome, s') ∧ outcome.replayed = false ∧
    ⟨1, ⟨"exports", "runs", .daily⟩⟩ ∈ dailyStore.db usageMeters ∧
    ¬Reaches ⟨"exports", "runs", .daily⟩ (refundInput "exports") outcome dailyStore s' := by
  refine ⟨⟨5, 0, "exports", "2026-06", -10, false⟩, _, refund_accepted (by rfl), rfl, rfl, by decide, ?_⟩
  rintro ⟨date, hdate, -⟩
  have hmonth : periodKeyFor .daily date = String.ofList (monthText midJune) := hdate.symm
  exact absurd (periodKeyFor_eq_month_iff.mp ⟨date, hmonth⟩) (by decide)

theorem adjustment_reaches_iff_refund : ∃ outcome s',
    (adjustUsage (refundInput "cloud_tokens")).execute dailyStore = (.ok outcome, s') ∧
    Reaches ⟨"cloud_tokens", "tokens", .monthly⟩ (refundInput "cloud_tokens") outcome dailyStore s' :=
  ⟨⟨5, 0, "cloud_tokens", "2026-06", -10, false⟩, _, rfl, (adjustment_reaches_iff (s := dailyStore)
    (refund_accepted (by rfl)) rfl rfl ⟨"cloud_tokens", "tokens", .monthly⟩ rfl).mpr rfl⟩

end ForgeCustomer.OperatorRequests
