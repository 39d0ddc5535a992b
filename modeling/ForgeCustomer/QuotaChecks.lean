import ForgeCustomer.MeterQuotas
import ForgeCustomer.OperatorRequests

/-!
# The two quota checks

`POST /v1/entitlements/check` is asked for a quota key and derives the meter and the month from it,
`POST /v1/usage/check` is asked for a meter and derives quota keys and period from its cadence.
-/
namespace ForgeCustomer.QuotaChecks
open SqlTables SqlPrograms DomainRules StripeEvents DatabaseTables LicensingRepository EntitlementEvaluation CommercialPolicy
  SignedDocuments MeterQuotas UsagePeriods OperatorRequests UsageRepository NumberRounding TableName

structure CheckRequest where
  productKey : Option String
  featureKey : Option String
  quotaKey : Option String
  amount : Option ℚ

structure QuotaAnswer where
  key : String
  allowed : Bool
  limit : Option ℚ
  used : ℚ
  reserved : ℚ
  remainingBefore : Option ℚ
  requested : ℚ
  reason : String

inductive CheckAnswer where
  | feature (key : String) (allowed : Bool) (value : Option (FeatureValue ℚ))
  | quota (answer : QuotaAnswer)

/-- The clean key, or the error of the named field. -/
def cleanKey (field key : String) : Except RouteError String :=
  match cleanEntitlementKey key with
  | .ok key => .ok key
  | .error message => .error (.validation message field)

/-- An absent feature or an explicit false is not allowed. -/
def featureAllowed : Option (FeatureValue ℚ) → Bool
  | some (.bool value) => value
  | some _ => true
  | none => false

def checkFeature (s : EntitlementState) (customerId : ℕ) (productKey key : String) : Except RouteError CheckAnswer :=
  match cleanKey "feature" key with
  | .error e => .error e
  | .ok key =>
    match loadEntitlementInputs s customerId productKey with
    | none => .error (.notFound "Unknown or inactive product.")
    | some loaded =>
      let value := (evaluate loaded.inputs).features.get? key
      .ok (.feature key (featureAllowed value) value)

/-- Used and reserved of the current month, for the meter that the quota key names. -/
def meterUsage (today : UtcDate) (s : EntitlementState) (customerId : ℕ) (quotaKey : String) : ℚ × ℚ :=
  currentTotals customerId (meterBase quotaKey) (String.ofList (monthText today)) s.db

def quotaAnswer (key : String) (requested used reserved : ℚ) (limit : Option ℚ) : QuotaAnswer :=
  let decision := decide requested used reserved limit
  { key := key
    allowed := decision.decision == .allow
    limit := limit
    used := used
    reserved := reserved
    remainingBefore := decision.remainingBefore
    requested := requested
    reason := decision.reason }

def checkQuota (today : UtcDate) (s : EntitlementState) (customerId : ℕ) (productKey key : String) (requested : ℚ) :
    Except RouteError CheckAnswer :=
  match cleanKey "quota" key with
  | .error e => .error e
  | .ok key =>
    match loadEntitlementInputs s customerId productKey with
    | none => .error (.notFound "Unknown or inactive product.")
    | some loaded =>
      let usage := meterUsage today s customerId key
      .ok (.quota (quotaAnswer key requested usage.1 usage.2 ((evaluate loaded.inputs).quotas.get? key)))

/-- `POST /v1/entitlements/check`. -/
def check (today : UtcDate) (s : EntitlementState) (customerId : ℕ) (request : CheckRequest) :
    Except RouteError CheckAnswer :=
  match cleanProductKey request.productKey with
  | .error e => .error e
  | .ok productKey =>
    match request.featureKey, request.quotaKey with
    | some key, none => checkFeature s customerId productKey key
    | none, some key => checkQuota today s customerId productKey key (request.amount.getD 0)
    | _, _ => .error (.validation "Provide exactly one of feature_key or quota_key." "feature_key")

structure UsageCheckRequest where
  meterKey : String
  amount : Option ℚ
  productKey : Option String

def cleanUsageAmount (value : ℚ) : Except String ℚ :=
  if value ≤ 0 then .error "must be greater than zero"
  else if 10 ^ 12 < value then .error "must be at most 1e12"
  else .ok value

/-- No amount asks whether the meter is within its quota. -/
def requestedAmount : Option ℚ → Except RouteError ℚ
  | none => .ok 0
  | some amount =>
    match cleanUsageAmount amount with
    | .ok amount => .ok amount
    | .error message => .error (.validation message "amount")

def findMeter (meterKey : String) (d : Database) : Option UsageMeter :=
  ((d .usageMeters).find? fun e => e.val.key == meterKey).map (·.val)

/-- The answer of `POST /v1/usage/check`, with the period it is about. -/
structure UsageCheckAnswer where
  periodKey : String
  quota : QuotaAnswer

/-- `POST /v1/usage/check`. -/
def usageCheck (today : UtcDate) (s : EntitlementState) (customerId : ℕ) (request : UsageCheckRequest) :
    Except RouteError UsageCheckAnswer := do
  let productKey ← cleanProductKey request.productKey
  let meterKey ← cleanKey "meter_key" request.meterKey
  let amount ← requestedAmount request.amount
  match findMeter meterKey s.db with
  | none => .error (.notFound "Unknown usage meter.")
  | some meter =>
    let limit ← meterQuotaLimit s customerId productKey meter
    let periodKey := periodKeyFor meter.resetCadence today
    let totals := currentTotals customerId meterKey periodKey s.db
    .ok ⟨periodKey, quotaAnswer meterKey amount totals.1 totals.2 limit⟩

lemma endsWith_append (key suffix : String) : endsWith suffix (key ++ suffix) = true := by
  simp [endsWith]

lemma meterBase_append (key : String) : meterBase (key ++ ".monthly") = key := by
  have hlength : (key ++ ".monthly").toList.length - ".monthly".toList.length = key.toList.length := by
    simp only [String.toList_append, List.length_append]
    omega
  rw [meterBase, if_pos (endsWith_append key _), hlength, String.toList_append, List.take_left', String.ofList_toList]
  rfl

/-- A key without the suffix is the key of its meter. -/
lemma meterBase_eq_self_iff (key : String) : meterBase key = key ↔ endsWith ".monthly" key = false := by
  unfold meterBase
  split
  · rename_i hsuffix
    constructor
    · intro h
      have hlength := congrArg (fun k => k.toList.length) h
      have hle := (List.isSuffixOf_iff_suffix.mp hsuffix).length_le
      have hpos : 0 < ".monthly".toList.length := by decide
      simp only [String.toList_ofList, List.length_take] at hlength
      omega
    · intro h
      rw [hsuffix] at h
      cases h
  · rename_i hsuffix
    simpa using hsuffix

/-- The quota key under which a meter has its limit. -/
def offeredKey (loaded : LoadedEntitlements) (meter : UsageMeter) : Option String :=
  let quotas := (evaluate loaded.inputs).quotas
  let (primary, fallback) := quotaKeyCandidates meter
  if (quotas.get? primary).isSome then some primary
  else if (quotas.get? fallback).isSome then some fallback
  else none

lemma quotaLimit_offered {loaded : LoadedEntitlements} {meter : UsageMeter} {key : String}
    (h : offeredKey loaded meter = some key) : quotaLimit loaded meter = (evaluate loaded.inputs).quotas.get? key := by
  unfold offeredKey at h
  unfold quotaLimit
  dsimp only at h ⊢
  split at h
  · rename_i hprimary
    cases h
    obtain ⟨limit, hlimit⟩ := Option.isSome_iff_exists.mp hprimary
    rw [hlimit, Option.some_or]
  · rename_i hprimary
    rw [Option.not_isSome_iff_eq_none.mp hprimary, Option.none_or]
    split at h
    · cases h
      rfl
    · cases h

/-- The state of today in which the product gives the catalogued meter a quota under `key`: of the two candidates, the
one that the lookup of the meter's limit resolves. -/
structure Offered (today : UtcDate) (s : EntitlementState) (customerId : ℕ) (productKey : Option String)
    (meter : UsageMeter) (key : String) : Prop where
  stored : ∃ n, Stored (⟨s.db, n⟩ : DbStore)
  month : s.monthKey = String.ofList (monthText today)
  found : findMeter meter.key s.db = some meter
  quota : ∃ product loaded, cleanProductKey productKey = .ok product ∧
    loadEntitlementInputs s customerId product = some loaded ∧ offeredKey loaded meter = some key

/-- Both answer, with the same limit, the same usage and the same decision. -/
def Agree (a : Except RouteError CheckAnswer) (b : Except RouteError UsageCheckAnswer) : Prop :=
  ∃ quota usage, a = .ok (.quota quota) ∧ b = .ok usage ∧ quota.limit = usage.quota.limit ∧
    quota.used = usage.quota.used ∧ quota.reserved = usage.quota.reserved ∧ quota.allowed = usage.quota.allowed

section Answers
variable {today : UtcDate} {s : EntitlementState} {customerId : ℕ} {productKey : Option String} {meter : UsageMeter}
  {key : String} {amount : ℚ}

lemma cleanKey_ok {field key : String} (h : cleanEntitlementKey key = .ok key) : cleanKey field key = .ok key := by
  rw [cleanKey, h]

lemma requestedAmount_ok (h : validAmount amount) : requestedAmount (some amount) = .ok amount := by
  have hclean : cleanUsageAmount amount = .ok amount := by
    rw [cleanUsageAmount, if_neg (not_le.mpr h.1), if_neg (not_lt.mpr h.2)]
  rw [requestedAmount, hclean]

/-- The checks agree where the totals that they read are the same. -/
lemma agree_iff_totals (hmeter : cleanEntitlementKey meter.key = .ok meter.key) (hkey : cleanEntitlementKey key = .ok key)
    (h : Offered today s customerId productKey meter key) (hamount : validAmount amount) :
    Agree (check today s customerId ⟨productKey, none, some key, some amount⟩)
        (usageCheck today s customerId ⟨meter.key, some amount, productKey⟩) ↔
      meterUsage today s customerId key =
        currentTotals customerId meter.key (periodKeyFor meter.resetCadence today) s.db := by
  obtain ⟨product, loaded, hproduct, hloaded, hoffered⟩ := h.quota
  have hcheck : check today s customerId ⟨productKey, none, some key, some amount⟩ =
      .ok (.quota (quotaAnswer key amount (meterUsage today s customerId key).1 (meterUsage today s customerId key).2
        ((evaluate loaded.inputs).quotas.get? key))) := by
    simp only [check, hproduct, checkQuota, cleanKey_ok hkey, hloaded, Option.getD_some]
  have husage : usageCheck today s customerId ⟨meter.key, some amount, productKey⟩ =
      .ok ⟨periodKeyFor meter.resetCadence today, quotaAnswer meter.key amount
        (currentTotals customerId meter.key (periodKeyFor meter.resetCadence today) s.db).1
        (currentTotals customerId meter.key (periodKeyFor meter.resetCadence today) s.db).2
        ((evaluate loaded.inputs).quotas.get? key)⟩ := by
    have hlimit : meterQuotaLimit s customerId product meter = .ok ((evaluate loaded.inputs).quotas.get? key) := by
      rw [meterQuotaLimit, hloaded, ← quotaLimit_offered hoffered]
    simp only [usageCheck, hproduct, cleanKey_ok hmeter, requestedAmount_ok hamount, bind, Except.bind, h.found, hlimit]
  rw [hcheck, husage]
  constructor
  · rintro ⟨quota, usage, hquota, husage, -, hused, hreserved, -⟩
    cases hquota
    cases husage
    exact Prod.ext hused hreserved
  · intro htotals
    refine ⟨_, _, rfl, rfl, rfl, ?_, ?_, ?_⟩
    · exact congrArg Prod.fst htotals
    · exact congrArg Prod.snd htotals
    · rw [htotals]
      rfl

end Answers

/-- Both checks read the totals of the meter for the current month. -/
def SameRow (meter : UsageMeter) (key : String) : Prop :=
  meter.resetCadence = .monthly ∧ (key = meter.key → endsWith ".monthly" meter.key = false)

/-- The candidates differ. -/
lemma primary_ne_fallback (meter : UsageMeter) : (quotaKeyCandidates meter).1 ≠ meter.key := by
  intro h
  have hlength := congrArg (fun k => k.toList.length) h
  have hdot : ".".toList.length = 1 := by decide
  simp only [quotaKeyCandidates, String.toList_append, List.length_append] at hlength
  omega

lemma meterBase_sameRow {meter : UsageMeter} {key : String}
    (hcandidate : key = (quotaKeyCandidates meter).1 ∨ key = meter.key) (h : SameRow meter key) :
    meterBase key = meter.key := by
  rcases hcandidate with rfl | rfl
  · have hprimary : (quotaKeyCandidates meter).1 = meter.key ++ ".monthly" := by
      rw [quotaKeyCandidates, h.1, String.append_assoc]
      rfl
    rw [hprimary, meterBase_append]
  · exact (meterBase_eq_self_iff _).mpr (h.2 rfl)

def probeRows (meter : UsageMeter) (key : String) : ∀ t, List (Entry (Row t))
  | .customerProfiles => [⟨0, ⟨100, .individual, none, .active, none, none, false, none, 0⟩⟩]
  | .products => [⟨1, ⟨"authorforge", .active⟩⟩]
  | .usageMeters => [⟨2, meter⟩]
  | .entitlementOverrides => [⟨3, ⟨0, 1, none, some key, none, some 5, none, "goodwill", "op", true, none⟩⟩]
  | .usagePeriodTotals => [⟨4, ⟨0, meter.key, periodKeyFor meter.resetCadence midJune, 1, 0⟩⟩]
  | _ => []

/-- One unit is used in the period of the meter, and an override gives it five under `key`. -/
def probe (meter : UsageMeter) (key : String) : EntitlementState :=
  ⟨probeRows meter key, ⟨[], [], [], fun _ => 0⟩, 0, String.ofList (monthText midJune)⟩

section Probe
variable {meter : UsageMeter} {key : String}

lemma probe_stored : Stored (⟨(probe meter key).db, 5⟩ : DbStore) := by
  refine ⟨⟨fun t => ?_, fun t => ?_⟩, fun t => ?_⟩ <;> cases t <;>
    simp [probe, probeRows, Db.refsOk, Schema.refs, foreignKeys, Db.resolves, Db.has, Db.hasKey, Schema.keys, uniqueKeys]

lemma probe_quotas : (evaluate (assemble (probe meter key) 0 1 "authorforge" none).inputs).quotas =
    SortedMap.ofList [(key, 5)] := by
  have hfive : float8 (5 : ℤ) = (5 : ℤ) := float8_intCast (by decide)
  have hquotas : (evaluate (assemble (probe meter key) 0 1 "authorforge" none).inputs).quotas =
      SortedMap.ofList [(key, float8 (5 : ℤ))] := assemble_quotas (probe meter key) 0 1 "authorforge" none
  rw [hquotas, hfive]
  rfl

lemma probe_get? (k : String) : (SortedMap.ofList [(key, (5 : ℚ))]).get? k = if key = k then some 5 else none := by
  rw [SortedMap.ofList, SortedMap.get?_extend, SortedMap.get?_empty, Option.or_none, SortedMap.last]
  by_cases h : key = k <;> simp [SortedMap.lookup, h]

lemma probe_offered (hcandidate : key = (quotaKeyCandidates meter).1 ∨ key = meter.key) :
    Offered midJune (probe meter key) 0 none meter key := by
  refine ⟨⟨5, probe_stored⟩, rfl, by simp [findMeter, probe, probeRows], "authorforge",
    assemble (probe meter key) 0 1 "authorforge" none, rfl, rfl, ?_⟩
  unfold offeredKey
  dsimp only
  rw [probe_quotas, probe_get?, probe_get?]
  rcases hcandidate with h | h
  · simp [h]
  · have hne : key ≠ (quotaKeyCandidates meter).1 := by
      rw [h]
      exact (primary_ne_fallback meter).symm
    have hfallback : key = (quotaKeyCandidates meter).2 := h
    simp [hne, ← hfallback]

end Probe

/-- The checks agree on every state, for every customer, product and amount, exactly if the meter resets every month
and its quota key is not a bare meter key that ends like a monthly quota key. -/
theorem checks_agree_iff {meter : UsageMeter} {key : String} (hmeter : cleanEntitlementKey meter.key = .ok meter.key)
    (hkey : cleanEntitlementKey key = .ok key) (hcandidate : key = (quotaKeyCandidates meter).1 ∨ key = meter.key) :
    (∀ today s customerId productKey amount, Offered today s customerId productKey meter key → validAmount amount →
      Agree (check today s customerId ⟨productKey, none, some key, some amount⟩)
        (usageCheck today s customerId ⟨meter.key, some amount, productKey⟩)) ↔ SameRow meter key := by
  constructor
  · intro h
    have hone : validAmount 1 := by norm_num [validAmount]
    have hagree := h midJune (probe meter key) 0 none 1 (probe_offered hcandidate) hone
    rw [agree_iff_totals hmeter hkey (probe_offered hcandidate) hone] at hagree
    have hused : currentTotals 0 meter.key (periodKeyFor meter.resetCadence midJune) (probe meter key).db = (1, 0) := by
      simp [currentTotals, probe, probeRows, isTotals]
    rw [hused, meterUsage] at hagree
    have hsame : meter.key = meterBase key ∧ periodKeyFor meter.resetCadence midJune = String.ofList (monthText midJune) := by
      by_contra hne
      have hnone : currentTotals 0 (meterBase key) (String.ofList (monthText midJune)) (probe meter key).db = (0, 0) := by
        simp [currentTotals, probe, probeRows, isTotals, hne]
      rw [hnone] at hagree
      simp at hagree
    refine ⟨periodKeyFor_eq_month_iff.mp ⟨midJune, hsame.2⟩, fun hbare => ?_⟩
    rw [← meterBase_eq_self_iff]
    rw [hbare] at hsame
    exact hsame.1.symm
  · intro hsame today s customerId productKey amount hoffered hamount
    rw [agree_iff_totals hmeter hkey hoffered hamount, meterUsage, meterBase_sameRow hcandidate hsame, hsame.1]
    rfl

theorem checks_agree_iff_cloud_tokens :
    (∀ today s customerId productKey amount, Offered today s customerId productKey ⟨"cloud_tokens", "tokens", .monthly⟩
        "cloud_tokens.monthly" → validAmount amount →
      Agree (check today s customerId ⟨productKey, none, some "cloud_tokens.monthly", some amount⟩)
        (usageCheck today s customerId ⟨"cloud_tokens", some amount, productKey⟩)) ↔
    SameRow ⟨"cloud_tokens", "tokens", .monthly⟩ "cloud_tokens.monthly" :=
  checks_agree_iff (by rfl) (by rfl) (.inl (by rfl))

/-- A meter that resets every day, with its quota under the qualified key. -/
def exports : UsageMeter := ⟨"exports", "runs", .daily⟩

/-- One of five exports is used today: the check of the quota still allows five, the check of the meter does not. -/
theorem daily_checks_differ : Offered midJune (probe exports "exports.daily") 0 none exports "exports.daily" ∧
    validAmount 5 ∧
    ¬Agree (check midJune (probe exports "exports.daily") 0 ⟨none, none, some "exports.daily", some 5⟩)
      (usageCheck midJune (probe exports "exports.daily") 0 ⟨"exports", some 5, none⟩) := by
  have hoffered : Offered midJune (probe exports "exports.daily") 0 none exports "exports.daily" :=
    probe_offered (.inl (by rfl))
  have hamount : validAmount 5 := by norm_num [validAmount]
  refine ⟨hoffered, hamount, fun h => ?_⟩
  have htotals := (agree_iff_totals (by rfl) (by rfl) hoffered hamount).mp h
  have hmonth : meterUsage midJune (probe exports "exports.daily") 0 "exports.daily" = (0, 0) := by decide
  have hday : currentTotals 0 "exports" (periodKeyFor .daily midJune) (probe exports "exports.daily").db = (1, 0) := by
    decide
  rw [hmonth] at htotals
  have hsame : ((0, 0) : ℚ × ℚ) = (1, 0) := htotals.trans hday
  simp at hsame

end ForgeCustomer.QuotaChecks
