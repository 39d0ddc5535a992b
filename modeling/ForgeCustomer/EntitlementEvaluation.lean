import ForgeCustomer.LicensingRepository
import ForgeCustomer.CommercialPolicy
import ForgeCustomer.SignedDocuments
import ForgeCustomer.NumberRounding

/-!
# Entitlement evaluation

`domain::entitlement::evaluate` and the layers that `repositories::entitlements` assembles for it: the included
plan, the plan of the current subscription, license grants, promotional grants and overrides.
-/
namespace ForgeCustomer.EntitlementEvaluation
open SqlTables SqlStatements DomainRules StripeEvents DatabaseTables LicensingRepository SignedDocuments
  NumberRounding

abbrev FeatureMap := SortedMap String (FeatureValue ℚ)
abbrev QuotaMap := SortedMap String ℚ

/-- `ν` is the type of the numbers. -/
structure EntitlementInputs (ν : Type) where
  productDefaults : SortedMap String (FeatureValue ν)
  planVersion : SortedMap String (FeatureValue ν)
  licenseGrants : SortedMap String (FeatureValue ν)
  promotionalGrants : SortedMap String (FeatureValue ν)
  adminOverrides : SortedMap String (FeatureValue ν)
  quotaLimits : SortedMap String ν
  subscriptionGrantsCloud : Bool
  suspended : Bool
  revoked : Bool

structure EntitlementResult (ν : Type) where
  features : SortedMap String (FeatureValue ν)
  quotas : SortedMap String ν

variable {ν : Type}

def endsWith (suffix key : String) : Bool := suffix.toList.isSuffixOf key.toList

/-- Features that need a subscription that grants cloud. -/
def isCloudFeature (key : String) : Bool :=
  endsWith ".cloud.enabled" key || endsWith ".deep_analysis.enabled" key || endsWith ".premium.enabled" key

def forceOff (features : SortedMap String (FeatureValue ν)) : SortedMap String (FeatureValue ν) :=
  features.mapValues fun key value => if isCloudFeature key then .bool false else value

/-- The layers in the order in which they are applied. -/
def EntitlementInputs.layers (inputs : EntitlementInputs ν) : List (SortedMap String (FeatureValue ν)) :=
  [inputs.productDefaults, inputs.planVersion, inputs.licenseGrants, inputs.promotionalGrants, inputs.adminOverrides]

/-- Later layers overwrite earlier ones; then the subscription gate and the denials. -/
def evaluate (inputs : EntitlementInputs ν) : EntitlementResult ν :=
  let merged := inputs.layers.foldl (fun features layer => features.extend layer.entries) SortedMap.empty
  let gated := if inputs.subscriptionGrantsCloud then merged else forceOff merged
  let features := if inputs.suspended || inputs.revoked then forceOff gated else gated
  ⟨features, inputs.quotaLimits⟩

/-- The value of the last layer that names the feature. -/
def layered (inputs : EntitlementInputs ν) (key : String) : Option (FeatureValue ν) :=
  (inputs.adminOverrides.get? key).or ((inputs.promotionalGrants.get? key).or ((inputs.licenseGrants.get? key).or
    ((inputs.planVersion.get? key).or (inputs.productDefaults.get? key))))

/-- The subscription gate or a denial forces the feature off. -/
def cloudOff (inputs : EntitlementInputs ν) (key : String) : Bool :=
  isCloudFeature key && (!inputs.subscriptionGrantsCloud || inputs.suspended || inputs.revoked)

lemma get?_forceOff (features : SortedMap String (FeatureValue ν)) (key : String) : (forceOff features).get? key =
    (features.get? key).map fun value => if isCloudFeature key then .bool false else value := by
  rw [forceOff, SortedMap.get?_mapValues]

/-- Evaluation takes the last layer, unless the gate forces the feature off. -/
theorem get?_evaluate (inputs : EntitlementInputs ν) (key : String) : (evaluate inputs).features.get? key =
    (layered inputs key).map fun value => if cloudOff inputs key then .bool false else value := by
  have hmerged : (inputs.layers.foldl (fun features layer => features.extend layer.entries)
      SortedMap.empty).get? key = layered inputs key := by
    simp only [EntitlementInputs.layers, List.foldl_cons, List.foldl_nil, SortedMap.get?_extend,
      SortedMap.last_entries, SortedMap.get?_empty, Option.or_none, layered]
  unfold evaluate cloudOff
  dsimp only
  generalize inputs.layers.foldl (fun features layer => features.extend layer.entries) SortedMap.empty =
    merged at hmerged ⊢
  rw [← hmerged]
  cases hkey : isCloudFeature key <;> cases inputs.subscriptionGrantsCloud <;> cases inputs.suspended <;>
    cases inputs.revoked <;> simp [get?_forceOff, hkey, Function.comp_def]

/-- Without a subscription that grants cloud, and after a denial, every cloud feature is off. -/
theorem evaluate_cloudOff {inputs : EntitlementInputs ν}
    (h : inputs.subscriptionGrantsCloud = false ∨ inputs.suspended = true ∨ inputs.revoked = true) {key : String}
    (hkey : isCloudFeature key = true) {value : FeatureValue ν}
    (hvalue : (evaluate inputs).features.get? key = some value) : value = .bool false := by
  have hoff : cloudOff inputs key = true := by
    rcases h with h | h | h <;> simp [cloudOff, hkey, h]
  rw [get?_evaluate] at hvalue
  obtain ⟨v, -, hv⟩ := Option.map_eq_some_iff.mp hvalue
  rw [if_pos hoff] at hv
  exact hv.symm

/-- The key of a cloud feature: a stem with one of three endings. -/
def IsCloudKey (key : String) : Prop :=
  ∃ ending ∈ [".cloud.enabled", ".deep_analysis.enabled", ".premium.enabled"], ∃ stem : String, key = stem ++ ending

/-- The subscription does not grant cloud, or a denial is in force. -/
def EntitlementInputs.Denied (inputs : EntitlementInputs ν) : Prop :=
  inputs.subscriptionGrantsCloud = false ∨ inputs.suspended = true ∨ inputs.revoked = true

/-- The value of the highest layer that contains the key. -/
def EntitlementInputs.Highest (inputs : EntitlementInputs ν) (key : String) (value : FeatureValue ν) : Prop :=
  ∃ below layer above, inputs.layers = below ++ layer :: above ∧ layer.get? key = some value ∧
    ∀ higher ∈ above, key ∉ higher.keys

/-- What a result has to be. -/
structure Specified (inputs : EntitlementInputs ν) (result : EntitlementResult ν) : Prop where
  keys : ∀ key, key ∈ result.features.keys ↔ ∃ layer ∈ inputs.layers, key ∈ layer.keys
  masked : inputs.Denied → ∀ key ∈ result.features.keys, IsCloudKey key → result.features.get? key = some (.bool false)
  kept : ∀ key value, ¬(IsCloudKey key ∧ inputs.Denied) →
    (result.features.get? key = some value ↔ inputs.Highest key value)
  gateless : ∀ key, ¬IsCloudKey key → ∀ subscriptionGrantsCloud suspended revoked,
    (evaluate
      { inputs with
        subscriptionGrantsCloud := subscriptionGrantsCloud
        suspended := suspended
        revoked := revoked }).features.get? key = result.features.get? key
  quotas : result.quotas = inputs.quotaLimits

lemma endsWith_iff {ending key : String} : endsWith ending key = true ↔ ∃ stem : String, key = stem ++ ending := by
  rw [endsWith, List.isSuffixOf_iff_suffix]
  constructor
  · rintro ⟨stem, hstem⟩
    exact ⟨String.ofList stem, String.toList_inj.mp (by simp [hstem])⟩
  · rintro ⟨stem, rfl⟩
    exact ⟨stem.toList, by simp⟩

lemma isCloudFeature_iff {key : String} : isCloudFeature key = true ↔ IsCloudKey key := by
  simp [isCloudFeature, IsCloudKey, endsWith_iff, or_assoc]

lemma cloudOff_iff {inputs : EntitlementInputs ν} {key : String} :
    cloudOff inputs key = true ↔ IsCloudKey key ∧ inputs.Denied := by
  simp [cloudOff, isCloudFeature_iff, EntitlementInputs.Denied, or_assoc]

/-- Where a split of a list with a last element can be. -/
lemma snoc_eq_append_cons {α : Type} {init below above : List α} {top a : α} : init ++ [top] = below ++ a :: above ↔
    above = [] ∧ below = init ∧ a = top ∨ ∃ rest, above = rest ++ [top] ∧ init = below ++ a :: rest := by
  constructor
  · intro h
    rcases List.eq_nil_or_concat' above with rfl | ⟨rest, last, rfl⟩
    · obtain ⟨hinit, hlast⟩ := List.append_inj' h rfl
      exact .inl ⟨rfl, hinit.symm, (List.singleton_inj.mp hlast).symm⟩
    · rw [← List.cons_append, ← List.append_assoc] at h
      obtain ⟨hinit, hlast⟩ := List.append_inj' h rfl
      exact .inr ⟨rest, by rw [List.singleton_inj.mp hlast], hinit⟩
  · rintro (⟨rfl, rfl, rfl⟩ | ⟨rest, rfl, rfl⟩)
    · rfl
    · simp

/-- Looking from the top of a list of layers for the first one that contains the key. -/
lemma highest_iff {layers : List (SortedMap String (FeatureValue ν))} {key : String} {value : FeatureValue ν} :
    (∃ below layer above, layers = below ++ layer :: above ∧ layer.get? key = some value ∧
      ∀ higher ∈ above, key ∉ higher.keys) ↔
      layers.foldl (fun found layer => (layer.get? key).or found) none = some value := by
  induction layers using List.reverseRecOn with
  | nil => simp
  | append_singleton layers top ih =>
    rw [List.foldl_append, List.foldl_cons, List.foldl_nil]
    cases htop : top.get? key with
    | none =>
      have habsent : key ∉ top.keys := by simp [SortedMap.mem_keys_iff, htop]
      rw [Option.none_or, ← ih]
      constructor
      · rintro ⟨below, layer, above, hsplit, hvalue, habove⟩
        obtain ⟨-, -, rfl⟩ | ⟨rest, rfl, hinit⟩ := snoc_eq_append_cons.mp hsplit
        · rw [htop] at hvalue
          cases hvalue
        · exact ⟨below, layer, rest, hinit, hvalue, fun higher h => habove higher (by simp [h])⟩
      · rintro ⟨below, layer, above, rfl, hvalue, habove⟩
        refine ⟨below, layer, above ++ [top], by simp, hvalue, fun higher h => ?_⟩
        rcases List.mem_append.mp h with h | h
        · exact habove higher h
        · rwa [List.mem_singleton.mp h]
    | some found =>
      have hpresent : key ∈ top.keys := by simp [SortedMap.mem_keys_iff, htop]
      rw [Option.some_or, Option.some.injEq]
      constructor
      · rintro ⟨below, layer, above, hsplit, hvalue, habove⟩
        obtain ⟨-, -, rfl⟩ | ⟨rest, rfl, -⟩ := snoc_eq_append_cons.mp hsplit
        · rwa [htop, Option.some.injEq] at hvalue
        · exact absurd hpresent (habove top (by simp))
      · rintro rfl
        exact ⟨layers, top, [], rfl, htop, by simp⟩

lemma layered_iff {inputs : EntitlementInputs ν} {key : String} {value : FeatureValue ν} :
    layered inputs key = some value ↔ inputs.Highest key value := by
  rw [EntitlementInputs.Highest, highest_iff]
  simp [EntitlementInputs.layers, layered]

lemma layered_isSome {inputs : EntitlementInputs ν} {key : String} :
    (layered inputs key).isSome = true ↔ ∃ layer ∈ inputs.layers, key ∈ layer.keys := by
  simp only [EntitlementInputs.layers, List.mem_cons, List.not_mem_nil, or_false, exists_eq_or_imp, exists_eq_left,
    SortedMap.mem_keys_iff, layered, Option.isSome_or, Bool.or_eq_true]
  tauto

/-- Evaluation is the union of the layers with the highest one on top, and cloud features masked by the gates. -/
theorem evaluate_specified (inputs : EntitlementInputs ν) : Specified inputs (evaluate inputs) where
  keys key := by
    rw [SortedMap.mem_keys_iff, get?_evaluate, Option.isSome_map, layered_isSome]
  masked hdenied key hkey hcloud := by
    rw [SortedMap.mem_keys_iff] at hkey
    obtain ⟨value, hvalue⟩ := Option.isSome_iff_exists.mp hkey
    rw [hvalue, evaluate_cloudOff hdenied (isCloudFeature_iff.mpr hcloud) hvalue]
  kept key value hfree := by
    have hoff : cloudOff inputs key = false := by rwa [← Bool.not_eq_true, cloudOff_iff]
    rw [get?_evaluate, hoff, ← layered_iff]
    simp
  gateless key hkey _ _ _ := by
    have hcloud : isCloudFeature key = false := by rwa [← Bool.not_eq_true, isCloudFeature_iff]
    simp only [get?_evaluate, cloudOff, hcloud, Bool.false_and]
    rfl
  quotas := rfl

structure PlanQuota where
  planVersionId : ℕ
  meterKey : String
  limitValue : ℚ
  resetCadence : ResetCadence

structure LicenseGrant where
  licenseId : ℕ
  featureKey : String
  boolValue : Option Bool
  numberValue : Option ℚ
  stringValue : Option String
  createdAt : Time

structure EntitlementGrant where
  customerId : ℕ
  productId : ℕ
  featureKey : Option String
  quotaKey : Option String
  boolValue : Option Bool
  numberValue : Option ℚ
  stringValue : Option String
  expiresAt : Option Time
  createdAt : Time

/-- Entitlement tables that no transaction here writes, and when each override was created. -/
structure EntitlementTables where
  planQuotas : List PlanQuota
  licenseGrants : List LicenseGrant
  entitlementGrants : List EntitlementGrant
  overrideCreatedAt : ℕ → Time

/-- What a request reads: the tables, `now()` and the current month as `YYYY-MM`. -/
structure EntitlementState where
  db : Database
  tables : EntitlementTables
  now : Time
  monthKey : String

def featureValue (boolValue : Option Bool) (numberValue : Option ℚ) (stringValue : Option String) :
    Option (FeatureValue ℚ) :=
  match boolValue, numberValue with
  | some value, _ => some (.bool value)
  | none, some value => some (.number value)
  | none, none => stringValue.map .text

structure GrantRow where
  featureKey : Option String
  quotaKey : Option String
  boolValue : Option Bool
  numberValue : Option ℚ
  stringValue : Option String

def mergeGrants : List GrantRow → FeatureMap → QuotaMap → FeatureMap × QuotaMap
  | [], features, quotas => (features, quotas)
  | row :: rows, features, quotas =>
    match row.featureKey with
    | some key =>
      match featureValue row.boolValue row.numberValue row.stringValue with
      | some value => mergeGrants rows (features.insert key value) quotas
      | none => mergeGrants rows features quotas
    | none =>
      match row.quotaKey, row.numberValue with
      | some key, some value => mergeGrants rows features (quotas.insert key value)
      | _, _ => mergeGrants rows features quotas

def planFeatureLayer (planVersionId : ℕ) (d : Database) : FeatureMap :=
  .ofList (((d .planFeatures).filter fun e => e.val.planVersionId == planVersionId).filterMap fun e =>
    (d.lookup .features e.val.featureId).bind fun feature =>
      (featureValue e.val.boolValue (e.val.numberValue.map float8) e.val.stringValue).map fun value =>
        (feature.key, value))

def planQuotaLayer (planVersionId : ℕ) (tables : EntitlementTables) : List PlanQuota :=
  tables.planQuotas.filter fun quota => quota.planVersionId == planVersionId

/-- The active version of the `<product>_included` plan. -/
def includedPlanVersion (productId : ℕ) (productKey : String) (d : Database) : Option ℕ :=
  ((d .planVersions).find? fun e => e.val.status == .active &&
    (d.lookup .plans e.val.planId).any fun plan =>
      plan.productId == productId && plan.key == productKey ++ "_included" && plan.status == .active).map (·.id)

/-- A subscription with the key of its plan. -/
structure PlannedSubscription where
  planVersionId : ℕ
  status : SubscriptionStatus
  planKey : String
  stripeEventAt : Option Time
  createdAt : Time

/-- `order by … desc nulls last`. -/
def laterOrKnown (a b : Option Time) : Bool :=
  match a, b with
  | some a, some b => b < a
  | some _, none => true
  | none, _ => false

/-- Cloud-granting ones first, then by the time of their last event, then by creation. -/
def subscriptionBefore (a b : PlannedSubscription) : Bool :=
  if a.status.grantsCloud != b.status.grantsCloud then a.status.grantsCloud
  else laterOrKnown a.stripeEventAt b.stripeEventAt ||
    (a.stripeEventAt == b.stripeEventAt && decide (b.createdAt < a.createdAt))

/-- Canceled subscriptions contribute nothing. -/
def currentSubscription (customerId productId : ℕ) (d : Database) : Option PlannedSubscription :=
  firstBy subscriptionBefore ((d .subscriptions).filterMap fun e =>
    (d.lookup .planVersions e.val.planVersionId).bind fun version => (d.lookup .plans version.planId).bind fun plan =>
      if e.val.customerId = customerId ∧ plan.productId = productId ∧ e.val.status ≠ .canceled then
        some ⟨e.val.planVersionId, e.val.status, plan.key, e.val.stripeEventAt, e.val.createdAt⟩
      else none)

def policyFeatures (limits : PolicyLimits) : List (String × FeatureValue ℚ) :=
  [("authorforge.cloud.enabled", .bool (0 < limits.cloudTokensPerMonth)),
    ("authorforge.deep_analysis.enabled", .bool (0 < limits.deepAnalysisRunsPerMonth)),
    ("authorforge.premium.enabled", .bool (0 < limits.premiumModelRequestsPerMonth)),
    ("authorforge.devices.max", .number limits.deviceLimit)]

def policyQuotas (limits : PolicyLimits) : List (String × ℚ) :=
  [("cloud_tokens.monthly", limits.cloudTokensPerMonth),
    ("deep_analysis_runs.monthly", limits.deepAnalysisRunsPerMonth),
    ("premium_model_requests.monthly", limits.premiumModelRequestsPerMonth)]

/-- After the catalog layer, before any exception of one customer. -/
def applyCommercialPolicy (limits : PolicyLimits) (features : FeatureMap) (quotas : QuotaMap) :
    FeatureMap × QuotaMap :=
  (features.extend (policyFeatures limits), quotas.extend (policyQuotas limits))

def limitsForPlan (policy : PolicyDocument) (planKey : String) : Option PolicyLimits :=
  if planKey = "authorforge_included" then some policy.included
  else if planKey = "authorforge_pro" then some policy.pro
  else none

def activeDocument (s : EntitlementState) (productKey : String) : Option PolicyDocument :=
  if productKey = "authorforge" then (activePolicy s.now "authorforge" s.db).map (·.policy) else none

/-- The features, quotas and cadences of one plan version, overlaid by the policy for it. -/
structure PlanLayer where
  features : FeatureMap
  quotas : QuotaMap
  cadences : SortedMap String ResetCadence

def quotaPairs (rows : List PlanQuota) : List (String × ℚ) := rows.map fun quota => (quota.meterKey, float8 quota.limitValue)

def planLayer (s : EntitlementState) (planVersionId : ℕ) (limits : Option PolicyLimits) (quotas : QuotaMap)
    (cadences : SortedMap String ResetCadence) : PlanLayer :=
  let rows := planQuotaLayer planVersionId s.tables
  let features := planFeatureLayer planVersionId s.db
  let quotas := quotas.extend (quotaPairs rows)
  let cadences := cadences.extend (rows.map fun quota => (quota.meterKey, quota.resetCadence))
  match limits with
  | none => ⟨features, quotas, cadences⟩
  | some limits =>
    let (features, quotas) := applyCommercialPolicy limits features quotas
    ⟨features, quotas, cadences⟩

/-- `expires_at is null or expires_at > now()`. -/
def unexpired (now : Time) (expiresAt : Option Time) : Bool := expiresAt.all (now < ·)

def licenseGrantLayer (s : EntitlementState) (customerId productId : ℕ) : FeatureMap :=
  .ofList (((s.tables.licenseGrants.filter fun grant => (s.db.lookup .licenses grant.licenseId).any fun license =>
    license.customerId == customerId && license.productId == productId && license.status == .active &&
      unexpired s.now license.expiresAt).insertionSort fun a b => a.createdAt ≤ b.createdAt).filterMap fun grant =>
        (featureValue grant.boolValue (grant.numberValue.map float8) grant.stringValue).map fun value =>
          (grant.featureKey, value))

/-- The status of the license that decides about a revocation. -/
def effectiveLicenseStatus (customerId productId : ℕ) (d : Database) : Option LicenseStatus :=
  (firstBy (fun a b : License => if (a.status == .active) != (b.status == .active) then a.status == .active
      else decide (b.issuedAt < a.issuedAt))
    (((d .licenses).map (·.val)).filter fun license =>
      license.customerId == customerId && license.productId == productId)).map (·.status)

def grantRows (s : EntitlementState) (customerId productId : ℕ) : List GrantRow :=
  ((s.tables.entitlementGrants.filter fun grant => grant.customerId == customerId && grant.productId == productId &&
    unexpired s.now grant.expiresAt).insertionSort fun a b => a.createdAt ≤ b.createdAt).map fun grant =>
      ⟨grant.featureKey, grant.quotaKey, grant.boolValue, grant.numberValue.map float8, grant.stringValue⟩

def overrideRows (s : EntitlementState) (customerId productId : ℕ) : List GrantRow :=
  (((s.db .entitlementOverrides).filter fun e => e.val.customerId == customerId && e.val.productId == productId &&
    e.val.active && unexpired s.now e.val.expiresAt).insertionSort fun a b =>
      s.tables.overrideCreatedAt a.id ≤ s.tables.overrideCreatedAt b.id).map fun e =>
        ⟨e.val.featureKey, e.val.quotaKey, e.val.boolValue, e.val.numberValue.map float8, e.val.stringValue⟩

/-- `strip_suffix(".monthly").unwrap_or(key)`. -/
def meterBase (key : String) : String :=
  if endsWith ".monthly" key then String.ofList (key.toList.take (key.toList.length - ".monthly".toList.length)) else key

def usedThisMonth (s : EntitlementState) (customerId : ℕ) (meterKey : String) : ℚ :=
  (((s.db .usagePeriodTotals).find? fun e => e.val.customerId == customerId && e.val.meterKey == meterKey &&
    e.val.periodKey == s.monthKey).map fun e => float8 e.val.used).getD 0

/-- The committed usage of every monthly quota, as `<meter>.used`. -/
def usedEntries (s : EntitlementState) (customerId : ℕ) (cadences : SortedMap String ResetCadence) : QuotaMap :=
  .ofList ((cadences.entries.filter fun e => e.2 == .monthly).map fun e =>
    (meterBase e.1 ++ ".used", usedThisMonth s customerId (meterBase e.1)))

structure LoadedEntitlements where
  productId : ℕ
  productKey : String
  inputs : EntitlementInputs ℚ
  subscriptionStatus : Option SubscriptionStatus

/-- Product defaults: the included plan, if there is one. -/
def includedLayer (s : EntitlementState) (productId : ℕ) (productKey : String) : PlanLayer :=
  match includedPlanVersion productId productKey s.db with
  | some planVersionId => planLayer s planVersionId ((activeDocument s productKey).map (·.included)) .empty .empty
  | none => ⟨.empty, .empty, .empty⟩

/-- The plan of the current subscription on top of the included one. -/
def subscribedLayer (s : EntitlementState) (productKey : String) (subscription : Option PlannedSubscription)
    (included : PlanLayer) : PlanLayer :=
  match subscription with
  | some current => planLayer s current.planVersionId
      ((activeDocument s productKey).bind fun policy => limitsForPlan policy current.planKey)
      included.quotas included.cadences
  | none => ⟨.empty, included.quotas, included.cadences⟩

/-- The layers for a customer and a product, with this subscription as the current one. -/
def assemble (s : EntitlementState) (customerId productId : ℕ) (productKey : String)
    (subscription : Option PlannedSubscription) : LoadedEntitlements :=
  let included := includedLayer s productId productKey
  let subscribed := subscribedLayer s productKey subscription included
  let grants := mergeGrants (grantRows s customerId productId) .empty subscribed.quotas
  let overrides := mergeGrants (overrideRows s customerId productId) .empty grants.2
  { productId := productId
    productKey := productKey
    inputs :=
      { productDefaults := included.features
        planVersion := subscribed.features
        licenseGrants := licenseGrantLayer s customerId productId
        promotionalGrants := grants.1
        adminOverrides := overrides.1
        quotaLimits := overrides.2.extend (usedEntries s customerId subscribed.cadences).entries
        subscriptionGrantsCloud := (subscription.map (·.status.grantsCloud)).getD false
        suspended := false
        revoked := effectiveLicenseStatus customerId productId s.db == some .revoked }
    subscriptionStatus := subscription.map (·.status) }

def activeProduct (s : EntitlementState) (productKey : String) : Option (Entry Product) :=
  (s.db .products).find? fun e => e.val.key == productKey && e.val.status == .active

/-- `None` for an unknown or inactive product. -/
def loadEntitlementInputs (s : EntitlementState) (customerId : ℕ) (productKey : String) : Option LoadedEntitlements :=
  (activeProduct s productKey).map fun product =>
    assemble s customerId product.id productKey (currentSubscription customerId product.id s.db)

end ForgeCustomer.EntitlementEvaluation
