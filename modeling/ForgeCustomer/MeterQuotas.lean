import ForgeCustomer.EntitlementEvaluation

/-!
# The quota of a meter

`routes::meter_quota_limit`: which limit a reserve or a direct commit is decided against, and how the product that
the client names and the subscription of the customer bear on it.
-/
namespace ForgeCustomer.MeterQuotas
open SqlTables DomainRules StripeEvents DatabaseTables LicensingRepository EntitlementEvaluation CommercialPolicy
  SignedDocuments

def cadenceName : ResetCadence → String
  | .monthly => "monthly"
  | .daily => "daily"
  | .never => "never"

/-- The cadence-qualified key wins over the bare meter key. -/
def quotaKeyCandidates (meter : UsageMeter) : String × String :=
  (meter.key ++ "." ++ cadenceName meter.resetCadence, meter.key)

inductive RouteError where
  | validation (message field : String)
  | notFound (message : String)
deriving DecidableEq

/-- The product a request is about; `authorforge` if it names none. -/
def cleanProductKey (value : Option String) : Except RouteError String :=
  match (value.map trim).filter (· ≠ "") with
  | none => .ok "authorforge"
  | some value =>
    if 120 < value.utf8ByteSize ∨ value.toList.all (fun c => c.isAlphanum || c == '_') = false then
      .error (.validation "product_key must contain only letters, numbers, and underscores" "product_key")
    else .ok value

/-- The limit in the evaluated quotas; `none` is an uncapped meter. -/
def quotaLimit (loaded : LoadedEntitlements) (meter : UsageMeter) : Option ℚ :=
  let quotas := (evaluate loaded.inputs).quotas
  let (primary, fallback) := quotaKeyCandidates meter
  (quotas.get? primary).or (quotas.get? fallback)

def meterQuotaLimit (s : EntitlementState) (customerId : ℕ) (productKey : String) (meter : UsageMeter) :
    Except RouteError (Option ℚ) :=
  match loadEntitlementInputs s customerId productKey with
  | none => .error (.notFound "Unknown or inactive product.")
  | some loaded => .ok (quotaLimit loaded meter)

/-- The amounts that `clean_usage_amount` lets through. -/
def validAmount (amount : ℚ) : Prop := 0 < amount ∧ amount ≤ 10 ^ 12

/-- The quotas that grants or overrides set. -/
def grantQuotas (rows : List GrantRow) : List (String × ℚ) := rows.filterMap fun row =>
  match row.featureKey, row.quotaKey, row.numberValue with
  | none, some key, some value => some (key, value)
  | _, _, _ => none

lemma mergeGrants_quotas (rows : List GrantRow) (features : FeatureMap) (quotas : QuotaMap) :
    (mergeGrants rows features quotas).2 = quotas.extend (grantQuotas rows) := by
  induction rows generalizing features quotas with
  | nil => rfl
  | cons row rows ih =>
    obtain ⟨featureKey, quotaKey, boolValue, numberValue, stringValue⟩ := row
    cases featureKey with
    | some key =>
      unfold mergeGrants
      dsimp only
      split
      · exact ih _ _
      · exact ih _ _
    | none =>
      cases quotaKey with
      | none => exact ih features quotas
      | some key =>
        cases numberValue with
        | none => exact ih features quotas
        | some value => exact ih features (quotas.insert key value)

/-- The features that grants or overrides set. -/
def grantFeatures (rows : List GrantRow) : List (String × FeatureValue ℚ) := rows.filterMap fun row =>
  row.featureKey.bind fun key =>
    (featureValue row.boolValue row.numberValue row.stringValue).map fun value => (key, value)

lemma mergeGrants_features (rows : List GrantRow) (features : FeatureMap) (quotas : QuotaMap) :
    (mergeGrants rows features quotas).1 = features.extend (grantFeatures rows) := by
  induction rows generalizing features quotas with
  | nil => rfl
  | cons row rows ih =>
    obtain ⟨featureKey, quotaKey, boolValue, numberValue, stringValue⟩ := row
    cases featureKey with
    | some key =>
      cases hvalue : featureValue boolValue numberValue stringValue with
      | none =>
        have hskip : grantFeatures (⟨some key, quotaKey, boolValue, numberValue, stringValue⟩ :: rows) =
            grantFeatures rows := by simp [grantFeatures, hvalue]
        rw [hskip]
        unfold mergeGrants
        simp only [hvalue]
        exact ih _ _
      | some value =>
        have hentry : grantFeatures (⟨some key, quotaKey, boolValue, numberValue, stringValue⟩ :: rows) =
            (key, value) :: grantFeatures rows := by simp [grantFeatures, hvalue]
        rw [hentry]
        unfold mergeGrants
        simp only [hvalue]
        exact ih _ _
    | none =>
      cases quotaKey with
      | none => exact ih features quotas
      | some key =>
        cases numberValue with
        | none => exact ih features quotas
        | some value => exact ih features (quotas.insert key value)

/-- The quota rows of a plan version, overlaid by the policy for it. -/
def planQuotaRows (s : EntitlementState) (planVersionId : ℕ) (limits : Option PolicyLimits) : List (String × ℚ) :=
  quotaPairs (planQuotaLayer planVersionId s.tables) ++ (limits.map policyQuotas).getD []

lemma planLayer_quotas (s : EntitlementState) (planVersionId : ℕ) (limits : Option PolicyLimits) (quotas : QuotaMap)
    (cadences : SortedMap String ResetCadence) :
    (planLayer s planVersionId limits quotas cadences).quotas = quotas.extend (planQuotaRows s planVersionId limits) := by
  cases limits with
  | none => simp [planLayer, planQuotaRows]
  | some limits => simp [planLayer, planQuotaRows, applyCommercialPolicy, SortedMap.extend_append]

section Rows
variable (s : EntitlementState) (customerId productId : ℕ) (productKey : String)
  (subscription : Option PlannedSubscription)

def includedRows : List (String × ℚ) :=
  match includedPlanVersion productId productKey s.db with
  | some planVersionId => planQuotaRows s planVersionId ((activeDocument s productKey).map PolicyDocument.included)
  | none => []

def subscriptionRows : List (String × ℚ) :=
  match subscription with
  | some current => planQuotaRows s current.planVersionId
      ((activeDocument s productKey).bind fun policy => limitsForPlan policy current.planKey)
  | none => []

/-- What grants and then overrides set for this customer. -/
def exceptionRows : List (String × ℚ) :=
  grantQuotas (grantRows s customerId productId) ++ grantQuotas (overrideRows s customerId productId)

/-- The usage entries that stand beside the limits. -/
def usedRows : List (String × ℚ) :=
  (usedEntries s customerId
    (subscribedLayer s productKey subscription (includedLayer s productId productKey)).cadences).entries

/-- All quota rows in the order in which they overwrite each other. -/
def quotaRows : List (String × ℚ) :=
  includedRows s productId productKey ++ subscriptionRows s productKey subscription ++
    exceptionRows s customerId productId ++ usedRows s customerId productId productKey subscription

lemma includedLayer_quotas :
    (includedLayer s productId productKey).quotas = .ofList (includedRows s productId productKey) := by
  unfold includedLayer includedRows
  cases includedPlanVersion productId productKey s.db with
  | none => rfl
  | some planVersionId => exact planLayer_quotas _ _ _ _ _

lemma subscribedLayer_quotas (included : PlanLayer) : (subscribedLayer s productKey subscription included).quotas =
    included.quotas.extend (subscriptionRows s productKey subscription) := by
  unfold subscribedLayer subscriptionRows
  cases subscription with
  | none => rfl
  | some current => exact planLayer_quotas _ _ _ _ _

theorem assemble_quotas : (assemble s customerId productId productKey subscription).inputs.quotaLimits =
    .ofList (quotaRows s customerId productId productKey subscription) := by
  unfold assemble quotaRows exceptionRows usedRows
  dsimp only
  rw [mergeGrants_quotas, mergeGrants_quotas, subscribedLayer_quotas, includedLayer_quotas]
  simp only [SortedMap.ofList, SortedMap.extend_append]

end Rows

/-- No layer has a row for the key. -/
def Unset (layers : List (List (String × ℚ))) (key : String) : Prop := ∀ layer ∈ layers, ∀ row ∈ layer, row.1 ≠ key

/-- The uppermost layer with a row for the key has the value in its last one. -/
def Sets (layers : List (List (String × ℚ))) (key : String) (value : ℚ) : Prop :=
  ∃ below layer above, layers = below ++ layer :: above ∧ SortedMap.last key layer = some value ∧ Unset above key

/-- Usage entries have keys of their own. -/
lemma usedRows_other {s : EntitlementState} {customerId productId : ℕ} {productKey : String}
    {subscription : Option PlannedSubscription} {key : String} (hkey : endsWith ".used" key = false) :
    SortedMap.last key (usedRows s customerId productId productKey subscription) = none := by
  refine SortedMap.last_eq_none fun e he heq => ?_
  have hused : endsWith ".used" e.1 = true := by
    rcases SortedMap.mem_extend he with hempty | hmem
    · cases hempty
    · obtain ⟨cadence, -, rfl⟩ := List.mem_map.mp hmem
      rw [endsWith, String.toList_append]
      exact List.isSuffixOf_iff_suffix.mpr (List.suffix_append _ _)
  rw [heq, hkey] at hused
  cases hused

/-- The last row for a key that is not a usage entry. -/
lemma last_quotaRows {s : EntitlementState} {customerId productId : ℕ} {productKey : String}
    {subscription : Option PlannedSubscription} {key : String} (hkey : endsWith ".used" key = false) :
    SortedMap.last key (quotaRows s customerId productId productKey subscription) =
      (SortedMap.last key (exceptionRows s customerId productId)).or
        ((SortedMap.last key (subscriptionRows s productKey subscription)).or
          (SortedMap.last key (includedRows s productId productKey))) := by
  rw [quotaRows, SortedMap.last_append, SortedMap.last_append, SortedMap.last_append, usedRows_other hkey,
    Option.none_or]

end ForgeCustomer.MeterQuotas
