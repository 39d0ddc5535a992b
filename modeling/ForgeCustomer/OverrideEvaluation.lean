import ForgeCustomer.MeterQuotas
import ForgeCustomer.OperatorRequests
import ForgeCustomer.ServiceOperations

/-!
# Overrides in the evaluation

`routes::admin_override`, and what `load_entitlement_inputs` and `evaluate` make of the override that it
accepts, for as long as it stands.
-/
namespace ForgeCustomer.OverrideEvaluation
open SqlTables SqlPrograms SqlStatements JsonValue DomainRules StripeEvents DatabaseTables AuditWriters AdminRepository
  LicensingRepository EntitlementEvaluation CommercialPolicy SignedDocuments MeterQuotas UsagePeriods OperatorRequests
  ServiceOperations PrivacyRepository NumberRounding TableName

def RouteError.message : RouteError → String
  | .validation message _ => message
  | .notFound message => message

/-- `parse_rfc3339` has read the time, if there is one, or has failed. -/
def parsedTime (field : String) : Option (Option Time) → Except RequestError (Option Time)
  | none => .ok none
  | some (some time) => .ok (some time)
  | some none => .error (.validation "must be an RFC 3339 timestamp" field)

/-- A feature or a quota. -/
inductive OverrideKey where
  | feature (key : String)
  | quota (key : String)
deriving DecidableEq

namespace OverrideKey

def key : OverrideKey → String
  | feature key => key
  | quota key => key

def featureKey : OverrideKey → Option String
  | feature key => some key
  | quota _ => none

def quotaKey : OverrideKey → Option String
  | feature _ => none
  | quota key => some key

end OverrideKey

/-- What `merge_grants` takes a row for. -/
def namedKey (featureKey quotaKey : Option String) : Option OverrideKey :=
  match featureKey, quotaKey with
  | some key, _ => some (.feature key)
  | none, some key => some (.quota key)
  | none, none => none

@[simp] lemma namedKey_columns (key : OverrideKey) : namedKey key.featureKey key.quotaKey = some key := by
  cases key <;> rfl

/-- A number is received as a double. -/
def received : OverrideValue → OverrideValue
  | .bool value => .bool value
  | .number number => .number (float8 number)
  | .text text => .text text

/-- Only `admin_override` writes overrides, each for one key. -/
def OneKey (d : Database) : Prop :=
  ∀ e ∈ d entitlementOverrides, e.val.featureKey = none ∨ e.val.quotaKey = none

/-- The override is one of this customer and product for the key. -/
def names (customerId productId : ℕ) (key : OverrideKey) (e : Entry EntitlementOverride) : Bool :=
  e.val.customerId == customerId && e.val.productId == productId &&
    namedKey e.val.featureKey e.val.quotaKey == some key

def standing (customerId productId : ℕ) (key : OverrideKey) (d : Database) : List (Entry EntitlementOverride) :=
  (d entitlementOverrides).filter fun e => e.val.active && names customerId productId key e

/-- The rows that setting or clearing an override deactivates. -/
def superseded (input : OverrideInput) (productId : ℕ) (e : Entry EntitlementOverride) : Bool :=
  e.val.customerId == input.customerId && e.val.productId == productId && e.val.active &&
    e.val.featureKey == input.featureKey && e.val.quotaKey == input.quotaKey

def deactivate (r : EntitlementOverride) : EntitlementOverride := { r with active := false }

/-- The new row. -/
def overrideRow (operatorId : String) (input : OverrideInput) (productId : ℕ) (value : OverrideValue) :
    EntitlementOverride :=
  { customerId := input.customerId
    productId := productId
    featureKey := input.featureKey
    quotaKey := input.quotaKey
    boolValue := value.columns.1
    numberValue := value.columns.2.1.map numericOfFloat8
    stringValue := value.columns.2.2
    reason := input.reason
    actorId := operatorId
    active := true
    expiresAt := input.expiresAt }

variable {s s' : DbStore} {operatorId : String} {input : OverrideInput} {correlationId : Option String}
  {customerId productId : ℕ} {key : OverrideKey}

/-- The rows of the key are deactivated; the new one, if there is one, comes last. -/
lemma ensures_setEntitlementOverride :
    (setEntitlementOverride operatorId input correlationId).Ensures s fun _ s' =>
      ∃ product id, AdminRepository.activeProduct input.productKey s.db = some product ∧
        s'.db entitlementOverrides =
          updateRows (superseded input product.id) deactivate (s.db entitlementOverrides) ++
            (input.value.map fun value => ⟨id, overrideRow operatorId input product.id value⟩).toList := by
  refine ensures_select.bind fun known s₀ h₀ => ?_
  obtain ⟨-, rfl⟩ := h₀
  split
  · exact .fail
  refine ensures_select.bind fun product s₁ h₁ => ?_
  obtain ⟨hproduct, rfl⟩ := h₁
  cases product with
  | none => exact .fail
  | some product =>
    refine ensures_update.bind fun cleared s₂ h₂ => ?_
    have hinsert : (insertOverride operatorId input product.id).Ensures s₂ fun _ s' =>
        s'.db entitlementOverrides = s₂.db entitlementOverrides ++
          (input.value.map fun value => ⟨s₂.seq, overrideRow operatorId input product.id value⟩).toList := by
      unfold insertOverride
      cases input.value with
      | none => exact .pure (by simp)
      | some value =>
        refine ensures_insertRow.bind fun row s₃ h₃ => .pure ?_
        rw [h₃.2, Db.put_self]
        rfl
    refine hinsert.bind fun overrideId s₃ h₃ => ?_
    refine Prog.Ensures.bind (writeOperatorAudit_checked (S := [commercialAuditEvents]) (by decide) _).ensures_frame
      fun _ s₄ h₄ => .pure ⟨product, s₂.seq, hproduct.symm, ?_⟩
    rw [h₄ _ (by decide), h₃, h₂.2, Db.put_self]
    rfl

/-- The key has one active override, with these values. -/
def Stands (input : OverrideInput) (productId : ℕ) (key : OverrideKey) (value : OverrideValue) (d : Database) : Prop :=
  ∃ e operatorId, standing input.customerId productId key d = [e] ∧
    e.val = overrideRow operatorId input productId value

/-- The product is the active one of its key, and the key has one active override, with this value. -/
structure InPlace (input : OverrideInput) (key : OverrideKey) (value : OverrideValue) (product : Entry Product)
    (d : Database) : Prop where
  found : AdminRepository.activeProduct input.productKey d = some product
  stands : Stands input product.id key value d

lemma ensures_executeDeletion_overrides (clock : Clock) (operatorId : String) (requestId : ℕ) (reason : String)
    (correlationId : Option String) :
    (executeDeletion clock operatorId requestId reason correlationId).Ensures s fun _ s' =>
      ∃ request, findRequest requestId s.db = some request ∧ s'.db entitlementOverrides =
        updateRows (fun e => e.val.customerId == request.val.customerId) deactivate (s.db entitlementOverrides) := by
  refine (executeDeletion_executed clock operatorId requestId reason correlationId).mono fun _ s' h => ?_
  obtain ⟨request, hdone⟩ := h
  exact ⟨request, hdone.found, hdone.frozen.overrides⟩

/-- Nothing that the service does gives an override a second key. -/
theorem oneKey_apply {op : Operation} (hkeys : OneKey s.db)
    (hop : ∀ operatorId input correlationId, op = .override operatorId input correlationId →
      input.featureKey = none ∨ input.quotaKey = none) : OneKey (op.apply s).db := by
  have hframe : entitlementOverrides ∉ op.tables → OneKey (op.apply s).db := fun ht => by
    rw [OneKey, (op.apply_follows s).table ht]
    exact hkeys
  have hdeactivated : ∀ p, ∀ e ∈ updateRows p deactivate (s.db entitlementOverrides),
      e.val.featureKey = none ∨ e.val.quotaKey = none := by
    intro p e he
    obtain ⟨e₀, he₀, rfl⟩ := mem_updateRows.mp he
    split
    · exact hkeys e₀ he₀
    · exact hkeys e₀ he₀
  cases op with
  | override operatorId input correlationId =>
    refine after_ensures (R := fun s' => OneKey s'.db) (ensures_setEntitlementOverride.mono fun _ s' h => ?_)
      fun s' hdb => by rw [hdb]; exact hkeys
    obtain ⟨target, id, -, hrows⟩ := h
    rw [OneKey, hrows]
    intro e he
    rcases List.mem_append.mp he with he | he
    · exact hdeactivated _ e he
    · obtain ⟨value, -, rfl⟩ := Option.map_eq_some_iff.mp (Option.mem_toList.mp he)
      exact hop operatorId input correlationId rfl
  | executeDeletion clock operatorId requestId reason correlationId =>
    refine after_ensures (R := fun s' => OneKey s'.db)
      ((ensures_executeDeletion_overrides clock operatorId requestId reason correlationId).mono fun _ s' h => ?_)
      fun s' hdb => by rw [hdb]; exact hkeys
    obtain ⟨request, -, hrows⟩ := h
    rw [OneKey, hrows]
    exact hdeactivated _
  | customer clock authUserId aal request =>
    refine hframe ?_
    cases request <;> dsimp only [Operation.tables, CustomerRequest.tables] <;> decide
  | _ =>
    refine hframe ?_
    dsimp only [Operation.tables]
    decide

/-- The value as `merge_grants` reads it back from its columns. -/
def readBack : OverrideValue → FeatureValue ℚ
  | .bool value => .bool value
  | .number value => .number (float8 (numericOfFloat8 value))
  | .text value => .text value

/-- The row that `load_entitlement_inputs` gets for the override. -/
def readRow (input : OverrideInput) (value : OverrideValue) : GrantRow :=
  ⟨input.featureKey, input.quotaKey, value.columns.1, (value.columns.2.1.map numericOfFloat8).map float8,
    value.columns.2.2⟩

lemma featureValue_readRow (input : OverrideInput) (value : OverrideValue) :
    featureValue (readRow input value).boolValue (readRow input value).numberValue (readRow input value).stringValue =
      some (readBack value) := by
  cases value <;> rfl

lemma mem_overrideRows {t : EntitlementState} {row : GrantRow} : row ∈ overrideRows t customerId productId ↔
    ∃ e ∈ t.db entitlementOverrides, e.val.customerId = customerId ∧ e.val.productId = productId ∧
      e.val.active = true ∧ unexpired t.now e.val.expiresAt = true ∧
      row = ⟨e.val.featureKey, e.val.quotaKey, e.val.boolValue, e.val.numberValue.map float8, e.val.stringValue⟩ := by
  simp only [overrideRows, List.mem_map, List.mem_insertionSort, List.mem_filter, Bool.and_eq_true, beq_iff_eq]
  constructor
  · rintro ⟨e, ⟨he, ⟨⟨hcustomer, hproduct⟩, hactive⟩, hlive⟩, rfl⟩
    exact ⟨e, he, hcustomer, hproduct, hactive, hlive, rfl⟩
  · rintro ⟨e, he, hcustomer, hproduct, hactive, hlive, rfl⟩
    exact ⟨e, ⟨he, ⟨⟨hcustomer, hproduct⟩, hactive⟩, hlive⟩, rfl⟩

variable {t : EntitlementState} {value : OverrideValue} {product : Entry Product}

lemma mem_standing {d : Database} {e : Entry EntitlementOverride} : e ∈ standing customerId productId key d ↔
    e ∈ d entitlementOverrides ∧ e.val.active = true ∧ e.val.customerId = customerId ∧ e.val.productId = productId ∧
      namedKey e.val.featureKey e.val.quotaKey = some key := by
  simp only [standing, names, List.mem_filter, Bool.and_eq_true, beq_iff_eq, and_assoc]

/-- The row is there, and no other one names the key. -/
lemma overrideRows_sole (hstands : Stands input productId key value t.db) (hlive : unexpired t.now input.expiresAt = true) :
    readRow input value ∈ overrideRows t input.customerId productId ∧
    ∀ row ∈ overrideRows t input.customerId productId, namedKey row.featureKey row.quotaKey = some key →
      row = readRow input value := by
  obtain ⟨e, operatorId, hstanding, hrow⟩ := hstands
  constructor
  · have he : e ∈ standing input.customerId productId key t.db := by
      rw [hstanding]
      exact List.mem_singleton_self e
    have hmem := (mem_standing.mp he).1
    refine mem_overrideRows.mpr ⟨e, hmem, ?_⟩
    rw [hrow]
    exact ⟨rfl, rfl, rfl, hlive, rfl⟩
  · intro row hmem hnamed
    obtain ⟨e', he', hcustomer, hproduct, hactive, -, rfl⟩ := mem_overrideRows.mp hmem
    have hin : e' ∈ standing input.customerId productId key t.db :=
      mem_standing.mpr ⟨he', hactive, hcustomer, hproduct, hnamed⟩
    rw [hstanding, List.mem_singleton] at hin
    rw [hin, hrow]
    rfl

lemma mem_grantFeatures {rows : List GrantRow} {k : String} {v : FeatureValue ℚ} : (k, v) ∈ grantFeatures rows ↔
    ∃ row ∈ rows, row.featureKey = some k ∧ featureValue row.boolValue row.numberValue row.stringValue = some v := by
  simp only [grantFeatures, List.mem_filterMap, Option.bind_eq_some_iff, Option.map_eq_some_iff, Prod.mk.injEq]
  constructor
  · rintro ⟨row, hrow, k', hk, v', hv, rfl, rfl⟩
    exact ⟨row, hrow, hk, hv⟩
  · rintro ⟨row, hrow, hk, hv⟩
    exact ⟨row, hrow, k, hk, v, hv, rfl, rfl⟩

lemma mem_grantQuotas {rows : List GrantRow} {k : String} {v : ℚ} : (k, v) ∈ grantQuotas rows ↔
    ∃ row ∈ rows, row.featureKey = none ∧ row.quotaKey = some k ∧ row.numberValue = some v := by
  rw [grantQuotas, List.mem_filterMap]
  constructor
  · rintro ⟨row, hrow, hv⟩
    obtain ⟨featureKey, quotaKey, boolValue, numberValue, stringValue⟩ := row
    cases featureKey <;> cases quotaKey <;> cases numberValue <;> cases hv
    exact ⟨_, hrow, rfl, rfl, rfl⟩
  · rintro ⟨row, hrow, hfeature, hquota, hnumber⟩
    refine ⟨row, hrow, ?_⟩
    rw [hfeature, hquota, hnumber]

/-- The override decides about its feature. -/
lemma last_grantFeatures {k : String} (hstands : Stands input productId (.feature k) value t.db)
    (hfeature : input.featureKey = some k) (hlive : unexpired t.now input.expiresAt = true) :
    SortedMap.last k (grantFeatures (overrideRows t input.customerId productId)) = some (readBack value) := by
  obtain ⟨hmem, honly⟩ := overrideRows_sole hstands hlive
  refine SortedMap.last_of_only (mem_grantFeatures.mpr ⟨_, hmem, hfeature, featureValue_readRow input value⟩) fun v hv => ?_
  obtain ⟨row, hrow, hk, hvalue⟩ := mem_grantFeatures.mp hv
  have hnamed : namedKey row.featureKey row.quotaKey = some (.feature k) := by rw [hk]; rfl
  rw [honly row hrow hnamed] at hvalue
  exact Option.some.inj (hvalue.symm.trans (featureValue_readRow input value))

/-- The override decides about its quota, if it is a number. -/
lemma last_grantQuotas {k : String} {number : ℚ} (hstands : Stands input productId (.quota k) (.number number) t.db)
    (hfeature : input.featureKey = none) (hquota : input.quotaKey = some k)
    (hlive : unexpired t.now input.expiresAt = true) :
    SortedMap.last k (grantQuotas (overrideRows t input.customerId productId)) =
      some (float8 (numericOfFloat8 number)) := by
  obtain ⟨hmem, honly⟩ := overrideRows_sole hstands hlive
  refine SortedMap.last_of_only (mem_grantQuotas.mpr ⟨_, hmem, hfeature, hquota, rfl⟩) fun v hv => ?_
  obtain ⟨row, hrow, hf, hk, hvalue⟩ := mem_grantQuotas.mp hv
  have hnamed : namedKey row.featureKey row.quotaKey = some (.quota k) := by rw [hf, hk]; rfl
  rw [honly row hrow hnamed] at hvalue
  exact (Option.some.inj hvalue).symm

/-- What evaluation answers for a key. -/
def evaluated (inputs : EntitlementInputs ℚ) : OverrideKey → Option (FeatureValue ℚ)
  | .feature key => (evaluate inputs).features.get? key
  | .quota key => ((evaluate inputs).quotas.get? key).map .number

/-- A cloud feature that the gate forces off. -/
def gatedOff (inputs : EntitlementInputs ℚ) : OverrideKey → Bool
  | .feature key => cloudOff inputs key
  | .quota _ => false

/-- The cloud gate is closed for the feature: the current subscription does not grant cloud, or the license that
decides is revoked. -/
def GateCloses (customerId productId : ℕ) (d : Database) : OverrideKey → Prop
  | .feature key => IsCloudKey key ∧
      ((∀ current ∈ currentSubscription customerId productId d, current.status.grantsCloud = false) ∨
        effectiveLicenseStatus customerId productId d = some .revoked)
  | .quota _ => False

lemma gatedOff_iff (productKey : String) : gatedOff (assemble t customerId productId productKey
    (currentSubscription customerId productId t.db)).inputs key = true ↔ GateCloses customerId productId t.db key := by
  cases key with
  | quota k => simp [gatedOff, GateCloses]
  | feature k =>
    unfold gatedOff GateCloses
    dsimp only
    rw [cloudOff_iff, EntitlementInputs.Denied]
    refine and_congr_right fun _ => ?_
    simp only [assemble, beq_iff_eq, Bool.false_eq_true, false_or]
    cases currentSubscription customerId productId t.db <;> simp

/-- The value as it was asked for. -/
def entitled : OverrideValue → FeatureValue ℚ
  | .bool value => .bool value
  | .number value => .number value
  | .text value => .text value

/-- Exactly the value that was asked for, unless the gate forces the feature off. -/
def Yields (inputs : EntitlementInputs ℚ) (key : OverrideKey) (asked : OverrideValue) : Prop :=
  evaluated inputs key = some (if gatedOff inputs key then .bool false else entitled asked)

lemma get?_adminOverrides (t : EntitlementState) (customerId productId : ℕ) (productKey k : String)
    (subscription : Option PlannedSubscription) :
    (assemble t customerId productId productKey subscription).inputs.adminOverrides.get? k =
      SortedMap.last k (grantFeatures (overrideRows t customerId productId)) := by
  rw [← SortedMap.get?_ofList]
  unfold assemble
  dsimp only
  rw [mergeGrants_features]
  rfl

/-- A quota that is overridden by a number has that limit. -/
lemma get?_quotas {k : String} {number : ℚ} {productKey : String} {subscription : Option PlannedSubscription}
    (hused : endsWith ".used" k = false)
    (hlast : SortedMap.last k (grantQuotas (overrideRows t customerId productId)) = some number) :
    (evaluate (assemble t customerId productId productKey subscription).inputs).quotas.get? k = some number := by
  have hquotas : (evaluate (assemble t customerId productId productKey subscription).inputs).quotas =
      .ofList (quotaRows t customerId productId productKey subscription) := assemble_quotas _ _ _ _ _
  rw [hquotas, SortedMap.get?_ofList, last_quotaRows hused, exceptionRows, SortedMap.last_append, hlast]
  rfl

/-- The columns of the key's kind bring the value to the evaluation: a quota has to be a number, and a number has to
survive as a double with 15 digits. -/
def Carried : OverrideKey → OverrideValue → Prop
  | _, .number number => float8 (numericOfFloat8 (float8 number)) = number
  | .feature _, _ => True
  | .quota _, _ => False

lemma readBack_received_iff {asked : OverrideValue} (k : String) :
    readBack (received asked) = entitled asked ↔ Carried (.feature k) asked := by
  cases asked <;> simp [readBack, received, entitled, Carried]

variable {asked : OverrideValue}

lemma yields_feature_iff {k : String} (hstands : Stands input productId (.feature k) (received asked) t.db)
    (hlive : unexpired t.now input.expiresAt = true) (hfeature : input.featureKey = some k)
    (subscription : Option PlannedSubscription) :
    Yields (assemble t input.customerId productId input.productKey subscription).inputs (.feature k) asked ↔
      Carried (.feature k) asked ∨
        gatedOff (assemble t input.customerId productId input.productKey subscription).inputs (.feature k) = true := by
  have hlast := last_grantFeatures hstands hfeature hlive
  rw [← get?_adminOverrides t input.customerId productId input.productKey k subscription] at hlast
  unfold Yields evaluated gatedOff
  dsimp only
  rw [get?_evaluate, layered, hlast, Option.some_or, Option.map_some, Option.some.injEq]
  by_cases hoff : cloudOff (assemble t input.customerId productId input.productKey subscription).inputs k = true
  · simp only [hoff, if_true, or_true]
  · simp only [hoff, Bool.false_eq_true, if_false, or_false]
    exact readBack_received_iff k

lemma yields_quota_iff {k : String} (hstands : Stands input productId (.quota k) (received asked) t.db)
    (hlive : unexpired t.now input.expiresAt = true) (hfeature : input.featureKey = none)
    (hquota : input.quotaKey = some k) (hused : endsWith ".used" k = false)
    (subscription : Option PlannedSubscription) :
    Yields (assemble t input.customerId productId input.productKey subscription).inputs (.quota k) asked ↔
      Carried (.quota k) asked := by
  cases asked with
  | number number =>
    have hlast := last_grantQuotas hstands hfeature hquota hlive
    unfold Yields evaluated gatedOff
    dsimp only
    rw [get?_quotas (k := k) hused hlast]
    simp [entitled, Carried]
  | bool b =>
    refine iff_of_false (fun h => ?_) not_false
    obtain ⟨number, -, hnumber⟩ := Option.map_eq_some_iff.mp h
    cases hnumber
  | text text =>
    refine iff_of_false (fun h => ?_) not_false
    obtain ⟨number, -, hnumber⟩ := Option.map_eq_some_iff.mp h
    cases hnumber

lemma yields_iff (hstands : Stands input productId key (received asked) t.db)
    (hlive : unexpired t.now input.expiresAt = true) (hfeature : input.featureKey = key.featureKey)
    (hquota : input.quotaKey = key.quotaKey) (hused : endsWith ".used" key.key = false) :
    Yields (assemble t input.customerId productId input.productKey
      (currentSubscription input.customerId productId t.db)).inputs key asked ↔
      Carried key asked ∨ GateCloses input.customerId productId t.db key := by
  rw [← gatedOff_iff input.productKey]
  cases key with
  | feature k => exact yields_feature_iff hstands hlive hfeature _
  | quota k =>
    rw [yields_quota_iff hstands hlive hfeature hquota hused]
    simp [gatedOff]

/-- The database without the overrides of the key. -/
def withoutOverrides (customerId productId : ℕ) (key : OverrideKey) (d : Database) : Database :=
  d.put entitlementOverrides ((d entitlementOverrides).filter fun e => !names customerId productId key e)

/-- The evaluation looks at overrides through the active ones of the customer and the product only. -/
lemma loadEntitlementInputs_congr {d : Database} {productKey : String}
    (hframe : ∀ table, table ∉ [entitlementOverrides, commercialAuditEvents] → t.db table = d table)
    (hrows : ∀ productId, overrideRows t customerId productId = overrideRows { t with db := d } customerId productId) :
    loadEntitlementInputs t customerId productKey = loadEntitlementInputs { t with db := d } customerId productKey := by
  have hproducts := hframe products (by decide)
  have hplans := hframe plans (by decide)
  have hversions := hframe planVersions (by decide)
  have hplanFeatures := hframe planFeatures (by decide)
  have hfeatures := hframe features (by decide)
  have hsubscriptions := hframe subscriptions (by decide)
  have hlicenses := hframe licenses (by decide)
  have htotals := hframe usagePeriodTotals (by decide)
  have hpolicies := hframe commercialPolicyVersions (by decide)
  simp only [loadEntitlementInputs, EntitlementEvaluation.activeProduct, currentSubscription, assemble, includedLayer,
    includedPlanVersion, subscribedLayer, planLayer, planFeatureLayer, activeDocument, activePolicy, grantRows,
    licenseGrantLayer, effectiveLicenseStatus, usedEntries, usedThisMonth, Db.lookup, hproducts, hplans, hversions,
    hplanFeatures, hfeatures, hsubscriptions, hlicenses, htotals, hpolicies, hrows]

/-- `clear` asks to clear what `input` has set. -/
def Clears (clear input : OverrideInput) : Prop :=
  clear.customerId = input.customerId ∧ clear.productKey = input.productKey ∧ clear.featureKey = input.featureKey ∧
    clear.quotaKey = input.quotaKey ∧ clear.value = none

/-- Clearing the only active override of the key leaves what would be there without any. -/
lemma overrideRows_of_clear {clear : OverrideInput} {d : Database} (hclears : Clears clear input)
    (hstands : Stands input productId key value d) (hfeature : input.featureKey = key.featureKey)
    (hquota : input.quotaKey = key.quotaKey)
    (hrows : t.db entitlementOverrides = updateRows (superseded clear productId) deactivate (d entitlementOverrides))
    (otherProductId : ℕ) : overrideRows t input.customerId otherProductId =
      overrideRows { t with db := withoutOverrides input.customerId productId key d } input.customerId otherProductId := by
  obtain ⟨hcustomer, -, hclearFeature, hclearQuota, -⟩ := hclears
  obtain ⟨e₀, operatorId, hstanding, hrow⟩ := hstands
  have hsame : ∀ e ∈ d entitlementOverrides, e.val.active = true →
      superseded clear productId e = names input.customerId productId key e := by
    intro e he hactive
    rw [Bool.eq_iff_iff]
    simp only [superseded, names, Bool.and_eq_true, beq_iff_eq, hcustomer, hclearFeature, hclearQuota]
    constructor
    · rintro ⟨⟨⟨⟨hc, hp⟩, -⟩, hf⟩, hq⟩
      refine ⟨⟨hc, hp⟩, ?_⟩
      rw [hf, hq, hfeature, hquota, namedKey_columns]
    · rintro ⟨⟨hc, hp⟩, hnamed⟩
      have hin : e ∈ standing input.customerId productId key d := mem_standing.mpr ⟨he, hactive, hc, hp, hnamed⟩
      rw [hstanding, List.mem_singleton] at hin
      rw [hin, hrow]
      exact ⟨⟨⟨⟨rfl, rfl⟩, rfl⟩, rfl⟩, rfl⟩
  unfold overrideRows withoutOverrides
  dsimp only
  rw [hrows, filter_updateRows_drop fun e _ _ => by simp [deactivate], Db.put_self, List.filter_filter]
  refine congrArg _ (congrArg _ (List.filter_congr fun e he => ?_))
  by_cases hactive : e.val.active = true
  · rw [hsame e he hactive]
  · simp [hactive]

/-- `number_value::float8` fails where a number is beyond the doubles. -/
def Readable (t : EntitlementState) (customerId productId : ℕ) : Prop :=
  ∀ row ∈ overrideRows t customerId productId, ∀ number ∈ row.numberValue, InRange number

/-- While it is unexpired, evaluation yields the override; clearing it brings back the layers below. -/
structure Effective (input : OverrideInput) (key : OverrideKey) (asked : OverrideValue) (s : DbStore) : Prop where
  returned : ∀ t : EntitlementState, t.db = s.db → unexpired t.now input.expiresAt = true →
    ∃ loaded, loadEntitlementInputs t input.customerId input.productKey = some loaded ∧
      Readable t input.customerId loaded.productId ∧ Yields loaded.inputs key asked
  restored : ∀ operatorId clear correlationId outcome s', Clears clear input →
    (setEntitlementOverride operatorId clear correlationId).execute s = (.ok outcome, s') →
    ∃ product, AdminRepository.activeProduct input.productKey s.db = some product ∧
      ∀ t : EntitlementState, t.db = s'.db → loadEntitlementInputs t input.customerId input.productKey =
        loadEntitlementInputs { t with db := withoutOverrides input.customerId product.id key s.db } input.customerId
          input.productKey

/-- The value survives its columns or the gate hides it, and every override in force is a number that can be read. -/
structure Returnable (input : OverrideInput) (key : OverrideKey) (asked : OverrideValue) (s : DbStore) : Prop where
  carried : Carried key asked ∨ ∃ product, AdminRepository.activeProduct input.productKey s.db = some product ∧
    GateCloses input.customerId product.id s.db key
  readable : ∀ t : EntitlementState, t.db = s.db → unexpired t.now input.expiresAt = true → ∀ product,
    AdminRepository.activeProduct input.productKey s.db = some product → Readable t input.customerId product.id

lemma restored_of_inPlace (hset : InPlace input key value product s.db) (hfeature : input.featureKey = key.featureKey)
    (hquota : input.quotaKey = key.quotaKey) {clear : OverrideInput} {outcome : OverrideOutcome}
    (hclears : Clears clear input)
    (hdone : (setEntitlementOverride operatorId clear correlationId).execute s = (.ok outcome, s')) (ht : t.db = s'.db) :
    loadEntitlementInputs t input.customerId input.productKey =
      loadEntitlementInputs { t with db := withoutOverrides input.customerId product.id key s.db } input.customerId
        input.productKey := by
  obtain ⟨target, id, htarget, hrows⟩ := ensures_setEntitlementOverride outcome s' (Prog.run_of_execute_ok hdone)
  have hframe := (setEntitlementOverride_checked operatorId clear correlationId).ensures_frame outcome s'
    (Prog.run_of_execute_ok hdone)
  rw [hclears.2.1, hset.found, Option.some.injEq] at htarget
  rw [← htarget, hclears.2.2.2.2, Option.map_none, Option.toList_none, List.append_nil] at hrows
  refine loadEntitlementInputs_congr (fun table htable => ?_)
    (overrideRows_of_clear hclears hset.stands hfeature hquota (by rw [ht]; exact hrows))
  have hne : table ≠ entitlementOverrides := fun h => htable (by simp [h])
  rw [ht, hframe table htable, withoutOverrides, Db.put_of_ne _ hne]

lemma loadEntitlementInputs_of_inPlace (hset : InPlace input key value product t.db) :
    loadEntitlementInputs t input.customerId input.productKey = some (assemble t input.customerId product.id
      input.productKey (currentSubscription input.customerId product.id t.db)) := by
  have hfound : EntitlementEvaluation.activeProduct t input.productKey = some product := hset.found
  rw [loadEntitlementInputs, hfound]
  rfl

/-- An instant before the override expires. -/
lemma exists_unexpired (expiresAt : Option Time) : ∃ now, unexpired now expiresAt = true := by
  cases expiresAt with
  | none => exact ⟨0, rfl⟩
  | some time => exact ⟨time - 1, by simp [unexpired]⟩

lemma effective_iff (hset : InPlace input key (received asked) product s.db) (hfeature : input.featureKey = key.featureKey)
    (hquota : input.quotaKey = key.quotaKey) (hused : endsWith ".used" key.key = false) :
    Effective input key asked s ↔ Returnable input key asked s := by
  constructor
  · intro h
    have hreturned : ∀ t : EntitlementState, t.db = s.db → unexpired t.now input.expiresAt = true →
        Readable t input.customerId product.id ∧ (Carried key asked ∨ GateCloses input.customerId product.id s.db key) := by
      intro t ht hlive
      obtain ⟨loaded, hloaded, hreadable, hyields⟩ := h.returned t ht hlive
      rw [← ht] at hset ⊢
      rw [loadEntitlementInputs_of_inPlace hset, Option.some.injEq] at hloaded
      rw [← hloaded] at hreadable hyields
      exact ⟨hreadable, (yields_iff hset.stands hlive hfeature hquota hused).mp hyields⟩
    obtain ⟨now, hlive⟩ := exists_unexpired input.expiresAt
    have hkept := (hreturned ⟨s.db, ⟨[], [], [], fun _ => 0⟩, now, ""⟩ rfl hlive).2
    refine ⟨hkept.imp_right fun hgate => ⟨product, hset.found, hgate⟩, fun t ht hlive product' hproduct => ?_⟩
    rw [hset.found, Option.some.injEq] at hproduct
    rw [← hproduct]
    exact (hreturned t ht hlive).1
  · intro h
    refine ⟨fun t ht hlive => ?_, fun operatorId clear correlationId outcome s' hclears hdone =>
      ⟨product, hset.found, fun t ht => restored_of_inPlace hset hfeature hquota hclears hdone ht⟩⟩
    have hreadable := h.readable t ht hlive product hset.found
    have hkept : Carried key asked ∨ GateCloses input.customerId product.id s.db key := by
      refine h.carried.imp_right fun ⟨product', hproduct, hgate⟩ => ?_
      rw [hset.found, Option.some.injEq] at hproduct
      rwa [hproduct]
    rw [← ht] at hset hkept
    exact ⟨_, loadEntitlementInputs_of_inPlace hset, hreadable,
      (yields_iff hset.stands hlive hfeature hquota hused).mpr hkept⟩

end ForgeCustomer.OverrideEvaluation
